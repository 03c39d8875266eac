import Aivtuber.Adaptation.LinkGraph
import Aivtuber.App.MemoryEval
import Aivtuber.Base.BoundedQueue

/-!
# The sidecar measurement

One case, told to a working memory by `write_case_claims` of `crates/app/src/memory_eval.rs`,
and to a sidecar by `measure_case_in_scope` of `crates/app/src/memory_sidecar_eval.rs`.  The
runner keeps the handles of what the service retains, and tells it to forget what the store
would no longer show.  The service is ideal: it holds what it was told until it is told to
forget (`IdealSidecar`).
-/

open Aivtuber.Check Aivtuber.Text Saturating

namespace Aivtuber

namespace MemoryEvalConfig

/-- The configuration that the bounds of a case describe. -/
def apply (config : MemoryEvalConfig) : WorkingMemoryConfig :=
  let defaults := WorkingMemoryConfig.default
  { defaults with
    maxEntries := config.maxEntries.getD defaults.maxEntries
    durableTtlMs := config.durableTtlMs.getD defaults.durableTtlMs
    maxClaimBytes := config.maxClaimBytes.getD defaults.maxClaimBytes
    maxLinks := config.maxLinks.getD defaults.maxLinks
    maxLinksPerMemory := config.maxLinksPerMemory.getD defaults.maxLinksPerMemory }

end MemoryEvalConfig

inductive MemoryEvalError where
  | invalidFixture (message : String)
  | writeGateDenied (case claim : String)
  | write (claim : Option String) (error : AdaptationError)
  | sidecar (case message : String)
deriving DecidableEq

def memoryEvalSourceNamespace : String := "public-chat"
def memoryEvalPseudonymKeyVersion : String := "memory-eval-v1"

def evalPseudonymizer : ActorPseudonymizer :=
  ⟨memoryEvalPseudonymKeyVersion, List.replicate 32 0x5a⟩

/-- The synthetic event of a claim, which carries its text. -/
def MemoryEvalClaim.event (claim : MemoryEvalClaim) (text : String) : EventEnvelope where
  schemaVersion := eventSchemaVersion
  eventId := claim.eventId
  correlationId := "corr-" ++ claim.eventId
  sequence := ((utf8 claim.eventId).map UInt8.toNat).sum
  observedAt := "2026-10-20T00:00:00Z"
  source := memoryEvalSourceNamespace
  sourceClass := .publicChat
  plane := .content
  trustLevel := .untrusted
  kind := .chatMessage
  actorId := claim.actor
  priorityHint := none
  authorization := none
  payload := Std.ExtTreeMap.ofList [("text", JsonValue.string text)]

/-- The gate of durable writes: an authority over memories, or a trusted system source. -/
def authorizeMemoryWrite (event : EventEnvelope) (memoryAdmin : Bool) :
    MemoryWriteDecision × Option MemoryWritePermit :=
  let decision : MemoryWriteDecision :=
    if memoryAdmin then .allowedMemoryAdmin
    else if event.plane = .system && (event.trustLevel = .trusted || event.trustLevel = .semiTrusted)
    then .allowedSystemSource
    else .denied
  let permit : Option MemoryWritePermit :=
    if decision ≠ .denied then
      some {
        eventId := event.eventId
        source := event.source
        sourceClass := event.sourceClass
        trustLevel := event.trustLevel
        actorId := event.actorId
        decision
        sourceClaim := event.payload["text"]?.bind JsonValue.asStr }
    else none
  (decision, permit)

/-! ## The store -/

section Store

variable (format : Format) (primitives : MemoryPrimitives) (memoryAdmin : Bool)

def writeClaim (case : MemoryEvalCase) (memory : WorkingMemory) (claim : MemoryEvalClaim) :
    Except MemoryEvalError WorkingMemory := do
  let text ← (claim.claimText format).mapError .invalidFixture
  let (decision, permit) := authorizeMemoryWrite (claim.event text) memoryAdmin
  ensure (.writeGateDenied case.id claim.eventId) (decision ≠ .denied)
  let permit ← expect (.writeGateDenied case.id claim.eventId) permit
  let (memory, written) := memory.rememberDurableWithEvidence primitives permit text claim.topic
    claim.recordedAtMs ⟨claim.supersedes.toList, claim.causedBy.toList⟩
  let _ ← written.mapError (.write (some claim.eventId))
  .ok memory

/-- Write the claims of a case into a fresh store. -/
def writeCaseClaims (case : MemoryEvalCase) : Except MemoryEvalError WorkingMemory := do
  let memory ← (WorkingMemory.new case.config.apply evalPseudonymizer).mapError (.write none)
  case.claims.foldlM (writeClaim format primitives memoryAdmin case) memory

end Store

/-! ## The sidecar -/

structure SidecarClaim where
  claimId : String
  actor : Option String
  topic : Option String
  text : String
  recordedAtMs : Nat
  eventAtMs : Nat
deriving DecidableEq

def maxSidecarClaimBytes : Nat := 64 * 1024

def SidecarClaim.validate (claim : SidecarClaim) : Except String Unit := do
  ensure "a sidecar claim needs a claim id" (!isBlank claim.claimId)
  ensure "a sidecar claim needs text" (claim.text ≠ "")
  ensure ("a sidecar claim may carry at most " ++ toString maxSidecarClaimBytes ++ " bytes, got " ++
      toString claim.text.utf8ByteSize)
    (claim.text.utf8ByteSize ≤ maxSidecarClaimBytes)

/-- A service that holds what it was told, each under a handle of its own. -/
structure IdealSidecar where
  nextHandle : Nat
  held : List (Nat × SidecarClaim)

namespace IdealSidecar

def empty : IdealSidecar := ⟨0, []⟩

def retain (sidecar : IdealSidecar) (claim : SidecarClaim) : IdealSidecar × Nat :=
  (⟨sidecar.nextHandle + 1, sidecar.held ++ [(sidecar.nextHandle, claim)]⟩, sidecar.nextHandle)

def retire (sidecar : IdealSidecar) (handle : Nat) : IdealSidecar :=
  { sidecar with held := sidecar.held.filter fun held ↦ held.1 ≠ handle }

end IdealSidecar

structure AdmittedClaim where
  text : String
  actor : Option String
  sourceClass : SourceClass
  recordedAtMs : Nat
deriving DecidableEq

/-- What the runner has told the service. -/
structure Retention where
  sidecar : IdealSidecar
  admitted : List (String × AdmittedClaim)
  /-- The order of insertion, in which the store evicts. -/
  retentionOrder : List String
  handles : List (String × Nat)
  retired : List String
  entriesHighWater : Nat

namespace Retention

def empty : Retention := ⟨.empty, [], [], [], [], 0⟩

/-- The service is told to forget a claim, if it holds it. -/
def retire (retention : Retention) (claimId : String) : Retention :=
  match retention.handles.lookup claimId with
  | some handle =>
    { retention with
      sidecar := retention.sidecar.retire handle
      handles := retention.handles.filter fun entry ↦ entry.1 ≠ claimId
      retired := retention.retired.insert claimId }
  | none => { retention with retired := retention.retired.insert claimId }

/-- Retire what would not be live any more. -/
def retireExpired (retention : Retention) (nowMs ttlMs : Nat) : Retention :=
  retention.retentionOrder.foldl (fun retention claimId ↦
    match retention.admitted.lookup claimId with
    | none => retention
    | some claim =>
      if nowMs < satAdd claim.recordedAtMs ttlMs then retention else retention.retire claimId)
    retention

def retain (retention : Retention) (claim : SidecarClaim) : Retention :=
  let (sidecar, handle) := retention.sidecar.retain claim
  { retention with
    sidecar
    admitted := retention.admitted.filter (fun entry ↦ entry.1 ≠ claim.claimId) ++
      [(claim.claimId, ⟨claim.text, claim.actor, .publicChat, claim.recordedAtMs⟩)]
    handles := retention.handles.filter (fun entry ↦ entry.1 ≠ claim.claimId) ++
      [(claim.claimId, handle)]
    retentionOrder := retention.retentionOrder ++ [claim.claimId] }

/-- Retire the oldest claims over the bound; every turn of the loop retires one. -/
def evict (maxEntries : Nat) : (fuel : Nat) → Retention → Retention
  | 0, retention => retention
  | fuel + 1, retention =>
    if maxEntries < retention.handles.length then
      match retention.retentionOrder.find? fun id ↦ (retention.handles.lookup id).isSome with
      | none => retention
      | some oldest => evict maxEntries fuel (retention.retire oldest)
    else retention

/-- What was recorded after the read is not live at it. -/
def retireUnrecorded (retention : Retention) (nowMs : Nat) : Retention :=
  retention.admitted.foldl (fun retention entry ↦
    if nowMs < entry.2.recordedAtMs then retention.retire entry.1 else retention) retention

end Retention

section Runner

variable (format : Format) (primitives : MemoryPrimitives) (memoryAdmin : Bool)

/-- A claim, as it is handed to the service. -/
def sidecarClaim (claim : MemoryEvalClaim) (text : String) : SidecarClaim where
  claimId := claim.eventId
  actor := claim.actor.map (evalPseudonymizer.pseudonymize primitives memoryEvalSourceNamespace)
  topic := claim.topic
  text := text
  recordedAtMs := claim.recordedAtMs
  eventAtMs := claim.eventAt

/-- The bookkeeping of a claim that the service takes. -/
def Retention.mirror (config : WorkingMemoryConfig) (retention : Retention)
    (supersedes : Option String) (claim : SidecarClaim) : Retention :=
  let retention := retention.retain claim
  let retention := supersedes.elim retention retention.retire
  let retention := retention.evict config.maxEntries retention.handles.length
  { retention with entriesHighWater := max retention.entriesHighWater retention.handles.length }

def mirrorClaim (case : MemoryEvalCase) (retention : Retention) (claim : MemoryEvalClaim) :
    Except MemoryEvalError Retention := do
  let text ← (claim.claimText format).mapError .invalidFixture
  let (decision, _) := authorizeMemoryWrite (claim.event text) memoryAdmin
  ensure (.writeGateDenied case.id claim.eventId) (decision ≠ .denied)
  let retention := retention.retireExpired claim.recordedAtMs case.config.apply.durableTtlMs
  let retained := sidecarClaim primitives claim text
  retained.validate.mapError fun error ↦ .sidecar case.id
    ("claim " ++ format.debug claim.eventId ++ " cannot be handed to the sidecar: " ++ error)
  .ok (retention.mirror case.config.apply claim.supersedes retained)

/-- The claims of a case, up to where the service is asked to recall. -/
def mirrorCase (case : MemoryEvalCase) : Except MemoryEvalError Retention := do
  let retention ←
    case.claims.foldlM (mirrorClaim format primitives memoryAdmin case) Retention.empty
  let retention := retention.retireExpired case.query.nowMs case.config.apply.durableTtlMs
  .ok (retention.retireUnrecorded case.query.nowMs)

end Runner

end Aivtuber
