import Aivtuber.Adaptation.Memory
import Aivtuber.Base.Machine

/-!
# The working memory

`WorkingMemory` of `crates/adaptation/src/lib.rs`: a bounded queue of entries, oldest
first, and the links between them.  A write compacts the store around its entry; a durable
one resolves its evidence to retained nodes first, and is refused before anything is stored
if its explicit links would not fit.  Links go with their endpoints, and where the bound on
links needs room, derived links are shed.
-/

open Aivtuber.Check Saturating

namespace Aivtuber

structure WorkingMemoryConfig where
  maxEntries : Nat
  workingTtlMs : Nat
  durableTtlMs : Nat
  maxClaimBytes : Nat
  maxTopicBytes : Nat
  maxCompactionRecords : Nat
  maxLinks : Nat
  maxLinksPerMemory : Nat
deriving DecidableEq, Repr

namespace WorkingMemoryConfig

def default : WorkingMemoryConfig where
  maxEntries := 256
  workingTtlMs := 900000
  durableTtlMs := 86400000
  maxClaimBytes := 1024
  maxTopicBytes := 128
  maxCompactionRecords := 256
  maxLinks := 2048
  maxLinksPerMemory := 8

def validate (config : WorkingMemoryConfig) : Except AdaptationError Unit := do
  ensure (.invalidConfiguration "working-memory bounds must be positive")
    (!(config.maxEntries = 0 || config.workingTtlMs = 0 || config.durableTtlMs = 0 ||
      config.maxClaimBytes = 0 || config.maxTopicBytes = 0 || config.maxCompactionRecords = 0 ||
      config.maxLinks = 0 || config.maxLinksPerMemory = 0))
  ensure (.invalidConfiguration <| "max_links must cover one maximum-size write (max_links >= " ++
      "max_links_per_memory); otherwise the store bound drops explicit supersessions that an " ++
      "accepted write just declared")
    (config.maxLinksPerMemory ≤ config.maxLinks)

example : default.validate = .ok () := by decide

def ttlMs (config : WorkingMemoryConfig) : RetentionClass → Nat
  | .working => config.workingTtlMs
  | .durable => config.durableTtlMs

end WorkingMemoryConfig

structure MemoryCompactionRecord where
  atMs : Nat
  expiredRemoved : Nat
  capacityRemoved : Nat
  remaining : Nat
deriving DecidableEq, Repr

structure WorkingMemory where
  config : WorkingMemoryConfig
  pseudonymizer : ActorPseudonymizer
  /-- Oldest first. -/
  entries : List MemoryEntry
  links : List MemoryLink
  compactions : List MemoryCompactionRecord
  entriesHighWater : Nat
  linksHighWater : Nat
  compactionsHighWater : Nat
  compactionsEvicted : Nat
  nextMemoryId : Nat

namespace WorkingMemory

def new (config : WorkingMemoryConfig) (pseudonymizer : ActorPseudonymizer) :
    Except AdaptationError WorkingMemory := do
  config.validate
  .ok {
    config
    pseudonymizer
    entries := []
    links := []
    compactions := []
    entriesHighWater := 0
    linksHighWater := 0
    compactionsHighWater := 0
    compactionsEvicted := 0
    nextMemoryId := 1 }

/-! ## Compaction -/

/-- A node of this id is retained. -/
def retains (memory : WorkingMemory) (id : Nat) : Bool :=
  memory.entries.any (·.memoryId = id)

/-- Links go with either endpoint. -/
def pruneLinks (memory : WorkingMemory) : WorkingMemory :=
  { memory with links := memory.links.filter fun link ↦
      memory.retains link.source && memory.retains link.target }

/-- Keep a record of a compaction that removed something; the oldest records go. -/
def recordCompaction (memory : WorkingMemory) (record : MemoryCompactionRecord) : WorkingMemory :=
  if 0 < record.expiredRemoved || 0 < record.capacityRemoved then
    let compactions := memory.compactions ++ [record]
    let remove := compactions.length - memory.config.maxCompactionRecords
    let kept := compactions.drop remove
    { memory with
      compactions := kept
      compactionsEvicted :=
        if 0 < remove then satAdd memory.compactionsEvicted remove else memory.compactionsEvicted
      compactionsHighWater := max memory.compactionsHighWater kept.length }
  else memory

/-- Drop what is expired, and the oldest entries over the bound. -/
def compact (memory : WorkingMemory) (nowMs : Nat) : WorkingMemory × MemoryCompactionRecord :=
  let unexpired := memory.entries.filter (nowMs < ·.expiresAtMs)
  let excess := unexpired.length - memory.config.maxEntries
  let entries := unexpired.drop excess
  let record : MemoryCompactionRecord :=
    { atMs := nowMs
      expiredRemoved := memory.entries.length - unexpired.length
      capacityRemoved := excess
      remaining := entries.length }
  let memory := { memory with entries }.pruneLinks
  let memory := { memory with entriesHighWater := max memory.entriesHighWater entries.length }
  (memory.recordCompaction record, record)

/-- Store an entry under the next node id, between two compactions. -/
def pushBounded (memory : WorkingMemory) (entry : MemoryEntry) (nowMs : Nat) :
    WorkingMemory × Except AdaptationError MemoryEntry :=
  if memory.nextMemoryId + 1 < 2 ^ 64 then
    let entry := { entry with memoryId := memory.nextMemoryId }
    let memory := { memory with nextMemoryId := memory.nextMemoryId + 1 }
    let memory := (memory.compact nowMs).1
    let memory := { memory with entries := memory.entries ++ [entry] }
    let memory := (memory.compact nowMs).1
    (memory, expect (.invariant "inserted memory entry disappeared") memory.entries.getLast?)
  else (memory, .error (.invariant "memory node id space exhausted"))

/-! ## Links -/

/-- A link that is already there is not stored again. -/
def pushLink (memory : WorkingMemory) (link : MemoryLink) : WorkingMemory :=
  if memory.links.any fun existing ↦
      existing.kind = link.kind && existing.source = link.source && existing.target = link.target
  then memory
  else { memory with links := memory.links ++ [link] }

/-- Shed the oldest derived links until the bound holds, or none is left. -/
def shedDerived (maxLinks : Nat) (links : List MemoryLink) : Nat → List MemoryLink
  | 0 => links
  | fuel + 1 =>
    if maxLinks < links.length then
      match links.findIdx? (·.kind = .temporalBefore) with
      | none => links
      | some derived => shedDerived maxLinks (links.eraseIdx derived) fuel
    else links

/-- Every turn of the loop removes a link. -/
def enforceLinkBound (memory : WorkingMemory) : WorkingMemory :=
  let links := shedDerived memory.config.maxLinks memory.links memory.links.length
  { memory with links, linksHighWater := max memory.linksHighWater links.length }

/-- Both keys in descending order. -/
def laterFirst (left right : Nat × Nat) : Bool :=
  right.1 < left.1 || (right.1 = left.1 && right.2 ≤ left.2)

/-- The durable nodes of a topic that were recorded by `nowMs`, newest first. -/
def olderOnTopic (memory : WorkingMemory) (primitives : MemoryPrimitives) (newId : Nat)
    (topic : String) (nowMs : Nat) : List (Nat × Nat) :=
  let older := memory.entries.filter fun entry ↦
    entry.retention = .durable && entry.memoryId ≠ newId &&
      entry.topic.map (normalize primitives) = some (normalize primitives topic) &&
      entry.createdAtMs ≤ nowMs
  (older.map fun entry ↦ (entry.createdAtMs, entry.memoryId)).mergeSort laterFirst

/-- The links of a write: its explicit evidence, then the temporal spine of its topic,
within one budget. -/
def newLinks (memory : WorkingMemory) (primitives : MemoryPrimitives) (newId : Nat)
    (topic : Option String) (nowMs : Nat) (supersedes causedBy : List Nat) : List MemoryLink :=
  let explicit := (supersedes.map fun target ↦ (⟨newId, target, .supersedes, nowMs⟩ : MemoryLink)) ++
    causedBy.map fun target ↦ ⟨newId, target, .causedBy, nowMs⟩
  let explicit := explicit.take memory.config.maxLinksPerMemory
  let budget := memory.config.maxLinksPerMemory - explicit.length
  let older := topic.elim [] fun topic ↦ memory.olderOnTopic primitives newId topic nowMs
  explicit ++ (older.take budget).map fun candidate ↦ ⟨candidate.2, newId, .temporalBefore, nowMs⟩

/-- The insertion may have removed a target. -/
def linkNewMemory (memory : WorkingMemory) (primitives : MemoryPrimitives) (newId : Nat)
    (topic : Option String) (nowMs : Nat) (supersedes causedBy : List Nat) : WorkingMemory :=
  ((memory.newLinks primitives newId topic nowMs supersedes causedBy).foldl pushLink
    memory).pruneLinks.enforceLinkBound

/-! ## Evidence -/

/-- The distinct declarations, each of which costs one of the budget. -/
def declareTargets : Nat → List String → List String → Except AdaptationError (List String × Nat)
  | budget, declared, [] => .ok (declared, budget)
  | budget, declared, target :: targets =>
    if target ∈ declared then declareTargets budget declared targets
    else
      match budget with
      | 0 => .error (.invalidInput <| "one write may not declare more explicit relations than the " ++
          "per-memory link budget")
      | budget + 1 => declareTargets budget (declared ++ [target]) targets

/-- The durable nodes of a source event. -/
def durableOf (memory : WorkingMemory) (id : String) : List MemoryEntry :=
  memory.entries.filter fun entry ↦ entry.source.eventId = id && entry.retention = .durable

/-- The one live durable node of a source event, which was not recorded after the write. -/
def resolveDeclaredTarget (memory : WorkingMemory) (nowMs : Nat) (relation : DeclaredRelation)
    (id : String) : Except AdaptationError Nat :=
  let retained := memory.durableOf id
  if retained = [] then .error (.invalidInput relation.missing)
  else
    match retained.filter (nowMs < ·.expiresAtMs) with
    | [] => .error (.invalidInput relation.expired)
    | _ :: _ :: _ => .error (.invalidInput relation.ambiguous)
    | [target] =>
      if nowMs < target.createdAtMs then .error (.invalidInput relation.recordedInTheFuture)
      else .ok target.memoryId

def resolveTargets (memory : WorkingMemory) (nowMs : Nat) (relation : DeclaredRelation) :
    List String → Except AdaptationError (List Nat)
  | [] => .ok []
  | id :: ids => do
    let target ← memory.resolveDeclaredTarget nowMs relation id
    let targets ← memory.resolveTargets nowMs relation ids
    .ok (target :: targets)

/-- The nodes that the compactions of a write would leave. -/
def projectedSurvivors (memory : WorkingMemory) (nowMs : Nat) : List Nat :=
  let survivors := (memory.entries.filter (nowMs < ·.expiresAtMs)).map MemoryEntry.memoryId
  let survivors := survivors.drop (survivors.length - memory.config.maxEntries)
  survivors.drop (survivors.length + 1 - memory.config.maxEntries)

def MemoryLinkKind.isExplicit : MemoryLinkKind → Bool
  | .supersedes | .causedBy => true
  | .temporalBefore => false

/-- The explicit links of a write fit beside those that it leaves. -/
def evidenceFits (memory : WorkingMemory) (nowMs : Nat) (targets causes : List Nat) : Bool :=
  let survivors := memory.projectedSurvivors nowMs
  let explicitRetained := memory.links.countP fun link ↦ MemoryLinkKind.isExplicit link.kind &&
    decide (link.source ∈ survivors) && decide (link.target ∈ survivors)
  let newEvidenceRetained := (targets ++ causes).countP (· ∈ survivors)
  explicitRetained + newEvidenceRetained ≤ memory.config.maxLinks

/-- The nodes that a write supersedes, and those that caused it. -/
def resolveEvidence (memory : WorkingMemory) (nowMs : Nat) (evidence : MemoryEvidence) :
    Except AdaptationError (List Nat × List Nat) := do
  let declarationsBound := satMul memory.config.maxLinksPerMemory supersessionDeclarationFactor
  ensure (.invalidInput <| "one write may not hand more explicit relation declarations than the " ++
      "bounded input allows; collapse repeated declarations before calling")
    (evidence.supersedes.length ≤ declarationsBound && evidence.causedBy.length ≤ declarationsBound)
  let (supersedes, budget) ←
    declareTargets memory.config.maxLinksPerMemory [] evidence.supersedes
  let (causedBy, _) ← declareTargets budget [] evidence.causedBy
  let targets ← memory.resolveTargets nowMs .supersession supersedes
  let causes ← memory.resolveTargets nowMs .causal causedBy
  ensure (.invalidInput <| "the link store cannot hold this write's explicit evidence without " ++
      "discarding earlier evidence for a still-retained claim; raise max_links or let retention " ++
      "expire the earlier endpoints first")
    (memory.evidenceFits nowMs targets causes)
  .ok (targets, causes)

/-! ## Writes -/

/-- The entry of a claim that is bound to its source event, or not. -/
def newEntry (memory : WorkingMemory) (primitives : MemoryPrimitives)
    (eventId source : String) (sourceClass : SourceClass) (trustLevel : TrustLevel)
    (actorId sourceClaim : Option String) (claim : String) (topic : Option String) (nowMs : Nat)
    (retention : RetentionClass) (writeDecision : MemoryGateDecision) :
    Except AdaptationError MemoryEntry := do
  let claimIsBound := sourceClaim.any fun sourceClaim ↦
    normalize primitives sourceClaim = normalize primitives claim
  let epistemicClass := EpistemicClass.derive sourceClass trustLevel claimIsBound
  requireCompleteVerifiedClaim primitives claim memory.config.maxClaimBytes epistemicClass
  let claim ← boundedNonempty primitives claim memory.config.maxClaimBytes "memory claim"
  let topic ← boundedOptional primitives topic memory.config.maxTopicBytes "memory topic"
  .ok {
    source :=
      { eventId
        source
        sourceClass
        trustLevel
        pseudonymousActorId :=
          actorId.map (memory.pseudonymizer.pseudonymize primitives source) }
    normalizedClaim := claim
    topic
    createdAtMs := nowMs
    expiresAtMs := satAdd nowMs (memory.config.ttlMs retention)
    retention
    writeDecision
    epistemicClass
    epistemicVersion := memoryEpistemicVocabVersion
    memoryId := 0 }

def entryFromEvent (memory : WorkingMemory) (primitives : MemoryPrimitives) (event : EventEnvelope)
    (claim : String) (topic : Option String) (nowMs : Nat) (retention : RetentionClass)
    (writeDecision : MemoryGateDecision) : Except AdaptationError MemoryEntry :=
  memory.newEntry primitives event.eventId event.source event.sourceClass event.trustLevel
    event.actorId (event.payload["text"]?.bind JsonValue.asStr) claim topic nowMs retention
    writeDecision

def entryFromPermit (memory : WorkingMemory) (primitives : MemoryPrimitives)
    (permit : MemoryWritePermit) (claim : String) (topic : Option String) (nowMs : Nat) :
    Except AdaptationError MemoryEntry :=
  memory.newEntry primitives permit.eventId permit.source permit.sourceClass permit.trustLevel
    permit.actorId permit.sourceClaim claim topic nowMs .durable permit.decision.toGate

def rememberWorking (memory : WorkingMemory) (primitives : MemoryPrimitives)
    (event : EventEnvelope) (claim : String) (topic : Option String) (nowMs : Nat) :
    WorkingMemory × Except AdaptationError MemoryEntry :=
  match memory.entryFromEvent primitives event claim topic nowMs .working .workingOnly with
  | .error error => (memory, .error error)
  | .ok entry => memory.pushBounded entry nowMs

/-- What a durable write stores, once nothing refuses it. -/
def prepareDurable (memory : WorkingMemory) (primitives : MemoryPrimitives)
    (permit : MemoryWritePermit) (claim : String) (topic : Option String) (nowMs : Nat)
    (evidence : MemoryEvidence) : Except AdaptationError (MemoryEntry × List Nat × List Nat) := do
  let (targets, causes) ← memory.resolveEvidence nowMs evidence
  let entry ← memory.entryFromPermit primitives permit claim topic nowMs
  .ok (entry, targets, causes)

def rememberDurableWithEvidence (memory : WorkingMemory) (primitives : MemoryPrimitives)
    (permit : MemoryWritePermit) (claim : String) (topic : Option String) (nowMs : Nat)
    (evidence : MemoryEvidence) : WorkingMemory × Except AdaptationError MemoryEntry :=
  match memory.prepareDurable primitives permit claim topic nowMs evidence with
  | .error error => (memory, .error error)
  | .ok (entry, targets, causes) =>
    match memory.pushBounded entry nowMs with
    | (memory, .error error) => (memory, .error error)
    | (memory, .ok stored) =>
      let memory :=
        memory.linkNewMemory primitives stored.memoryId entry.topic nowMs targets causes
      (memory,
        expect (.invariant "inserted memory entry disappeared") memory.entries.getLast?)

def rememberDurableSuperseding (memory : WorkingMemory) (primitives : MemoryPrimitives)
    (permit : MemoryWritePermit) (claim : String) (topic : Option String) (nowMs : Nat)
    (supersedes : List String) : WorkingMemory × Except AdaptationError MemoryEntry :=
  memory.rememberDurableWithEvidence primitives permit claim topic nowMs ⟨supersedes, []⟩

def rememberDurable (memory : WorkingMemory) (primitives : MemoryPrimitives)
    (permit : MemoryWritePermit) (claim : String) (topic : Option String) (nowMs : Nat) :
    WorkingMemory × Except AdaptationError MemoryEntry :=
  memory.rememberDurableSuperseding primitives permit claim topic nowMs []

/-! ## What compactions leave -/

section Compaction

variable (memory : WorkingMemory) (record : MemoryCompactionRecord) (nowMs : Nat)

@[simp] theorem recordCompaction_entries :
    (memory.recordCompaction record).entries = memory.entries := by
  rw [recordCompaction]
  split <;> rfl

@[simp] theorem recordCompaction_links :
    (memory.recordCompaction record).links = memory.links := by
  rw [recordCompaction]
  split <;> rfl

@[simp] theorem recordCompaction_config :
    (memory.recordCompaction record).config = memory.config := by
  rw [recordCompaction]
  split <;> rfl

@[simp] theorem recordCompaction_nextMemoryId :
    (memory.recordCompaction record).nextMemoryId = memory.nextMemoryId := by
  rw [recordCompaction]
  split <;> rfl

/-- The entries that a compaction keeps. -/
def kept : List MemoryEntry :=
  (memory.entries.filter (nowMs < ·.expiresAtMs)).drop
    ((memory.entries.filter (nowMs < ·.expiresAtMs)).length - memory.config.maxEntries)

@[simp] theorem compact_entries : (memory.compact nowMs).1.entries = memory.kept nowMs :=
  recordCompaction_entries _ _

@[simp] theorem compact_links : (memory.compact nowMs).1.links =
    memory.links.filter fun link ↦ (memory.kept nowMs).any (·.memoryId = link.source) &&
      (memory.kept nowMs).any (·.memoryId = link.target) :=
  recordCompaction_links _ _

@[simp] theorem compact_config : (memory.compact nowMs).1.config = memory.config :=
  recordCompaction_config _ _

@[simp] theorem compact_nextMemoryId :
    (memory.compact nowMs).1.nextMemoryId = memory.nextMemoryId :=
  recordCompaction_nextMemoryId _ _

theorem compact_bump (id : Nat) : (compact { memory with nextMemoryId := id } nowMs).1 =
    { (memory.compact nowMs).1 with nextMemoryId := id } := by
  rw [compact, compact, recordCompaction, recordCompaction]
  dsimp only [pruneLinks]
  split <;> rfl

/-- An entry at the end, under the next node id. -/
def insertEntry (entry : MemoryEntry) : WorkingMemory :=
  { memory with
    entries := memory.entries ++ [{ entry with memoryId := memory.nextMemoryId }]
    nextMemoryId := memory.nextMemoryId + 1 }

theorem pushBounded_eq (entry : MemoryEntry) (h : memory.nextMemoryId + 1 < 2 ^ 64) :
    memory.pushBounded entry nowMs =
      ((((memory.compact nowMs).1.insertEntry entry).compact nowMs).1,
        expect (.invariant "inserted memory entry disappeared")
          (((memory.compact nowMs).1.insertEntry entry).kept nowMs).getLast?) := by
  rw [pushBounded, if_pos h, ← compact_entries]
  dsimp only
  rw [compact_bump, insertEntry, compact_nextMemoryId]

theorem kept_sublist : (memory.kept nowMs).Sublist memory.entries :=
  (List.drop_sublist _ _).trans List.filter_sublist

variable {memory nowMs}

theorem mem_kept {entry : MemoryEntry} (h : entry ∈ memory.kept nowMs) :
    entry ∈ memory.entries ∧ nowMs < entry.expiresAtMs := by
  have hfilter := List.mem_of_mem_drop h
  rw [List.mem_filter, decide_eq_true_eq] at hfilter
  exact hfilter

/-- Compactions after a live entry was stored keep it, and the newest ones before it. -/
theorem kept_insertEntry {entry : MemoryEntry} (hlive : nowMs < entry.expiresAtMs)
    (hbound : 0 < memory.config.maxEntries) :
    (memory.insertEntry entry).kept nowMs =
      (memory.entries.filter (nowMs < ·.expiresAtMs)).drop
        ((memory.entries.filter (nowMs < ·.expiresAtMs)).length + 1 - memory.config.maxEntries) ++
      [{ entry with memoryId := memory.nextMemoryId }] := by
  have hfilter : (memory.insertEntry entry).entries.filter (nowMs < ·.expiresAtMs) =
      memory.entries.filter (nowMs < ·.expiresAtMs) ++
        [{ entry with memoryId := memory.nextMemoryId }] := by
    rw [insertEntry, List.filter_append]
    congr 1
    exact List.filter_eq_self.mpr fun other hother ↦ by
      rw [List.mem_singleton.mp hother]
      exact decide_eq_true hlive
  rw [kept, hfilter, List.length_append, List.length_singleton, List.drop_append_of_le_length]
  · rfl
  · change _ - memory.config.maxEntries ≤ _
    omega

theorem filter_kept : (memory.kept nowMs).filter (nowMs < ·.expiresAtMs) = memory.kept nowMs :=
  List.filter_eq_self.mpr fun _ h ↦ decide_eq_true (mem_kept h).2

end Compaction

section Links

variable {memory : WorkingMemory} {link other : MemoryLink} {links : List MemoryLink}

theorem mem_pushLink : other ∈ (memory.pushLink link).links → other ∈ memory.links ∨ other = link := by
  rw [pushLink]
  split
  case isTrue => exact Or.inl
  case isFalse =>
    intro h
    exact (List.mem_append.mp h).imp_right List.mem_singleton.mp

theorem pushLink_of_mem (h : other ∈ memory.links) : other ∈ (memory.pushLink link).links := by
  rw [pushLink]
  split
  case isTrue => exact h
  case isFalse => exact List.mem_append_left _ h

/-- A link is there after it was pushed, maybe with another record time. -/
theorem exists_mem_pushLink : ∃ existing ∈ (memory.pushLink link).links,
    existing.kind = link.kind ∧ existing.source = link.source ∧ existing.target = link.target := by
  rw [pushLink]
  split
  case isTrue h =>
    obtain ⟨existing, hmem, hsame⟩ := List.any_eq_true.mp h
    simp only [Bool.and_eq_true, decide_eq_true_eq] at hsame
    exact ⟨existing, hmem, hsame.1.1, hsame.1.2, hsame.2⟩
  case isFalse => exact ⟨link, List.mem_append_right _ List.mem_cons_self, rfl, rfl, rfl⟩

@[simp] theorem pushLink_entries : (memory.pushLink link).entries = memory.entries := by
  rw [pushLink]
  split <;> rfl

@[simp] theorem pushLink_config : (memory.pushLink link).config = memory.config := by
  rw [pushLink]
  split <;> rfl

@[simp] theorem pushLink_nextMemoryId :
    (memory.pushLink link).nextMemoryId = memory.nextMemoryId := by
  rw [pushLink]
  split <;> rfl

@[simp] theorem foldl_pushLink_entries : (links.foldl pushLink memory).entries = memory.entries := by
  induction links generalizing memory with
  | nil => rfl
  | cons link links ih => rw [List.foldl_cons, ih, pushLink_entries]

@[simp] theorem foldl_pushLink_config : (links.foldl pushLink memory).config = memory.config := by
  induction links generalizing memory with
  | nil => rfl
  | cons link links ih => rw [List.foldl_cons, ih, pushLink_config]

@[simp] theorem foldl_pushLink_nextMemoryId :
    (links.foldl pushLink memory).nextMemoryId = memory.nextMemoryId := by
  induction links generalizing memory with
  | nil => rfl
  | cons link links ih => rw [List.foldl_cons, ih, pushLink_nextMemoryId]

theorem foldl_pushLink_of_mem (h : other ∈ memory.links) :
    other ∈ (links.foldl pushLink memory).links := by
  induction links generalizing memory with
  | nil => exact h
  | cons link links ih => exact ih (pushLink_of_mem h)

theorem mem_foldl_pushLink (h : other ∈ (links.foldl pushLink memory).links) :
    other ∈ memory.links ∨ other ∈ links := by
  induction links generalizing memory with
  | nil => exact Or.inl h
  | cons link links ih =>
    rcases ih h with hpushed | hlater
    · rcases mem_pushLink hpushed with hold | rfl
      · exact Or.inl hold
      · exact Or.inr List.mem_cons_self
    · exact Or.inr (List.mem_cons_of_mem _ hlater)

theorem exists_mem_foldl_pushLink (h : link ∈ links) :
    ∃ existing ∈ (links.foldl pushLink memory).links, existing.kind = link.kind ∧
      existing.source = link.source ∧ existing.target = link.target := by
  induction links generalizing memory with
  | nil => cases h
  | cons first links ih =>
    rcases List.mem_cons.mp h with rfl | hlater
    · have hpushed : ∃ existing ∈ (memory.pushLink link).links, existing.kind = link.kind ∧
          existing.source = link.source ∧ existing.target = link.target := exists_mem_pushLink
      obtain ⟨existing, hmem, hsame⟩ := hpushed
      refine ⟨existing, ?_, hsame⟩
      rw [List.foldl_cons]
      exact foldl_pushLink_of_mem hmem
    · exact ih hlater

theorem shedDerived_sublist (maxLinks fuel : Nat) :
    (shedDerived maxLinks links fuel).Sublist links := by
  induction fuel generalizing links with
  | zero => exact List.Sublist.refl _
  | succ fuel ih =>
    rw [shedDerived]
    split
    · split
      · exact List.Sublist.refl _
      · exact ih.trans (List.eraseIdx_sublist _ _)
    · exact List.Sublist.refl _

/-- Only derived links are shed. -/
theorem mem_shedDerived (maxLinks fuel : Nat) (h : link ∈ links)
    (hexplicit : link.kind ≠ .temporalBefore) : link ∈ shedDerived maxLinks links fuel := by
  induction fuel generalizing links with
  | zero => exact h
  | succ fuel ih =>
    rw [shedDerived]
    split
    case isFalse => exact h
    case isTrue =>
      split
      case h_1 => exact h
      case h_2 derived hfound =>
        apply ih
        obtain ⟨index, hindex⟩ := List.mem_iff_getElem?.mp h
        refine List.mem_eraseIdx_iff_getElem?.mpr ⟨index, ?_, hindex⟩
        rintro rfl
        obtain ⟨hlt, hderived, -⟩ := List.findIdx?_eq_some_iff_getElem.mp hfound
        rw [List.getElem?_eq_getElem hlt, Option.some_inj] at hindex
        rw [hindex, decide_eq_true_eq] at hderived
        exact hexplicit hderived

end Links

/-! ## What a write links -/

section Linking

variable (memory : WorkingMemory) (primitives : MemoryPrimitives) (newId : Nat)
  (topic : Option String) (nowMs : Nat) (targets causes : List Nat)

@[simp] theorem linkNewMemory_entries :
    (memory.linkNewMemory primitives newId topic nowMs targets causes).entries =
      memory.entries := foldl_pushLink_entries

@[simp] theorem linkNewMemory_config :
    (memory.linkNewMemory primitives newId topic nowMs targets causes).config =
      memory.config := foldl_pushLink_config

@[simp] theorem linkNewMemory_nextMemoryId :
    (memory.linkNewMemory primitives newId topic nowMs targets causes).nextMemoryId =
      memory.nextMemoryId := foldl_pushLink_nextMemoryId

variable {memory primitives newId topic nowMs targets causes} {link : MemoryLink}

theorem mem_pruneLinks : link ∈ memory.pruneLinks.links ↔ link ∈ memory.links ∧
    memory.retains link.source = true ∧ memory.retains link.target = true := by
  rw [pruneLinks, List.mem_filter, Bool.and_eq_true]

theorem mem_linkNewMemory
    (h : link ∈ (memory.linkNewMemory primitives newId topic nowMs targets causes).links) :
    link ∈ memory.links ∨
      link ∈ memory.newLinks primitives newId topic nowMs targets causes := by
  have hpruned := (shedDerived_sublist _ _).subset h
  exact mem_foldl_pushLink (mem_pruneLinks.mp hpruned).1

/-- Explicit links between retained nodes stay. -/
theorem linkNewMemory_of_mem (h : link ∈ ((memory.newLinks primitives newId topic nowMs targets
      causes).foldl pushLink memory).links) (hexplicit : link.kind ≠ .temporalBefore)
    (hsource : memory.retains link.source = true) (htarget : memory.retains link.target = true) :
    link ∈ (memory.linkNewMemory primitives newId topic nowMs targets causes).links := by
  refine mem_shedDerived _ _ (mem_pruneLinks.mpr ⟨h, ?_, ?_⟩) hexplicit
  · rw [retains, foldl_pushLink_entries]
    exact hsource
  · rw [retains, foldl_pushLink_entries]
    exact htarget

/-- The links of a write lead from the new node to another, or from a retained node to it. -/
theorem mem_newLinks (h : link ∈ memory.newLinks primitives newId topic nowMs targets causes) :
    link.createdAtMs = nowMs ∧
      (link.source = newId ∨ ∃ entry ∈ memory.entries, entry.memoryId = link.source) := by
  rcases List.mem_append.mp h with hexplicit | hderived
  · rcases List.mem_append.mp (List.mem_of_mem_take hexplicit) with hsupersedes | hcaused
    · obtain ⟨target, -, rfl⟩ := List.mem_map.mp hsupersedes
      exact ⟨rfl, Or.inl rfl⟩
    · obtain ⟨target, -, rfl⟩ := List.mem_map.mp hcaused
      exact ⟨rfl, Or.inl rfl⟩
  · obtain ⟨candidate, hcandidate, rfl⟩ := List.mem_map.mp hderived
    refine ⟨rfl, Or.inr ?_⟩
    have holder := List.mem_of_mem_take hcandidate
    cases topic with
    | none => cases holder
    | some topic =>
      rw [Option.elim_some, olderOnTopic, List.mem_mergeSort, List.mem_map] at holder
      obtain ⟨entry, hentry, rfl⟩ := holder
      exact ⟨entry, (List.mem_filter.mp hentry).1, rfl⟩

/-- The explicit links of a write. -/
def evidenceLinks (newId nowMs : Nat) (targets causes : List Nat) : List MemoryLink :=
  (targets.map fun target ↦ ⟨newId, target, .supersedes, nowMs⟩) ++
    causes.map fun target ↦ ⟨newId, target, .causedBy, nowMs⟩

/-- Within the budget of a write, all its evidence is linked. -/
theorem evidence_mem_newLinks
    (hbudget : targets.length + causes.length ≤ memory.config.maxLinksPerMemory)
    (h : link ∈ evidenceLinks newId nowMs targets causes) :
    link ∈ memory.newLinks primitives newId topic nowMs targets causes := by
  refine List.mem_append_left _ ?_
  rw [List.take_of_length_le]
  · exact h
  · rwa [List.length_append, List.length_map, List.length_map]

theorem mem_evidenceLinks (h : link ∈ evidenceLinks newId nowMs targets causes) :
    link.source = newId ∧ link.createdAtMs = nowMs ∧ link.kind ≠ .temporalBefore ∧
      (link.target ∈ targets ∨ link.target ∈ causes) := by
  rcases List.mem_append.mp h with hsupersedes | hcaused
  · obtain ⟨target, htarget, rfl⟩ := List.mem_map.mp hsupersedes
    exact ⟨rfl, rfl, (fun hkind ↦ by cases hkind), Or.inl htarget⟩
  · obtain ⟨target, htarget, rfl⟩ := List.mem_map.mp hcaused
    exact ⟨rfl, rfl, (fun hkind ↦ by cases hkind), Or.inr htarget⟩

/-- The evidence of a node that had no links is linked as it was declared. -/
theorem evidence_mem_linkNewMemory (hfresh : ∀ link ∈ memory.links, link.source ≠ newId)
    (hbudget : targets.length + causes.length ≤ memory.config.maxLinksPerMemory)
    (h : link ∈ evidenceLinks newId nowMs targets causes)
    (hsource : memory.retains newId = true) (htarget : memory.retains link.target = true) :
    link ∈ (memory.linkNewMemory primitives newId topic nowMs targets causes).links := by
  obtain ⟨hfrom, hat, hexplicit, -⟩ := mem_evidenceLinks h
  have hpushed : ∃ existing ∈ ((memory.newLinks primitives newId topic nowMs targets causes).foldl
      pushLink memory).links, existing.kind = link.kind ∧ existing.source = link.source ∧
        existing.target = link.target :=
    exists_mem_foldl_pushLink (evidence_mem_newLinks hbudget h)
  obtain ⟨existing, hexisting, hkind, hsame, hto⟩ := hpushed
  have hrecorded : existing.createdAtMs = nowMs := by
    rcases mem_foldl_pushLink hexisting with hold | hlinked
    · exact absurd (hsame.trans hfrom) (hfresh existing hold)
    · exact (mem_newLinks hlinked).1
  have heq : existing = link := by
    cases existing
    cases link
    cases hkind
    cases hsame
    cases hto
    cases hrecorded
    cases hat
    rfl
  subst heq
  apply linkNewMemory_of_mem hexisting hexplicit _ htarget
  rw [hfrom]
  exact hsource

end Linking

/-! ## What a write resolves -/

section Evidence

variable {memory : WorkingMemory} {nowMs : Nat} {relation : DeclaredRelation}

/-- Every declaration is kept, and the distinct ones are paid for. -/
theorem declareTargets_eq_ok {budget rest : Nat} {declared targets all : List String}
    (h : declareTargets budget declared targets = .ok (all, rest)) :
    all.length + rest = declared.length + budget ∧ declared ++ targets ⊆ all := by
  induction targets generalizing budget declared with
  | nil =>
    cases h
    exact ⟨rfl, by rw [List.append_nil]; exact List.Subset.refl _⟩
  | cons target targets ih =>
    unfold declareTargets at h
    split at h
    case isTrue hdeclared =>
      obtain ⟨hlength, hsubset⟩ := ih h
      refine ⟨hlength, fun id hid ↦ hsubset ?_⟩
      rcases List.mem_append.mp hid with hold | hnew
      · exact List.mem_append_left _ hold
      · rcases List.mem_cons.mp hnew with rfl | hlater
        · exact List.mem_append_left _ hdeclared
        · exact List.mem_append_right _ hlater
    case isFalse =>
      cases budget with
      | zero => cases h
      | succ budget =>
        obtain ⟨hlength, hsubset⟩ := ih h
        refine ⟨?_, fun id hid ↦ hsubset ?_⟩
        · rw [hlength, List.length_append, List.length_singleton]
          omega
        · rwa [List.append_assoc, List.singleton_append]

theorem resolveTargets_eq_ok {ids : List String} {targets : List Nat}
    (h : memory.resolveTargets nowMs relation ids = .ok targets) :
    targets.length = ids.length ∧
      ∀ id ∈ ids, ∃ target ∈ targets,
        memory.resolveDeclaredTarget nowMs relation id = .ok target := by
  induction ids generalizing targets with
  | nil =>
    cases h
    exact ⟨rfl, fun _ hid ↦ by cases hid⟩
  | cons id ids ih =>
    obtain ⟨target, htarget, h⟩ := bind_eq_ok.mp h
    obtain ⟨rest, hrest, h⟩ := bind_eq_ok.mp h
    cases h
    obtain ⟨hlength, hresolved⟩ := ih hrest
    refine ⟨congrArg Nat.succ hlength, fun other hother ↦ ?_⟩
    rcases List.mem_cons.mp hother with rfl | hlater
    · exact ⟨target, List.mem_cons_self, htarget⟩
    · obtain ⟨found, hfound, hother⟩ := hresolved other hlater
      exact ⟨found, List.mem_cons_of_mem _ hfound, hother⟩

/-- A declared target is the only live durable node of its source event. -/
theorem resolveDeclaredTarget_eq_ok {id : String} {target : Nat}
    (h : memory.resolveDeclaredTarget nowMs relation id = .ok target) {entry : MemoryEntry}
    (hentry : entry ∈ memory.durableOf id) (hlive : nowMs < entry.expiresAtMs) :
    entry.memoryId = target ∧ entry.createdAtMs ≤ nowMs := by
  have hfilter : entry ∈ (memory.durableOf id).filter (nowMs < ·.expiresAtMs) :=
    List.mem_filter.mpr ⟨hentry, decide_eq_true hlive⟩
  rw [resolveDeclaredTarget] at h
  split at h
  · cases h
  · split at h
    case h_1 => cases h
    case h_2 => cases h
    case h_3 found hfound =>
      rw [hfound, List.mem_singleton] at hfilter
      subst hfilter
      split at h
      · cases h
      · cases h
        exact ⟨rfl, by omega⟩

end Evidence

/-! ## What a write stores -/

section Writes

variable {memory : WorkingMemory} {primitives : MemoryPrimitives} {entry : MemoryEntry}
  {nowMs : Nat}

/-- A new entry carries what its write says about its times and its source, the actor under a
pseudonym, and a claim that is not empty, cut to the bound. -/
theorem newEntry_eq_ok {eventId source claim : String} {sourceClass : SourceClass}
    {trustLevel : TrustLevel} {actorId sourceClaim topic : Option String}
    {retention : RetentionClass} {writeDecision : MemoryGateDecision}
    (h : memory.newEntry primitives eventId source sourceClass trustLevel actorId sourceClaim claim
      topic nowMs retention writeDecision = .ok entry) :
    (entry.createdAtMs = nowMs ∧ entry.retention = retention ∧
      entry.expiresAtMs = satAdd nowMs (memory.config.ttlMs retention)) ∧
    entry.source = {
      eventId
      source
      sourceClass
      trustLevel
      pseudonymousActorId := actorId.map (memory.pseudonymizer.pseudonymize primitives source) } ∧
    (∃ claim, claim ≠ "" ∧
      entry.normalizedClaim = Text.truncateUtf8 claim memory.config.maxClaimBytes) ∧
    entry.topic = topic.map fun topic ↦
      Text.truncateUtf8 (normalize primitives topic) memory.config.maxTopicBytes := by
  obtain ⟨-, h⟩ := unit_bind_eq_ok.mp h
  obtain ⟨bounded, hbounded, h⟩ := bind_eq_ok.mp h
  obtain ⟨cut, htopic, h⟩ := bind_eq_ok.mp h
  obtain ⟨hclaim, hbounded⟩ := unit_bind_eq_ok.mp hbounded
  cases h
  cases hbounded
  refine ⟨⟨rfl, rfl, rfl⟩, rfl, ⟨_, of_decide_eq_true (ensure_eq_ok.mp hclaim), rfl⟩, ?_⟩
  cases topic with
  | none =>
    cases htopic
    rfl
  | some topic =>
    rw [boundedOptional] at htopic
    cases hnonempty : boundedNonempty primitives topic memory.config.maxTopicBytes
        "memory topic" with
    | error error =>
      rw [hnonempty] at htopic
      cases htopic
    | ok bounded =>
      rw [hnonempty] at htopic
      cases htopic
      obtain ⟨-, hcut⟩ := unit_bind_eq_ok.mp hnonempty
      cases hcut
      rfl

theorem pushBounded_eq_ok {stored : MemoryEntry}
    (h : (memory.pushBounded entry nowMs).2 = .ok stored) :
    memory.nextMemoryId + 1 < 2 ^ 64 ∧
      (((memory.compact nowMs).1.insertEntry entry).kept nowMs).getLast? = some stored := by
  by_cases hid : memory.nextMemoryId + 1 < 2 ^ 64
  · refine ⟨hid, ?_⟩
    rw [pushBounded_eq _ _ _ hid] at h
    cases hlast : (((memory.compact nowMs).1.insertEntry entry).kept nowMs).getLast? with
    | none =>
      rw [hlast] at h
      cases h
    | some last =>
      rw [hlast] at h
      cases h
      rfl
  · rw [pushBounded, if_neg hid] at h
    cases h

theorem mem_pushBounded_entries {other : MemoryEntry}
    (h : other ∈ (memory.pushBounded entry nowMs).1.entries) :
    other ∈ memory.entries ∨ other = { entry with memoryId := memory.nextMemoryId } := by
  by_cases hid : memory.nextMemoryId + 1 < 2 ^ 64
  · rw [pushBounded_eq _ _ _ hid] at h
    simp only [compact_entries] at h
    rcases List.mem_append.mp (mem_kept h).1 with hold | hnew
    · rw [compact_entries] at hold
      exact Or.inl (mem_kept hold).1
    · rw [compact_nextMemoryId] at hnew
      exact Or.inr (List.mem_singleton.mp hnew)
  · rw [pushBounded, if_neg hid] at h
    exact Or.inl h

theorem pushBounded_links_sublist :
    (memory.pushBounded entry nowMs).1.links.Sublist memory.links := by
  by_cases hid : memory.nextMemoryId + 1 < 2 ^ 64
  · rw [pushBounded_eq _ _ _ hid]
    dsimp only
    rw [compact_links, insertEntry, compact_links]
    exact List.filter_sublist.trans List.filter_sublist
  · rw [pushBounded, if_neg hid]

@[simp] theorem pushBounded_config :
    (memory.pushBounded entry nowMs).1.config = memory.config := by
  by_cases hid : memory.nextMemoryId + 1 < 2 ^ 64
  · rw [pushBounded_eq _ _ _ hid, compact_config, insertEntry, compact_config]
  · rw [pushBounded, if_neg hid]

theorem pushBounded_nextMemoryId (hid : memory.nextMemoryId + 1 < 2 ^ 64) :
    (memory.pushBounded entry nowMs).1.nextMemoryId = memory.nextMemoryId + 1 := by
  rw [pushBounded_eq _ _ _ hid, compact_nextMemoryId, insertEntry, compact_nextMemoryId]

variable {permit : MemoryWritePermit} {claim : String} {topic : Option String}
  {evidence : MemoryEvidence} {targets causes : List Nat}

/-- The evidence of a write fits its budget, and names every live durable node of a source
event that it supersedes. -/
theorem resolveEvidence_eq_ok (h : memory.resolveEvidence nowMs evidence = .ok (targets, causes)) :
    targets.length + causes.length ≤ memory.config.maxLinksPerMemory ∧
      ∀ id ∈ evidence.supersedes, ∀ entry ∈ memory.durableOf id, nowMs < entry.expiresAtMs →
        entry.memoryId ∈ targets ∧ entry.createdAtMs ≤ nowMs := by
  obtain ⟨-, h⟩ := unit_bind_eq_ok.mp h
  obtain ⟨⟨supersedes, budget⟩, hsupersedes, h⟩ := bind_eq_ok.mp h
  obtain ⟨⟨causedBy, rest⟩, hcausedBy, h⟩ := bind_eq_ok.mp h
  obtain ⟨found, hfound, h⟩ := bind_eq_ok.mp h
  obtain ⟨caused, hcaused, h⟩ := bind_eq_ok.mp h
  obtain ⟨-, h⟩ := unit_bind_eq_ok.mp h
  cases h
  obtain ⟨hbudget, hdeclared⟩ := declareTargets_eq_ok hsupersedes
  obtain ⟨hrest, -⟩ := declareTargets_eq_ok hcausedBy
  obtain ⟨htargets, hresolved⟩ := resolveTargets_eq_ok hfound
  obtain ⟨hcauses, -⟩ := resolveTargets_eq_ok hcaused
  simp only [List.length_nil, Nat.zero_add] at hbudget hrest
  refine ⟨by omega, fun id hid entry hentry hlive ↦ ?_⟩
  obtain ⟨target, htarget, hid⟩ := hresolved id (hdeclared hid)
  obtain ⟨rfl, hcreated⟩ := resolveDeclaredTarget_eq_ok hid hentry hlive
  exact ⟨htarget, hcreated⟩

theorem prepareDurable_eq_ok
    (h : memory.prepareDurable primitives permit claim topic nowMs evidence =
      .ok (entry, targets, causes)) :
    memory.resolveEvidence nowMs evidence = .ok (targets, causes) ∧
      memory.entryFromPermit primitives permit claim topic nowMs = .ok entry := by
  obtain ⟨⟨found, caused⟩, hevidence, h⟩ := bind_eq_ok.mp h
  obtain ⟨prepared, hentry, h⟩ := bind_eq_ok.mp h
  cases h
  exact ⟨hevidence, hentry⟩

variable (memory primitives permit claim topic nowMs evidence) in
/-- What a durable write does: nothing, or it pushes its entry, and links what it stored. -/
theorem rememberDurableWithEvidence_cases :
    ((memory.rememberDurableWithEvidence primitives permit claim topic nowMs evidence).1 = memory ∧
      ∀ stored, (memory.rememberDurableWithEvidence primitives permit claim topic nowMs
        evidence).2 ≠ .ok stored) ∨
    ∃ entry targets causes, memory.prepareDurable primitives permit claim topic nowMs evidence =
        .ok (entry, targets, causes) ∧
      (((memory.rememberDurableWithEvidence primitives permit claim topic nowMs evidence).1 =
          (memory.pushBounded entry nowMs).1 ∧
        ∀ stored, (memory.rememberDurableWithEvidence primitives permit claim topic nowMs
          evidence).2 ≠ .ok stored) ∨
      ∃ stored, (memory.pushBounded entry nowMs).2 = .ok stored ∧
        (memory.rememberDurableWithEvidence primitives permit claim topic nowMs evidence).1 =
          (memory.pushBounded entry nowMs).1.linkNewMemory primitives stored.memoryId entry.topic
            nowMs targets causes) := by
  rw [rememberDurableWithEvidence]
  cases hprepared : memory.prepareDurable primitives permit claim topic nowMs evidence with
  | error error => exact Or.inl ⟨rfl, fun _ h ↦ by cases h⟩
  | ok prepared =>
    obtain ⟨entry, targets, causes⟩ := prepared
    refine Or.inr ⟨entry, targets, causes, rfl, ?_⟩
    cases hpushed : memory.pushBounded entry nowMs with
    | mk pushed result =>
      cases result with
      | error error => exact Or.inl ⟨by simp only [hpushed], fun _ h ↦ by simp [hpushed] at h⟩
      | ok stored => exact Or.inr ⟨stored, rfl, by simp only [hpushed]⟩

end Writes

end WorkingMemory

end Aivtuber
