import Aivtuber.Base.Machine
import Aivtuber.Base.TokenBucket
import Aivtuber.Runtime.Security

/-!
# Content ingress

The whole `SecurityRuntime` of `crates/runtime/src/lib.rs`: beside the control path of
`Aivtuber.Runtime.Security`, its own scheduler, the token bucket of each content source
and the registry of recent correlations.  Content is taken from serialized bytes, through
gates for bytes, rate and backpressure; control reaches the scheduler by `handleControl`
only.
-/

open Aivtuber.Check Saturating
open Std (ExtTreeMap)

namespace Aivtuber

structure SecurityRuntimeConfig where
  contentRatePerSecond : Float64
  contentBurst : Nat
  maxEnvelopeBytes : Nat
  maxPayloadBytes : Nat
  contentQueueLimit : Nat
  maxAuditRecords : Nat
  maxRateLimitSources : Nat
  rateLimitSourceTtlMs : Nat
deriving DecidableEq

def Float64.isPositive : Float64 → Bool
  | .finite value => 0 < value
  | .infinite _ | .nan => false

namespace SecurityRuntimeConfig

def default : SecurityRuntimeConfig where
  contentRatePerSecond := .finite 20
  contentBurst := 40
  maxEnvelopeBytes := 64 * 1024
  maxPayloadBytes := 16 * 1024
  contentQueueLimit := 1024
  maxAuditRecords := 4096
  maxRateLimitSources := 4096
  rateLimitSourceTtlMs := 10 * 60 * 1000

/-- A bound of zero is a mistake. -/
def validateBound (field : String) (bound : Nat) : Except RuntimeError Unit :=
  ensure (.invalidConfiguration field) (bound ≠ 0)

def validateConfig (config : SecurityRuntimeConfig) : Except RuntimeError Unit := do
  ensure (.invalidConfiguration "content_rate_per_second") config.contentRatePerSecond.isPositive
  validateBound "content_burst" config.contentBurst
  validateBound "max_envelope_bytes" config.maxEnvelopeBytes
  validateBound "max_payload_bytes" config.maxPayloadBytes
  validateBound "content_queue_limit" config.contentQueueLimit
  validateBound "max_audit_records" config.maxAuditRecords
  validateBound "max_rate_limit_sources" config.maxRateLimitSources
  validateBound "rate_limit_source_ttl_ms" config.rateLimitSourceTtlMs

example : default.validateConfig = .ok () := by decide +kernel

/-- What a bucket earns in a millisecond. -/
def ratePerMs (config : SecurityRuntimeConfig) : ℚ := config.contentRatePerSecond.value / 1000

end SecurityRuntimeConfig

inductive ContentAdmitDecision where
  | queued
  | droppedEnvelopeBytes
  | droppedPayloadBytes
  | droppedRate
  | droppedBackpressure
  | rejectedNonContent
deriving DecidableEq, Repr

/-- The token bucket of a source. -/
structure Bucket where
  tokens : ℚ
  lastRefillMs : Nat
deriving DecidableEq

/-- What the registry keeps of an admitted event. -/
structure CorrelationRef where
  eventId : String
  sequence : Nat
deriving DecidableEq, Repr

/-- Bound of the correlation registry. -/
def maxCorrelationRefs : Nat := 128

/-- The JSON library, as the content path uses it. -/
structure ContentCodec where
  parse : List UInt8 → Except String EventEnvelope
  /-- How many bytes a payload takes when it is written out. -/
  payloadBytes : ExtTreeMap String JsonValue → Except String Nat

/-- A control event and the authority presented with it, whether or not they agree. -/
structure ControlRequest where
  event : EventEnvelope
  authority : AuthenticatedControl

def AuthenticatedControlCommand.request (command : AuthenticatedControlCommand) :
    ControlRequest where
  event := command.event
  authority := command.authority

/-- The security runtime with everything that content and control reach. -/
structure SecurityBoundary extends SecurityRuntime where
  config : SecurityRuntimeConfig
  scheduler : Scheduler
  buckets : ExtTreeMap String Bucket
  rateLimitSourcesHighWater : Nat
  rateLimitSourcesExpired : Nat
  rateLimitSourcesRejected : Nat
  contentQueueHighWater : Nat
  correlations : ExtTreeMap String CorrelationRef
  /-- The keys of `correlations`, oldest admission first. -/
  correlationOrder : List String
  config_valid : config.validateConfig = .ok ()
  maxAuditRecords_eq : maxAuditRecords = config.maxAuditRecords

/-- What the gates before the token bucket make of some bytes. -/
inductive ContentScreening where
  | refused (decision : ContentAdmitDecision) (entry : AuditRecord)
  | passed (event : EventEnvelope) (payloadBytes : Nat)

/-- Content ingress takes no control or system authority. -/
def EventEnvelope.bearsAuthority (event : EventEnvelope) : Bool :=
  event.plane ≠ .content || event.kind = .operatorCommand || event.authorization.isSome

/-- The bucket at an instant; it earns nothing when that lies before its last refill. -/
def Bucket.refill (config : SecurityRuntimeConfig) (bucket : Bucket) (nowMs : Nat) : Bucket where
  tokens := min (bucket.tokens + ((nowMs - bucket.lastRefillMs : Nat) : ℚ) / 1000 *
    config.contentRatePerSecond.value) config.contentBurst
  lastRefillMs := nowMs

/-- Refill the bucket, then take a token if it holds one. -/
def Bucket.take (config : SecurityRuntimeConfig) (bucket : Bucket) (nowMs : Nat) :
    Bucket × Bool :=
  let bucket := bucket.refill config nowMs
  if bucket.tokens < 1 then (bucket, false)
  else ({ bucket with tokens := bucket.tokens - 1 }, true)

/-- Drop the oldest correlations until the registry is within its bound. -/
def dropCorrelations (correlations : ExtTreeMap String CorrelationRef) :
    List String → ExtTreeMap String CorrelationRef × List String
  | [] => (correlations, [])
  | oldest :: order =>
    if maxCorrelationRefs < correlations.size then
      dropCorrelations (correlations.erase oldest) order
    else (correlations, oldest :: order)

namespace SecurityBoundary

/-- The runtime of a valid configuration, before it was used. -/
def opened (config : SecurityRuntimeConfig) (schedulerConfig : SchedulerConfig)
    (redactor : SecretRedactor) (hvalid : config.validateConfig = .ok ()) : SecurityBoundary where
  maxAuditRecords := config.maxAuditRecords
  contentQueue := []
  muted := false
  redactor := redactor
  audit := []
  auditHighWater := 0
  auditEvicted := 0
  config := config
  scheduler := .new schedulerConfig
  buckets := ∅
  rateLimitSourcesHighWater := 0
  rateLimitSourcesExpired := 0
  rateLimitSourcesRejected := 0
  contentQueueHighWater := 0
  correlations := ∅
  correlationOrder := []
  config_valid := hvalid
  maxAuditRecords_eq := rfl

def new (config : SecurityRuntimeConfig) (schedulerConfig : SchedulerConfig)
    (redactor : SecretRedactor) : Except RuntimeError SecurityBoundary :=
  match hvalid : config.validateConfig with
  | .error error => .error error
  | .ok () => .ok (opened config schedulerConfig redactor hvalid)

variable (boundary : SecurityBoundary)

/-- The runtime with one more audit record. -/
def audited (entry : AuditRecord) : SecurityBoundary :=
  { boundary with toSecurityRuntime := boundary.pushAudit entry }

def popContent : SecurityBoundary × Option EventEnvelope :=
  match boundary.contentQueue with
  | [] => (boundary, none)
  | event :: contentQueue => ({ boundary with contentQueue }, some event)

/-! ## The rate limit of a source -/

def expireRateLimitSources (nowMs : Nat) : SecurityBoundary :=
  let buckets := boundary.buckets.filter fun _ bucket ↦
    nowMs - bucket.lastRefillMs < boundary.config.rateLimitSourceTtlMs
  { boundary with
    buckets
    rateLimitSourcesExpired :=
      satAdd boundary.rateLimitSourcesExpired (boundary.buckets.size - buckets.size) }

/-- Ask the bucket of a source for a token. -/
def spendToken (source : String) (bucket : Bucket) (nowMs : Nat) : SecurityBoundary × Bool :=
  let (bucket, granted) := bucket.take boundary.config nowMs
  ({ boundary with buckets := boundary.buckets.insert source bucket }, granted)

/-- A source that is seen for the first time, or again after its bucket was dropped, starts
with a full bucket. -/
def insertBucket (source : String) (bucket : Bucket) : SecurityBoundary :=
  let buckets := boundary.buckets.insert source bucket
  { boundary with
    buckets
    rateLimitSourcesHighWater := max boundary.rateLimitSourcesHighWater buckets.size }

def fullBucket (nowMs : Nat) : Bucket where
  tokens := boundary.config.contentBurst
  lastRefillMs := nowMs

def consumeToken (source : String) (nowMs : Nat) : SecurityBoundary × Bool :=
  match boundary.buckets[source]? with
  | some bucket => boundary.spendToken source bucket nowMs
  | none =>
    let boundary := boundary.expireRateLimitSources nowMs
    if boundary.config.maxRateLimitSources ≤ boundary.buckets.size then
      ({ boundary with
          rateLimitSourcesRejected := satAdd boundary.rateLimitSourcesRejected 1 }, false)
    else
      let bucket := boundary.fullBucket nowMs
      (boundary.insertBucket source bucket).spendToken source bucket nowMs

/-! ## Content -/

def ingressRecord (event : EventEnvelope) (decision detail : String) : AuditRecord :=
  boundary.redactor.record (some event.eventId) .ingress decision detail

def recordIngress (event : EventEnvelope) (decision detail : String) : SecurityBoundary :=
  boundary.audited (boundary.ingressRecord event decision detail)

/-- Record the correlation of an admitted event as the most recent one. -/
def recordCorrelation (event : EventEnvelope) : SecurityBoundary :=
  let order := if event.correlationId ∈ boundary.correlations then
      boundary.correlationOrder.filter (· ≠ event.correlationId)
    else boundary.correlationOrder
  let (correlations, correlationOrder) :=
    dropCorrelations (boundary.correlations.insert event.correlationId
      { eventId := event.eventId, sequence := event.sequence }) (order ++ [event.correlationId])
  { boundary with correlations, correlationOrder }

variable (codec : ContentCodec)

/-- The gates before the token bucket: the bytes of the envelope, its validity, its plane
and the bytes of its payload. -/
def screen (raw : List UInt8) : Except RuntimeError ContentScreening :=
  if boundary.config.maxEnvelopeBytes < raw.length then
    .ok (.refused .droppedEnvelopeBytes (boundary.redactor.record none .ingress
      "dropped_envelope_bytes" ("envelope_bytes=" ++ toString raw.length)))
  else do
    let event ← (codec.parse raw).mapError .invalidEnvelope
    event.validate.mapError fun error ↦ .invalidEnvelope error.display
    if event.bearsAuthority then
      .ok (.refused .rejectedNonContent (boundary.ingressRecord event "rejected_non_content"
        "control/system authority is not accepted on content ingress"))
    else
      let payloadBytes ← (codec.payloadBytes event.payload).mapError .invalidEnvelope
      if boundary.config.maxPayloadBytes < payloadBytes then
        .ok (.refused .droppedPayloadBytes (boundary.ingressRecord event "dropped_payload_bytes"
          ("payload_bytes=" ++ toString payloadBytes)))
      else .ok (.passed event payloadBytes)

/-- Queue an event that has its token. -/
def enqueue (event : EventEnvelope) (payloadBytes : Nat) :
    SecurityBoundary × ContentAdmitDecision :=
  if boundary.config.contentQueueLimit ≤ boundary.contentQueue.length then
    (boundary.recordIngress event "dropped_backpressure" "content queue full",
      .droppedBackpressure)
  else
    let boundary :=
      boundary.recordIngress event "queued" ("payload_bytes=" ++ toString payloadBytes)
    let boundary := boundary.recordCorrelation event
    let contentQueue := boundary.contentQueue ++ [event]
    ({ boundary with
        contentQueue
        contentQueueHighWater := max boundary.contentQueueHighWater contentQueue.length },
      .queued)

/-- What becomes of an event that passed the gates. -/
def admitEvent (event : EventEnvelope) (payloadBytes nowMs : Nat) :
    SecurityBoundary × ContentAdmitDecision :=
  let (boundary, granted) := boundary.consumeToken event.source nowMs
  if granted then boundary.enqueue event payloadBytes
  else
    (boundary.recordIngress event "dropped_rate" "per-source token bucket exhausted",
      .droppedRate)

/-- Admit content from serialized bytes. -/
def admitContentBytes (raw : List UInt8) (nowMs : Nat) :
    Except RuntimeError (SecurityBoundary × ContentAdmitDecision) := do
  match ← boundary.screen codec raw with
  | .refused decision entry => .ok (boundary.audited entry, decision)
  | .passed event payloadBytes => .ok (boundary.admitEvent event payloadBytes nowMs)

/-! ## Control -/

/-- The audit record of an accepted request. -/
def controlRecord (request : ControlRequest) (action : String) : AuditRecord :=
  boundary.redactor.record (some request.event.eventId) .authorization "authorized_control"
    ("principal=" ++ request.authority.principal ++ " action=" ++ action)

/-- What a checked action does to the runtime and its own scheduler, before it is audited. -/
def performControl (authority : AuthenticatedControl) (action : String) (atMs : Nat) :
    Except RuntimeError (SecurityBoundary × ControlOutcome) := do
  if action = "stop" ∨ action = "performer.stop" then
    requireCapability authority .performerStop
    let (scheduler, stopped) := boundary.scheduler.stopAll atMs
    .ok ({ boundary with scheduler }, .stopped stopped.length)
  else if action = "mute" ∨ action = "performer.mute" then
    requireCapability authority .performerMute
    .ok ({ boundary with muted := true }, .muted)
  else .ok (boundary, .authenticatedOther)

def handleControl (request : ControlRequest) (atMs : Nat) :
    Except RuntimeError (SecurityBoundary × ControlOutcome) := do
  validateAuthorityMatchesEvent request.authority request.event
  let action ← expect (.unauthorizedControl "missing action")
    (request.event.payload["action"]?.bind JsonValue.asStr)
  let (boundary, outcome) ← boundary.performControl request.authority action atMs
  .ok (boundary.audited (boundary.controlRecord request action), outcome)

/-- What a checked action does to the runtime and a scheduler that is not its own. -/
def performControlWithScheduler (authority : AuthenticatedControl) (action : String)
    (atMs : Nat) (scheduler : Scheduler) :
    Except RuntimeError (SecurityBoundary × Scheduler × ControlOutcome) := do
  if action = "stop" ∨ action = "performer.stop" then
    requireCapability authority .performerStop
    let (scheduler, stopped) := scheduler.stopAll atMs
    .ok (boundary, scheduler, .stopped stopped.length)
  else if action = "mute" ∨ action = "performer.mute" then
    requireCapability authority .performerMute
    .ok ({ boundary with muted := true }, scheduler, .muted)
  else .ok (boundary, scheduler, .authenticatedOther)

def handleControlWithScheduler (request : ControlRequest) (atMs : Nat) (scheduler : Scheduler) :
    Except RuntimeError (SecurityBoundary × Scheduler × ControlOutcome) := do
  validateAuthorityMatchesEvent request.authority request.event
  let action ← expect (.unauthorizedControl "missing action")
    (request.event.payload["action"]?.bind JsonValue.asStr)
  let (boundary, scheduler, outcome) ←
    boundary.performControlWithScheduler request.authority action atMs scheduler
  .ok (boundary.audited (boundary.controlRecord request action), scheduler, outcome)

/-- The call of the other entry point; one that fails leaves runtime and scheduler as they were. -/
def applyControlWithScheduler (request : ControlRequest) (atMs : Nat) (scheduler : Scheduler) :
    SecurityBoundary × Scheduler × Except RuntimeError ControlOutcome :=
  match boundary.handleControlWithScheduler request atMs scheduler with
  | .error error => (boundary, scheduler, .error error)
  | .ok (boundary, scheduler, outcome) => (boundary, scheduler, .ok outcome)

end SecurityBoundary

/-! ## Runs -/

inductive IngressOp where
  | admitContentBytes (raw : List UInt8) (nowMs : Nat)
  | popContent
  | handleControl (request : ControlRequest) (atMs : Nat)

inductive IngressOutput where
  | admission (result : Except RuntimeError ContentAdmitDecision)
  | popped (event : Option EventEnvelope)
  | control (result : Except RuntimeError ControlOutcome)

namespace SecurityBoundary

/-- One operation; one that fails leaves the runtime as it was. -/
def step (codec : ContentCodec) (boundary : SecurityBoundary) :
    IngressOp → SecurityBoundary × IngressOutput
  | .admitContentBytes raw nowMs =>
    match boundary.admitContentBytes codec raw nowMs with
    | .error error => (boundary, .admission (.error error))
    | .ok (boundary, decision) => (boundary, .admission (.ok decision))
  | .popContent => boundary.popContent.map id .popped
  | .handleControl request atMs =>
    match boundary.handleControl request atMs with
    | .error error => (boundary, .control (.error error))
    | .ok (boundary, outcome) => (boundary, .control (.ok outcome))

/-- The runtime, operation by operation. -/
def machine (codec : ContentCodec) : Machine SecurityBoundary IngressOp IngressOutput where
  step := step codec

end SecurityBoundary

end Aivtuber
