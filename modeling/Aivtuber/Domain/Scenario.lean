import Aivtuber.Base.Calendar
import Aivtuber.Base.SplitMix
import Aivtuber.Domain.Event

/-!
# Stream scenarios

`crates/domain/src/scenario.rs`: versioned, seeded workloads, and the traces that they
generate.  A trace is a function of the scenario alone; the generator draws from a
`SplitMix64` that each phase seeds anew.

Where an unsigned operation of the source could overflow, the generator of the model has the
fault `overflow`, and `endless` where a draw would never end.  The signed calendar
arithmetic stays far inside 64 bits and is that of the integers.
-/

open Aivtuber.Check
open Aivtuber.Text (utf8)
open Saturating (u64Max)

namespace Aivtuber

/-! ## Scenarios -/

def scenarioSchemaVersion : String := "1"

/-- Embedding width of the starter semantic space. -/
def scenarioEmbeddingDimension : Nat := 3

def maxEventsPerMinute : Float64 := .finite 60000

def maxTraceEvents : Nat := 1000000

def u32Max : Nat := 2 ^ 32 - 1

/-- How close a generated event sits to the curated semantic index. -/
inductive SemanticBand where
  | hit | nearMiss | miss
deriving DecidableEq

inductive PriorityBucket where
  | low | normal | high | critical
deriving DecidableEq

namespace SemanticBand

def debug : SemanticBand → String
  | .hit => "Hit"
  | .nearMiss => "NearMiss"
  | .miss => "Miss"

def asStr : SemanticBand → String
  | .hit => "hit"
  | .nearMiss => "near_miss"
  | .miss => "miss"

/-- Variant groups the starter pack contains. -/
def axisIntents : List String := ["reaction.agree", "reaction.surprise", "filler.thinking"]

/-- Signal retained by a band, as a share of the axis embedding. -/
def signal : SemanticBand → Float64
  | .hit => .finite 1
  | .nearMiss => .finite (5854679515581645 / 9007199254740992)
  | .miss => .finite 0

/-- Project an axis embedding onto the strength of a band. -/
def project (arith : FloatArith) (band : SemanticBand) (axis : List Float64) : List Float64 :=
  let spread := arith.div (arith.sub (.finite 1) band.signal) (arith.ofNat axis.length)
  axis.map fun value ↦ arith.single (arith.add (arith.mul value band.signal) spread)

end SemanticBand

def PriorityBucket.debug : PriorityBucket → String
  | .low => "Low"
  | .normal => "Normal"
  | .high => "High"
  | .critical => "Critical"

def PriorityBucket.priorityHint : PriorityBucket → Float64
  | .low => .finite (3602879701896397 / 18014398509481984)
  | .normal => .finite (1 / 2)
  | .high => .finite (3602879701896397 / 4503599627370496)
  | .critical => .finite 1

/-- One logical-time phase of a stream.  A mix lists its weights in the order of their keys. -/
structure ScenarioPhase where
  name : String
  durationMs : Nat
  eventsPerMinute : Float64
  kindMix : List (EventKind × Float64)
  semanticMix : List (SemanticBand × Float64)
  priorityMix : List (PriorityBucket × Float64)
  distinctActors : UInt32
  distinctTopics : UInt32
  repeatViewerProbability : Float64

structure StreamScenario where
  schemaVersion : String
  scenarioId : String
  scenarioVersion : UInt32
  provenanceNote : String
  seed : BitVec 64
  logicalStart : String
  streamDurationMs : Nat
  phases : List ScenarioPhase

/-! ## Refusals -/

/-- Why the weights of a mix are refused; a weight is named by its key as it is debugged. -/
inductive WeightsFault where
  | empty
  | notPositive (key : String) (weight : Float64)
  | zeroTotal
deriving DecidableEq

inductive PhaseFault where
  | emptyName
  | zeroDuration
  | rateOutOfRange (rate : Float64)
  | repeatProbabilityOutOfRange (probability : Float64)
  | noActors
  | noTopics
  | weights (mix : String) (fault : WeightsFault)
  | operatorCommand
deriving DecidableEq

inductive ScenarioError where
  | unsupportedSchemaVersion (schemaVersion : String)
  | notASlug (scenarioId : String)
  | zeroVersion
  | noProvenanceNote (scenarioId : String)
  | zeroStreamDuration
  | noPhases (scenarioId : String)
  | phase (index : Nat) (name : String) (fault : PhaseFault)
  | tooManyPhaseEvents (name : String) (count : Float64) (durationMs : Nat)
  | actorNamespace (scenarioId : String) (index : Nat) (name : String)
      (distinctActors actorBase : Nat)
  | reusedName (scenarioId name : String)
  | durationsOverflow
  | durationMismatch (scenarioId : String) (durationTotal streamDurationMs : Nat)
  | eventCountOverflow
  | noEvents (scenarioId : String)
  | tooManyEvents (scenarioId : String) (total : Nat)
  | invalidStart (value : String)
  | impossibleDate (value : String)
  | invalidInstant (value : String)
deriving DecidableEq

section Message

-- How a string is quoted, and how a float is shown.
variable (quote : String → String) (render : Float64 → String)

def WeightsFault.message (label : String) : WeightsFault → String
  | .empty => label ++ " must not be empty"
  | .notPositive key weight =>
    label ++ " weight for " ++ key ++ " must be finite and positive, got " ++ render weight
  | .zeroTotal => label ++ " weights must sum above zero"

def PhaseFault.message (label : String) : PhaseFault → String
  | .emptyName => "scenario " ++ label ++ " must have a non-empty name"
  | .zeroDuration => "scenario " ++ label ++ " must have a positive duration_ms"
  | .rateOutOfRange rate =>
    "scenario " ++ label ++ " events_per_minute must be finite and within 0..=" ++
      render maxEventsPerMinute ++ ", got " ++ render rate
  | .repeatProbabilityOutOfRange probability =>
    "scenario " ++ label ++ " repeat_viewer_probability must be within 0..=1, got " ++
      render probability
  | .noActors => "scenario " ++ label ++ " must have at least one distinct actor"
  | .noTopics => "scenario " ++ label ++ " must have at least one distinct topic"
  | .weights mix fault => fault.message render ("scenario " ++ label ++ " " ++ mix)
  | .operatorCommand =>
    "scenario " ++ label ++ " weights operator.command, but a synthetic privileged event " ++
      "would have to fabricate its authorization; operator and failure overlays belong to " ++
      "the #40 fault slice"

def ScenarioError.message : ScenarioError → String
  | .unsupportedSchemaVersion schemaVersion =>
    "unsupported scenario schema_version " ++ quote schemaVersion ++ "; this build reads " ++
      quote scenarioSchemaVersion ++ ". An incompatible scenario version starts a new " ++
      "comparison baseline, it does not silently reinterpret"
  | .notASlug scenarioId => "scenario_id " ++ quote scenarioId ++ " must be a lowercase slug"
  | .zeroVersion => "scenario_version must start at 1"
  | .noProvenanceNote scenarioId =>
    "scenario " ++ quote scenarioId ++ " must state provenance_note: whether its parameters " ++
      "are a synthetic design assumption, derived from approved aggregates, or stress-only"
  | .zeroStreamDuration => "stream_duration_ms must be positive"
  | .noPhases scenarioId =>
    "scenario " ++ quote scenarioId ++ " must declare at least one phase"
  | .phase index name fault =>
    fault.message render ("phase " ++ toString index ++ " (" ++ name ++ ")")
  | .tooManyPhaseEvents name count durationMs =>
    "scenario phase " ++ quote name ++ " would place " ++ render count ++ " events in " ++
      toString durationMs ++ " ms; at most one event per millisecond is representable"
  | .actorNamespace scenarioId index name distinctActors actorBase =>
    "scenario " ++ quote scenarioId ++ " phase " ++ toString index ++ " (" ++ name ++
      ") declares " ++ toString distinctActors ++ " distinct actors, which overflows the " ++
      toString actorBase ++ " actor ids already assigned to earlier phases; a scenario " ++
      "cannot name more than " ++ toString u32Max ++ " viewers in total"
  | .reusedName scenarioId name =>
    "scenario " ++ quote scenarioId ++ " reuses phase name " ++ quote name
  | .durationsOverflow => "phase durations overflowed"
  | .durationMismatch scenarioId durationTotal streamDurationMs =>
    "scenario " ++ quote scenarioId ++ " phase durations sum to " ++ toString durationTotal ++
      " ms but stream_duration_ms is " ++ toString streamDurationMs ++ " ms; an " ++
      "unrepresented or overlapping tail would make the trace unaccountable"
  | .eventCountOverflow => "scenario event count overflowed"
  | .noEvents scenarioId =>
    "scenario " ++ quote scenarioId ++ " generates no events, which would benchmark nothing"
  | .tooManyEvents scenarioId total =>
    "scenario " ++ quote scenarioId ++ " would generate " ++ toString total ++
      " events, above the " ++ toString maxTraceEvents ++ " ceiling"
  | .invalidStart value =>
    "logical_start " ++ quote value ++ " must be UTC as YYYY-MM-DDTHH:MM:SSZ"
  | .impossibleDate value =>
    "logical_start " ++ quote value ++ " names a date the calendar does not have; refusing " ++
      "to normalise it, because the generated trace would then start at an instant this " ++
      "document does not declare"
  | .invalidInstant value =>
    "generated instant " ++ quote value ++ " must be YYYY-MM-DDTHH:MM:SS.mmmZ"

end Message

/-! ## Instants -/

/-- The milliseconds of a date and a time of day, where the calendar has the date. -/
def civilInstantMs (year month day hour minute second millis : Nat) : Option Int :=
  let days := Calendar.daysFromCivil year month day
  if Calendar.civilFromDays days = ((year : Int), (month : Int), (day : Int)) then
    some ((days * 86400 + (hour * 3600 + minute * 60 + second : Nat)) * 1000 + millis)
  else none

def isDate (month day : Nat) : Bool := 1 ≤ month && month ≤ 12 && 1 ≤ day && day ≤ 31

def isTimeOfDay (hour minute second : Nat) : Bool := hour ≤ 23 && minute ≤ 59 && second ≤ 59

/-- An instant that is not before 1970. -/
def instantFromMs (error : ScenarioError) (ms : Int) : Except ScenarioError Nat :=
  if 0 ≤ ms then .ok ms.toNat else .error error

/-- Strict `YYYY-MM-DDTHH:MM:SSZ` parsing. -/
def parseLogicalStart (value : String) : Except ScenarioError Nat := do
  let bytes := utf8 value
  ensure (.invalidStart value) (bytes.length = 20 && bytes[4]? = some (Text.byte '-') &&
    bytes[7]? = some (Text.byte '-') && bytes[10]? = some (Text.byte 'T'))
  ensure (.invalidStart value) (bytes[13]? = some (Text.byte ':') &&
    bytes[16]? = some (Text.byte ':') && bytes[19]? = some (Text.byte 'Z'))
  let year ← expect (.invalidStart value) (parseDigits bytes 0 4)
  let month ← expect (.invalidStart value) (parseDigits bytes 5 2)
  let day ← expect (.invalidStart value) (parseDigits bytes 8 2)
  let hour ← expect (.invalidStart value) (parseDigits bytes 11 2)
  let minute ← expect (.invalidStart value) (parseDigits bytes 14 2)
  let second ← expect (.invalidStart value) (parseDigits bytes 17 2)
  ensure (.impossibleDate value) (isDate month day)
  ensure (.invalidStart value) (isTimeOfDay hour minute second)
  let ms ← expect (.impossibleDate value) (civilInstantMs year month day hour minute second 0)
  instantFromMs (.invalidStart value) ms

/-- RFC 3339 with millisecond precision. -/
def formatRfc3339 (epochMs : Nat) : String :=
  let seconds := epochMs / 1000
  let timeOfDay := seconds % 86400
  let (year, month, day) := Calendar.civilFromDays (seconds / 86400 : Nat)
  Text.pad 4 year.toNat ++ "-" ++ Text.pad 2 month.toNat ++ "-" ++ Text.pad 2 day.toNat ++ "T" ++
    Text.pad 2 (timeOfDay / 3600) ++ ":" ++ Text.pad 2 (timeOfDay % 3600 / 60) ++ ":" ++
    Text.pad 2 (timeOfDay % 60) ++ "." ++ Text.pad 3 (epochMs % 1000) ++ "Z"

/-- Parse the millisecond-precision instant that `formatRfc3339` emits. -/
def scenarioInstantMs (observedAt : String) : Except ScenarioError Nat := do
  let bytes := utf8 observedAt
  ensure (.invalidInstant observedAt) (bytes.length = 24 && bytes[4]? = some (Text.byte '-') &&
    bytes[7]? = some (Text.byte '-') && bytes[10]? = some (Text.byte 'T') &&
    bytes[13]? = some (Text.byte ':') && bytes[16]? = some (Text.byte ':') &&
    bytes[19]? = some (Text.byte '.') && bytes[23]? = some (Text.byte 'Z'))
  let year ← expect (.invalidInstant observedAt) (parseDigits bytes 0 4)
  let month ← expect (.invalidInstant observedAt) (parseDigits bytes 5 2)
  let day ← expect (.invalidInstant observedAt) (parseDigits bytes 8 2)
  let hour ← expect (.invalidInstant observedAt) (parseDigits bytes 11 2)
  let minute ← expect (.invalidInstant observedAt) (parseDigits bytes 14 2)
  let second ← expect (.invalidInstant observedAt) (parseDigits bytes 17 2)
  let millis ← expect (.invalidInstant observedAt) (parseDigits bytes 20 3)
  ensure (.invalidInstant observedAt) (isDate month day && isTimeOfDay hour minute second)
  let ms ← expect (.invalidInstant observedAt)
    (civilInstantMs year month day hour minute second millis)
  instantFromMs (.invalidInstant observedAt) ms

/-! ## Validation -/

namespace ScenarioPhase

/-- Events this phase contributes, at most one for each millisecond. -/
def eventCount (arith : FloatArith) (phase : ScenarioPhase) : Except ScenarioError Nat :=
  let raw := arith.div (arith.mul phase.eventsPerMinute (arith.ofNat phase.durationMs))
    (.finite 60000)
  let count := raw.round
  if (arith.ofNat phase.durationMs).lt count then
    .error (.tooManyPhaseEvents phase.name count phase.durationMs)
  else
    .ok count.toU64

/-- The weights of a mix are positive, and so is their sum. -/
def validateWeights {κ : Type} (arith : FloatArith) (debug : κ → String)
    (weights : List (κ × Float64)) : Except WeightsFault Unit := do
  ensure .empty (!weights.isEmpty)
  weights.forM fun (key, weight) ↦
    ensure (.notPositive (debug key) weight) (weight.isFinite && !weight.le (.finite 0))
  let total := weights.foldl (fun total (_, weight) ↦ arith.add total weight) (.finite 0)
  ensure .zeroTotal (total.isFinite && !total.le (.finite 0))

def checkFields (arith : FloatArith) (phase : ScenarioPhase) : Except PhaseFault Unit := do
  ensure .emptyName (!Text.isBlank phase.name)
  ensure .zeroDuration (phase.durationMs ≠ 0)
  ensure (.rateOutOfRange phase.eventsPerMinute) (phase.eventsPerMinute.isFinite &&
    !phase.eventsPerMinute.lt (.finite 0) && !maxEventsPerMinute.lt phase.eventsPerMinute)
  ensure (.repeatProbabilityOutOfRange phase.repeatViewerProbability)
    phase.repeatViewerProbability.inUnitInterval
  ensure .noActors (phase.distinctActors ≠ 0)
  ensure .noTopics (phase.distinctTopics ≠ 0)
  (validateWeights arith EventKind.debug phase.kindMix).mapError (.weights "kind_mix")
  (validateWeights arith SemanticBand.debug phase.semanticMix).mapError (.weights "semantic_mix")
  (validateWeights arith PriorityBucket.debug phase.priorityMix).mapError (.weights "priority_mix")
  ensure .operatorCommand
    (!(phase.kindMix.lookup .operatorCommand).any fun weight ↦ (Float64.finite 0).lt weight)

def validate (arith : FloatArith) (phase : ScenarioPhase) (index : Nat) :
    Except ScenarioError Unit := do
  (phase.checkFields arith).mapError (.phase index phase.name)
  let _ ← phase.eventCount arith
  pure ()

end ScenarioPhase

/-- The end of the actor ids of a phase, which share one namespace across the stream. -/
def checkedActorNamespaceEnd (scenarioId : String) (index : Nat) (phase : ScenarioPhase)
    (actorBase : Nat) : Except ScenarioError Nat := do
  ensure (.actorNamespace scenarioId index phase.name phase.distinctActors.toNat actorBase)
    (actorBase + phase.distinctActors.toNat ≤ u32Max)
  pure (actorBase + phase.distinctActors.toNat)

/-- What the validator has seen of the phases. -/
structure PhaseTotals where
  seenNames : List String
  durationTotal : Nat
  actorNamespaceEnd : Nat

def isSlug (value : String) : Bool :=
  let bytes := utf8 value
  let isDash (b : UInt8) : Bool := b = Text.byte '-'
  let isLower (b : UInt8) : Bool := Text.byte 'a' ≤ b && b ≤ Text.byte 'z'
  !bytes.isEmpty && bytes.length ≤ 64 &&
    bytes.all (fun b ↦ isLower b || Text.isDigit b || isDash b) &&
    !bytes.head?.any Text.isDigit && !bytes.head?.any isDash && !bytes.getLast?.any isDash

namespace StreamScenario

def totalEventCount (arith : FloatArith) (scenario : StreamScenario) :
    Except ScenarioError Nat :=
  scenario.phases.foldlM (fun total phase ↦ do
    let count ← phase.eventCount arith
    ensure .eventCountOverflow (total + count ≤ u64Max)
    pure (total + count)) 0

/-- One phase in the loop of the validator. -/
def checkPhase (arith : FloatArith) (scenario : StreamScenario) (totals : PhaseTotals)
    (entry : ScenarioPhase × Nat) : Except ScenarioError PhaseTotals := do
  let (phase, index) := entry
  phase.validate arith index
  let actorNamespaceEnd ←
    checkedActorNamespaceEnd scenario.scenarioId index phase totals.actorNamespaceEnd
  ensure (.reusedName scenario.scenarioId phase.name) (phase.name ∉ totals.seenNames)
  ensure .durationsOverflow (totals.durationTotal + phase.durationMs ≤ u64Max)
  pure
    { seenNames := phase.name :: totals.seenNames
      durationTotal := totals.durationTotal + phase.durationMs
      actorNamespaceEnd }

def validate (arith : FloatArith) (scenario : StreamScenario) : Except ScenarioError Unit := do
  ensure (.unsupportedSchemaVersion scenario.schemaVersion)
    (scenario.schemaVersion = scenarioSchemaVersion)
  ensure (.notASlug scenario.scenarioId) (isSlug scenario.scenarioId)
  ensure .zeroVersion (scenario.scenarioVersion ≠ 0)
  ensure (.noProvenanceNote scenario.scenarioId) (!Text.isBlank scenario.provenanceNote)
  ensure .zeroStreamDuration (scenario.streamDurationMs ≠ 0)
  ensure (.noPhases scenario.scenarioId) (!scenario.phases.isEmpty)
  let totals ← scenario.phases.zipIdx.foldlM (scenario.checkPhase arith)
    { seenNames := [], durationTotal := 0, actorNamespaceEnd := 0 }
  ensure
    (.durationMismatch scenario.scenarioId totals.durationTotal scenario.streamDurationMs)
    (totals.durationTotal = scenario.streamDurationMs)
  let total ← scenario.totalEventCount arith
  ensure (.noEvents scenario.scenarioId) (total ≠ 0)
  ensure (.tooManyEvents scenario.scenarioId total) (total ≤ maxTraceEvents)
  let _ ← parseLogicalStart scenario.logicalStart
  pure ()

end StreamScenario

/-! ## Generation -/

/-- Project a payload intent onto the starter semantic axes. -/
def payloadIntentAxis (arith : FloatArith) (intent : String) (dimension : Nat) : List Float64 :=
  let family :=
    if intent.startsWith "reaction." then (intent.drop 9).toString
    else if intent.startsWith "filler." then (intent.drop 7).toString
    else ""
  let zeros : List Float64 := List.replicate dimension (.finite 0)
  if family = "agree" ∧ 0 < dimension then zeros.set 0 (.finite 1)
  else if family = "surprise" ∧ 1 < dimension then zeros.set 1 (.finite 1)
  else if family = "thinking" ∧ 2 < dimension then zeros.set 2 (.finite 1)
  else List.replicate dimension (arith.single (arith.div (.finite 1) (arith.ofNat dimension)))

structure ScenarioEvent where
  event : EventEnvelope
  queryEmbedding : List Float64

/-- How a generation fails: with the refusal of the source, with an arithmetic overflow, by a
draw that does not end, or by a mix without a key. -/
inductive GenerationFault where
  | refused (error : ScenarioError)
  | overflow
  | endless
  | emptyMix
deriving DecidableEq

/-- A result of unsigned arithmetic on `bits` bits. -/
def fits (bits n : Nat) : Except GenerationFault Nat :=
  if n < 2 ^ bits then .ok n else .error .overflow

def fnv1a64 (bytes : List UInt8) : BitVec 64 :=
  bytes.foldl (fun hash byte ↦ (hash ^^^ byte.toBitVec.setWidth 64) * 0x100000001B3#64)
    0xCBF29CE484222325#64

/-- The seed of a phase, which the scenario version is mixed into. -/
def phaseSeed (scenario : StreamScenario) (phaseIndex : Nat) : BitVec 64 :=
  let mixed := scenario.seed ^^^ fnv1a64 (utf8 scenario.scenarioId)
  let mixed := mixed ^^^ (scenario.scenarioVersion.toBitVec.setWidth 64 * 0x9E3779B97F4A7C15#64)
  let mixed := mixed ^^^ (BitVec.ofNat 64 (phaseIndex + 1) * 0xD1B54A32D192ED03#64)
  (SplitMix64.nextU64 ⟨mixed⟩).1

/-- How many events of a phase repeat the viewer before; the first one is fresh. -/
def repeatQuota (arith : FloatArith) (count : Nat) (probability : Float64) : Nat :=
  min (arith.mul (arith.ofNat count) probability).floor.toU64 (count - 1)

/-- Whether an event is one of the repeated-viewer slots, which are spread evenly. -/
def repeatsAt (ordinal count quota : Nat) : Except GenerationFault Bool := do
  if quota = 0 ∨ count = 0 then
    pure false
  else
    let next ← fits 64 ((ordinal + 1) * quota)
    pure (ordinal * quota / count < next / count)

/-- Walk the weights until the threshold is used up; the last key takes the rest. -/
def pickFrom {κ : Type} (arith : FloatArith) (threshold : Float64) (last : Option κ) :
    List (κ × Float64) → Option κ
  | [] => last
  | (key, weight) :: weights =>
    let threshold := arith.sub threshold weight
    if threshold.le (.finite 0) then some key else pickFrom arith threshold (some key) weights

/-- The key that a draw from the unit interval picks. -/
def pickWeighted {κ : Type} (arith : FloatArith) (unit : Float64) (weights : List (κ × Float64)) :
    Option κ :=
  let total := weights.foldl (fun total (_, weight) ↦ arith.add total weight) (.finite 0)
  pickFrom arith (arith.mul unit total) none weights

def sourceClassFor : EventKind → SourceClass
  | .chatMessage => .publicChat
  | .chatDonation => .donation
  | .speechInput => .speech
  | .gameEvent => .game
  | .streamEvent => .stream
  | .timerTick => .timer
  | .operatorCommand => .operator
  | .systemHealth => .system

def planeFor : EventKind → SecurityPlane
  | .streamEvent | .timerTick | .systemHealth => .system
  | .operatorCommand => .control
  | .chatMessage | .chatDonation | .speechInput | .gameEvent => .content

def trustFor : EventKind → TrustLevel
  | .chatMessage | .chatDonation | .speechInput => .untrusted
  | .gameEvent | .streamEvent => .semiTrusted
  | .timerTick | .systemHealth | .operatorCommand => .trusted

/-- What an event takes from the generator, in this order. -/
structure EventDraws where
  kind : Float64
  band : Float64
  priority : Float64
  jitter : Nat
  sampled : Nat
  topic : Nat
  intent : Nat

def drawEvent (phase : ScenarioPhase) (slot : Nat) (rng : SplitMix64) :
    Option (EventDraws × SplitMix64) := do
  let kind := rng.unit
  let band := kind.2.unit
  let priority := band.2.unit
  let jitter ← priority.2.below slot
  -- Drawn whatever the repeat policy decides, and not used.
  let spare := jitter.2.unit
  let sampled ← spare.2.below phase.distinctActors.toNat
  let topic ← sampled.2.below phase.distinctTopics.toNat
  let intent ← topic.2.below SemanticBand.axisIntents.length
  pure
    ({ kind := .finite kind.1, band := .finite band.1, priority := .finite priority.1
       jitter := jitter.1, sampled := sampled.1, topic := topic.1, intent := intent.1 }, intent.2)

/-- What does not change within a phase. -/
structure Stretch where
  startMs : Nat
  phaseStartMs : Nat
  actorBase : Nat
  actorEnd : Nat
  count : Nat
  quota : Nat

structure PhaseState where
  rng : SplitMix64
  previousActor : Option Nat
  nextActor : Nat
  sequence : Nat

/-- The slot of an event ends where the next one starts. -/
def slotOf (phase : ScenarioPhase) (base : Nat) (next : Option Nat) : Nat :=
  max (next.getD phase.durationMs - base) 1

/-- The viewer of an event: the one before in a repeated slot, else one that the phase has
not reached yet, else a sampled one. -/
def chooseActor (stretch : Stretch) (ordinal sampled : Nat) (state : PhaseState) :
    Except GenerationFault (Nat × Nat) := do
  let repeated ← match state.previousActor with
    | some _ => repeatsAt ordinal stretch.count stretch.quota
    | none => pure false
  match state.previousActor, repeated with
  | some previous, true => pure (previous, state.nextActor)
  | _, _ =>
    if state.nextActor < stretch.actorEnd then
      let next ← fits 32 (state.nextActor + 1)
      pure (state.nextActor, next)
    else
      pure (sampled, state.nextActor)

/-- Synthetic labels only. -/
def scenarioPayload (phase : ScenarioPhase) (band : SemanticBand) (intent : String)
    (topic : Nat) : Std.ExtTreeMap String JsonValue :=
  (∅ : Std.ExtTreeMap String JsonValue)
    |>.insert "intent" (.string intent)
    |>.insert "semantic_band" (.string band.asStr)
    |>.insert "topic_id" (.string ("topic-" ++ Text.pad 4 topic))
    |>.insert "scenario_phase" (.string phase.name)

def scenarioEnvelope (scenario : StreamScenario) (sequence instant actor : Nat) (kind : EventKind)
    (priority : PriorityBucket) (payload : Std.ExtTreeMap String JsonValue) : EventEnvelope where
  schemaVersion := eventSchemaVersion
  eventId := scenario.scenarioId ++ ":" ++ Text.pad 6 sequence
  correlationId := scenario.scenarioId ++ "-stream"
  sequence
  observedAt := formatRfc3339 instant
  source := "scenario"
  sourceClass := sourceClassFor kind
  plane := planeFor kind
  trustLevel := trustFor kind
  kind
  actorId := some ("viewer:" ++ Text.pad 4 actor)
  priorityHint := some priority.priorityHint
  authorization := none
  payload

/-- One event of a phase, in the slot that starts at `base`. -/
def generateEvent (arith : FloatArith) (scenario : StreamScenario) (phase : ScenarioPhase)
    (stretch : Stretch) (ordinal base : Nat) (next : Option Nat) (state : PhaseState) :
    Except GenerationFault (ScenarioEvent × PhaseState) := do
  let (draws, rng) ← expect .endless (drawEvent phase (slotOf phase base next) state.rng)
  let kind ← expect .emptyMix (pickWeighted arith draws.kind phase.kindMix)
  let band ← expect .emptyMix (pickWeighted arith draws.band phase.semanticMix)
  let priority ← expect .emptyMix (pickWeighted arith draws.priority phase.priorityMix)
  let offsetMs ← fits 64 (base + draws.jitter)
  let sequence ← fits 64 (state.sequence + 1)
  let sampled ← fits 32 (stretch.actorBase + draws.sampled % 2 ^ 32)
  let (actor, nextActor) ← chooseActor stretch ordinal sampled state
  let origin ← fits 64 (stretch.startMs + stretch.phaseStartMs)
  let instant ← fits 64 (origin + offsetMs)
  -- The draw is below the number of intents.
  let intent := SemanticBand.axisIntents.getD draws.intent ""
  pure
    ({ event := scenarioEnvelope scenario sequence instant actor kind priority
         (scenarioPayload phase band intent draws.topic)
       queryEmbedding := band.project arith
         (payloadIntentAxis arith intent scenarioEmbeddingDimension) },
      { rng, previousActor := some actor, nextActor, sequence })

/-- The events of a phase, one for each base offset. -/
def generateEvents (arith : FloatArith) (scenario : StreamScenario) (phase : ScenarioPhase)
    (stretch : Stretch) :
    Nat → List Nat → PhaseState → Except GenerationFault (List ScenarioEvent × PhaseState)
  | _, [], state => pure ([], state)
  | ordinal, base :: bases, state => do
    let (event, state) ←
      generateEvent arith scenario phase stretch ordinal base bases.head? state
    let (events, state) ←
      generateEvents arith scenario phase stretch (ordinal + 1) bases state
    pure (event :: events, state)

/-- The base offset of each event: the events are spread evenly.  The product is of 128 bits,
the quotient is cast to 64. -/
def baseOffsets (durationMs count : Nat) : Except GenerationFault (List Nat) :=
  (List.range count).mapM fun ordinal ↦ do
    let product ← fits 128 (ordinal * durationMs)
    pure (product / count % 2 ^ 64)

/-- What a phase leaves to the next. -/
structure StreamState where
  sequence : Nat
  phaseStartMs : Nat
  actorBase : Nat

/-- A refusal of the source, within the generation. -/
def refusing {α : Type} (result : Except ScenarioError α) : Except GenerationFault α :=
  result.mapError .refused

def generatePhase (arith : FloatArith) (scenario : StreamScenario) (startMs index : Nat)
    (phase : ScenarioPhase) (state : StreamState) :
    Except GenerationFault (List ScenarioEvent × StreamState) := do
  let count ← refusing (phase.eventCount arith)
  let actorEnd ←
    refusing (checkedActorNamespaceEnd scenario.scenarioId index phase state.actorBase)
  let bases ← baseOffsets phase.durationMs count
  let stretch : Stretch :=
    { startMs, phaseStartMs := state.phaseStartMs, actorBase := state.actorBase, actorEnd, count
      quota := repeatQuota arith count phase.repeatViewerProbability }
  let (events, last) ← generateEvents arith scenario phase stretch 0 bases
    { rng := ⟨phaseSeed scenario index⟩, previousActor := none, nextActor := state.actorBase
      sequence := state.sequence }
  let phaseStartMs ← fits 64 (state.phaseStartMs + phase.durationMs)
  pure (events, { sequence := last.sequence, phaseStartMs, actorBase := actorEnd })

def generatePhases (arith : FloatArith) (scenario : StreamScenario) (startMs : Nat) :
    Nat → List ScenarioPhase → StreamState → Except GenerationFault (List ScenarioEvent)
  | _, [], _ => pure []
  | index, phase :: phases, state => do
    let (events, state) ← generatePhase arith scenario startMs index phase state
    let rest ← generatePhases arith scenario startMs (index + 1) phases state
    pure (events ++ rest)

/-- The ordered event trace of a scenario. -/
def generateScenarioTrace (arith : FloatArith) (scenario : StreamScenario) :
    Except GenerationFault (List ScenarioEvent) := do
  refusing (scenario.validate arith)
  let startMs ← refusing (parseLogicalStart scenario.logicalStart)
  generatePhases arith scenario startMs 0 scenario.phases
    { sequence := 0, phaseStartMs := 0, actorBase := 0 }

end Aivtuber
