import Mathlib.Data.Prod.Lex
import Mathlib.Data.String.Basic
import Aivtuber.Domain.Reflex
import Aivtuber.Scheduler.Run
import Aivtuber.Scheduler.Variation

/-!
# The replay harness

`ReplayHarness` of `crates/scheduler/src/replay.rs`: a recorded trace is sorted, driven
through a scheduler that keeps its whole history, and turned into the actions that an
audio sink and an avatar sink would have been sent.  The floats of a variation are the
rationals of `Aivtuber.Scheduler.Variation`, for any rounding.
-/

open Aivtuber.Check Aivtuber.Text Saturating

namespace Aivtuber

/-- The `VariationSpec` of the scheduler, as a trace carries it. -/
structure ReplayVariationSpec where
  speedPct : Float64
  amplitudePct : Float64
  startDelayMs : Nat
deriving DecidableEq

structure ReplayAsset where
  assetId : String
  durationMs : Nat
  interruptible : Bool
  interruptPointsMs : List Nat
  exclusive : Bool
  channels : Finset BlendChannel
  variation : ReplayVariationSpec

inductive ReplayDirective where
  | performance (asset : ReplayAsset)
  | operatorStop
  | fallback (reason : FallbackReason)

/-- An event of a trace, at an unsigned 64-bit instant. -/
structure ReplayEvent where
  atMs : Nat
  event : EventEnvelope
  directive : ReplayDirective
  atMs_le : atMs ≤ u64Max

/-- A trace is a slice, whose length fits in 64 bits. -/
abbrev ReplayTrace := { events : List ReplayEvent // events.length ≤ u64Max }

inductive ReplayOutcome where
  | scheduled
  | rejected (rejection : Rejection)
  | operatorStop
  | fallback (reason : FallbackReason)
deriving DecidableEq, Repr

structure ReplayStep where
  atMs : Nat
  eventId : String
  sequence : Nat
  outcome : ReplayOutcome
  plan : Option PlannedPerformance
  variation : Option AppliedVariation
deriving DecidableEq

inductive SinkActionKind where
  | start
  | stop
  /-- The sink is not there to play it. -/
  | degradedStart
deriving DecidableEq, Repr

structure SinkAction where
  atMs : Nat
  eventId : String
  assetId : String
  generation : Nat
  action : SinkActionKind
deriving DecidableEq, Repr

structure ReplayHarnessConfig where
  seed : Nat
  scheduler : SchedulerConfig
  audioAvailable : Bool
  avatarAvailable : Bool
deriving DecidableEq, Repr

def ReplayHarnessConfig.default : ReplayHarnessConfig where
  seed := 0
  scheduler := .default
  audioAvailable := true
  avatarAvailable := true

structure ReplayResult where
  steps : List ReplayStep
  scheduledItems : List ScheduledItem
  audioActions : List SinkAction
  avatarActions : List SinkAction
deriving DecidableEq

structure ReplayError where
  message : String
deriving DecidableEq, Repr

/-! ## Validation and order -/

def validateDirective (input : ReplayEvent) : Except ReplayError Unit :=
  match input.event.kind, input.directive with
  | .operatorCommand, .operatorStop => .ok ()
  | .operatorCommand, _ => .error
      ⟨"operator event " ++ input.event.eventId ++ " requires operator_stop directive"⟩
  | _, .operatorStop => .error
      ⟨"non-operator event " ++ input.event.eventId ++ " cannot use operator_stop directive"⟩
  | _, _ => .ok ()

def validateInput (input : ReplayEvent) : Except ReplayError Unit := do
  input.event.validate.mapError fun error ↦
    ⟨"event " ++ input.event.eventId ++ " is invalid: " ++ error.display⟩
  validateDirective input

/-- The first input that is not valid, in the order of the trace, is reported. -/
def validateTrace : List ReplayEvent → Except ReplayError Unit
  | [] => .ok ()
  | input :: trace => do
    validateInput input
    validateTrace trace

def Float64.isFiniteNonneg : Float64 → Bool
  | .finite value => 0 ≤ value
  | .infinite _ | .nan => false

def validateFactor (field : String) (value : Float64) : Except ReplayError Unit :=
  ensure ⟨field ++ " must be finite and non-negative"⟩ value.isFiniteNonneg

def validateReplayAsset (asset : ReplayAsset) : Except ReplayError Unit := do
  ensure ⟨"replay asset id must not be empty"⟩ (!isBlank asset.assetId)
  validateFactor "variation.speed_pct" asset.variation.speedPct
  validateFactor "variation.amplitude_pct" asset.variation.amplitudePct

def priorityFor : EventKind → Priority
  | .operatorCommand => .operator
  | .chatDonation => .highPriorityInteraction
  | .gameEvent => .strongReaction
  | .chatMessage | .speechInput => .conversation
  | .streamEvent => .commentary
  | .timerTick | .systemHealth => .background

/-- At one instant, operators come first. -/
def controlRank (input : ReplayEvent) : Nat :=
  if input.event.kind = .operatorCommand then 0 else 1

/-- What the trace is sorted by. -/
def ReplayEvent.sortKey (input : ReplayEvent) : Nat ×ₗ Nat ×ₗ Nat ×ₗ String :=
  toLex (input.atMs, toLex (controlRank input, toLex (input.event.sequence, input.event.eventId)))

/-! ## Sink actions -/

inductive SinkTarget where
  | audio
  | avatar
deriving DecidableEq, Repr

def relevantToSink (item : ScheduledItem) : SinkTarget → Bool
  | .audio => .audio ∈ item.plan.channels
  | .avatar => .face ∈ item.plan.channels || .body ∈ item.plan.channels ||
      .gaze ∈ item.plan.channels

def ScheduledItem.cancelledBeforeStart (item : ScheduledItem) : Bool :=
  item.cancelAtMs.any (· < item.plan.startAtMs)

def sinkAction (item : ScheduledItem) (atMs : Nat) (action : SinkActionKind) : SinkAction where
  atMs := atMs
  eventId := item.plan.eventId
  assetId := item.plan.assetId
  generation := item.plan.generation
  action := action

def startAction (available : Bool) (item : ScheduledItem) : SinkAction :=
  sinkAction item item.plan.startAtMs (if available then .start else .degradedStart)

/-- The stop of an item that was cancelled once it had started. -/
def stopAction (available : Bool) (item : ScheduledItem) : Option SinkAction :=
  match item.cancelAtMs with
  | none => none
  | some cancelAtMs =>
    if available && item.status = .cancelled && item.plan.startAtMs ≤ cancelAtMs then
      some (sinkAction item cancelAtMs .stop)
    else none

/-- The actions of one item. -/
def itemActions (available : Bool) (target : SinkTarget) (item : ScheduledItem) :
    List SinkAction :=
  if !relevantToSink item target then []
  else if item.cancelledBeforeStart then []
  else startAction available item :: (stopAction available item).toList

def sinkActionRank : SinkActionKind → Nat
  | .start | .degradedStart => 0
  | .stop => 1

/-- What the actions are sorted by. -/
def SinkAction.sortKey (action : SinkAction) : Nat ×ₗ Nat ×ₗ Nat :=
  toLex (action.atMs, toLex (action.generation, sinkActionRank action.action))

def buildSinkActions (items : List ScheduledItem) (available : Bool) (target : SinkTarget) :
    List SinkAction :=
  (items.flatMap (itemActions available target)).insertionSort (·.sortKey ≤ ·.sortKey)

/-! ## The run -/

namespace ReplayHarnessConfig

variable (rounding : ℚ → ℚ) (config : ReplayHarnessConfig)

/-- The variation drawn for an input. -/
def drawVariation (input : ReplayEvent) (asset : ReplayAsset) : AppliedVariation :=
  (applyVariation rounding
    { speedPct := asset.variation.speedPct.value
      amplitudePct := asset.variation.amplitudePct.value
      startDelayMs := asset.variation.startDelayMs }
    (.new ((config.seed + input.event.sequence) % 2 ^ 64))).1

def replayPlan (input : ReplayEvent) (asset : ReplayAsset) (variation : AppliedVariation) :
    PlannedPerformance where
  eventId := input.event.eventId
  assetId := asset.assetId
  priority := priorityFor input.event.kind
  interruptible := asset.interruptible
  interruptPointsMs := asset.interruptPointsMs
  startAtMs := satAdd input.atMs variation.startDelayMs
  durationMs := asset.durationMs
  generation := 0
  exclusive := asset.exclusive
  channels := asset.channels

/-- The report of one input. -/
def replayStep (input : ReplayEvent) (outcome : ReplayOutcome)
    (plan : Option PlannedPerformance) (variation : Option AppliedVariation) : ReplayStep where
  atMs := input.atMs
  eventId := input.event.eventId
  sequence := input.event.sequence
  outcome := outcome
  plan := plan
  variation := variation

/-- Drive one input through the scheduler. -/
def replayInput (scheduler : Scheduler) (input : ReplayEvent) :
    Except ReplayError (Scheduler × ReplayStep) :=
  let scheduler := scheduler.advanceTo input.atMs
  match input.directive with
  | .operatorStop =>
    .ok ((scheduler.stopAll input.atMs).1, replayStep input .operatorStop none none)
  | .fallback reason => .ok (scheduler, replayStep input (.fallback reason) none none)
  | .performance asset => do
    validateReplayAsset asset
    let variation := config.drawVariation rounding input asset
    let plan := replayPlan input asset variation
    match scheduler.scheduleAt input.atMs plan with
    | (scheduler, .ok plan) =>
      .ok (scheduler, replayStep input .scheduled (some plan) (some variation))
    | (scheduler, .error rejection) =>
      .ok (scheduler, replayStep input (.rejected rejection) none (some variation))

/-- Drive inputs in order. -/
def replayInputs : Scheduler → List ReplayEvent → Except ReplayError (Scheduler × List ReplayStep)
  | scheduler, [] => .ok (scheduler, [])
  | scheduler, input :: inputs => do
    let (scheduler, step) ← config.replayInput rounding scheduler input
    let (scheduler, steps) ← replayInputs scheduler inputs
    .ok (scheduler, step :: steps)

/-- The scheduler of a replay, which keeps every terminal item. -/
def replayScheduler : Scheduler :=
  .new { config.scheduler with historyCapacity := u64Max, historyPolicy := .retainAll }

/-- The items of a finished run, by start and generation; live ones would come last. -/
def scheduledItems (scheduler : Scheduler) : List ScheduledItem :=
  let (scheduler, history) := scheduler.drainHistory
  (history.map (·.item)).insertionSort
    (fun a b ↦ toLex (a.plan.startAtMs, a.plan.generation) ≤
      toLex (b.plan.startAtMs, b.plan.generation)) ++ scheduler.items

def run (trace : ReplayTrace) : Except ReplayError ReplayResult := do
  validateTrace trace.val
  let ordered := trace.val.insertionSort (·.sortKey ≤ ·.sortKey)
  let (scheduler, steps) ← config.replayInputs rounding config.replayScheduler ordered
  let items := scheduledItems scheduler.completeAll
  .ok
    { steps
      scheduledItems := items
      audioActions := buildSinkActions items config.audioAvailable .audio
      avatarActions := buildSinkActions items config.avatarAvailable .avatar }

end ReplayHarnessConfig

/-! ## A recorded stream -/

/-- A viewer's message of a recorded stream. -/
def recordedMessage (eventId : String) (sequence : Nat) : EventEnvelope where
  schemaVersion := eventSchemaVersion
  eventId := eventId
  correlationId := "stream-1"
  sequence := sequence
  observedAt := "2024-01-01T00:00:00Z"
  source := "chat"
  sourceClass := .publicChat
  plane := .content
  trustLevel := .untrusted
  kind := .chatMessage
  actorId := none
  priorityHint := none
  authorization := none
  payload := ∅

/-- A message that is answered by speech of 100 ms, which can be left after 10 ms. -/
def answered (atMs : Fin 2000) (eventId : String) (sequence : Nat) : ReplayEvent where
  atMs := atMs
  event := recordedMessage eventId sequence
  directive := .performance
    ⟨"line " ++ eventId, 100, true, [10], false, {.audio}, ⟨.finite 0, .finite 0, 0⟩⟩
  atMs_le := atMs.isLt.le.trans (by decide)

end Aivtuber
