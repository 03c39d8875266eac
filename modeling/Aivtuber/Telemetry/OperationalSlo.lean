import Mathlib.Algebra.Order.Floor.Ring
import Mathlib.Data.Rat.Floor
import Std.Data.ExtTreeMap
import Aivtuber.Base.Buckets
import Aivtuber.Scripts.Series

/-!
# Operational objectives

A benchmark report is judged by the indicators of a catalog, over the session, over its stream
hours and over rolling groups of hours (`crates/telemetry/src/operational_slo.rs`).  An indicator
has one classifier, and the ratio, the error budget and the attribution of misses all come from
it.  Ratios and targets are exact rationals.

The hours partition the session (`buildWindows_partition`), and a status agrees with the budget
that is reported beside it (`statusFor_agrees`).
-/

namespace Aivtuber.OperationalSlo

open Std (ExtTreeMap)
open Saturating (satAdd)

/-! ## Reports -/

inductive RouteClass where
  | silent | deterministic | semanticReuse | jevReaction | generated | cachedFallback
  | nonVerbalFallback
deriving DecidableEq, Repr

inductive InteractionDeadlineClass where
  | highPriority | strongReaction | conversation | commentary | background
deriving DecidableEq, Repr

inductive DeadlineStage where
  | normalizationSecurity | retrieval | reflex | template | generationQueue | thinking | tts
  | commit | schedulerDispatch
deriving DecidableEq, Repr

/-- One admitted event, with what the classifiers read of it. -/
structure EventObservation where
  streamOffsetMs : Option Nat
  route : RouteClass
  deadlineClass : Option InteractionDeadlineClass
  deadlineExhaustionStage : Option DeadlineStage
  eventToFirstAudioMs : Option Nat
  eventToFirstVisibleReactionMs : Option Nat
  wrongReuse : Option Bool
  operatorOverride : Bool
  cancelled : Bool
  fallbackReason : Option String
  budgetDenialReason : Option String
deriving DecidableEq

structure ReproducibilityMetadata where
  datasetId : String
  configVersion : String
  seed : Nat
  streamDurationMs : Option Nat

structure BenchmarkReport where
  metadata : ReproducibilityMetadata
  mode : ComparisonMode
  events : List EventObservation

/-! ## Targets -/

structure BaselineRun where
  runId : String
  gitCommit : String
deriving DecidableEq

/-- What a target was chosen from.  Its value is a rational, or the float that a file has. -/
structure BaselineEvidence (ν : Type) where
  value : ν
  /-- Artifact identity the value came from. -/
  source : String
  streamHours : Option Nat
  /-- The compatibility series the evidence belongs to. -/
  series : Option String
  runs : List BaselineRun
  eligible : Option Nat

structure SloTarget (ν : Type) where
  /-- Minimum ratio of conforming to eligible events. -/
  target : ν
  thresholdMs : Option Nat
  baseline : BaselineEvidence ν

/-- What a probe of a candidate threshold has as its source. -/
def probeSourceMarker : String := "latency probe;"

/-! ## Attribution -/

/-- Which side of the boundary between runtime and provider a declared cause sits on. -/
inductive FailureOrigin where
  | externalProvider | runtimePolicy | unknown
deriving DecidableEq

def failureOrigin (declaredReason : String) : FailureOrigin :=
  if ["timeout", "unavailable", "rate_limited", "overloaded", "authentication"].contains
      declaredReason then
    .externalProvider
  else if ["invalid_request", "low_confidence", "policy_override", "operator_override",
      "budget_exhausted"].contains declaredReason then
    .runtimePolicy
  else
    .unknown

inductive MissAttribution where
  | externalProvider | runtimeHandling | unattributed
deriving DecidableEq

def producedVisibleOutput (event : EventObservation) : Bool :=
  event.eventToFirstAudioMs.isSome || event.eventToFirstVisibleReactionMs.isSome

def externalFailure (event : EventObservation) : Bool :=
  event.fallbackReason.map failureOrigin = some .externalProvider

def attributionOf (event : EventObservation) : MissAttribution :=
  if externalFailure event then
    if producedVisibleOutput event then .externalProvider else .runtimeHandling
  else
    .unattributed

structure AttributionSummary where
  externalProviderFailures : Nat
  runtimeHandled : Nat
  runtimeHandlingFailures : Nat
  runtimePolicyDecisions : Nat
  unattributed : Nat
deriving DecidableEq

def AttributionSummary.default : AttributionSummary where
  externalProviderFailures := 0
  runtimeHandled := 0
  runtimeHandlingFailures := 0
  runtimePolicyDecisions := 0
  unattributed := 0

/-- One event in the tally; an event without a declared reason is not counted. -/
def AttributionSummary.add (summary : AttributionSummary) (event : EventObservation) :
    AttributionSummary :=
  match (event.fallbackReason.map failureOrigin).getD .unknown with
  | .externalProvider =>
    let summary :=
      { summary with externalProviderFailures := summary.externalProviderFailures + 1 }
    match attributionOf event with
    | .externalProvider => { summary with runtimeHandled := summary.runtimeHandled + 1 }
    | .runtimeHandling =>
      { summary with runtimeHandlingFailures := summary.runtimeHandlingFailures + 1 }
    | .unattributed => { summary with unattributed := summary.unattributed + 1 }
  | .runtimePolicy =>
    { summary with runtimePolicyDecisions := summary.runtimePolicyDecisions + 1 }
  | .unknown =>
    if event.fallbackReason.isSome then
      { summary with unattributed := summary.unattributed + 1 }
    else
      summary

def AttributionSummary.of (events : List EventObservation) : AttributionSummary :=
  events.foldl add default

/-! ## Indicators -/

/-- How one event relates to one indicator. -/
inductive EventVerdict where
  | outside | conforms | misses
  /-- Eligible, but no boundary has been calibrated. -/
  | unscored
deriving DecidableEq

def EventVerdict.isEligible (verdict : EventVerdict) : Bool := verdict != .outside

def EventVerdict.isMiss (verdict : EventVerdict) : Bool := verdict == .misses

/-- Whether an objective tolerates misses at all. -/
inductive ObjectiveKind where
  | slo | invariant
deriving DecidableEq

inductive IndicatorUnit where
  | ratio | count
deriving DecidableEq

/-- Whether a report carries what the indicator counts. -/
inductive EvidenceSource where
  | measured | declared
deriving DecidableEq

inductive SloAction where
  | raiseIncident | disableExperimentalRoute | switchConservativeProfile | openOptimizationIssue
  | blockPromotion
deriving DecidableEq

structure SloIndicator where
  id : String
  kind : ObjectiveKind
  unit : IndicatorUnit
  evidence : EvidenceSource
  denominator : String
  numerator : String
  /-- Minimum eligible events before a target may decide the objective. -/
  sampleFloor : Nat
  missingEvidence : Option String
  actions : List SloAction
  /-- Whether the indicator applies to an event, and whether the event conforms. -/
  classify : EventObservation → Option (SloTarget ℚ) → EventVerdict

def classifyNever (_event : EventObservation) (_target : Option (SloTarget ℚ)) : EventVerdict :=
  .outside

/-- Without a sample there is nothing to judge, and without a threshold no miss. -/
def classifyLatency (latency : Option Nat) (target : Option (SloTarget ℚ)) : EventVerdict :=
  match latency with
  | none => .outside
  | some latency =>
    match target.bind (·.thresholdMs) with
    | some threshold => if latency ≤ threshold then .conforms else .misses
    | none => .unscored

def classifyFirstVisibleLatency (event : EventObservation) (target : Option (SloTarget ℚ)) :
    EventVerdict :=
  classifyLatency event.eventToFirstVisibleReactionMs target

def classifyFirstAudioLatency (event : EventObservation) (target : Option (SloTarget ℚ)) :
    EventVerdict :=
  classifyLatency event.eventToFirstAudioMs target

def unintendedSilence (event : EventObservation) : Bool :=
  event.route = .silent && !event.operatorOverride && event.deadlineExhaustionStage.isNone &&
    event.budgetDenialReason.isNone

def classifySpeechPresence (event : EventObservation) (_target : Option (SloTarget ℚ)) :
    EventVerdict :=
  if event.cancelled then .outside
  else if unintendedSilence event then .misses
  else .conforms

def classifyFallbackDelivery (event : EventObservation) (_target : Option (SloTarget ℚ)) :
    EventVerdict :=
  if !externalFailure event then .outside
  else if producedVisibleOutput event then .conforms
  else .misses

def classifyDeadlineAdherence (event : EventObservation) (_target : Option (SloTarget ℚ)) :
    EventVerdict :=
  if event.deadlineClass.isNone then .outside
  else if event.deadlineExhaustionStage.isSome then .misses
  else .conforms

def classifyGenerativeBudgetAdmission (event : EventObservation) (_target : Option (SloTarget ℚ)) :
    EventVerdict :=
  if event.budgetDenialReason.isSome then .misses else .conforms

def classifySemanticReuseCorrectness (event : EventObservation) (_target : Option (SloTarget ℚ)) :
    EventVerdict :=
  match event.wrongReuse with
  | none => .outside
  | some false => .conforms
  | some true => .misses

/-- The indicators of the project, each with its exact counts. -/
def catalog : List SloIndicator :=
  [
    { id := "availability.event_to_first_visible_within_target"
      kind := .slo
      unit := .ratio
      evidence := .measured
      denominator := "admitted events with a measured event-to-first-visible-reaction latency"
      numerator := "those whose latency was within the configured threshold_ms"
      sampleFloor := 15
      missingEvidence := none
      actions := [.raiseIncident, .openOptimizationIssue, .switchConservativeProfile]
      classify := classifyFirstVisibleLatency },
    { id := "availability.event_to_first_audio_within_target"
      kind := .slo
      unit := .ratio
      evidence := .measured
      denominator := "admitted events with a measured event-to-first-audio latency"
      numerator := "those whose latency was within the configured threshold_ms"
      sampleFloor := 15
      missingEvidence := none
      actions := [.raiseIncident, .openOptimizationIssue, .switchConservativeProfile]
      classify := classifyFirstAudioLatency },
    { id := "availability.speech_presence_rate"
      kind := .slo
      unit := .ratio
      evidence := .measured
      denominator := "admitted events that were not cancelled"
      numerator := "those that produced a user-visible output, or stayed silent for a declared " ++
        "reason (operator override, deadline exhaustion, generative-budget denial)"
      sampleFloor := 15
      missingEvidence := none
      actions := [.raiseIncident, .openOptimizationIssue, .switchConservativeProfile]
      classify := classifySpeechPresence },
    { id := "reliability.fallback_delivery_rate"
      kind := .slo
      unit := .ratio
      evidence := .measured
      denominator := "admitted events that hit a declared external-provider failure"
      numerator := "those that still delivered a user-visible outcome (cached/non-verbal " ++
        "fallback)"
      sampleFloor := 1
      missingEvidence := none
      actions := [.raiseIncident, .openOptimizationIssue, .blockPromotion]
      classify := classifyFallbackDelivery },
    { id := "reliability.deadline_adherence_rate"
      kind := .slo
      unit := .ratio
      evidence := .measured
      denominator := "admitted events carrying a trusted interaction deadline class"
      numerator := "those whose trusted deadline was not exhausted"
      sampleFloor := 15
      missingEvidence := none
      actions := [.openOptimizationIssue, .raiseIncident]
      classify := classifyDeadlineAdherence },
    { id := "reliability.generative_budget_admission_rate"
      kind := .slo
      unit := .ratio
      evidence := .measured
      denominator := "all admitted events"
      numerator := "those admitted into the generative budget rather than denied"
      sampleFloor := 15
      missingEvidence := none
      actions := [.openOptimizationIssue, .switchConservativeProfile]
      classify := classifyGenerativeBudgetAdmission },
    { id := "quality.semantic_reuse_correctness"
      kind := .slo
      unit := .ratio
      evidence := .measured
      denominator := "admitted events carrying an offline wrong-reuse review label"
      numerator := "those labelled correct"
      sampleFloor := 1
      missingEvidence := none
      actions := [.openOptimizationIssue, .blockPromotion]
      classify := classifySemanticReuseCorrectness },
    { id := "operability.operator_stop_responsiveness_within_target"
      kind := .slo
      unit := .ratio
      evidence := .declared
      denominator := "operator stop/mute commands issued in the window"
      numerator := "those whose cancellations took effect within the configured threshold_ms"
      sampleFloor := 1
      missingEvidence := some ("the replay benchmark drives no operator stop/mute fixture, so " ++
        "the denominator (issued commands) is not in the artifact")
      actions := [.raiseIncident]
      classify := classifyNever },
    { id := "availability.event_admission_success_rate"
      kind := .slo
      unit := .ratio
      evidence := .declared
      denominator := "events offered to the runtime"
      numerator := "those admitted"
      sampleFloor := 15
      missingEvidence := some ("EventObservation records admitted events only; the offered-event " ++
        "count is not carried by the artifact, so the denominator cannot be reconstructed")
      actions := [.openOptimizationIssue]
      classify := classifyNever },
    { id := "safety.stale_dispatch_count"
      kind := .invariant
      unit := .count
      evidence := .declared
      denominator := "admitted events (context only; the invariant is the count itself)"
      numerator := "actions dispatched after their cancellation fence; must be 0"
      sampleFloor := 0
      missingEvidence := some ("per-event post-fence dispatch is not recorded by " ++
        "EventObservation, and the benchmark-result invariant map asserts zero rather than " ++
        "measuring it")
      actions := [.raiseIncident]
      classify := classifyNever },
    { id := "safety.unauthorized_privileged_action_count"
      kind := .invariant
      unit := .count
      evidence := .declared
      denominator := "privileged control attempts (context only)"
      numerator := "privileged actions executed without authenticated local capability; must be 0"
      sampleFloor := 0
      missingEvidence := some ("privileged attempts are recorded in the runtime audit log, which " ++
        "is not part of the benchmark artifact")
      actions := [.raiseIncident]
      classify := classifyNever },
    { id := "resource.retention_bound_violation_count"
      kind := .invariant
      unit := .count
      evidence := .declared
      denominator := "retained queues, histories, caches and observations (context only)"
      numerator := "observed bound violations; must be 0"
      sampleFloor := 0
      missingEvidence := some ("retention metrics live on the runtime composition root; a replay " ++
        "report carries only the bounded observation set, not the retention snapshot")
      actions := [.raiseIncident]
      classify := classifyNever }
  ]

/-! ## Measurement -/

/-- The counts of an indicator over a window. -/
structure SloMeasurement where
  conforming : Nat
  /-- The events the objective applies to, the unscored ones included. -/
  eligible : Nat
  unscored : Nat
  value : Option ℚ
deriving DecidableEq

/-- The ratio, when every sample has been judged. -/
def measuredValue (conforming eligible unscored : Nat) : Option ℚ :=
  if unscored = 0 ∧ 0 < eligible then some (conforming / eligible) else none

def SloMeasurement.misses (measurement : SloMeasurement) : Nat :=
  measurement.eligible - measurement.conforming - measurement.unscored

/-- The three counters of `measure`, as its loop runs over the events. -/
structure Tally where
  eligible : Nat
  conforming : Nat
  unscored : Nat

def Tally.add (tally : Tally) (verdict : EventVerdict) : Tally :=
  if !verdict.isEligible then tally
  else
    let tally := { tally with eligible := tally.eligible + 1 }
    match verdict with
    | .conforms => { tally with conforming := tally.conforming + 1 }
    | .unscored => { tally with unscored := tally.unscored + 1 }
    | .outside | .misses => tally

def Tally.of (indicator : SloIndicator) (events : List EventObservation)
    (target : Option (SloTarget ℚ)) : Tally :=
  events.foldl (fun tally event ↦ Tally.add tally (indicator.classify event target))
    { eligible := 0, conforming := 0, unscored := 0 }

def measure (indicator : SloIndicator) (events : List EventObservation)
    (target : Option (SloTarget ℚ)) : SloMeasurement :=
  let tally := Tally.of indicator events target
  { conforming := tally.conforming
    eligible := tally.eligible
    unscored := tally.unscored
    value := measuredValue tally.conforming tally.eligible tally.unscored }

/-! ## Windows -/

/-- One represented stream hour, in logical stream milliseconds. -/
def streamHourMs : Nat := 3600000

inductive WindowKind where
  | session
  | streamHour
  | rollingStreamHours (windowHours : Nat)
deriving DecidableEq

structure SloWindow where
  kind : WindowKind
  label : String
  startOffsetMs : Nat
  /-- Exclusive end offset. -/
  endOffsetMs : Nat
  admittedEvents : Nat
deriving DecidableEq

structure SloEvaluationConfig where
  rollingWindowHours : Nat

/-- The offset at which an hour begins, in unsigned 64-bit arithmetic. -/
def hourOffset (hour : Nat) : Nat := hour * streamHourMs % 2 ^ 64

def admittedBetween (events : List EventObservation) (start stop : Nat) : Nat :=
  (events.filter fun event ↦ event.streamOffsetMs.any (Buckets.inside start stop)).length

def observedEnd (events : List EventObservation) : Nat :=
  ((events.filterMap (·.streamOffsetMs)).max?.map (satAdd · 1)).getD 0

def sessionWindow (report : BenchmarkReport) : SloWindow where
  kind := .session
  label := "session"
  startOffsetMs := 0
  endOffsetMs := report.metadata.streamDurationMs.getD (observedEnd report.events)
  admittedEvents := report.events.length

def hourWindow (events : List EventObservation) (hour : Nat) : SloWindow :=
  let start := hourOffset hour
  let stop := (start + streamHourMs) % 2 ^ 64
  { kind := .streamHour
    label := "stream-hour-" ++ toString hour
    startOffsetMs := start
    endOffsetMs := stop
    admittedEvents := admittedBetween events start stop }

def rollingWindow (events : List EventObservation) (config : SloEvaluationConfig)
    (span startHour : Nat) : SloWindow :=
  let start := hourOffset startHour
  let stop := hourOffset (startHour + span)
  { kind := .rollingStreamHours config.rollingWindowHours
    label := "rolling-" ++ toString span ++ "h-from-hour-" ++ toString startHour
    startOffsetMs := start
    endOffsetMs := stop
    admittedEvents := admittedBetween events start stop }

/-- The stream a report stands for is at least as long as its workload declares. -/
def representedMs (report : BenchmarkReport) : Nat :=
  max (observedEnd report.events) (report.metadata.streamDurationMs.getD 0)

def buildWindows (report : BenchmarkReport) (config : SloEvaluationConfig) : List SloWindow :=
  if report.events.isEmpty || report.events.any (·.streamOffsetMs.isNone) then
    [sessionWindow report]
  else if representedMs report ≤ streamHourMs then
    [sessionWindow report]
  else
    let hours := (representedMs report - 1) / streamHourMs + 1
    let span := max config.rollingWindowHours 1
    sessionWindow report :: (List.range hours).map (hourWindow report.events) ++
      -- The loop steps the start while a whole span is left.
      (List.range (hours + 1 - span)).map (rollingWindow report.events config span)

def SloWindow.admits (window : SloWindow) (event : EventObservation) : Bool :=
  if window.kind = .session then true
  else event.streamOffsetMs.any (Buckets.inside window.startOffsetMs window.endOffsetMs)

def windowEvents (events : List EventObservation) (window : SloWindow) :
    List EventObservation :=
  events.filter window.admits

/-! ## Status and error budget -/

inductive SloStatus where
  | met | missed | uncalibrated | noData | insufficientSamples | notYetMeasured
deriving DecidableEq

def SloStatus.isDecided (status : SloStatus) : Bool := status == .met || status == .missed

def statusFor (indicator : SloIndicator) (measurement : SloMeasurement)
    (target : Option (SloTarget ℚ)) : SloStatus :=
  if indicator.kind = .invariant then
    match measurement.value with
    | some value => if 0 < value then .missed else .met
    | none => .noData
  else if measurement.eligible = 0 then .noData
  else
    match target with
    | none => .uncalibrated
    | some target =>
      if 0 < measurement.unscored then .uncalibrated
      else if measurement.eligible < indicator.sampleFloor then .insufficientSamples
      else
        match measurement.value with
        | some value => if target.target ≤ value then .met else .missed
        | none => .uncalibrated

/-- Rolling allowance for one objective. -/
structure ErrorBudget where
  indicator : String
  window : String
  windowKind : WindowKind
  target : ℚ
  allowedMisses : Nat
  observedMisses : Nat
  /-- Negative once the budget is overspent. -/
  remainingMisses : Int
  exhausted : Bool

def allowedMisses (target : ℚ) (eligible : Nat) : Nat := ⌊(1 - target) * eligible⌋.toNat

def errorBudgetFor (indicator : SloIndicator) (window : SloWindow)
    (measurement : SloMeasurement) (target : Option (SloTarget ℚ)) (status : SloStatus) :
    Option ErrorBudget :=
  if indicator.kind = .invariant || !status.isDecided then none
  else
    target.map fun target ↦
      let allowed := allowedMisses target.target measurement.eligible
      let observed := measurement.misses
      { indicator := indicator.id
        window := window.label
        windowKind := window.kind
        target := target.target
        allowedMisses := allowed
        observedMisses := observed
        remainingMisses := (allowed : Int) - observed
        exhausted := decide (allowed < observed) }

/-! ## Evaluation -/

/-- A row of a report, as the pooling of baselines reads it. -/
structure SloIndicatorRow where
  id : String
  kind : ObjectiveKind
  unit : IndicatorUnit
  window : String
  conforming : Nat
  eligible : Nat
  thresholdMs : Option Nat
deriving DecidableEq

structure SloIndicatorResult extends SloIndicatorRow where
  windowKind : WindowKind
  denominator : String
  numerator : String
  unscored : Nat
  value : Option ℚ
  target : Option ℚ
  sampleFloor : Nat
  status : SloStatus
  missAttribution : AttributionSummary
  actions : List SloAction
  missingEvidence : Option String

/-- The events of a window that miss the objective. -/
def missedEvents (indicator : SloIndicator) (target : Option (SloTarget ℚ))
    (events : List EventObservation) (window : SloWindow) : List EventObservation :=
  (windowEvents events window).filter fun event ↦ (indicator.classify event target).isMiss

def measuredResult (indicator : SloIndicator) (target : Option (SloTarget ℚ))
    (events : List EventObservation) (window : SloWindow) : SloIndicatorResult :=
  let measurement := measure indicator (windowEvents events window) target
  { id := indicator.id
    kind := indicator.kind
    unit := indicator.unit
    window := window.label
    windowKind := window.kind
    denominator := indicator.denominator
    numerator := indicator.numerator
    conforming := measurement.conforming
    eligible := measurement.eligible
    unscored := measurement.unscored
    value := measurement.value
    target := target.map (·.target)
    thresholdMs := target.bind (·.thresholdMs)
    sampleFloor := indicator.sampleFloor
    status := statusFor indicator measurement target
    missAttribution := .of (missedEvents indicator target events window)
    actions := indicator.actions
    missingEvidence := none }

def measuredBudget (indicator : SloIndicator) (target : Option (SloTarget ℚ))
    (events : List EventObservation) (window : SloWindow) : Option ErrorBudget :=
  let measurement := measure indicator (windowEvents events window) target
  errorBudgetFor indicator window measurement target (statusFor indicator measurement target)

/-- An indicator whose evidence is not in the report. -/
def declaredResult (indicator : SloIndicator) (window : SloWindow) : SloIndicatorResult where
  id := indicator.id
  kind := indicator.kind
  unit := indicator.unit
  window := window.label
  windowKind := window.kind
  denominator := indicator.denominator
  numerator := indicator.numerator
  conforming := 0
  eligible := 0
  unscored := 0
  value := none
  target := none
  thresholdMs := none
  sampleFloor := indicator.sampleFloor
  status := .notYetMeasured
  missAttribution := .default
  actions := indicator.actions
  missingEvidence := indicator.missingEvidence

/-- The key of a compatibility series; the mode stands as it is given. -/
def compatibilitySeriesKey (mode datasetId configVersion : String) (seed : Nat) : String :=
  mode ++ "|" ++ escape datasetId ++ "|" ++ escape configVersion ++ "|" ++ toString seed

/-- A target applies to the series it was measured in, and a probe to every one. -/
def applicableTarget (report : BenchmarkReport) (targets : ExtTreeMap String (SloTarget ℚ))
    (indicator : SloIndicator) : Option (SloTarget ℚ) :=
  let reportSeries := compatibilitySeriesKey report.mode.asStr report.metadata.datasetId
    report.metadata.configVersion report.metadata.seed
  targets[indicator.id]?.filter fun target ↦
    target.baseline.source.startsWith probeSourceMarker ||
      target.baseline.series == some reportSeries

/-- What an evaluation writes into a report: its windows, rows and budgets. -/
structure SloFindings where
  windows : List SloWindow
  indicators : List SloIndicatorResult
  errorBudgets : List ErrorBudget
  failureAttribution : AttributionSummary

/-- What is reported under targets that have passed their validation. -/
def evaluate (report : BenchmarkReport) (targets : ExtTreeMap String (SloTarget ℚ))
    (config : SloEvaluationConfig) : SloFindings :=
  let windows := buildWindows report config
  { windows := windows
    indicators := catalog.flatMap fun indicator ↦
      if indicator.evidence = .declared then windows.map (declaredResult indicator)
      else
        windows.map
          (measuredResult indicator (applicableTarget report targets indicator) report.events)
    errorBudgets := catalog.flatMap fun indicator ↦
      if indicator.evidence = .declared then []
      else
        windows.filterMap
          (measuredBudget indicator (applicableTarget report targets indicator) report.events)
    failureAttribution := .of report.events }

/-! ## What is counted -/

/-- The three counts of a measurement. -/
inductive CountField where
  | eligible | conforming | unscored
deriving DecidableEq

/-- Whether an event with this verdict is counted. -/
def CountField.holds : CountField → EventVerdict → Bool
  | .eligible, verdict => verdict.isEligible
  | .conforming, verdict => verdict == .conforms
  | .unscored, verdict => verdict == .unscored

def Tally.count (tally : Tally) : CountField → Nat
  | .eligible => tally.eligible
  | .conforming => tally.conforming
  | .unscored => tally.unscored

def SloMeasurement.count (measurement : SloMeasurement) : CountField → Nat
  | .eligible => measurement.eligible
  | .conforming => measurement.conforming
  | .unscored => measurement.unscored

theorem Tally.count_add (tally : Tally) (verdict : EventVerdict) (field : CountField) :
    (tally.add verdict).count field =
      tally.count field + if field.holds verdict then 1 else 0 := by
  cases verdict <;> cases field <;> rfl

variable {indicator : SloIndicator} {target : Option (SloTarget ℚ)}

theorem Tally.count_foldl (events : List EventObservation) (tally : Tally) (field : CountField) :
    (events.foldl (fun tally event ↦ Tally.add tally (indicator.classify event target))
        tally).count field =
      tally.count field + events.countP fun event ↦ field.holds (indicator.classify event target) := by
  induction events generalizing tally with
  | nil => rfl
  | cons event events ih =>
    rw [List.foldl_cons, ih, Tally.count_add, List.countP_cons]
    omega

/-- A measurement counts verdicts. -/
theorem measure_count (indicator : SloIndicator) (events : List EventObservation)
    (target : Option (SloTarget ℚ)) (field : CountField) :
    (measure indicator events target).count field =
      events.countP fun event ↦ field.holds (indicator.classify event target) := by
  have hfold := @Tally.count_foldl indicator target events
    { eligible := 0, conforming := 0, unscored := 0 } field
  cases field <;> exact hfold.trans (Nat.zero_add _)

/-- An eligible event conforms, misses, or is not scored. -/
theorem measure_split (indicator : SloIndicator) (events : List EventObservation)
    (target : Option (SloTarget ℚ)) :
    (measure indicator events target).conforming + (measure indicator events target).unscored +
        (events.filter fun event ↦ (indicator.classify event target).isMiss).length =
      (measure indicator events target).eligible := by
  have hcount := measure_count indicator events target
  have heligible := hcount .eligible
  have hconforming := hcount .conforming
  have hunscored := hcount .unscored
  simp only [SloMeasurement.count] at heligible hconforming hunscored
  rw [heligible, hconforming, hunscored, ← List.countP_eq_length_filter]
  clear heligible hconforming hunscored hcount
  induction events with
  | nil => rfl
  | cons event events ih =>
    simp only [List.countP_cons]
    cases indicator.classify event target <;>
      simp [CountField.holds, EventVerdict.isEligible, EventVerdict.isMiss] at ih ⊢ <;> omega

theorem measure_misses (indicator : SloIndicator) (events : List EventObservation)
    (target : Option (SloTarget ℚ)) :
    (measure indicator events target).misses =
      (events.filter fun event ↦ (indicator.classify event target).isMiss).length := by
  have hsplit := measure_split indicator events target
  rw [SloMeasurement.misses]
  omega

/-! ## The hours of a session -/

/-- The offsets and the duration of a report, as a stream can have them. -/
structure BenchmarkReport.InRange (report : BenchmarkReport) : Prop where
  offset : ∀ event ∈ report.events, ∀ offset ∈ event.streamOffsetMs, offset < 2 ^ 62
  duration : ∀ duration ∈ report.metadata.streamDurationMs, duration < 2 ^ 62

def hourWindows (report : BenchmarkReport) (config : SloEvaluationConfig) : List SloWindow :=
  (buildWindows report config).filter fun window ↦ window.kind = .streamHour

/-- The hours that a window spans. -/
def SloWindow.hours (window : SloWindow) (report : BenchmarkReport)
    (config : SloEvaluationConfig) : List SloWindow :=
  (hourWindows report config).filter fun hour ↦
    decide (window.startOffsetMs ≤ hour.startOffsetMs) &&
      decide (hour.endOffsetMs ≤ window.endOffsetMs)

def EventObservation.offset (event : EventObservation) : Nat := event.streamOffsetMs.getD 0

/-- A report with stream hours: every event has an offset, and the hours reach beyond all of
them. -/
structure Hours (report : BenchmarkReport) (config : SloEvaluationConfig) (hours : Nat) :
    Prop where
  windows : buildWindows report config =
    sessionWindow report :: (List.range hours).map (hourWindow report.events) ++
      (List.range (hours + 1 - max config.rollingWindowHours 1)).map
        (rollingWindow report.events config (max config.rollingWindowHours 1))
  some : ∀ event ∈ report.events, event.streamOffsetMs = some event.offset
  reach : ∀ event ∈ report.events, event.offset < hours * streamHourMs
  fits : hours * streamHourMs < 2 ^ 64

variable {report : BenchmarkReport} {config : SloEvaluationConfig} {hours : Nat}

theorem lt_observedEnd {events : List EventObservation} {event : EventObservation} {t : Nat}
    (hmem : event ∈ events) (ht : event.streamOffsetMs = some t) (hfit : t < 2 ^ 62) :
    t < observedEnd events := by
  have htime : t ∈ events.filterMap (·.streamOffsetMs) := List.mem_filterMap.mpr ⟨event, hmem, ht⟩
  obtain ⟨last, hlast⟩ : ∃ last, (events.filterMap (·.streamOffsetMs)).max? = some last := by
    rw [← Option.isSome_iff_exists, List.isSome_max?_iff]
    exact List.ne_nil_of_mem htime
  have hle : t ≤ last := (List.max?_eq_some_iff.mp hlast).2 t htime
  rw [observedEnd, hlast]
  simp only [Option.map_some, Option.getD_some, satAdd, Saturating.u64Max]
  omega

theorem observedEnd_le {events : List EventObservation}
    (hfit : ∀ event ∈ events, ∀ t ∈ event.streamOffsetMs, t < 2 ^ 62) :
    observedEnd events ≤ 2 ^ 62 := by
  rw [observedEnd]
  cases hlast : (events.filterMap (·.streamOffsetMs)).max? with
  | none => exact Nat.zero_le _
  | some last =>
    obtain ⟨event, hmem, ht⟩ := List.mem_filterMap.mp (List.max?_mem hlast)
    have := hfit event hmem last ht
    simp only [Option.map_some, Option.getD_some, satAdd, Saturating.u64Max]
    omega

theorem representedMs_le (hfit : report.InRange) : representedMs report ≤ 2 ^ 62 := by
  apply max_le (observedEnd_le hfit.offset)
  cases hduration : report.metadata.streamDurationMs with
  | none => exact Nat.zero_le _
  | some duration => exact (hfit.duration duration hduration).le

theorem exists_hours (hfit : report.InRange) (hhours : hourWindows report config ≠ []) :
    ∃ hours, Hours report config hours := by
  rw [hourWindows, buildWindows] at hhours
  split at hhours
  · exact absurd rfl hhours
  · rename_i hoffsets
    split at hhours
    · exact absurd rfl hhours
    · rename_i hlong
      have hsome : ∀ event ∈ report.events, event.streamOffsetMs = some event.offset := by
        intro event hmem
        cases ht : event.streamOffsetMs with
        | some t => rw [EventObservation.offset, ht, Option.getD_some]
        | none =>
          refine absurd ?_ hoffsets
          rw [Bool.or_eq_true]
          exact Or.inr (List.any_eq_true.mpr ⟨event, hmem, by rw [ht]; rfl⟩)
      have hbound := representedMs_le hfit
      have hdiv := Nat.div_add_mod (representedMs report - 1) streamHourMs
      have hmod := Nat.mod_lt (representedMs report - 1) (y := streamHourMs) (by decide)
      have hmul := Nat.add_mul ((representedMs report - 1) / streamHourMs) 1 streamHourMs
      rw [Nat.mul_comm] at hdiv
      refine ⟨(representedMs report - 1) / streamHourMs + 1, ?_, hsome, ?_, ?_⟩
      · rw [buildWindows, if_neg hoffsets, if_neg hlong]
      · intro event hmem
        have hlt := lt_observedEnd hmem (hsome event hmem)
          (hfit.offset event hmem event.offset (hsome event hmem))
        have hle : observedEnd report.events ≤ representedMs report := le_max_left _ _
        omega
      · have hhour : streamHourMs = 3600000 := rfl
        omega

theorem hourOffset_eq {hour : Nat} (h : hour * streamHourMs < 2 ^ 64) :
    hourOffset hour = hour * streamHourMs := Nat.mod_eq_of_lt h

namespace Hours

variable (h : Hours report config hours)
include h

theorem offset_lt {hour : Nat} (hlt : hour ≤ hours) : hour * streamHourMs < 2 ^ 64 :=
  (Nat.mul_le_mul_right _ hlt).trans_lt h.fits

theorem start_eq {hour : Nat} (hlt : hour < hours) :
    (hourWindow report.events hour).startOffsetMs = hour * streamHourMs :=
  hourOffset_eq (h.offset_lt hlt.le)

theorem end_eq {hour : Nat} (hlt : hour < hours) :
    (hourWindow report.events hour).endOffsetMs = (hour + 1) * streamHourMs := by
  have hfit := h.offset_lt (Nat.succ_le_of_lt hlt)
  rw [Nat.succ_mul] at hfit
  rw [hourWindow, hourOffset_eq (h.offset_lt hlt.le), Nat.mod_eq_of_lt hfit, Nat.succ_mul]

theorem hourWindows_eq :
    hourWindows report config = (List.range hours).map (hourWindow report.events) := by
  rw [hourWindows, h.windows, List.cons_append, List.filter_cons_of_neg (by simp [sessionWindow]),
    List.filter_append, List.filter_eq_self.mpr, List.filter_eq_nil_iff.mpr, List.append_nil]
  · intro window hmem
    obtain ⟨start, -, rfl⟩ := List.mem_map.mp hmem
    simp [rollingWindow]
  · intro window hmem
    obtain ⟨hour, -, rfl⟩ := List.mem_map.mp hmem
    simp [hourWindow]

/-- A window that is not the session's admits the events between its two ends. -/
theorem admits_eq {window : SloWindow} (hkind : window.kind ≠ .session)
    {event : EventObservation} (hmem : event ∈ report.events) :
    window.admits event =
      Buckets.inside window.startOffsetMs window.endOffsetMs event.offset := by
  rw [SloWindow.admits, if_neg hkind, h.some event hmem, Option.any_some]

theorem countP_windowEvents {window : SloWindow} (hkind : window.kind ≠ .session)
    (p : EventObservation → Bool) :
    (windowEvents report.events window).countP p =
      report.events.countP fun event ↦
        Buckets.inside window.startOffsetMs window.endOffsetMs event.offset && p event := by
  rw [windowEvents, List.countP_filter]
  apply List.countP_congr
  intro event hmem
  rw [h.admits_eq hkind hmem, Bool.and_comm]

/-- The counts of consecutive hours are the counts between their ends. -/
theorem sum_countP_hours {first n : Nat} (hn : first + n ≤ hours) (p : EventObservation → Bool) :
    ((List.range' first n).map fun hour ↦
        (windowEvents report.events (hourWindow report.events hour)).countP p).sum =
      report.events.countP fun event ↦
        Buckets.inside (first * streamHourMs) ((first + n) * streamHourMs) event.offset &&
          p event := by
  rw [← Buckets.sum_countP_buckets]
  apply congrArg List.sum
  apply List.map_congr_left
  intro hour hmem
  have hlt : hour < hours := by
    obtain ⟨i, hi, rfl⟩ := List.mem_range'.mp hmem
    omega
  rw [h.countP_windowEvents (by decide : WindowKind.streamHour ≠ .session), h.start_eq hlt,
    h.end_eq hlt]

theorem eq_session {window : SloWindow} (hmem : window ∈ buildWindows report config)
    (hkind : window.kind = .session) : window = sessionWindow report := by
  rw [h.windows, List.cons_append, List.mem_cons, List.mem_append, List.mem_map,
    List.mem_map] at hmem
  rcases hmem with rfl | ⟨hour, -, rfl⟩ | ⟨start, -, rfl⟩
  · rfl
  · exact absurd hkind (by simp [hourWindow])
  · exact absurd hkind (by simp [rollingWindow])

theorem eq_rolling {window : SloWindow} {n : Nat} (hmem : window ∈ buildWindows report config)
    (hkind : window.kind = .rollingStreamHours n) :
    ∃ start, start + max config.rollingWindowHours 1 ≤ hours ∧
      window = rollingWindow report.events config (max config.rollingWindowHours 1) start := by
  rw [h.windows, List.cons_append, List.mem_cons, List.mem_append, List.mem_map,
    List.mem_map] at hmem
  rcases hmem with rfl | ⟨hour, -, rfl⟩ | ⟨start, hstart, rfl⟩
  · exact absurd hkind (by simp [sessionWindow])
  · exact absurd hkind (by simp [hourWindow])
  · have hlt := List.mem_range.mp hstart
    exact ⟨start, by omega, rfl⟩

/-- The hours of a window between two full hours. -/
theorem hours_eq {window : SloWindow} {first n : Nat} (hn : first + n ≤ hours)
    (hstart : window.startOffsetMs = first * streamHourMs)
    (hend : window.endOffsetMs = (first + n) * streamHourMs) :
    window.hours report config = (List.range' first n).map (hourWindow report.events) := by
  have hpos : 0 < streamHourMs := by decide
  have hinside : ∀ hour < hours,
      (decide (window.startOffsetMs ≤ (hourWindow report.events hour).startOffsetMs) &&
        decide ((hourWindow report.events hour).endOffsetMs ≤ window.endOffsetMs)) =
      decide (first ≤ hour ∧ hour < first + n) := by
    intro hour hlt
    rw [hstart, hend, h.start_eq hlt, h.end_eq hlt, Bool.decide_and]
    congr 1
    · exact decide_eq_decide.mpr (Nat.mul_le_mul_right_iff hpos)
    · exact decide_eq_decide.mpr ((Nat.mul_le_mul_right_iff hpos).trans Nat.succ_le_iff)
  have hrange : List.range hours =
      List.range' 0 first ++ (List.range' first n ++
        List.range' (first + n) (hours - (first + n))) := by
    have hinner : List.range' first n ++ List.range' (first + n) (hours - (first + n)) =
        List.range' first (hours - first) := by
      rw [List.range'_append_1, ← Nat.sub_sub, Nat.add_sub_cancel' (by omega)]
    have houter : List.range' 0 first ++ List.range' (0 + first) (hours - first) =
        List.range' 0 hours := by
      rw [List.range'_append_1, Nat.add_sub_cancel' (by omega)]
    rw [Nat.zero_add] at houter
    rw [List.range_eq_range', ← houter, ← hinner]
  rw [SloWindow.hours, h.hourWindows_eq, List.filter_map]
  apply congrArg (List.map (hourWindow report.events))
  calc (List.range hours).filter _
      = (List.range hours).filter fun hour ↦ decide (first ≤ hour ∧ hour < first + n) :=
        List.filter_congr fun hour hmem ↦ hinside hour (List.mem_range.mp hmem)
    _ = List.range' first n := by
        rw [hrange, List.filter_append, List.filter_append, List.filter_eq_nil_iff.mpr,
          List.filter_eq_self.mpr, List.filter_eq_nil_iff.mpr, List.nil_append, List.append_nil]
        all_goals
          intro hour hmem
          obtain ⟨i, hi, rfl⟩ := List.mem_range'.mp hmem
          simp only [decide_eq_true_eq]
          omega

/-- A window between two full hours counts what its hours count. -/
theorem sum_countP_window {window : SloWindow} {first n : Nat} (hn : first + n ≤ hours)
    (hstart : window.startOffsetMs = first * streamHourMs)
    (hend : window.endOffsetMs = (first + n) * streamHourMs) (hkind : window.kind ≠ .session)
    (p : EventObservation → Bool) :
    (windowEvents report.events window).countP p =
      ((window.hours report config).map fun hour ↦
        (windowEvents report.events hour).countP p).sum := by
  rw [h.hours_eq hn hstart hend, List.map_map, h.countP_windowEvents hkind, hstart, hend,
    ← h.sum_countP_hours hn]
  rfl

theorem sum_countP_session (p : EventObservation → Bool) :
    (windowEvents report.events (sessionWindow report)).countP p =
      ((hourWindows report config).map fun hour ↦
        (windowEvents report.events hour).countP p).sum := by
  have hall : windowEvents report.events (sessionWindow report) = report.events :=
    List.filter_eq_self.mpr fun _ _ ↦ rfl
  have hsum := h.sum_countP_hours (show 0 + hours ≤ hours from (Nat.zero_add hours).le) p
  rw [h.hourWindows_eq, List.map_map, List.range_eq_range']
  refine Eq.trans ?_ hsum.symm
  rw [hall]
  apply List.countP_congr
  intro event hmem
  have hreach := h.reach event hmem
  rw [Nat.zero_add, Nat.zero_mul, Buckets.inside, decide_eq_true (Nat.zero_le _),
    decide_eq_true hreach, Bool.true_and, Bool.true_and]

theorem countP_admits {event : EventObservation} (hmem : event ∈ report.events) :
    (hourWindows report config).countP (·.admits event) = 1 := by
  rw [h.hourWindows_eq, List.countP_map, ← Buckets.countP_bucket_eq_one (h.reach event hmem)]
  apply List.countP_congr
  intro hour hhour
  have hlt := List.mem_range.mp hhour
  rw [Function.comp_apply, h.admits_eq (by simp [hourWindow]) hmem, h.start_eq hlt, h.end_eq hlt]

end Hours

/-- An event a window holds either conforms, is not scored, or is attributed as a miss. -/
theorem measuredResult_split (indicator : SloIndicator) (target : Option (SloTarget ℚ))
    (events : List EventObservation) (window : SloWindow) :
    (measuredResult indicator target events window).conforming +
        (measuredResult indicator target events window).unscored +
        (missedEvents indicator target events window).length =
      (measuredResult indicator target events window).eligible :=
  measure_split indicator _ target

theorem measuredBudget_observed {events : List EventObservation} {window : SloWindow}
    {budget : ErrorBudget} (h : budget ∈ measuredBudget indicator target events window) :
    budget.indicator = indicator.id ∧ budget.window = window.label ∧
      budget.observedMisses = (missedEvents indicator target events window).length := by
  rw [measuredBudget, errorBudgetFor] at h
  split at h
  · exact absurd h (Option.not_mem_none _)
  · obtain ⟨slo, -, rfl⟩ := Option.mem_map.mp h
    exact ⟨rfl, rfl, measure_misses indicator _ target⟩

/-- What is only declared applies to no event. -/
theorem classify_of_declared (hmem : indicator ∈ catalog) (hdeclared : indicator.evidence = .declared) :
    indicator.classify = classifyNever := by
  simp only [catalog, List.mem_cons, List.not_mem_nil, or_false] at hmem
  rcases hmem with rfl | rfl | rfl | rfl | rfl | rfl | rfl | rfl | rfl | rfl | rfl | rfl
  all_goals first | rfl | exact absurd hdeclared (by simp)

theorem missedEvents_of_never (hnever : indicator.classify = classifyNever)
    (events : List EventObservation) (window : SloWindow) :
    missedEvents indicator target events window = [] := by
  rw [missedEvents, List.filter_eq_nil_iff, hnever]
  intro event _
  simp [classifyNever, EventVerdict.isMiss]

/-- A row of the report counts, and attributes, what its indicator misses in its window. -/
theorem evaluate_row {targets : ExtTreeMap String (SloTarget ℚ)} {row : SloIndicatorResult}
    (hrow : row ∈ (evaluate report targets config).indicators) :
    ∃ indicator ∈ catalog, ∃ window ∈ buildWindows report config,
      let missed :=
        missedEvents indicator (applicableTarget report targets indicator) report.events window
      row.id = indicator.id ∧ row.window = window.label ∧
        row.conforming + row.unscored + missed.length = row.eligible ∧
        row.missAttribution = .of missed := by
  obtain ⟨indicator, hmem, hrow⟩ := List.mem_flatMap.mp hrow
  refine ⟨indicator, hmem, ?_⟩
  split at hrow
  · rename_i hdeclared
    obtain ⟨window, hwindow, rfl⟩ := List.mem_map.mp hrow
    refine ⟨window, hwindow, rfl, rfl, ?_⟩
    rw [missedEvents_of_never (classify_of_declared hmem hdeclared)]
    exact ⟨rfl, rfl⟩
  · obtain ⟨window, hwindow, rfl⟩ := List.mem_map.mp hrow
    exact ⟨window, hwindow, rfl, rfl, measuredResult_split _ _ _ _, rfl⟩

theorem evaluate_budget {targets : ExtTreeMap String (SloTarget ℚ)} {budget : ErrorBudget}
    (hbudget : budget ∈ (evaluate report targets config).errorBudgets) :
    ∃ indicator ∈ catalog, ∃ window ∈ buildWindows report config,
      budget.indicator = indicator.id ∧ budget.window = window.label ∧
        budget.observedMisses =
          (missedEvents indicator (applicableTarget report targets indicator) report.events
            window).length := by
  obtain ⟨indicator, hmem, hbudget⟩ := List.mem_flatMap.mp hbudget
  refine ⟨indicator, hmem, ?_⟩
  split at hbudget
  · exact absurd hbudget List.not_mem_nil
  · obtain ⟨window, hwindow, hbudget⟩ := List.mem_filterMap.mp hbudget
    exact ⟨window, hwindow, measuredBudget_observed hbudget⟩

/-- **The stream hours partition the session**, and misses are counted and attributed alike. -/
theorem buildWindows_partition (report : BenchmarkReport) (config : SloEvaluationConfig)
    (hfit : report.InRange) (hhours : hourWindows report config ≠ []) :
    (∀ event ∈ report.events, (hourWindows report config).countP (·.admits event) = 1) ∧
    (∀ indicator target field, ∀ session ∈ buildWindows report config, session.kind = .session →
      (measure indicator (windowEvents report.events session) target).count field =
        ((hourWindows report config).map fun hour ↦
          (measure indicator (windowEvents report.events hour) target).count field).sum) ∧
    (∀ indicator target field n, ∀ rolling ∈ buildWindows report config,
      rolling.kind = .rollingStreamHours n →
      (rolling.hours report config).length = max config.rollingWindowHours 1 ∧
      (measure indicator (windowEvents report.events rolling) target).count field =
        ((rolling.hours report config).map fun hour ↦
          (measure indicator (windowEvents report.events hour) target).count field).sum) ∧
    (∀ indicator target, ∀ window ∈ buildWindows report config,
      let missed := missedEvents indicator target report.events window
      let row := measuredResult indicator target report.events window
      row.conforming + row.unscored + missed.length = row.eligible ∧
      row.missAttribution = .of missed ∧
      ∀ budget ∈ measuredBudget indicator target report.events window,
        budget.observedMisses = missed.length) ∧
    ∀ targets,
      (∀ row ∈ (evaluate report targets config).indicators,
        ∃ indicator ∈ catalog, ∃ window ∈ buildWindows report config,
          let missed :=
            missedEvents indicator (applicableTarget report targets indicator) report.events window
          row.id = indicator.id ∧ row.window = window.label ∧
            row.conforming + row.unscored + missed.length = row.eligible ∧
            row.missAttribution = .of missed) ∧
      ∀ budget ∈ (evaluate report targets config).errorBudgets,
        ∃ indicator ∈ catalog, ∃ window ∈ buildWindows report config,
          budget.indicator = indicator.id ∧ budget.window = window.label ∧
            budget.observedMisses =
              (missedEvents indicator (applicableTarget report targets indicator) report.events
                window).length := by
  obtain ⟨hours, h⟩ := exists_hours hfit hhours
  refine ⟨fun event hmem ↦ h.countP_admits hmem, ?_, ?_, ?_, ?_⟩
  · intro indicator target field session hmem hkind
    rw [h.eq_session hmem hkind]
    simp only [measure_count]
    exact h.sum_countP_session _
  · intro indicator target field n rolling hmem hkind
    obtain ⟨start, hstart, rfl⟩ := h.eq_rolling hmem hkind
    have hfirst : hourOffset start = start * streamHourMs :=
      hourOffset_eq (h.offset_lt (by omega))
    have hlast := hourOffset_eq (h.offset_lt hstart)
    constructor
    · rw [h.hours_eq hstart hfirst hlast, List.length_map, List.length_range']
    · simp only [measure_count]
      exact h.sum_countP_window hstart hfirst hlast (by simp [rollingWindow]) _
  · intro indicator target window _
    refine ⟨measuredResult_split indicator target _ window, rfl, ?_⟩
    intro budget hbudget
    exact (measuredBudget_observed hbudget).2.2
  · intro targets
    exact ⟨fun row hrow ↦ evaluate_row hrow, fun budget hbudget ↦ evaluate_budget hbudget⟩

/-- One event in the second hour. -/
def secondHourReport : BenchmarkReport where
  metadata :=
    { datasetId := "stream-v1", configVersion := "default", seed := 7, streamDurationMs := none }
  mode := .fullGenerative
  events := [
    { streamOffsetMs := some 4000000
      route := .silent
      deadlineClass := none
      deadlineExhaustionStage := none
      eventToFirstAudioMs := none
      eventToFirstVisibleReactionMs := none
      wrongReuse := none
      operatorOverride := false
      cancelled := false
      fallbackReason := some "timeout"
      budgetDenialReason := none }]

theorem secondHourReport_inRange : secondHourReport.InRange := by
  constructor
  · intro event hmem offset hoffset
    rw [secondHourReport, List.mem_singleton] at hmem
    subst hmem
    obtain rfl := Option.mem_some_iff.mp hoffset
    decide
  · intro duration hduration
    exact absurd hduration (Option.not_mem_none _)

theorem secondHourReport_partition :
    secondHourReport.events.map
      (fun event ↦ (hourWindows secondHourReport ⟨3⟩).countP (·.admits event)) = [1] :=
  List.map_congr_left (g := fun _ ↦ 1)
    (buildWindows_partition secondHourReport ⟨3⟩ secondHourReport_inRange (by decide)).1

/-! ## Status and budget -/

theorem le_allowedMisses_iff {ratio : ℚ} (hratio : ratio ≤ 1) {eligible misses : Nat} :
    misses ≤ allowedMisses ratio eligible ↔ (misses : ℚ) ≤ (1 - ratio) * eligible := by
  have hnonneg : 0 ≤ (1 - ratio) * eligible :=
    mul_nonneg (sub_nonneg.mpr hratio) (Nat.cast_nonneg eligible)
  rw [allowedMisses, Int.le_toNat (Int.floor_nonneg.mpr hnonneg), Int.le_floor, Int.cast_natCast]

/-- A ratio reaches its target exactly when the misses stay within the allowance. -/
theorem target_le_value_iff {ratio : ℚ} (hratio : ratio ≤ 1) {conforming eligible : Nat}
    (heligible : 0 < eligible) :
    ratio ≤ (conforming : ℚ) / eligible ↔
      eligible - conforming ≤ allowedMisses ratio eligible := by
  have hpos : (0 : ℚ) < eligible := Nat.cast_pos.mpr heligible
  rw [le_allowedMisses_iff hratio, le_div_iff₀ hpos]
  rcases Nat.le_total conforming eligible with hle | hle
  · rw [Nat.cast_sub hle]
    constructor <;> intro h <;> linarith
  · rw [Nat.sub_eq_zero_of_le hle, Nat.cast_zero]
    have hcast : (eligible : ℚ) ≤ conforming := Nat.cast_le.mpr hle
    constructor
    · intro _
      exact mul_nonneg (sub_nonneg.mpr hratio) hpos.le
    · intro _
      exact (mul_le_of_le_one_left hpos.le hratio).trans hcast

/-- A decided objective has been scored on every sample, against a target. -/
theorem statusFor_decided {measurement : SloMeasurement} (hkind : indicator.kind ≠ .invariant)
    (hdecided : (statusFor indicator measurement target).isDecided = true) :
    ∃ slo value, target = some slo ∧ measurement.value = some value ∧ measurement.unscored = 0 ∧
      0 < measurement.eligible ∧
      statusFor indicator measurement target = if slo.target ≤ value then .met else .missed := by
  rw [statusFor.eq_def, if_neg hkind] at hdecided ⊢
  by_cases heligible : measurement.eligible = 0
  · rw [if_pos heligible] at hdecided
    exact absurd hdecided (by decide)
  rw [if_neg heligible] at hdecided ⊢
  cases target with
  | none => exact absurd hdecided Bool.false_ne_true
  | some slo =>
    dsimp only at hdecided ⊢
    split_ifs at hdecided with hunscored hfloor
    · exact absurd hdecided (by decide)
    · exact absurd hdecided (by decide)
    · rw [if_neg hunscored, if_neg hfloor]
      cases hvalue : measurement.value with
      | none =>
        rw [hvalue] at hdecided
        exact absurd hdecided Bool.false_ne_true
      | some value => exact ⟨slo, value, rfl, rfl, by omega, by omega, rfl⟩

/-- The measurement of given counts. -/
def SloMeasurement.ofCounts (eligible conforming unscored : Nat) : SloMeasurement where
  conforming := conforming
  eligible := eligible
  unscored := unscored
  value := measuredValue conforming eligible unscored

/-- **A decided objective agrees with its error budget**. -/
theorem statusFor_agrees (indicator : SloIndicator) (window : SloWindow)
    (target : Option (SloTarget ℚ)) (eligible conforming unscored : Nat)
    (hkind : indicator.kind = .slo) (htarget : ∀ slo ∈ target, slo.target ≤ 1) :
    let measurement := SloMeasurement.ofCounts eligible conforming unscored
    let status := statusFor indicator measurement target
    status.isDecided = true →
      ∃ budget, errorBudgetFor indicator window measurement target status = some budget ∧
        (status = .missed ↔ budget.exhausted = true) ∧
        (budget.exhausted = true ↔ budget.allowedMisses < budget.observedMisses) ∧
        (status = .met ↔ measurement.misses ≤ budget.allowedMisses) := by
  intro measurement status hdecided
  have hnot : indicator.kind ≠ .invariant := by rw [hkind]; decide
  obtain ⟨slo, value, rfl, hvalue, hunscored, heligible, hstatus⟩ :=
    statusFor_decided hnot hdecided
  have hstatus : status = if slo.target ≤ value then .met else .missed := hstatus
  have hunscored : unscored = 0 := hunscored
  have hratio : value = (conforming : ℚ) / eligible := by
    have : measuredValue conforming eligible unscored = some value := hvalue
    rw [measuredValue, if_pos ⟨hunscored, heligible⟩] at this
    exact (Option.some.inj this).symm
  have hmisses : measurement.misses = eligible - conforming := by
    change eligible - conforming - unscored = _
    rw [hunscored, Nat.sub_zero]
  have hmet : slo.target ≤ value ↔ measurement.misses ≤ allowedMisses slo.target eligible := by
    rw [hratio, hmisses]
    exact target_le_value_iff (htarget slo rfl) heligible
  have hbudget : (indicator.kind = .invariant || !status.isDecided) = false := by
    rw [hdecided, decide_eq_false hnot]
    rfl
  refine ⟨_, by rw [errorBudgetFor, if_neg (by rw [hbudget]; decide), Option.map_some], ?_, ?_, ?_⟩
  · dsimp only
    rw [hstatus, decide_eq_true_iff, ← not_le]
    change _ ↔ ¬ measurement.misses ≤ allowedMisses slo.target eligible
    rw [← hmet]
    split_ifs with h <;> simp [h]
  · exact decide_eq_true_iff
  · change _ ↔ measurement.misses ≤ allowedMisses slo.target eligible
    rw [hstatus, ← hmet]
    split_ifs with h <;> simp [h]

/-- Nine of ten against a target of nine tenths. -/
theorem statusFor_agrees_tenth :
    let indicator : SloIndicator :=
      { id := "reliability.fallback_delivery_rate"
        kind := .slo
        unit := .ratio
        evidence := .measured
        denominator := ""
        numerator := ""
        sampleFloor := 1
        missingEvidence := none
        actions := []
        classify := classifyFallbackDelivery }
    let target : SloTarget ℚ :=
      { target := 9 / 10, thresholdMs := none, baseline := ⟨9 / 10, "", none, none, [], none⟩ }
    ∃ budget, errorBudgetFor indicator (sessionWindow secondHourReport) (.ofCounts 10 9 0)
        (some target) (statusFor indicator (.ofCounts 10 9 0) (some target)) = some budget ∧
      (statusFor indicator (.ofCounts 10 9 0) (some target) = .missed ↔
        budget.exhausted = true) := by
  intro indicator target
  obtain ⟨budget, hbudget, hmissed, -, -⟩ :=
    statusFor_agrees indicator (sessionWindow secondHourReport) (some target) 10 9 0 rfl
      (by
        intro slo hslo
        obtain rfl := Option.mem_some_iff.mp hslo
        norm_num [target])
      (by
        have hvalue : measuredValue 9 10 0 = some (9 / 10 : ℚ) := by norm_num [measuredValue]
        simp [statusFor, SloMeasurement.ofCounts, hvalue, indicator, target, SloStatus.isDecided])
  exact ⟨budget, hbudget, hmissed⟩

/-! ## Series -/

/-- **Equal keys name one series**, whatever texts the mode, the dataset and the configuration
are. -/
theorem compatibilitySeriesKey_inj {mode mode' datasetId datasetId' configVersion configVersion' :
    String} {seed seed' : Nat} :
    compatibilitySeriesKey mode datasetId configVersion seed =
        compatibilitySeriesKey mode' datasetId' configVersion' seed' ↔
      mode = mode' ∧ datasetId = datasetId' ∧ configVersion = configVersion' ∧ seed = seed' :=
  joinedKey_eq_iff

end Aivtuber.OperationalSlo
