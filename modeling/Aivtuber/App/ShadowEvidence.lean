import Mathlib.Data.List.TakeWhile
import Aivtuber.App.ShadowOrchestrator
import Aivtuber.Base.Histogram
import Aivtuber.Base.Json
import Aivtuber.Domain.ScenarioTrace

/-!
# Shadow evidence

A shadow policy decides beside the active one, and each pair of decisions is kept as a
comparison record (`crates/app/src/shadow.rs`, `shadow_orchestrator.rs`).  A batch of records is
summarized into one report (`crates/app/src/shadow_evidence.rs`) if every record was made under
the orchestration bounds of one config and by the same two policies.

Each record falls in one of eight categories.  Two silent sides that degrade alike count as
agreement before their targets are looked at, so a batch has unevidenced agreement exactly when
it holds such a record with targets that differ (`summarizeShadowDivergence_agreement_iff`).
-/

open Aivtuber.Check
open Std (ExtTreeMap)

namespace Aivtuber.ShadowEvidence

/-! ## Decisions and records -/

inductive ShadowRouteClass where
  | silent | deterministic | semanticReuse | template | generated
deriving DecidableEq, Repr

inductive ShadowTargetIdentity where
  | asset (assetId : String) (assetIdentity : Option String)
  | template (templateId templateVersion : String)
deriving DecidableEq, Repr

inductive ShadowFallbackReason where
  | timeout | unavailable | rateLimited | overloaded | authentication | invalidRequest
  | lowConfidence | policyOverride | operatorOverride | budgetExhausted | templateMissing
  | templateInvalid | templateSlotLimit | templateSlotTooLarge | templateRenderTooLarge
deriving DecidableEq, Repr

structure ShadowDecision where
  route : ShadowRouteClass
  target : Option ShadowTargetIdentity
  fallbackReason : Option ShadowFallbackReason
deriving DecidableEq, Repr

def ShadowDecision.silent : ShadowDecision := ⟨.silent, none, none⟩

inductive ShadowEvaluationFailure where
  | plannerError | deadlineExceeded | cancelled
deriving DecidableEq, Repr

inductive ShadowEvaluationOutcome where
  | evaluated (decision : ShadowDecision)
  | failed (reason : ShadowEvaluationFailure)
deriving DecidableEq, Repr

structure ShadowPolicyIdentity where
  policyId : String
  policyVersion : String
  configFingerprint : String
  runtimeProfile : String
  datasetId : Option String
deriving DecidableEq, Repr

/-- The bounds that a batch of records was produced under. -/
structure ShadowOrchestrationIdentity where
  orchestratorSchemaVersion : String
  boundsFingerprint : String
deriving DecidableEq, Repr

structure ShadowComparisonRecord where
  schemaVersion : String
  /-- None for a record of the inline path, which has no bounds. -/
  orchestration : Option ShadowOrchestrationIdentity
  eventId : String
  correlationId : String
  activePolicy : ShadowPolicyIdentity
  shadowPolicy : ShadowPolicyIdentity
  active : ShadowDecision
  shadow : ShadowEvaluationOutcome
  routeDiverged : Option Bool
  targetDiverged : Option Bool
  fallbackDiverged : Option Bool
deriving DecidableEq, Repr

def shadowComparisonSchemaVersion : String := "0.1.0"

/-- Whether two targets differ, where they can be compared. -/
def compareTarget (active shadow : ShadowDecision) : Option Bool :=
  match active.target, shadow.target with
  | some left, some right => some (decide (left ≠ right))
  | none, none =>
    if active.route = .silent && shadow.route = .silent then some false else none
  | _, _ => none

def buildRecord (eventId correlationId : String)
    (activeIdentity shadowIdentity : ShadowPolicyIdentity) (active : ShadowDecision)
    (shadow : ShadowEvaluationOutcome) (orchestration : ShadowOrchestrationIdentity) :
    ShadowComparisonRecord :=
  let (routeDiverged, targetDiverged, fallbackDiverged) :=
    match shadow with
    | .evaluated decision =>
      (some (decide (active.route ≠ decision.route)), compareTarget active decision,
        some (decide (active.fallbackReason ≠ decision.fallbackReason)))
    | .failed _ => (none, none, none)
  { schemaVersion := shadowComparisonSchemaVersion
    orchestration := some orchestration
    eventId
    correlationId
    activePolicy := activeIdentity
    shadowPolicy := shadowIdentity
    active
    shadow
    routeDiverged
    targetDiverged
    fallbackDiverged }

/-- What two records share before they may be aggregated. -/
structure ShadowCompatibilityKey where
  comparisonSchemaVersion : String
  activePolicyId : String
  activePolicyVersion : String
  activeConfigFingerprint : String
  activeRuntimeProfile : String
  activeDatasetId : Option String
  shadowPolicyId : String
  shadowPolicyVersion : String
  shadowConfigFingerprint : String
  shadowRuntimeProfile : String
  shadowDatasetId : Option String
deriving DecidableEq, Repr

def ShadowCompatibilityKey.fromRecord (record : ShadowComparisonRecord) :
    ShadowCompatibilityKey where
  comparisonSchemaVersion := record.schemaVersion
  activePolicyId := record.activePolicy.policyId
  activePolicyVersion := record.activePolicy.policyVersion
  activeConfigFingerprint := record.activePolicy.configFingerprint
  activeRuntimeProfile := record.activePolicy.runtimeProfile
  activeDatasetId := record.activePolicy.datasetId
  shadowPolicyId := record.shadowPolicy.policyId
  shadowPolicyVersion := record.shadowPolicy.policyVersion
  shadowConfigFingerprint := record.shadowPolicy.configFingerprint
  shadowRuntimeProfile := record.shadowPolicy.runtimeProfile
  shadowDatasetId := record.shadowPolicy.datasetId

/-! ## Orchestration identity -/

/-- The whole config; what admission reads of it is the part that it extends. -/
structure ShadowOrchestratorConfig extends Aivtuber.ShadowOrchestratorConfig where
  schemaVersion : String
  deadlineMs : Nat
  allowProviderCalls : Bool

def shadowOrchestratorSchemaVersion : String := "0.1.0"

def ShadowOrchestratorConfig.default : ShadowOrchestratorConfig where
  schemaVersion := shadowOrchestratorSchemaVersion
  enabled := false
  sampleRatePer10k := 1000
  seed := 0
  eventKinds := []
  maxConcurrent := 1
  queueCapacity := 8
  deadlineMs := 250
  allowProviderCalls := false
  chargeShadowToBudget := false

/-- Why a config, an identity or a batch is refused. -/
inductive ShadowEvidenceError where
  | unsupportedSchemaVersion (schemaVersion : String)
  | sampleRateOutOfRange
  | zeroMaxConcurrent
  | zeroQueueCapacity
  | zeroDeadlineMs
  | staleOrchestration (schemaVersion : String)
  | emptyBoundsFingerprint
  | noRecords
  | comparisonSchema (eventId schemaVersion : String)
  | noOrchestration (eventId : String)
  | otherBounds (eventId : String) (stamped expected : ShadowOrchestrationIdentity)
  | otherIdentity (eventId : String) (found expected : ShadowCompatibilityKey)
deriving DecidableEq, Repr

def ShadowOrchestratorConfig.validate (config : ShadowOrchestratorConfig) :
    Except ShadowEvidenceError Unit := do
  ensure (.unsupportedSchemaVersion config.schemaVersion)
    (config.schemaVersion = shadowOrchestratorSchemaVersion)
  ensure .sampleRateOutOfRange (config.sampleRatePer10k ≤ 10000)
  ensure .zeroMaxConcurrent (config.maxConcurrent ≠ 0)
  ensure .zeroQueueCapacity (config.queueCapacity ≠ 0)
  ensure .zeroDeadlineMs (config.deadlineMs ≠ 0)

/-- Every bound, in the order of the fields. -/
def ShadowOrchestratorConfig.canonical (config : ShadowOrchestratorConfig) : String :=
  "enabled=" ++ toString config.enabled ++
    "|sample_rate_per_10k=" ++ toString config.sampleRatePer10k ++
    "|seed=" ++ toString config.seed ++
    "|event_kinds=" ++ ",".intercalate (config.eventKinds.map EventKind.debug) ++
    "|max_concurrent=" ++ toString config.maxConcurrent ++
    "|queue_capacity=" ++ toString config.queueCapacity ++
    "|deadline_ms=" ++ toString config.deadlineMs ++
    "|allow_provider_calls=" ++ toString config.allowProviderCalls ++
    "|charge_shadow_to_budget=" ++ toString config.chargeShadowToBudget

/-- Sixteen lower-case hexadecimal digits. -/
def hex64 (n : Nat) : String :=
  String.ofList ((List.range 16).map fun i ↦ Json.hexDigit (n / 16 ^ (15 - i) % 16))

namespace ShadowOrchestrationIdentity

/-- The identity of the bounds of a config. -/
def ofBounds (config : ShadowOrchestratorConfig) : ShadowOrchestrationIdentity :=
  ⟨config.schemaVersion, hex64 (fnv1a64 (Text.utf8 config.canonical)).toNat⟩

def fromConfig (config : ShadowOrchestratorConfig) :
    Except ShadowEvidenceError ShadowOrchestrationIdentity := do
  config.validate
  return ofBounds config

def validate (identity : ShadowOrchestrationIdentity) : Except ShadowEvidenceError Unit := do
  ensure (.staleOrchestration identity.orchestratorSchemaVersion)
    (identity.orchestratorSchemaVersion = shadowOrchestratorSchemaVersion)
  ensure .emptyBoundsFingerprint (!Text.isBlank identity.boundsFingerprint)

end ShadowOrchestrationIdentity

/-! ## Classification -/

inductive ShadowDivergenceCategory where
  | sameRouteSameTarget | sameRouteDifferentTarget | routeTransition | responseVsSilent
  | fallbackVsSuccess | fallbackReasonMismatch | shadowUnusable | targetIncomparable
deriving DecidableEq, Repr

namespace ShadowDivergenceCategory

def asStr : ShadowDivergenceCategory → String
  | sameRouteSameTarget => "same_route_same_target"
  | sameRouteDifferentTarget => "same_route_different_target"
  | routeTransition => "route_transition"
  | responseVsSilent => "response_vs_silent"
  | fallbackVsSuccess => "fallback_vs_success"
  | fallbackReasonMismatch => "fallback_reason_mismatch"
  | shadowUnusable => "shadow_unusable"
  | targetIncomparable => "target_incomparable"

def all : List ShadowDivergenceCategory :=
  [sameRouteSameTarget, sameRouteDifferentTarget, routeTransition, responseVsSilent,
    fallbackVsSuccess, fallbackReasonMismatch, shadowUnusable, targetIncomparable]

def isDivergence : ShadowDivergenceCategory → Bool
  | sameRouteSameTarget | shadowUnusable | targetIncomparable => false
  | _ => true

def isComparable : ShadowDivergenceCategory → Bool
  | shadowUnusable | targetIncomparable => false
  | _ => true

theorem asStr_injective : asStr.Injective := by
  intro a b h
  cases a <;> cases b <;> first | rfl | exact absurd h (by decide)

theorem mem_all (category : ShadowDivergenceCategory) : category ∈ all := by
  cases category <;> decide

theorem nodup_all : all.Nodup := by decide

theorem isComparable_of_isDivergence {category : ShadowDivergenceCategory}
    (h : category.isDivergence = true) : category.isComparable = true := by
  cases category <;> first | rfl | cases h

end ShadowDivergenceCategory

structure ShadowDivergenceClassification where
  category : ShadowDivergenceCategory
  comparable : Bool
deriving DecidableEq, Repr

/-- The category of two sides that degrade alike, given how their targets compare. -/
def categorizeRoutes (active shadow : ShadowRouteClass) (targetDiverged : Option Bool) :
    ShadowDivergenceCategory :=
  match active, shadow with
  | .silent, .silent => .sameRouteSameTarget
  | .silent, _ | _, .silent => .responseVsSilent
  | activeRoute, shadowRoute =>
    if activeRoute ≠ shadowRoute then .routeTransition
    else
      match targetDiverged with
      | some true => .sameRouteDifferentTarget
      | some false => .sameRouteSameTarget
      | none => .targetIncomparable

/-- A difference of fallbacks outranks a difference of routes. -/
def categorize (active shadow : ShadowDecision) (targetDiverged : Option Bool) :
    ShadowDivergenceCategory :=
  match active.fallbackReason, shadow.fallbackReason with
  | some activeReason, some shadowReason =>
    if activeReason ≠ shadowReason then .fallbackReasonMismatch
    else categorizeRoutes active.route shadow.route targetDiverged
  | some _, none | none, some _ => .fallbackVsSuccess
  | none, none => categorizeRoutes active.route shadow.route targetDiverged

def classifyShadowDivergence (record : ShadowComparisonRecord) : ShadowDivergenceClassification :=
  match record.shadow with
  | .failed _ => ⟨.shadowUnusable, false⟩
  | .evaluated decision =>
    let category := categorize record.active decision record.targetDiverged
    ⟨category, category.isComparable⟩

/-! ## The report -/

structure ShadowOperationalEvidence where
  providerCalls : Nat
  providerCallsBlocked : Nat
  evaluationsCompleted : Nat
  evaluationsDeadlineExceeded : Nat
deriving DecidableEq, Repr

structure ShadowDivergentCaseRef where
  eventId : String
  correlationId : String
  category : ShadowDivergenceCategory
  activeRoute : ShadowRouteClass
  shadowRoute : ShadowRouteClass
  activeFallbackReason : Option ShadowFallbackReason
  shadowFallbackReason : Option ShadowFallbackReason
deriving DecidableEq, Repr

structure ShadowReportMetric where
  value : Float64
  sampleCount : Nat

structure ShadowDivergenceReport where
  schemaVersion : String
  orchestration : ShadowOrchestrationIdentity
  compatibility : ShadowCompatibilityKey
  totalComparisons : Nat
  comparableComparisons : Nat
  divergedComparisons : Nat
  categoryCounts : ExtTreeMap String Nat
  metrics : ExtTreeMap String ShadowReportMetric
  divergentCases : List ShadowDivergentCaseRef
  divergentCasesTruncated : Bool

def divergentCaseRef (record : ShadowComparisonRecord) (category : ShadowDivergenceCategory) :
    ShadowDivergentCaseRef :=
  let (shadowRoute, shadowFallbackReason) :=
    match record.shadow with
    | .evaluated decision => (decision.route, decision.fallbackReason)
    | .failed _ => (record.active.route, none)
  { eventId := record.eventId
    correlationId := record.correlationId
    category
    activeRoute := record.active.route
    shadowRoute
    activeFallbackReason := record.active.fallbackReason
    shadowFallbackReason }

/-- What the loop over the records keeps. -/
structure DivergenceTally where
  categoryCounts : ExtTreeMap String Nat
  comparable : Nat
  diverged : Nat
  cases : List ShadowDivergentCaseRef

namespace DivergenceTally

def new : DivergenceTally where
  categoryCounts := Histogram.zero ShadowDivergenceCategory.all ShadowDivergenceCategory.asStr
  comparable := 0
  diverged := 0
  cases := []

/-- One turn of the loop. -/
def count (caseLimit : Nat) (tally : DivergenceTally) (record : ShadowComparisonRecord) :
    DivergenceTally :=
  let classification := classifyShadowDivergence record
  let tally := { tally with
    categoryCounts := Histogram.bump tally.categoryCounts classification.category.asStr }
  if !classification.comparable then tally
  else
    let tally := { tally with comparable := tally.comparable + 1 }
    if !classification.category.isDivergence then tally
    else
      { tally with
        diverged := tally.diverged + 1
        cases :=
          if tally.cases.length < caseLimit then
            tally.cases ++ [divergentCaseRef record classification.category]
          else tally.cases }

def run (caseLimit : Nat) (records : List ShadowComparisonRecord) : DivergenceTally :=
  records.foldl (count caseLimit) new

end DivergenceTally

/-- The share of the divergent records among the comparable ones, and every count. -/
def reportMetrics (arith : FloatArith) (tally : DivergenceTally) (sampleCount : Nat)
    (operational : Option ShadowOperationalEvidence) : ExtTreeMap String ShadowReportMetric :=
  let counts : ExtTreeMap String ShadowReportMetric :=
    tally.categoryCounts.foldl
      (fun metrics category count ↦ metrics.insert ("shadow.divergence." ++ category ++ "_count")
        ⟨arith.ofNat count, sampleCount⟩) ∅
  let rate : Float64 :=
    if tally.comparable = 0 then .finite 0
    else
      arith.div (arith.mul (arith.ofNat tally.diverged) (.finite 100))
        (arith.ofNat tally.comparable)
  let metrics := counts.insert "shadow.divergence.rate_pct" ⟨rate, tally.comparable⟩
  match operational with
  | none => metrics
  | some operational =>
    [("provider_calls", operational.providerCalls),
      ("provider_calls_blocked", operational.providerCallsBlocked),
      ("evaluations_completed", operational.evaluationsCompleted),
      ("evaluations_deadline_exceeded", operational.evaluationsDeadlineExceeded)].foldl
      (fun metrics (name, value) ↦ metrics.insert ("shadow.operations." ++ name ++ "_count")
        ⟨arith.ofNat value, sampleCount⟩) metrics

def shadowDivergenceReportSchemaVersion : String := "1"

/-- What one record is checked for: its schema, its stamp and its policies. -/
def checkRecord (orchestration : ShadowOrchestrationIdentity)
    (compatibility : ShadowCompatibilityKey) (record : ShadowComparisonRecord) :
    Except ShadowEvidenceError Unit := do
  ensure (.comparisonSchema record.eventId record.schemaVersion)
    (record.schemaVersion = shadowComparisonSchemaVersion)
  let stamped ← expect (.noOrchestration record.eventId) record.orchestration
  ensure (.otherBounds record.eventId stamped orchestration) (stamped = orchestration)
  let key := ShadowCompatibilityKey.fromRecord record
  ensure (.otherIdentity record.eventId key compatibility) (key = compatibility)

def divergenceReport (arith : FloatArith) (orchestration : ShadowOrchestrationIdentity)
    (compatibility : ShadowCompatibilityKey) (records : List ShadowComparisonRecord)
    (operational : Option ShadowOperationalEvidence) (tally : DivergenceTally) :
    ShadowDivergenceReport where
  schemaVersion := shadowDivergenceReportSchemaVersion
  orchestration
  compatibility
  totalComparisons := records.length
  comparableComparisons := tally.comparable
  divergedComparisons := tally.diverged
  categoryCounts := tally.categoryCounts
  metrics := reportMetrics arith tally records.length operational
  divergentCases := tally.cases
  divergentCasesTruncated := decide (tally.diverged > tally.cases.length)

def summarizeShadowDivergence (arith : FloatArith) (records : List ShadowComparisonRecord)
    (config : ShadowOrchestratorConfig) (operational : Option ShadowOperationalEvidence)
    (caseLimit : Nat) : Except ShadowEvidenceError ShadowDivergenceReport := do
  let orchestration ← ShadowOrchestrationIdentity.fromConfig config
  orchestration.validate
  let first ← expect .noRecords records.head?
  let compatibility := ShadowCompatibilityKey.fromRecord first
  records.forM (checkRecord orchestration compatibility)
  return divergenceReport arith orchestration compatibility records operational
    (DivergenceTally.run caseLimit records)

/-! ## What the loop counts -/

/-- The category that a record is counted in. -/
def category (record : ShadowComparisonRecord) : ShadowDivergenceCategory :=
  (classifyShadowDivergence record).category

theorem classifyShadowDivergence_comparable (record : ShadowComparisonRecord) :
    (classifyShadowDivergence record).comparable = (category record).isComparable := by
  rw [category, classifyShadowDivergence]
  split <;> rfl

namespace DivergenceTally

variable {caseLimit : Nat}

theorem count_categoryCounts (tally : DivergenceTally) (record : ShadowComparisonRecord) :
    (count caseLimit tally record).categoryCounts =
      Histogram.bump tally.categoryCounts (category record).asStr := by
  rw [count]
  dsimp only
  split
  case isTrue => rfl
  case isFalse => split <;> rfl

theorem count_comparable (tally : DivergenceTally) (record : ShadowComparisonRecord) :
    (count caseLimit tally record).comparable =
      tally.comparable + if (category record).isComparable then 1 else 0 := by
  rw [count]
  dsimp only
  rw [classifyShadowDivergence_comparable]
  cases (category record).isComparable with
  | false => rfl
  | true =>
    rw [if_neg (by decide), if_pos rfl]
    split <;> rfl

theorem count_diverged (tally : DivergenceTally) (record : ShadowComparisonRecord) :
    (count caseLimit tally record).diverged =
        tally.diverged + (if (category record).isDivergence then 1 else 0) ∧
      (count caseLimit tally record).cases =
        if (category record).isDivergence && decide (tally.cases.length < caseLimit) then
          tally.cases ++ [divergentCaseRef record (category record)]
        else tally.cases := by
  rw [count]
  dsimp only
  rw [classifyShadowDivergence_comparable]
  cases hdiverged : (category record).isDivergence with
  | false =>
    rw [category] at hdiverged
    split
    case isTrue => exact ⟨rfl, rfl⟩
    case isFalse =>
      rw [hdiverged]
      exact ⟨rfl, rfl⟩
  | true =>
    rw [ShadowDivergenceCategory.isComparable_of_isDivergence hdiverged]
    rw [category] at hdiverged
    rw [hdiverged]
    simp only [Bool.not_true, Bool.false_eq_true, if_false, if_true, Bool.true_and,
      decide_eq_true_eq, true_and]
    rfl

theorem run_append (records : List ShadowComparisonRecord) (record : ShadowComparisonRecord) :
    run caseLimit (records ++ [record]) = count caseLimit (run caseLimit records) record := by
  rw [run, List.foldl_append]
  rfl

theorem run_categoryCounts (records : List ShadowComparisonRecord) :
    (run caseLimit records).categoryCounts =
      Histogram.counts ShadowDivergenceCategory.all ShadowDivergenceCategory.asStr category
        records := by
  induction records using List.reverseRecOn with
  | nil => rfl
  | append_singleton records record ih =>
    rw [run_append, count_categoryCounts, ih, Histogram.counts, Histogram.counts,
      List.foldl_append]
    rfl

theorem run_comparable (records : List ShadowComparisonRecord) :
    (run caseLimit records).comparable = records.countP fun record ↦
      (category record).isComparable := by
  induction records using List.reverseRecOn with
  | nil => rfl
  | append_singleton records record ih =>
    rw [run_append, count_comparable, ih, List.countP_append, List.countP_singleton]

theorem run_diverged (records : List ShadowComparisonRecord) :
    (run caseLimit records).diverged = records.countP fun record ↦
      (category record).isDivergence := by
  induction records using List.reverseRecOn with
  | nil => rfl
  | append_singleton records record ih =>
    rw [run_append, (count_diverged _ _).1, ih, List.countP_append, List.countP_singleton]

/-- The cases are the first ones that diverged, as many as the limit allows. -/
theorem length_run_cases (records : List ShadowComparisonRecord) :
    (run caseLimit records).cases.length = min (run caseLimit records).diverged caseLimit := by
  induction records using List.reverseRecOn with
  | nil => exact (Nat.zero_min caseLimit).symm
  | append_singleton records record ih =>
    obtain ⟨hdiverged, hcases⟩ :=
      @count_diverged caseLimit (run caseLimit records) record
    rw [run_append, hdiverged, hcases]
    cases (category record).isDivergence with
    | false =>
      rw [Bool.false_and, if_neg Bool.false_ne_true, if_neg Bool.false_ne_true]
      exact ih
    | true =>
      rw [Bool.true_and, if_pos rfl]
      simp only [decide_eq_true_eq]
      split
      case isTrue =>
        rw [List.length_append, List.length_singleton]
        omega
      case isFalse => omega

end DivergenceTally

/-! ## Which batches are accepted -/

/-- A string with a character that is not white space is not blank. -/
theorem isBlank_eq_false {s : String} {c : Char} (hmem : c ∈ s.toList)
    (hc : Text.isWhitespace c = false) : Text.isBlank s = false := by
  have hstart : c ∈ s.toList.dropWhile Text.isWhitespace := by
    rw [← List.takeWhile_append_dropWhile (p := Text.isWhitespace) (l := s.toList),
      List.mem_append] at hmem
    rcases hmem with hmem | hmem
    · rw [List.mem_takeWhile_imp hmem] at hc
      cases hc
    · exact hmem
  rw [Text.isBlank, decide_eq_false_iff_not, Text.trim, ← String.toList_inj, String.toList_ofList,
    String.toList_empty, List.reverse_eq_nil_iff, List.dropWhile_eq_nil_iff]
  intro hwhite
  rw [hwhite c (List.mem_reverse.mpr hstart)] at hc
  cases hc

theorem isWhitespace_hexDigit {n : Nat} (h : n < 16) :
    Text.isWhitespace (Json.hexDigit n) = false := by
  interval_cases n <;> rfl

theorem isBlank_hex64 (n : Nat) : Text.isBlank (hex64 n) = false := by
  apply isBlank_eq_false
  · rw [hex64, String.toList_ofList, List.mem_map]
    exact ⟨0, List.mem_range.mpr (by norm_num), rfl⟩
  · exact isWhitespace_hexDigit (Nat.mod_lt _ (by norm_num))

theorem validate_ofBounds {config : ShadowOrchestratorConfig} (h : config.validate = .ok ()) :
    (ShadowOrchestrationIdentity.ofBounds config).validate = .ok () := by
  obtain ⟨hschema, -⟩ := unit_bind_eq_ok.mp h
  rw [ShadowOrchestrationIdentity.validate, unit_bind_eq_ok]
  refine ⟨ensure_eq_ok.mpr (ensure_eq_ok.mp hschema), ?_⟩
  rw [ensure_eq_ok, ShadowOrchestrationIdentity.ofBounds, isBlank_hex64]
  rfl

/-- A batch of one config, one schema and one pair of policies. -/
structure Uniform (records : List ShadowComparisonRecord) (config : ShadowOrchestratorConfig) :
    Prop where
  valid : config.validate = .ok ()
  schema : ∀ record ∈ records, record.schemaVersion = shadowComparisonSchemaVersion
  stamped : ∀ record ∈ records,
    record.orchestration = some (ShadowOrchestrationIdentity.ofBounds config)
  identity : ∀ record ∈ records, ∀ other ∈ records,
    ShadowCompatibilityKey.fromRecord record = ShadowCompatibilityKey.fromRecord other

theorem checkRecord_eq_ok {orchestration : ShadowOrchestrationIdentity}
    {compatibility : ShadowCompatibilityKey} {record : ShadowComparisonRecord} :
    checkRecord orchestration compatibility record = .ok () ↔
      record.schemaVersion = shadowComparisonSchemaVersion ∧
        record.orchestration = some orchestration ∧
          ShadowCompatibilityKey.fromRecord record = compatibility := by
  rw [checkRecord, unit_bind_eq_ok, ensure_eq_ok, decide_eq_true_iff, expect_bind_eq_ok]
  simp only [unit_bind_eq_ok, ensure_eq_ok, decide_eq_true_iff]
  constructor
  · rintro ⟨hschema, stamped, hstamped, rfl, hkey⟩
    exact ⟨hschema, hstamped, hkey⟩
  · rintro ⟨hschema, hstamped, hkey⟩
    exact ⟨hschema, orchestration, hstamped, rfl, hkey⟩

section Accepted

variable {arith : FloatArith} {records records' : List ShadowComparisonRecord}
  {config : ShadowOrchestratorConfig} {operational : Option ShadowOperationalEvidence}
  {caseLimit : Nat} {report : ShadowDivergenceReport}

/-- **The batches that are accepted** are the uniform ones, and the key of the report is that of
every record. -/
theorem summarizeShadowDivergence_eq_ok :
    summarizeShadowDivergence arith records config operational caseLimit = .ok report ↔
      Uniform records config ∧ ∃ first ∈ records,
        report = divergenceReport arith (ShadowOrchestrationIdentity.ofBounds config)
          (ShadowCompatibilityKey.fromRecord first) records operational
          (DivergenceTally.run caseLimit records) := by
  have hstart : ∀ orchestration, ShadowOrchestrationIdentity.fromConfig config = .ok orchestration ↔
      config.validate = .ok () ∧ orchestration = ShadowOrchestrationIdentity.ofBounds config := by
    intro orchestration
    rw [ShadowOrchestrationIdentity.fromConfig, unit_bind_eq_ok]
    exact and_congr_right fun _ ↦ ⟨fun h ↦ (Except.ok.inj h).symm, fun h ↦ congrArg _ h.symm⟩
  rw [summarizeShadowDivergence, bind_eq_ok]
  simp only [hstart, unit_bind_eq_ok, expect_bind_eq_ok, forM_eq_ok, checkRecord_eq_ok]
  constructor
  · rintro ⟨_, ⟨hconfig, rfl⟩, -, first, hfirst, hchecked, hreport⟩
    refine ⟨⟨hconfig, fun record h ↦ (hchecked record h).1, fun record h ↦ (hchecked record h).2.1,
      fun record h other h' ↦ (hchecked record h).2.2.trans (hchecked other h').2.2.symm⟩, first,
      List.mem_of_mem_head? hfirst, (Except.ok.inj hreport).symm⟩
  · rintro ⟨huniform, other, hother, rfl⟩
    obtain ⟨first, hfirst⟩ : ∃ first, records.head? = some first := by
      cases records with
      | nil => cases hother
      | cons first rest => exact ⟨first, rfl⟩
    have hmem : first ∈ records := List.mem_of_mem_head? hfirst
    refine ⟨_, ⟨huniform.valid, rfl⟩, validate_ofBounds huniform.valid, first, hfirst, ?_, ?_⟩
    · exact fun record h ↦ ⟨huniform.schema record h, huniform.stamped record h,
        huniform.identity record h first hmem⟩
    · rw [huniform.identity first hmem other hother]
      rfl

theorem Uniform.perm (h : Uniform records config) (hperm : records.Perm records') :
    Uniform records' config where
  valid := h.valid
  schema record hrecord := h.schema record (hperm.mem_iff.mpr hrecord)
  stamped record hrecord := h.stamped record (hperm.mem_iff.mpr hrecord)
  identity record hrecord other hother :=
    h.identity record (hperm.mem_iff.mpr hrecord) other (hperm.mem_iff.mpr hother)

/-- What the loop counts does not depend on the order of the records. -/
theorem run_perm (hperm : records.Perm records') :
    ∃ cases, DivergenceTally.run caseLimit records' =
        { DivergenceTally.run caseLimit records with cases } ∧
      cases.length = (DivergenceTally.run caseLimit records).cases.length := by
  have hdiverged : (DivergenceTally.run caseLimit records').diverged =
      (DivergenceTally.run caseLimit records).diverged := by
    rw [DivergenceTally.run_diverged, DivergenceTally.run_diverged, hperm.countP_eq]
  refine ⟨(DivergenceTally.run caseLimit records').cases, ?_, ?_⟩
  · have hcounts : (DivergenceTally.run caseLimit records').categoryCounts =
        (DivergenceTally.run caseLimit records).categoryCounts := by
      rw [DivergenceTally.run_categoryCounts, DivergenceTally.run_categoryCounts]
      exact (Histogram.counts_perm ShadowDivergenceCategory.asStr_injective
        ShadowDivergenceCategory.nodup_all hperm).symm
    have hcomparable : (DivergenceTally.run caseLimit records').comparable =
        (DivergenceTally.run caseLimit records).comparable := by
      rw [DivergenceTally.run_comparable, DivergenceTally.run_comparable, hperm.countP_eq]
    dsimp only
    rw [← hcounts, ← hcomparable, ← hdiverged]
  · rw [DivergenceTally.length_run_cases, DivergenceTally.length_run_cases, hdiverged]

theorem summarizeShadowDivergence_perm (hperm : records.Perm records')
    (h : summarizeShadowDivergence arith records config operational caseLimit = .ok report) :
    ∃ cases, summarizeShadowDivergence arith records' config operational caseLimit =
      .ok { report with divergentCases := cases } := by
  obtain ⟨huniform, first, hfirst, rfl⟩ := summarizeShadowDivergence_eq_ok.mp h
  obtain ⟨cases, hrun, hlength⟩ := @run_perm records records' caseLimit hperm
  refine ⟨cases, summarizeShadowDivergence_eq_ok.mpr
    ⟨huniform.perm hperm, first, hperm.mem_iff.mp hfirst, ?_⟩⟩
  rw [hrun, divergenceReport, divergenceReport, hperm.length_eq]
  dsimp only
  rw [hlength]
  rfl

end Accepted

/-- Two records of the batch are of other policies or other bounds. -/
def Mixed (records : List ShadowComparisonRecord) : Prop :=
  ∃ record ∈ records, ∃ other ∈ records, record.activePolicy ≠ other.activePolicy ∨
    record.shadowPolicy ≠ other.shadowPolicy ∨ record.orchestration ≠ other.orchestration

/-- The key holds both policies whole. -/
theorem policies_eq_of_fromRecord_eq {record other : ShadowComparisonRecord}
    (h : ShadowCompatibilityKey.fromRecord record = ShadowCompatibilityKey.fromRecord other) :
    record.activePolicy = other.activePolicy ∧ record.shadowPolicy = other.shadowPolicy := by
  rw [ShadowCompatibilityKey.fromRecord, ShadowCompatibilityKey.fromRecord,
    ShadowCompatibilityKey.mk.injEq] at h
  obtain ⟨-, hid, hversion, hconfig, hprofile, hdataset, hid', hversion', hconfig', hprofile',
    hdataset'⟩ := h
  cases hactive : record.activePolicy
  cases hactive' : other.activePolicy
  cases hshadow : record.shadowPolicy
  cases hshadow' : other.shadowPolicy
  simp_all

theorem Uniform.not_mixed {records : List ShadowComparisonRecord}
    {config : ShadowOrchestratorConfig} (h : Uniform records config) : ¬Mixed records := by
  rintro ⟨record, hrecord, other, hother, hmixed⟩
  obtain ⟨hactive, hshadow⟩ := policies_eq_of_fromRecord_eq (h.identity record hrecord other hother)
  rcases hmixed with hmixed | hmixed | hmixed
  · exact hmixed hactive
  · exact hmixed hshadow
  · exact hmixed ((h.stamped record hrecord).trans (h.stamped other hother).symm)

theorem summarizeShadowDivergence_mixed {records records' : List ShadowComparisonRecord}
    (hmixed : Mixed records) (hperm : records.Perm records') (arith : FloatArith)
    (config : ShadowOrchestratorConfig) (operational : Option ShadowOperationalEvidence)
    (caseLimit : Nat) :
    ∃ error, summarizeShadowDivergence arith records' config operational caseLimit =
      .error error := by
  cases h : summarizeShadowDivergence arith records' config operational caseLimit with
  | error error => exact ⟨error, rfl⟩
  | ok report =>
    have huniform := (summarizeShadowDivergence_eq_ok.mp h).1.perm hperm.symm
    exact absurd hmixed huniform.not_mixed

/-! ## Evidenced agreement -/

/-- The comparison of the targets is that of `compareTarget`. -/
def Compared (record : ShadowComparisonRecord) : Prop :=
  record.targetDiverged =
    match record.shadow with
    | .evaluated decision => compareTarget record.active decision
    | .failed _ => none

/-- The shadow was evaluated, and the targets were compared and do not differ. -/
def Evidenced (record : ShadowComparisonRecord) : Prop :=
  (∃ decision, record.shadow = .evaluated decision) ∧ record.targetDiverged = some false

/-- Both sides are silent and degrade alike, on targets that differ. -/
def SilentOnOtherTargets (record : ShadowComparisonRecord) : Prop :=
  ∃ decision, record.shadow = .evaluated decision ∧ record.active.route = .silent ∧
    decision.route = .silent ∧ record.active.fallbackReason = decision.fallbackReason ∧
      record.active.target ≠ decision.target

theorem categorizeRoutes_same {active shadow : ShadowRouteClass} {targetDiverged : Option Bool} :
    categorizeRoutes active shadow targetDiverged = .sameRouteSameTarget ↔
      active = shadow ∧ (active = .silent ∨ targetDiverged = some false) := by
  cases active <;> cases shadow <;> rcases targetDiverged with _ | _ | _ <;>
    simp [categorizeRoutes]

theorem categorize_same {active shadow : ShadowDecision} {targetDiverged : Option Bool} :
    categorize active shadow targetDiverged = .sameRouteSameTarget ↔
      active.fallbackReason = shadow.fallbackReason ∧ active.route = shadow.route ∧
        (active.route = .silent ∨ targetDiverged = some false) := by
  rw [categorize]
  cases active.fallbackReason <;> cases shadow.fallbackReason
  case none.none => simp [categorizeRoutes_same]
  case none.some => simp
  case some.none => simp
  case some.some activeReason shadowReason =>
    by_cases hreason : activeReason = shadowReason
    · simp [hreason, categorizeRoutes_same]
    · simp [hreason]

/-- Silent sides have targets that compare as equal exactly when they are equal. -/
theorem compareTarget_silent {active shadow : ShadowDecision} (hactive : active.route = .silent)
    (hshadow : shadow.route = .silent) :
    compareTarget active shadow = some false ↔ active.target = shadow.target := by
  rw [compareTarget, hactive, hshadow]
  cases active.target <;> cases shadow.target <;> simp

/-- **Where agreement is not evidenced**. -/
theorem evidenced_iff {record : ShadowComparisonRecord} (h : Compared record) :
    (category record = .sameRouteSameTarget → Evidenced record) ↔
      ¬SilentOnOtherTargets record := by
  rw [category, classifyShadowDivergence, Evidenced, SilentOnOtherTargets]
  rw [Compared] at h
  cases hshadow : record.shadow with
  | failed reason => simp
  | evaluated decision =>
    rw [hshadow] at h
    dsimp only at h ⊢
    rw [categorize_same]
    constructor
    · rintro hevidenced ⟨_, hdecision, hactive, hsilent, hfallback, htarget⟩
      cases hdecision
      have htargets := (hevidenced ⟨hfallback, hactive.trans hsilent.symm, .inl hactive⟩).2
      exact htarget ((compareTarget_silent hactive hsilent).mp (h.symm.trans htargets))
    · rintro hsilent ⟨hfallback, hroute, hactive | htargets⟩
      · refine ⟨⟨decision, rfl⟩, ?_⟩
        rw [h, compareTarget_silent hactive (hroute.symm.trans hactive)]
        by_contra htarget
        exact hsilent ⟨decision, rfl, hactive, hroute.symm.trans hactive, hfallback, htarget⟩
      · exact ⟨⟨decision, rfl⟩, htargets⟩

/-- Every count of a report is the number of the records that it names. -/
structure Counted (records : List ShadowComparisonRecord) (report : ShadowDivergenceReport) :
    Prop where
  names : ∀ name, name ∈ report.categoryCounts ↔ ∃ c : ShadowDivergenceCategory, c.asStr = name
  categories : ∀ c : ShadowDivergenceCategory,
    report.categoryCounts[c.asStr]? = some (records.countP fun record ↦ category record = c)
  total : report.totalComparisons = records.length
  sum : (ShadowDivergenceCategory.all.map fun c ↦ report.categoryCounts.getD c.asStr 0).sum =
    report.totalComparisons
  comparable : report.comparableComparisons =
    records.countP fun record ↦ (category record).isComparable
  diverged : report.divergedComparisons =
    records.countP fun record ↦ (category record).isDivergence

theorem counted_divergenceReport (arith : FloatArith)
    (orchestration : ShadowOrchestrationIdentity) (compatibility : ShadowCompatibilityKey)
    (records : List ShadowComparisonRecord) (operational : Option ShadowOperationalEvidence)
    (caseLimit : Nat) :
    Counted records (divergenceReport arith orchestration compatibility records operational
      (DivergenceTally.run caseLimit records)) := by
  have hcounts := @DivergenceTally.run_categoryCounts caseLimit records
  have hcategories : ∀ c : ShadowDivergenceCategory,
      (DivergenceTally.run caseLimit records).categoryCounts[c.asStr]? =
        some (records.countP fun record ↦ category record = c) := by
    intro c
    rw [hcounts, Histogram.getElem?_counts ShadowDivergenceCategory.asStr_injective
      ShadowDivergenceCategory.nodup_all c.mem_all]
  constructor
  case names =>
    intro name
    rw [divergenceReport, hcounts, Histogram.mem_counts]
    exact exists_congr fun c ↦ and_iff_right c.mem_all
  case categories => exact hcategories
  case total => rfl
  case sum =>
    have hsum : (ShadowDivergenceCategory.all.map fun c ↦
        records.countP fun record ↦ category record = c).sum = records.length :=
      Histogram.sum_countP_labels ShadowDivergenceCategory.nodup_all
        ShadowDivergenceCategory.mem_all records
    rw [divergenceReport, ← hsum]
    congr 1
    apply List.map_congr_left
    intro c _
    rw [ExtTreeMap.getD_eq_getD_getElem?, hcategories c]
    rfl
  case comparable => exact DivergenceTally.run_comparable records
  case diverged => exact DivergenceTally.run_diverged records

/-- **Agreement inferred from absence.** -/
theorem summarizeShadowDivergence_agreement_iff {arith : FloatArith}
    {records : List ShadowComparisonRecord} {config : ShadowOrchestratorConfig}
    {operational : Option ShadowOperationalEvidence} {caseLimit : Nat}
    {report : ShadowDivergenceReport} (hcompared : ∀ record ∈ records, Compared record)
    (haccepted : summarizeShadowDivergence arith records config operational caseLimit =
      .ok report) :
    ((∀ record ∈ records, category record = .sameRouteSameTarget → Evidenced record) ↔
        ∀ record ∈ records, ¬SilentOnOtherTargets record) ∧
      Counted records report ∧
      (∀ records', records.Perm records' → ∃ cases,
        summarizeShadowDivergence arith records' config operational caseLimit =
          .ok { report with divergentCases := cases }) ∧
      ∀ batch batch' : List ShadowComparisonRecord, Mixed batch → batch.Perm batch' →
        ∀ config operational caseLimit, ∃ error,
          summarizeShadowDivergence arith batch' config operational caseLimit = .error error := by
  refine ⟨forall₂_congr fun record hrecord ↦ evidenced_iff (hcompared record hrecord), ?_, ?_, ?_⟩
  · obtain ⟨-, first, -, rfl⟩ := summarizeShadowDivergence_eq_ok.mp haccepted
    exact counted_divergenceReport arith _ _ records operational caseLimit
  · exact fun records' hperm ↦ summarizeShadowDivergence_perm hperm haccepted
  · exact fun batch batch' hmixed hperm ↦ summarizeShadowDivergence_mixed hmixed hperm arith

/-- A record of the default bounds, on an event that the active policy is silent on. -/
def silentRecord (shadow : ShadowDecision) : ShadowComparisonRecord :=
  let identity policyId : ShadowPolicyIdentity := ⟨policyId, "1", "config", "mock", none⟩
  buildRecord "evt-1" "corr-1" (identity "active") (identity "shadow") .silent (.evaluated shadow)
    (.ofBounds .default)

theorem uniform_silentRecords (shadows : List ShadowDecision) :
    Uniform (shadows.map silentRecord) .default where
  valid := rfl
  schema record hrecord := by
    obtain ⟨shadow, -, rfl⟩ := List.mem_map.mp hrecord
    rfl
  stamped record hrecord := by
    obtain ⟨shadow, -, rfl⟩ := List.mem_map.mp hrecord
    rfl
  identity record hrecord other hother := by
    obtain ⟨shadow, -, rfl⟩ := List.mem_map.mp hrecord
    obtain ⟨shadow', -, rfl⟩ := List.mem_map.mp hother
    rfl

/-- What a shadow policy decides on three events: nothing, a wave, and nothing for want of time. -/
def severalShadows : List ShadowDecision :=
  [.silent, ⟨.semanticReuse, some (.asset "asset.wave" none), none⟩, ⟨.silent, none, some .timeout⟩]

/-- A batch of three categories, in which the agreement is evidenced. -/
theorem summarizeShadowDivergence_agreement_several :
    ∃ report, summarizeShadowDivergence exactArith (severalShadows.map silentRecord) .default none
        64 = .ok report ∧
      Counted (severalShadows.map silentRecord) report ∧
      (severalShadows.map silentRecord).map category =
        [.sameRouteSameTarget, .responseVsSilent, .fallbackVsSuccess] ∧
      Evidenced (silentRecord .silent) := by
  have haccepted : summarizeShadowDivergence exactArith (severalShadows.map silentRecord) .default
      none 64 = .ok _ :=
    summarizeShadowDivergence_eq_ok.mpr
      ⟨uniform_silentRecords severalShadows, _, List.mem_cons_self, rfl⟩
  have hcompared : ∀ record ∈ severalShadows.map silentRecord, Compared record := by
    intro record hrecord
    obtain ⟨shadow, -, rfl⟩ := List.mem_map.mp hrecord
    rfl
  obtain ⟨hagreement, hcounted, -⟩ :=
    summarizeShadowDivergence_agreement_iff hcompared haccepted
  refine ⟨_, haccepted, hcounted, by decide, hagreement.mpr ?_ _ List.mem_cons_self rfl⟩
  rintro record hrecord ⟨decision, hdecision, -, hroute, hreason, htarget⟩
  obtain ⟨shadow, hshadow, rfl⟩ := List.mem_map.mp hrecord
  cases hdecision
  rcases List.mem_cons.mp hshadow with rfl | hshadow
  · exact htarget rfl
  rcases List.mem_cons.mp hshadow with rfl | hshadow
  · cases hroute
  · rw [List.mem_singleton.mp hshadow] at hreason
    cases hreason

/-- A silent decision that names an asset is counted as the same target as none at all. -/
theorem summarizeShadowDivergence_silent_asset :
    ∃ report, summarizeShadowDivergence exactArith
        [silentRecord ⟨.silent, some (.asset "asset.wave" none), none⟩] .default none 64 =
          .ok report ∧
      report.categoryCounts["same_route_same_target"]? = some 1 ∧
      (silentRecord ⟨.silent, some (.asset "asset.wave" none), none⟩).targetDiverged = none := by
  refine ⟨_, summarizeShadowDivergence_eq_ok.mpr ⟨uniform_silentRecords [_], _,
    List.mem_singleton_self _, rfl⟩, ?_, rfl⟩
  exact (counted_divergenceReport exactArith _ _ _ none 64).categories .sameRouteSameTarget

end Aivtuber.ShadowEvidence
