import Mathlib.Data.List.Pairwise
import Aivtuber.App.ShadowEvidence

/-!
# Moderation evidence

What a shadow policy recommends for a message is scored against the reviews of that message
(`crates/app/src/moderation_evidence.rs`).  A batch of scored cases is summarized into one
report if every case was made under the bounds of one config and by one policy.

What a case scores is a property of the set of its reviews (`classifyModerationCase_perm`), and
the loop over the records counts each of them once (`ModerationTally.run_eq`).  A case is
counted as benign and suppressed only where it is an override, so a suppression that a reviewer
accepts is not counted, however benign the case.
-/

open Aivtuber.Check
open Aivtuber.ShadowEvidence (ShadowEvidenceError)
open Std (ExtTreeMap)

namespace Aivtuber.ModerationEvidence

/-! ## Cases and their reviews -/

inductive ModerationAction where
  | allow | ignore | delete | timeout | ban | humanReview
deriving DecidableEq, Repr

namespace ModerationAction

def asStr : ModerationAction → String
  | allow => "allow"
  | ignore => "ignore"
  | delete => "delete"
  | timeout => "timeout"
  | ban => "ban"
  | humanReview => "human_review"

/-- To escalate to a human is not destructive. -/
def isDestructive : ModerationAction → Bool
  | delete | timeout | ban => true
  | allow | ignore | humanReview => false

end ModerationAction

inductive ModerationCategory where
  | none | spam | flood | harassment | scam | hateSpeech | threat | sexualContent | impersonation
deriving DecidableEq, Repr

namespace ModerationCategory

def asStr : ModerationCategory → String
  | none => "none"
  | spam => "spam"
  | flood => "flood"
  | harassment => "harassment"
  | scam => "scam"
  | hateSpeech => "hate_speech"
  | threat => "threat"
  | sexualContent => "sexual_content"
  | impersonation => "impersonation"

def all : List ModerationCategory :=
  [none, spam, flood, harassment, scam, hateSpeech, threat, sexualContent, impersonation]

theorem asStr_injective : asStr.Injective := by
  intro a b h
  cases a <;> cases b <;> first | rfl | exact absurd h (by decide)

theorem mem_all (category : ModerationCategory) : category ∈ all := by
  cases category <;> decide

theorem nodup_all : all.Nodup := by decide

end ModerationCategory

inductive ModerationAmbiguity where
  | low | multipleAcceptable | insufficientContext
deriving DecidableEq, Repr

structure ModerationReview where
  reviewerId : String
  label : ModerationAction
  category : ModerationCategory
  ambiguity : ModerationAmbiguity
  acceptableActions : List ModerationAction
  requiresHumanReview : Bool
deriving DecidableEq, Repr

namespace ModerationReview

def accepts (review : ModerationReview) (action : ModerationAction) : Bool :=
  review.acceptableActions.contains action

def rejects (review : ModerationReview) (action : ModerationAction) : Bool :=
  !review.accepts action

end ModerationReview

structure ModerationPolicyIdentity where
  policyId : String
  policyVersion : String
  configFingerprint : String
  runtimeProfile : String
  reviewerProtocolVersion : String
  datasetId : Option String
deriving DecidableEq, Repr

structure ModerationOrchestrationIdentity where
  orchestratorSchemaVersion : String
  boundsFingerprint : String
deriving DecidableEq, Repr

structure ModerationRecommendation where
  action : ModerationAction
  category : ModerationCategory
  confidenceMicros : Nat
  reasonCode : String
deriving DecidableEq, Repr

structure ModerationComparisonRecord where
  schemaVersion : String
  /-- None for a record whose bounds are not known. -/
  orchestration : Option ModerationOrchestrationIdentity
  caseId : String
  correlationId : String
  policy : ModerationPolicyIdentity
  recommendation : ModerationRecommendation
  reviews : List ModerationReview
deriving DecidableEq, Repr

def moderationComparisonSchemaVersion : String := "0.1.0"

/-- Why a batch is refused. -/
inductive ModerationEvidenceError where
  | config (error : ShadowEvidenceError)
  | noRecords
  | comparisonSchema (caseId schemaVersion : String)
  | noOrchestration (caseId : String)
  | otherBounds (caseId : String) (stamped expected : ModerationOrchestrationIdentity)
  | otherPolicy (caseId : String) (found expected : ModerationPolicyIdentity)
  | noReviews (caseId : String)
deriving DecidableEq, Repr

namespace ModerationOrchestrationIdentity

/-- The identity of the bounds of a config. -/
def ofBounds (config : ShadowEvidence.ShadowOrchestratorConfig) : ModerationOrchestrationIdentity :=
  let shadow := ShadowEvidence.ShadowOrchestrationIdentity.ofBounds config
  ⟨shadow.orchestratorSchemaVersion, shadow.boundsFingerprint⟩

def fromConfig (config : ShadowEvidence.ShadowOrchestratorConfig) :
    Except ModerationEvidenceError ModerationOrchestrationIdentity := do
  let shadow ←
    (ShadowEvidence.ShadowOrchestrationIdentity.fromConfig config).mapError .config
  return ⟨shadow.orchestratorSchemaVersion, shadow.boundsFingerprint⟩

end ModerationOrchestrationIdentity

/-! ## Classification -/

inductive ModerationOutcome where
  | agreed | overridden | reviewerDisagreement
deriving DecidableEq, Repr

/-- Whether two reviewers fail to accept each other's label, or name other categories. -/
def disagree (left right : ModerationReview) : Bool :=
  !(left.accepts right.label && right.accepts left.label) || left.category ≠ right.category

/-- Whether two of the reviewers disagree. -/
def reviewersDisagree : List ModerationReview → Bool
  | [] => false
  | left :: rest => rest.any (disagree left) || reviewersDisagree rest

def classifyModerationCase (record : ModerationComparisonRecord) : ModerationOutcome × Bool :=
  let rejected := record.reviews.filter (·.rejects record.recommendation.action)
  let reviewerDisagreement := reviewersDisagree record.reviews
  let outcome :=
    if !rejected.isEmpty then .overridden
    else if reviewerDisagreement then .reviewerDisagreement
    else .agreed
  (outcome, reviewerDisagreement)

/-- Whether every reviewer labelled the case benign. -/
def reviewedAsBenign (record : ModerationComparisonRecord) : Bool :=
  !record.reviews.isEmpty && record.reviews.all (·.category = .none)

/-- Destructiveness rank. -/
def actionSeverity : ModerationAction → Nat
  | .allow => 0
  | .ignore => 1
  | .humanReview => 2
  | .delete => 3
  | .timeout => 4
  | .ban => 5

/-! ## The report -/

structure ModerationDivergentCaseRef where
  caseId : String
  correlationId : String
  recommendedAction : ModerationAction
  recommendedCategory : ModerationCategory
  outcome : ModerationOutcome
  severity : Nat
deriving DecidableEq, Repr

structure ModerationReportMetric where
  value : Float64
  sampleCount : Nat

inductive AuthorityEffect where
  | offlineEvidenceOnly
deriving DecidableEq, Repr

structure ModerationDivergenceReport where
  schemaVersion : String
  orchestration : ModerationOrchestrationIdentity
  policy : ModerationPolicyIdentity
  totalCases : Nat
  comparableCases : Nat
  divergedCases : Nat
  agreedCases : Nat
  overriddenCases : Nat
  reviewerDisagreementCases : Nat
  benignSuppressedCases : Nat
  destructiveOverriddenCases : Nat
  categoryCounts : ExtTreeMap String Nat
  outcomeCounts : ExtTreeMap String Nat
  metrics : ExtTreeMap String ModerationReportMetric
  divergentCases : List ModerationDivergentCaseRef
  divergentCasesTruncated : Bool
  authorityEffect : AuthorityEffect

def divergentCaseRef (record : ModerationComparisonRecord) (outcome : ModerationOutcome) :
    ModerationDivergentCaseRef where
  caseId := record.caseId
  correlationId := record.correlationId
  recommendedAction := record.recommendation.action
  recommendedCategory := record.recommendation.category
  outcome
  severity := actionSeverity record.recommendation.action

/-- The key of a record among the outcomes. -/
def outcomeKey (record : ModerationComparisonRecord) : String :=
  record.recommendation.category.asStr ++ "/" ++ record.recommendation.action.asStr

/-- What the loop over the records keeps. -/
structure ModerationTally where
  totalCases : Nat
  comparableCases : Nat
  divergedCases : Nat
  agreedCases : Nat
  overriddenCases : Nat
  reviewerDisagreementCases : Nat
  benignSuppressedCases : Nat
  destructiveOverriddenCases : Nat
  categoryCounts : ExtTreeMap String Nat
  outcomeCounts : ExtTreeMap String Nat
  divergentCases : List ModerationDivergentCaseRef

namespace ModerationTally

def new : ModerationTally where
  totalCases := 0
  comparableCases := 0
  divergedCases := 0
  agreedCases := 0
  overriddenCases := 0
  reviewerDisagreementCases := 0
  benignSuppressedCases := 0
  destructiveOverriddenCases := 0
  categoryCounts := Histogram.zero ModerationCategory.all ModerationCategory.asStr
  outcomeCounts := ∅
  divergentCases := []

/-- One turn of the loop. -/
def count (caseLimit : Nat) (tally : ModerationTally) (record : ModerationComparisonRecord) :
    ModerationTally :=
  let action := record.recommendation.action
  let category := record.recommendation.category
  let (outcome, reviewerDisagreement) := classifyModerationCase record
  let tally := { tally with
    totalCases := tally.totalCases + 1
    comparableCases := tally.comparableCases + 1
    categoryCounts := Histogram.bump tally.categoryCounts category.asStr
    outcomeCounts := Histogram.add tally.outcomeCounts (outcomeKey record)
    reviewerDisagreementCases :=
      tally.reviewerDisagreementCases + if reviewerDisagreement then 1 else 0 }
  if outcome = .overridden then
    { tally with
      overriddenCases := tally.overriddenCases + 1
      divergedCases := tally.divergedCases + 1
      destructiveOverriddenCases :=
        tally.destructiveOverriddenCases + if action.isDestructive then 1 else 0
      benignSuppressedCases :=
        tally.benignSuppressedCases +
          if action ≠ .allow && reviewedAsBenign record then 1 else 0
      -- Only an override is kept as a reference.
      divergentCases :=
        if tally.divergentCases.length < caseLimit then
          tally.divergentCases ++ [divergentCaseRef record outcome]
        else tally.divergentCases }
  else if !reviewerDisagreement then { tally with agreedCases := tally.agreedCases + 1 }
  else tally

def run (caseLimit : Nat) (records : List ModerationComparisonRecord) : ModerationTally :=
  records.foldl (count caseLimit) new

/-- The share of the overridden cases, and every count. -/
def metrics (arith : FloatArith) (tally : ModerationTally) :
    ExtTreeMap String ModerationReportMetric :=
  let counts : ExtTreeMap String ModerationReportMetric :=
    tally.categoryCounts.foldl
      (fun metrics category count ↦ metrics.insert ("shadow.moderation." ++ category ++ "_count")
        ⟨arith.ofNat count, tally.totalCases⟩) ∅
  let named :=
    [("agreed", tally.agreedCases),
      ("overridden", tally.overriddenCases),
      ("reviewer_disagreement", tally.reviewerDisagreementCases),
      ("benign_suppressed", tally.benignSuppressedCases),
      ("destructive_overridden", tally.destructiveOverriddenCases),
      ("total", tally.totalCases)].foldl
      (fun metrics (name, value) ↦ metrics.insert ("shadow.moderation." ++ name ++ "_count")
        ⟨arith.ofNat value, tally.totalCases⟩) counts
  let rate : Float64 :=
    if tally.comparableCases = 0 then .finite 0
    else
      arith.div (arith.mul (arith.ofNat tally.overriddenCases) (.finite 100))
        (arith.ofNat tally.comparableCases)
  named.insert "shadow.moderation.override_rate_pct" ⟨rate, tally.comparableCases⟩

end ModerationTally

def moderationDivergenceReportSchemaVersion : String := "1"

def divergenceReport (arith : FloatArith) (orchestration : ModerationOrchestrationIdentity)
    (policy : ModerationPolicyIdentity) (tally : ModerationTally) :
    ModerationDivergenceReport where
  schemaVersion := moderationDivergenceReportSchemaVersion
  orchestration
  policy
  totalCases := tally.totalCases
  comparableCases := tally.comparableCases
  divergedCases := tally.divergedCases
  agreedCases := tally.agreedCases
  overriddenCases := tally.overriddenCases
  reviewerDisagreementCases := tally.reviewerDisagreementCases
  benignSuppressedCases := tally.benignSuppressedCases
  destructiveOverriddenCases := tally.destructiveOverriddenCases
  categoryCounts := tally.categoryCounts
  outcomeCounts := tally.outcomeCounts
  metrics := tally.metrics arith
  divergentCases := tally.divergentCases
  divergentCasesTruncated := decide (tally.overriddenCases > tally.divergentCases.length)
  authorityEffect := .offlineEvidenceOnly

/-- What one record is checked for: its schema, its stamp, its policy and its reviews. -/
def checkRecord (orchestration : ModerationOrchestrationIdentity)
    (policy : ModerationPolicyIdentity) (record : ModerationComparisonRecord) :
    Except ModerationEvidenceError Unit := do
  ensure (.comparisonSchema record.caseId record.schemaVersion)
    (record.schemaVersion = moderationComparisonSchemaVersion)
  let stamped ← expect (.noOrchestration record.caseId) record.orchestration
  ensure (.otherBounds record.caseId stamped orchestration) (stamped = orchestration)
  ensure (.otherPolicy record.caseId record.policy policy) (record.policy = policy)
  ensure (.noReviews record.caseId) (!record.reviews.isEmpty)

def summarizeModerationDivergence (arith : FloatArith)
    (records : List ModerationComparisonRecord) (config : ShadowEvidence.ShadowOrchestratorConfig)
    (caseLimit : Nat) : Except ModerationEvidenceError ModerationDivergenceReport := do
  let orchestration ← ModerationOrchestrationIdentity.fromConfig config
  let first ← expect .noRecords records.head?
  records.forM (checkRecord orchestration first.policy)
  return divergenceReport arith orchestration first.policy
    (ModerationTally.run caseLimit records)

/-! ## The score of a case -/

/-- A reviewer rejects what is recommended. -/
def overridden (record : ModerationComparisonRecord) : Bool :=
  record.reviews.any (·.rejects record.recommendation.action)

/-- Nobody rejects it, and the reviewers agree with each other. -/
def settled (record : ModerationComparisonRecord) : Bool :=
  !overridden record && !reviewersDisagree record.reviews

/-- Nobody rejects it, and the reviewers disagree with each other. -/
def unsettled (record : ModerationComparisonRecord) : Bool :=
  !overridden record && reviewersDisagree record.reviews

theorem overridden_eq (record : ModerationComparisonRecord) :
    overridden record =
      !(record.reviews.filter (·.rejects record.recommendation.action)).isEmpty := by
  rw [overridden, Bool.eq_iff_iff, Bool.not_eq_true', List.any_eq_true, ← Bool.not_eq_true,
    List.isEmpty_iff, List.filter_eq_nil_iff]
  push Not
  rfl

theorem classifyModerationCase_eq (record : ModerationComparisonRecord) :
    classifyModerationCase record =
      (if overridden record then .overridden
        else if reviewersDisagree record.reviews then .reviewerDisagreement else .agreed,
        reviewersDisagree record.reviews) := by
  rw [classifyModerationCase, overridden_eq]

theorem disagree_comm (left right : ModerationReview) :
    disagree left right = disagree right left := by
  rw [disagree, disagree, Bool.and_comm]
  simp only [ne_comm]

/-- The reviewers agree when every two of them do. -/
theorem reviewersDisagree_eq_false {reviews : List ModerationReview} :
    reviewersDisagree reviews = false ↔ reviews.Pairwise fun left right ↦
      disagree left right = false := by
  induction reviews with
  | nil => simp [reviewersDisagree]
  | cons left rest ih =>
    rw [reviewersDisagree, Bool.or_eq_false_iff, List.any_eq_false, List.pairwise_cons, ih]
    simp only [Bool.not_eq_true]

theorem reviewersDisagree_perm {reviews reviews' : List ModerationReview}
    (h : reviews.Perm reviews') : reviewersDisagree reviews = reviewersDisagree reviews' := by
  have hfalse : reviewersDisagree reviews = false ↔ reviewersDisagree reviews' = false := by
    rw [reviewersDisagree_eq_false, reviewersDisagree_eq_false]
    apply h.pairwise_iff
    intro left right hagree
    rwa [disagree_comm]
  rw [Bool.eq_iff_iff, ← not_iff_not, Bool.not_eq_true, Bool.not_eq_true, hfalse]

/-- **The order of the reviews does not matter**. -/
theorem classifyModerationCase_perm (record : ModerationComparisonRecord)
    {reviews : List ModerationReview} (h : record.reviews.Perm reviews) :
    classifyModerationCase { record with reviews } = classifyModerationCase record := by
  rw [classifyModerationCase, classifyModerationCase, reviewersDisagree_perm h,
    (h.filter _).isEmpty_eq]

/-! ## What the loop counts -/

/-- The reference of an overridden record. -/
def overrideRef (record : ModerationComparisonRecord) : ModerationDivergentCaseRef :=
  divergentCaseRef record .overridden

/-- Every override of the batch. -/
def overrideRefs (records : List ModerationComparisonRecord) : List ModerationDivergentCaseRef :=
  (records.filter overridden).map overrideRef

theorem length_overrideRefs (records : List ModerationComparisonRecord) :
    (overrideRefs records).length = records.countP overridden := by
  rw [overrideRefs, List.length_map, List.countP_eq_length_filter]

namespace ModerationTally

/-- The counts of a batch, each of them the number of the records that it names. -/
def ofRecords (caseLimit : Nat) (records : List ModerationComparisonRecord) :
    ModerationTally where
  totalCases := records.length
  comparableCases := records.length
  divergedCases := records.countP overridden
  agreedCases := records.countP settled
  overriddenCases := records.countP overridden
  reviewerDisagreementCases := records.countP (reviewersDisagree ·.reviews)
  benignSuppressedCases := records.countP fun record ↦
    overridden record && (record.recommendation.action ≠ .allow && reviewedAsBenign record)
  destructiveOverriddenCases := records.countP fun record ↦
    overridden record && record.recommendation.action.isDestructive
  categoryCounts := Histogram.counts ModerationCategory.all ModerationCategory.asStr
    (·.recommendation.category) records
  outcomeCounts := Histogram.tally outcomeKey records
  divergentCases := (overrideRefs records).take caseLimit

/-- One more override is kept while there is room. -/
theorem take_append_ref {α : Type} (refs : List α) (ref : α) (limit : Nat) :
    (refs ++ [ref]).take limit =
      if (refs.take limit).length < limit then refs.take limit ++ [ref] else refs.take limit := by
  rw [List.length_take, List.take_append]
  split
  case isTrue h =>
    obtain ⟨k, hk⟩ : ∃ k, limit - refs.length = k + 1 :=
      ⟨limit - refs.length - 1, by omega⟩
    rw [hk, List.take_succ_cons, List.take_nil]
  case isFalse h =>
    rw [show limit - refs.length = 0 by omega, List.take_zero, List.append_nil]

/-- **What one turn counts**. -/
theorem count_ofRecords (caseLimit : Nat) (records : List ModerationComparisonRecord)
    (record : ModerationComparisonRecord) :
    count caseLimit (ofRecords caseLimit records) record =
      ofRecords caseLimit (records ++ [record]) := by
  have hcategories : Histogram.counts ModerationCategory.all ModerationCategory.asStr
      (fun r : ModerationComparisonRecord ↦ r.recommendation.category) (records ++ [record]) =
      Histogram.bump (Histogram.counts ModerationCategory.all ModerationCategory.asStr
        (·.recommendation.category) records) record.recommendation.category.asStr := by
    rw [Histogram.counts, List.foldl_append]
    rfl
  rw [count, classifyModerationCase_eq]
  simp only [ofRecords, List.length_append, List.countP_append, List.countP_singleton,
    overrideRefs, List.filter_append, List.map_append, hcategories, Histogram.tally_append,
    settled, List.length_singleton]
  rcases (overridden record).eq_false_or_eq_true with hoverridden | hoverridden
  · have hrefs : ([record].filter overridden).map overrideRef = [overrideRef record] := by
      rw [List.filter_singleton, hoverridden]
      rfl
    simp only [hoverridden, hrefs, take_append_ref, Bool.true_and, Bool.not_true, Bool.false_and,
      if_true, Bool.false_eq_true, if_false, Nat.add_zero]
    rfl
  · have hrefs : ([record].filter overridden).map overrideRef = [] := by
      rw [List.filter_singleton, hoverridden]
      rfl
    simp only [hoverridden, hrefs, List.append_nil, Bool.false_and, Bool.not_false, Bool.true_and,
      Bool.false_eq_true, if_false, Nat.add_zero]
    cases reviewersDisagree record.reviews <;> rfl

/-- **The loop counts each record once**. -/
theorem run_eq (caseLimit : Nat) (records : List ModerationComparisonRecord) :
    run caseLimit records = ofRecords caseLimit records := by
  induction records using List.reverseRecOn with
  | nil =>
    rw [ofRecords, overrideRefs, List.filter_nil, List.map_nil, List.take_nil]
    rfl
  | append_singleton records record ih =>
    rw [run] at ih
    rw [run, List.foldl_append, ih]
    exact count_ofRecords caseLimit records record

/-- Another order of the records may keep other references, and as many. -/
theorem ofRecords_perm {caseLimit : Nat} {records records' : List ModerationComparisonRecord}
    (h : records.Perm records') :
    ∃ divergentCases, ofRecords caseLimit records' =
        { ofRecords caseLimit records with divergentCases } ∧
      divergentCases.length = (ofRecords caseLimit records).divergentCases.length := by
  refine ⟨(overrideRefs records').take caseLimit, ?_, ?_⟩
  · have hcategories :
        Histogram.counts ModerationCategory.all ModerationCategory.asStr
            (fun r : ModerationComparisonRecord ↦ r.recommendation.category) records =
          Histogram.counts ModerationCategory.all ModerationCategory.asStr
            (fun r : ModerationComparisonRecord ↦ r.recommendation.category) records' :=
      Histogram.counts_perm ModerationCategory.asStr_injective ModerationCategory.nodup_all h
    simp only [ofRecords, h.length_eq, h.countP_eq, hcategories, Histogram.tally_perm outcomeKey h]
  · rw [ofRecords, List.length_take, List.length_take, length_overrideRefs, length_overrideRefs,
      h.countP_eq]

end ModerationTally

/-! ## Which batches are accepted -/

/-- A batch of one config, one schema and one policy, every case of which is reviewed. -/
structure Uniform (records : List ModerationComparisonRecord)
    (config : ShadowEvidence.ShadowOrchestratorConfig) (policy : ModerationPolicyIdentity) :
    Prop where
  valid : config.validate = .ok ()
  schema : ∀ record ∈ records, record.schemaVersion = moderationComparisonSchemaVersion
  stamped : ∀ record ∈ records,
    record.orchestration = some (ModerationOrchestrationIdentity.ofBounds config)
  policy : ∀ record ∈ records, record.policy = policy
  reviewed : ∀ record ∈ records, record.reviews ≠ []

theorem checkRecord_eq_ok {orchestration : ModerationOrchestrationIdentity}
    {policy : ModerationPolicyIdentity} {record : ModerationComparisonRecord} :
    checkRecord orchestration policy record = .ok () ↔
      record.schemaVersion = moderationComparisonSchemaVersion ∧
        record.orchestration = some orchestration ∧ record.policy = policy ∧
          record.reviews ≠ [] := by
  rw [checkRecord, unit_bind_eq_ok, ensure_eq_ok, decide_eq_true_iff, expect_bind_eq_ok]
  simp only [unit_bind_eq_ok, ensure_eq_ok, decide_eq_true_iff, Bool.not_eq_true',
    List.isEmpty_eq_false_iff]
  constructor
  · rintro ⟨hschema, stamped, hstamped, rfl, hpolicy, hreviews⟩
    exact ⟨hschema, hstamped, hpolicy, hreviews⟩
  · rintro ⟨hschema, hstamped, hpolicy, hreviews⟩
    exact ⟨hschema, orchestration, hstamped, rfl, hpolicy, hreviews⟩

section Accepted

variable {arith : FloatArith} {records records' : List ModerationComparisonRecord}
  {config : ShadowEvidence.ShadowOrchestratorConfig} {caseLimit : Nat}
  {report : ModerationDivergenceReport}

theorem fromConfig_eq_ok {orchestration : ModerationOrchestrationIdentity} :
    ModerationOrchestrationIdentity.fromConfig config = .ok orchestration ↔
      config.validate = .ok () ∧
        orchestration = ModerationOrchestrationIdentity.ofBounds config := by
  rw [ModerationOrchestrationIdentity.fromConfig, bind_eq_ok]
  simp only [mapError_eq_ok, ShadowEvidence.ShadowOrchestrationIdentity.fromConfig,
    unit_bind_eq_ok]
  constructor
  · rintro ⟨_, ⟨hvalid, hshadow⟩, h⟩
    cases hshadow
    cases h
    exact ⟨hvalid, rfl⟩
  · rintro ⟨hvalid, rfl⟩
    exact ⟨_, ⟨hvalid, rfl⟩, rfl⟩

/-- **The batches that are accepted** are the uniform ones. -/
theorem summarizeModerationDivergence_eq_ok :
    summarizeModerationDivergence arith records config caseLimit = .ok report ↔
      ∃ policy, records ≠ [] ∧ Uniform records config policy ∧
        report = divergenceReport arith (ModerationOrchestrationIdentity.ofBounds config) policy
          (ModerationTally.ofRecords caseLimit records) := by
  rw [summarizeModerationDivergence, bind_eq_ok]
  simp only [fromConfig_eq_ok, unit_bind_eq_ok, expect_bind_eq_ok, forM_eq_ok, checkRecord_eq_ok,
    ModerationTally.run_eq]
  constructor
  · rintro ⟨_, ⟨hvalid, rfl⟩, first, hfirst, hchecked, hreport⟩
    refine ⟨first.policy, List.ne_nil_of_mem (List.mem_of_mem_head? hfirst),
      ⟨hvalid, fun r h ↦ (hchecked r h).1, fun r h ↦ (hchecked r h).2.1,
        fun r h ↦ (hchecked r h).2.2.1, fun r h ↦ (hchecked r h).2.2.2⟩,
      (Except.ok.inj hreport).symm⟩
  · rintro ⟨policy, hne, huniform, rfl⟩
    obtain ⟨first, rest, rfl⟩ := List.exists_cons_of_ne_nil hne
    have hpolicy : first.policy = policy := huniform.policy first List.mem_cons_self
    refine ⟨_, ⟨huniform.valid, rfl⟩, first, rfl, ?_, ?_⟩
    · exact fun r h ↦ ⟨huniform.schema r h, huniform.stamped r h,
        (huniform.policy r h).trans hpolicy.symm, huniform.reviewed r h⟩
    · rw [hpolicy]
      rfl

theorem Uniform.perm {policy : ModerationPolicyIdentity} (h : Uniform records config policy)
    (hperm : records.Perm records') : Uniform records' config policy where
  valid := h.valid
  schema record hrecord := h.schema record (hperm.mem_iff.mpr hrecord)
  stamped record hrecord := h.stamped record (hperm.mem_iff.mpr hrecord)
  policy record hrecord := h.policy record (hperm.mem_iff.mpr hrecord)
  reviewed record hrecord := h.reviewed record (hperm.mem_iff.mpr hrecord)

/-- The order of the records changes nothing but which references are kept. -/
theorem summarizeModerationDivergence_perm (hperm : records.Perm records')
    (h : summarizeModerationDivergence arith records config caseLimit = .ok report) :
    ∃ divergentCases, summarizeModerationDivergence arith records' config caseLimit =
      .ok { report with divergentCases } := by
  obtain ⟨policy, hne, huniform, rfl⟩ := summarizeModerationDivergence_eq_ok.mp h
  obtain ⟨divergentCases, htally, hlength⟩ :=
    @ModerationTally.ofRecords_perm caseLimit records records' hperm
  refine ⟨divergentCases, summarizeModerationDivergence_eq_ok.mpr
    ⟨policy, fun hnil ↦ hne (hnil ▸ hperm).eq_nil, huniform.perm hperm, ?_⟩⟩
  rw [htally, divergenceReport, divergenceReport]
  dsimp only
  rw [hlength]
  rfl

end Accepted

/-! ## The counts of a report -/

/-- Every count of a report is the number of the records that it names, and the references are
those of the first overrides. -/
structure Counted (records : List ModerationComparisonRecord) (caseLimit : Nat)
    (report : ModerationDivergenceReport) : Prop where
  total : report.totalCases = records.length
  sum : report.agreedCases + report.overriddenCases + records.countP unsettled =
    report.totalCases
  agreed : report.agreedCases = records.countP settled
  overridden : report.overriddenCases = records.countP overridden
  disagreement : report.reviewerDisagreementCases = records.countP (reviewersDisagree ·.reviews)
  benign : report.benignSuppressedCases = records.countP fun record ↦
    ModerationEvidence.overridden record ∧ record.recommendation.action ≠ .allow ∧
      ∀ review ∈ record.reviews, review.category = .none
  destructive : report.destructiveOverriddenCases = records.countP fun record ↦
    ModerationEvidence.overridden record ∧ record.recommendation.action.isDestructive
  categories : ∀ category : ModerationCategory, report.categoryCounts[category.asStr]? =
    some (records.countP (·.recommendation.category = category))
  outcomes : ∀ key, report.outcomeCounts.getD key 0 = records.countP (outcomeKey · = key)
  references : report.divergentCases = (overrideRefs records).take caseLimit
  truncated : report.divergentCasesTruncated = true ↔
    report.divergentCases ≠ overrideRefs records

/-- A record is settled, overridden, or only disagreed on. -/
theorem countP_settled_add (records : List ModerationComparisonRecord) :
    records.countP settled + records.countP overridden + records.countP unsettled =
      records.length := by
  induction records with
  | nil => rfl
  | cons record records ih =>
    simp only [List.countP_cons, List.length_cons, settled, unsettled] at ih ⊢
    rcases (overridden record).eq_false_or_eq_true with h | h <;>
      rcases (reviewersDisagree record.reviews).eq_false_or_eq_true with h' | h' <;>
        simp only [h, h', Bool.not_true, Bool.not_false, Bool.and_true, Bool.and_false,
          Bool.false_eq_true, if_true, if_false] <;>
        omega

theorem reviewedAsBenign_iff {record : ModerationComparisonRecord} (h : record.reviews ≠ []) :
    reviewedAsBenign record = true ↔ ∀ review ∈ record.reviews, review.category = .none := by
  rw [reviewedAsBenign, Bool.and_eq_true, Bool.not_eq_true', List.isEmpty_eq_false_iff,
    List.all_eq_true, and_iff_right h]
  simp only [decide_eq_true_eq]

theorem counted_of_uniform {records : List ModerationComparisonRecord}
    {config : ShadowEvidence.ShadowOrchestratorConfig} {policy : ModerationPolicyIdentity}
    (huniform : Uniform records config policy) (arith : FloatArith)
    (orchestration : ModerationOrchestrationIdentity) (caseLimit : Nat) :
    Counted records caseLimit (divergenceReport arith orchestration policy
      (ModerationTally.ofRecords caseLimit records)) where
  total := rfl
  sum := countP_settled_add records
  agreed := rfl
  overridden := rfl
  disagreement := rfl
  benign := by
    apply List.countP_congr
    intro record hrecord
    rw [Bool.and_eq_true, Bool.and_eq_true, reviewedAsBenign_iff (huniform.reviewed record hrecord),
      decide_eq_true_iff, decide_eq_true_iff]
  destructive := by
    apply List.countP_congr
    intro record _
    rw [Bool.and_eq_true, decide_eq_true_iff]
  categories category :=
    Histogram.getElem?_counts ModerationCategory.asStr_injective ModerationCategory.nodup_all
      category.mem_all records
  outcomes key := by
    rw [divergenceReport, ModerationTally.ofRecords, ExtTreeMap.getD_eq_getD_getElem?,
      Histogram.getElem?_tally]
    split
    case isTrue h => exact h.symm
    case isFalse => rfl
  references := rfl
  truncated := by
    rw [divergenceReport, ModerationTally.ofRecords, decide_eq_true_iff, List.length_take,
      ← length_overrideRefs, ne_eq, List.take_eq_self_iff]
    dsimp only
    omega

/-- **Every case is counted once, and a benign suppression where it is an override**. -/
theorem summarizeModerationDivergence_counts {arith : FloatArith}
    {records : List ModerationComparisonRecord} {config : ShadowEvidence.ShadowOrchestratorConfig}
    {caseLimit : Nat} {report : ModerationDivergenceReport}
    (haccepted : summarizeModerationDivergence arith records config caseLimit = .ok report) :
    (∀ record ∈ records, ∀ reviews, record.reviews.Perm reviews →
        classifyModerationCase { record with reviews } = classifyModerationCase record) ∧
      (∀ records', records.Perm records' → ∃ divergentCases,
        summarizeModerationDivergence arith records' config caseLimit =
          .ok { report with divergentCases }) ∧
      Counted records caseLimit report := by
  refine ⟨?_, ?_, ?_⟩
  · intro record _ reviews hperm
    exact classifyModerationCase_perm record hperm
  · intro records' hperm
    exact summarizeModerationDivergence_perm hperm haccepted
  · obtain ⟨policy, -, huniform, rfl⟩ := summarizeModerationDivergence_eq_ok.mp haccepted
    exact counted_of_uniform huniform arith _ caseLimit

/-- A message that the policy would delete and its only reviewer finds benign, where the
reviewer accepts what `acceptableActions` lists. -/
def benignRecord (acceptableActions : List ModerationAction) : ModerationComparisonRecord where
  schemaVersion := moderationComparisonSchemaVersion
  orchestration := some (.ofBounds .default)
  caseId := "evt-criticism"
  correlationId := "corr-1"
  policy := ⟨"shadow", "1", "config", "mock", "1", none⟩
  recommendation := ⟨.delete, .harassment, 900000, "harassment_delete"⟩
  reviews := [⟨"rev-a", .allow, .none, .multipleAcceptable, acceptableActions, false⟩]

theorem uniform_benignRecord (acceptableActions : List ModerationAction) :
    Uniform [benignRecord acceptableActions] .default (benignRecord acceptableActions).policy where
  valid := rfl
  schema record hrecord := by
    rw [List.mem_singleton.mp hrecord]
    rfl
  stamped record hrecord := by
    rw [List.mem_singleton.mp hrecord]
    rfl
  policy record hrecord := by rw [List.mem_singleton.mp hrecord]
  reviewed record hrecord := by
    rw [List.mem_singleton.mp hrecord]
    exact List.cons_ne_nil _ _

theorem summarizeModerationDivergence_benignRecord (acceptableActions : List ModerationAction) :
    ∃ report, summarizeModerationDivergence exactArith [benignRecord acceptableActions] .default
        64 = .ok report ∧
      report.benignSuppressedCases =
        if overridden (benignRecord acceptableActions) then 1 else 0 := by
  refine ⟨_, summarizeModerationDivergence_eq_ok.mpr
    ⟨_, List.cons_ne_nil _ _, uniform_benignRecord acceptableActions, rfl⟩, ?_⟩
  rw [divergenceReport, ModerationTally.ofRecords]
  dsimp only
  rw [List.countP_singleton]
  have hbenign : reviewedAsBenign (benignRecord acceptableActions) = true := rfl
  rw [hbenign, benignRecord, Bool.and_true]
  simp only [ne_eq, reduceCtorEq, not_false_eq_true, decide_true, Bool.and_true]

/-- A reviewer who accepts nothing but `allow` overrides the recommendation. -/
theorem summarizeModerationDivergence_counts_override :
    ∃ report, summarizeModerationDivergence exactArith [benignRecord [.allow]] .default 64 =
        .ok report ∧
      Counted [benignRecord [.allow]] 64 report ∧ report.benignSuppressedCases = 1 := by
  obtain ⟨report, haccepted, hbenign⟩ := summarizeModerationDivergence_benignRecord [.allow]
  exact ⟨report, haccepted, (summarizeModerationDivergence_counts haccepted).2.2, hbenign⟩

/-- A reviewer who finds the message benign and accepts its deletion all the same: the
suppression is not counted. -/
theorem summarizeModerationDivergence_accepted_suppression :
    ∃ report, summarizeModerationDivergence exactArith [benignRecord [.allow, .delete]] .default
        64 = .ok report ∧
      report.benignSuppressedCases ≠ [benignRecord [.allow, .delete]].countP fun record ↦
        record.recommendation.action ≠ .allow ∧
          ∀ review ∈ record.reviews, review.category = .none := by
  obtain ⟨report, haccepted, hbenign⟩ :=
    summarizeModerationDivergence_benignRecord [.allow, .delete]
  refine ⟨report, haccepted, ?_⟩
  rw [hbenign]
  decide

end Aivtuber.ModerationEvidence
