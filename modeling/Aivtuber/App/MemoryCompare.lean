import Aivtuber.App.MemoryEval

/-!
# Memory comparison

The verdict of `crates/app/src/memory_compare.rs` on a candidate that would take over from the
runtime.  Both reports are held against the fixture and against their own records before they
are compared; the verdict depends on the rows of the candidate, and on the totals of both.
-/

open Aivtuber.Check Saturating

namespace Aivtuber.MemoryCompare

variable {rounding : Rounding}

inductive CandidateVerdict where
  | improvement | noImprovement | rejected
deriving DecidableEq, Repr

/-- One aggregate metric of both sides. -/
structure MetricDelta where
  metric : String
  runtime : Float64
  candidate : Float64
  lowerIsBetter : Bool
  candidateBetter : Bool
  candidateWorse : Bool

structure CaseDelta where
  case : String
  runtimeDelivered : List String
  candidateDelivered : List String
  runtimeTemporalOrderErrors : Nat
  candidateTemporalOrderErrors : Nat
  runtimeStaleMemoryUse : Nat
  candidateStaleMemoryUse : Nat
  runtimeAbsentViolations : Nat
  candidateAbsentViolations : Nat
  runtimeTruncatedClaims : Nat
  candidateTruncatedClaims : Nat
  runtimeCausalPairsDelivered : Nat
  candidateCausalPairsDelivered : Nat
  runtimeRequestBytes : Nat
  candidateRequestBytes : Nat

structure MemoryComparison (rounding : Rounding) where
  fixtureSchemaVersion : String
  verdict : CandidateVerdict
  reasons : List String
  deltas : List MetricDelta
  caseDeltas : List CaseDelta
  runtimeTotals : Totals rounding
  candidateTotals : Totals rounding

/-- Tolerance of a float that is derived again. -/
def floatTolerance (rounding : Rounding) : Float64 := rounding.round (1 / 10 ^ 12)

/-! ## Validation -/

section Validate

variable (format : Format) (label : String)

/-- A declared number is the derived one, up to the tolerance. -/
def withinTolerance (rounding : Rounding) (derived declared : Float64) : Bool :=
  !(floatTolerance rounding).lt (rounding.sub derived declared).abs

def validateCase (fixtureCase : MemoryEvalCase) (case : CaseReport rounding) :
    Except String Unit := do
  let name := label ++ " case " ++ format.debug case.case
  let correctnessValue := case.currentFactCorrectness.val
  ensure
    (name ++ " carries expectations the fixture does not declare: must_deliver " ++
      format.debugList case.mustDeliver ++ " (fixture " ++
      format.debugList fixtureCase.mustDeliver ++ "), refused " ++
      format.debugList case.refusedClaims ++ " (fixture " ++
      format.debugList fixtureCase.mustNotDeliver ++ "), stale " ++
      format.debugList case.staleClaims ++ " (fixture " ++ format.debugList fixtureCase.stale ++ ")")
    (case.mustDeliver = fixtureCase.mustDeliver ∧
      case.refusedClaims = fixtureCase.mustNotDeliver ∧ case.staleClaims = fixtureCase.stale)
  case.delivered.forM fun id ↦
    ensure (name ++ " delivered " ++ format.debug id ++ ", which the fixture does not declare")
      (MemoryEvalClaim.declares fixtureCase.claims id)
  ensure
    (name ++ " declares non-finite/out-of-range correctness " ++ format.float correctnessValue)
    (correctnessValue.isFinite && (Float64.finite 0).le correctnessValue &&
      correctnessValue.le (rounding.ofNat 1))
  ensure
    (name ++ " declares correctness " ++ format.float correctnessValue ++ " but delivered " ++
      format.debugList case.delivered ++ " of " ++ format.debugList case.mustDeliver)
    (withinTolerance rounding (correctness rounding case.mustDeliver case.delivered).val
      correctnessValue)
  ensure
    (name ++ " declares stale_memory_use " ++ toString case.staleMemoryUse ++ " but delivered " ++
      format.debugList case.staleClaims)
    ((case.delivered.filter (· ∈ case.staleClaims)).length = case.staleMemoryUse)
  ensure
    (name ++ " declares absent_violations " ++ toString case.absentViolations ++
      " but delivered " ++ format.debugList case.delivered ++ " of the refused " ++
      format.debugList case.refusedClaims)
    ((case.delivered.filter (· ∈ case.refusedClaims)).length = case.absentViolations)
  let supported := declaredCausalPairsDelivered fixtureCase case.delivered
  ensure
    (name ++ " declares " ++ toString case.retainedCausalSpans ++
      " retained causal span(s), but its delivered set supports " ++ toString supported ++
      " of the fixture's declared pair(s)")
    (case.retainedCausalSpans ≤ supported)

/-- The totals that disagree with the rows. -/
def mismatchedTotals (totals : Totals rounding) (cases : List (CaseReport rounding)) :
    List String :=
  let count := fun (metric : String) (sum declared : Nat) ↦
    (metric, rounding.ofNat sum, rounding.ofNat declared)
  let compared : List (String × Float64 × Float64) :=
    [("current_fact_correctness", meanCorrectness cases, totals.currentFactCorrectness.val),
      count "stale_memory_use" (sumOf CaseReport.staleMemoryUse cases) totals.staleMemoryUse,
      count "absent_violations" (sumOf CaseReport.absentViolations cases) totals.absentViolations,
      count "temporal_order_errors" (sumOf CaseReport.temporalOrderErrors cases)
        totals.temporalOrderErrors,
      count "refused_items" (sumOf (fun case ↦ case.refusedItems.length) cases)
        totals.refusedItems,
      count "truncated_claims" (sumOf CaseReport.truncatedClaims cases) totals.truncatedClaims,
      count "retained_causal_spans" (sumOf CaseReport.retainedCausalSpans cases)
        totals.retainedCausalSpans]
  (compared.filter fun entry ↦ !withinTolerance rounding entry.2.1 entry.2.2).map Prod.fst

def validateTotals (totals : Totals rounding) (cases : List (CaseReport rounding)) :
    Except String Unit :=
  let mismatched := mismatchedTotals totals cases
  ensure (label ++ " totals disagree with its own case rows: " ++ ", ".intercalate mismatched)
    mismatched.isEmpty

/-- The rows of a report, beside the cases of the fixture. -/
def validateCases : (seen : List String) → List (MemoryEvalCase × CaseReport rounding) →
    Except String Unit
  | _, [] => .ok ()
  | seen, (fixtureCase, case) :: rest => do
    ensure (label ++ " repeats case " ++ format.debug case.case) (case.case ∉ seen)
    ensure
      (label ++ " case order differs from the fixture: " ++ format.debug case.case ++
        " where " ++ format.debug fixtureCase.id ++ " was measured")
      (case.case = fixtureCase.id)
    validateCase format label fixtureCase case
    validateCases (case.case :: seen) rest

/-- Refuse a report that disagrees with its own records, or is not about the fixture. -/
def validateReport (fixture : MemoryEvalFixture) (digest : String) (report : EvalReport rounding) :
    Except String Unit := do
  ensure
    (label ++ " schema_version " ++ format.debug report.schemaVersion ++ ", expected " ++
      memoryEvalReportSchemaVersion)
    (report.schemaVersion = memoryEvalReportSchemaVersion)
  ensure
    (label ++ " fixture_digest " ++ format.debug report.fixtureDigest ++
      " does not name the fixture it is compared under (" ++ digest ++ ")")
    (report.fixtureDigest = digest)
  ensure
    (label ++ " fixture_schema_version " ++ format.debug report.fixtureSchemaVersion ++
      ", expected " ++ memoryEvalFixtureSchemaVersion)
    (report.fixtureSchemaVersion = memoryEvalFixtureSchemaVersion)
  ensure
    (label ++ " covers " ++ toString report.cases.length ++ " case(s), the fixture has " ++
      toString fixture.cases.length)
    (report.cases.length = fixture.cases.length)
  ensure (label ++ " report covers no case") (!report.cases.isEmpty)
  ensure
    (label ++ " totals declare " ++ toString report.totals.cases ++ " case(s) over " ++
      toString report.cases.length ++ " row(s)")
    (report.totals.cases = report.cases.length)
  validateCases format label [] (fixture.cases.zip report.cases)
  validateTotals label report.totals report.cases

end Validate

/-! ## Comparison -/

def scalarDelta (rounding : Rounding) (metric : String) (runtime candidate : Float64)
    (lowerIsBetter : Bool) : MetricDelta :=
  let epsilon := floatTolerance rounding
  let less := (rounding.add candidate epsilon).lt runtime
  let greater := (rounding.add runtime epsilon).lt candidate
  { metric := metric
    runtime := runtime
    candidate := candidate
    lowerIsBetter := lowerIsBetter
    candidateBetter := if lowerIsBetter then less else greater
    candidateWorse := if lowerIsBetter then greater else less }

/-- A metric that counts, where less is better. -/
def countDelta (rounding : Rounding) (metric : String) (runtime candidate : Nat) : MetricDelta :=
  scalarDelta rounding metric (rounding.ofNat runtime) (rounding.ofNat candidate) true

/-- Why a row of the candidate stands against it. -/
def caseReasons (format : Format) (name : String) (candidate : CaseReport rounding) :
    List String :=
  let about := fun message ↦ "case " ++ format.debug name ++ ": " ++ message
  let zero := [("stale_memory_use", candidate.staleMemoryUse),
    ("absent_violations", candidate.absentViolations),
    ("truncated_claims", candidate.truncatedClaims)]
  let items := candidate.refusedItems.map fun item ↦
    item.reason.debug ++ " " ++ item.claimId.getD "<unnamed>"
  (zero.filter fun entry ↦ 0 < entry.2).map (fun entry ↦
      about ("candidate " ++ entry.1 ++ " " ++ toString entry.2 ++ ", which must be zero")) ++
    (if candidate.refusedItems.isEmpty then []
      else [about ("candidate answered with " ++ toString candidate.refusedItems.length ++
        " item(s) the project refused: " ++ ", ".intercalate items)]) ++
    (if candidate.withinItemBudget then [] else [about "candidate item bound violated"]) ++
    if candidate.withinByteBudget then [] else [about "candidate byte bound violated"]

def caseDelta (fixtureCase : MemoryEvalCase) (runtime candidate : CaseReport rounding) :
    CaseDelta where
  case := runtime.case
  runtimeDelivered := runtime.delivered
  candidateDelivered := candidate.delivered
  runtimeTemporalOrderErrors := runtime.temporalOrderErrors
  candidateTemporalOrderErrors := candidate.temporalOrderErrors
  runtimeStaleMemoryUse := runtime.staleMemoryUse
  candidateStaleMemoryUse := candidate.staleMemoryUse
  runtimeAbsentViolations := runtime.absentViolations
  candidateAbsentViolations := candidate.absentViolations
  runtimeTruncatedClaims := runtime.truncatedClaims
  candidateTruncatedClaims := candidate.truncatedClaims
  runtimeCausalPairsDelivered := declaredCausalPairsDelivered fixtureCase runtime.delivered
  candidateCausalPairsDelivered := declaredCausalPairsDelivered fixtureCase candidate.delivered
  runtimeRequestBytes := runtime.requestBytes
  candidateRequestBytes := candidate.requestBytes

def temporalDelta (runtime candidate : Totals rounding) : MetricDelta :=
  countDelta rounding "temporal_order_errors" runtime.temporalOrderErrors
    candidate.temporalOrderErrors

def correctnessDelta (runtime candidate : Totals rounding) : MetricDelta :=
  scalarDelta rounding "current_fact_correctness" runtime.currentFactCorrectness.val
    candidate.currentFactCorrectness.val false

def totalDeltas (runtime candidate : Totals rounding) (caseDeltas : List CaseDelta) :
    List MetricDelta :=
  [temporalDelta runtime candidate, correctnessDelta runtime candidate,
    countDelta rounding "stale_memory_use" runtime.staleMemoryUse candidate.staleMemoryUse,
    countDelta rounding "absent_violations" runtime.absentViolations candidate.absentViolations,
    countDelta rounding "truncated_claims" runtime.truncatedClaims candidate.truncatedClaims,
    countDelta rounding "max_request_bytes" runtime.maxRequestBytes candidate.maxRequestBytes,
    countDelta rounding "refused_items" runtime.refusedItems candidate.refusedItems,
    scalarDelta rounding "causal_pairs_delivered"
      (rounding.ofNat ((caseDeltas.map CaseDelta.runtimeCausalPairsDelivered).sum % (u64Max + 1)))
      (rounding.ofNat ((caseDeltas.map CaseDelta.candidateCausalPairsDelivered).sum % (u64Max + 1)))
      false]

def verdictOf (regressions : List String) (deltas : List MetricDelta) : CandidateVerdict :=
  let quality := deltas.filter fun delta ↦
    delta.metric ∈ ["temporal_order_errors", "current_fact_correctness"]
  if !regressions.isEmpty then .rejected
  else if quality.any MetricDelta.candidateBetter then .improvement
  else .noImprovement

def verdictReasons (format : Format) (verdict : CandidateVerdict) (deltas : List MetricDelta) :
    List String :=
  match verdict with
  | .improvement => (deltas.filter MetricDelta.candidateBetter).map fun delta ↦
      "candidate improves " ++ delta.metric ++ ": " ++ format.float delta.runtime ++ " -> " ++
        format.float delta.candidate
  | .noImprovement =>
    ["candidate wins neither temporal_order_errors nor current_fact_correctness"]
  | .rejected => []

/-- Judge `candidate` against `runtime`. -/
def compare (format : Format) (fixtureDigest : MemoryEvalFixture → String)
    (fixture : MemoryEvalFixture) (runtime candidate : EvalReport rounding) :
    Except String (MemoryComparison rounding) := do
  (fixture.validate format).mapError ("the fixture could not be measured: " ++ ·)
  let digest := fixtureDigest fixture
  validateReport format "runtime" fixture digest runtime
  validateReport format "sidecar" fixture digest candidate
  let rows := fixture.cases.zip (runtime.cases.zip candidate.cases)
  rows.forM fun row ↦
    ensure ("case " ++ format.debug row.2.1.case ++ " requires different claims on each side")
      (row.2.1.mustDeliver = row.2.2.mustDeliver)
  let caseDeltas := rows.map fun row ↦ caseDelta row.1 row.2.1 row.2.2
  let regressions := rows.flatMap fun row ↦ caseReasons format row.2.1.case row.2.2
  let deltas := totalDeltas runtime.totals candidate.totals caseDeltas
  let verdict := verdictOf regressions deltas
  return {
    fixtureSchemaVersion := runtime.fixtureSchemaVersion
    verdict := verdict
    reasons := regressions ++ verdictReasons format verdict deltas
    deltas := deltas
    caseDeltas := caseDeltas
    runtimeTotals := runtime.totals
    candidateTotals := candidate.totals }

/-! ## Deltas -/

theorem floatTolerance_eq (rounding : Rounding) :
    ∃ e, 0 ≤ e ∧ floatTolerance rounding = .finite e ∧ rounding.round e = .finite e := by
  have hfinite : (floatTolerance rounding).isFinite = true := by
    apply rounding.round_finite
    rw [abs_of_nonneg (by norm_num)]
    norm_num
  cases he : floatTolerance rounding with
  | finite e =>
    refine ⟨e, ?_, rfl, rounding.round_round he⟩
    have hmono := rounding.round_mono (show (0 : ℚ) ≤ 1 / 10 ^ 12 by norm_num)
    rw [rounding.round_zero, show rounding.round (1 / 10 ^ 12) = .finite e from he] at hmono
    simpa [Float64.le] using hmono
  | infinite negative => simp [he, Float64.isFinite] at hfinite
  | nan => simp [he, Float64.isFinite] at hfinite

/-- Two floats are not each above the other by more than the tolerance. -/
theorem not_both_beyond {a b : Float64} (ha : rounding.IsDouble a) (hb : rounding.IsDouble b)
    (hab : (rounding.add a (floatTolerance rounding)).lt b = true) :
    (rounding.add b (floatTolerance rounding)).lt a = false := by
  obtain ⟨e, he, hepsilon, -⟩ := floatTolerance_eq rounding
  rw [hepsilon] at hab ⊢
  cases a with
  | finite a =>
    cases b with
    | finite b =>
      rcases le_total a b with hle | hle
      · exact Rounding.not_lt_add (hb b rfl) he hle
      · rw [Rounding.not_lt_add (ha a rfl) he hle] at hab
        cases hab
    | infinite negative =>
      cases negative with
      | false => rfl
      | true =>
        rw [Rounding.lt_negInfinite] at hab
        cases hab
    | nan => rfl
  | infinite negative =>
    cases b with
    | finite b =>
      cases negative with
      | false => cases hab
      | true => exact Rounding.lt_negInfinite _
    | infinite negative' =>
      cases negative <;> cases negative' <;> first | rfl | cases hab
    | nan => rfl
  | nan => cases hab

/-- A metric is not both better and worse. -/
theorem scalarDelta_not_worse {metric : String} {runtime candidate : Float64} {lower : Bool}
    (hruntime : rounding.IsDouble runtime) (hcandidate : rounding.IsDouble candidate)
    (h : (scalarDelta rounding metric runtime candidate lower).candidateBetter = true) :
    (scalarDelta rounding metric runtime candidate lower).candidateWorse = false := by
  cases lower with
  | true => exact not_both_beyond hcandidate hruntime h
  | false => exact not_both_beyond hruntime hcandidate h

/-- A count that the rows say is zero is not worse than any. -/
theorem countDelta_not_worse {metric : String} {runtime candidate : Nat}
    (h : withinTolerance rounding (rounding.ofNat 0) (rounding.ofNat candidate) = true) :
    (countDelta rounding metric runtime candidate).candidateWorse = false := by
  obtain ⟨e, he, hepsilon, hdouble⟩ := floatTolerance_eq rounding
  change (rounding.add (rounding.ofNat runtime) (floatTolerance rounding)).lt
    (rounding.ofNat candidate) = false
  rw [withinTolerance, Bool.not_eq_true', hepsilon] at h
  rw [hepsilon]
  have hzero : rounding.ofNat 0 = .finite 0 := by
    rw [Rounding.ofNat, Nat.cast_zero, rounding.round_zero]
  have hcandidate := @Rounding.le_ofNat rounding candidate
  have hcandidateDouble := @Rounding.isDouble_ofNat rounding candidate
  cases hvalue : rounding.ofNat candidate with
  | finite value =>
    rw [hvalue] at h hcandidate hcandidateDouble
    have hnonneg : 0 ≤ value := by simpa [Float64.le] using hcandidate
    rw [hzero, Rounding.sub_zero_left (hcandidateDouble value rfl), Float64.abs, abs_neg,
      abs_of_nonneg hnonneg] at h
    have hle : value ≤ e := by simpa [Float64.lt] using h
    have hruntime := @Rounding.le_ofNat rounding runtime
    cases hruntimeValue : rounding.ofNat runtime with
    | finite count =>
      rw [hruntimeValue] at hruntime
      have hcount : 0 ≤ count := by simpa [Float64.le] using hruntime
      have hmono := rounding.round_mono (show e ≤ count + e by linarith)
      rw [hdouble] at hmono
      rw [Bool.eq_false_iff]
      exact fun hlt ↦ Rounding.le_of_le_of_not hmono hlt hle
    | infinite negative =>
      cases negative with
      | false => rfl
      | true =>
        rw [hruntimeValue] at hruntime
        cases hruntime
    | nan => rfl
  | infinite negative =>
    rw [hvalue, hzero] at h
    cases h
  | nan => cases rounding.add (rounding.ofNat runtime) (.finite e) <;> rfl

/-! ## Accepted reports -/

/-- A row of a candidate that nothing stands against. -/
structure Clean (case : CaseReport rounding) : Prop where
  stale : case.staleMemoryUse = 0
  absent : case.absentViolations = 0
  truncated : case.truncatedClaims = 0
  refused : case.refusedItems = []
  items : case.withinItemBudget = true
  bytes : case.withinByteBudget = true

theorem caseReasons_eq_nil {format : Format} {name : String} {case : CaseReport rounding} :
    caseReasons format name case = [] ↔ Clean case := by
  rw [caseReasons]
  simp only [List.append_eq_nil_iff, List.map_eq_nil_iff, List.filter_eq_nil_iff]
  constructor
  · rintro ⟨⟨⟨hzero, hrefused⟩, hitems⟩, hbytes⟩
    constructor
    case stale => simpa using hzero _ (List.mem_cons_self)
    case absent => simpa using hzero _ (List.mem_cons_of_mem _ List.mem_cons_self)
    case truncated =>
        simpa using hzero _ (List.mem_cons_of_mem _ (List.mem_cons_of_mem _ List.mem_cons_self))
    case refused =>
        by_contra hne
        simp [hne] at hrefused
    case items =>
        by_contra hne
        simp [hne] at hitems
    case bytes =>
        by_contra hne
        simp [hne] at hbytes
  · intro h
    simp [h.stale, h.absent, h.truncated, h.refused, h.items, h.bytes]

/-- What a report that was accepted says of its rows and totals. -/
structure Accepted (fixture : MemoryEvalFixture) (report : EvalReport rounding) : Prop where
  length : report.cases.length = fixture.cases.length
  rows : ∀ row ∈ fixture.cases.zip report.cases,
    row.2.staleMemoryUse = (row.2.delivered.filter (· ∈ row.1.stale)).length ∧
      row.2.absentViolations = (row.2.delivered.filter (· ∈ row.1.mustNotDeliver)).length
  totals : mismatchedTotals report.totals report.cases = []

theorem validateCase_eq_ok {format : Format} {label : String} {fixtureCase : MemoryEvalCase}
    {case : CaseReport rounding} (h : validateCase format label fixtureCase case = .ok ()) :
    case.staleMemoryUse = (case.delivered.filter (· ∈ fixtureCase.stale)).length ∧
      case.absentViolations = (case.delivered.filter (· ∈ fixtureCase.mustNotDeliver)).length := by
  simp only [validateCase, unit_bind_eq_ok, ensure_eq_ok, decide_eq_true_eq] at h
  obtain ⟨⟨-, hrefused, hstale⟩, -, -, -, hstaleCount, habsent, -⟩ := h
  rw [← hstale, ← hrefused]
  exact ⟨hstaleCount.symm, habsent.symm⟩

theorem validateCases_eq_ok {format : Format} {label : String} {seen : List String}
    {rows : List (MemoryEvalCase × CaseReport rounding)}
    (h : validateCases format label seen rows = .ok ()) :
    ∀ row ∈ rows, validateCase format label row.1 row.2 = .ok () := by
  induction rows generalizing seen with
  | nil => exact fun row hrow ↦ absurd hrow List.not_mem_nil
  | cons first rest ih =>
    obtain ⟨fixtureCase, case⟩ := first
    simp only [validateCases, unit_bind_eq_ok] at h
    obtain ⟨-, -, hcase, hrest⟩ := h
    rintro row (_ | ⟨_, hrow⟩)
    · exact hcase
    · exact ih hrest row hrow

theorem accepted_of_validateReport {format : Format} {label digest : String}
    {fixture : MemoryEvalFixture} {report : EvalReport rounding}
    (h : validateReport format label fixture digest report = .ok ()) : Accepted fixture report := by
  simp only [validateReport, validateTotals, unit_bind_eq_ok, ensure_eq_ok, decide_eq_true_eq] at h
  obtain ⟨-, -, -, hlength, -, -, hcases, htotals⟩ := h
  exact ⟨hlength, fun row hrow ↦ validateCase_eq_ok (validateCases_eq_ok hcases row hrow),
    List.isEmpty_iff.mp htotals⟩

/-- What a comparison that succeeds was made from. -/
structure Compared (fixture : MemoryEvalFixture) (runtime candidate : EvalReport rounding)
    (comparison : MemoryComparison rounding) : Prop where
  accepted : Accepted fixture candidate
  deltas : ∃ caseDeltas, comparison.deltas = totalDeltas runtime.totals candidate.totals caseDeltas
  verdict : ∃ regressions, comparison.verdict = verdictOf regressions comparison.deltas ∧
    (regressions = [] ↔ ∀ case ∈ candidate.cases, Clean case)

theorem compared_of_compare {format : Format} {fixtureDigest : MemoryEvalFixture → String}
    {fixture : MemoryEvalFixture} {runtime candidate : EvalReport rounding}
    {comparison : MemoryComparison rounding}
    (h : compare format fixtureDigest fixture runtime candidate = .ok comparison) :
    Compared fixture runtime candidate comparison := by
  simp only [compare, unit_bind_eq_ok] at h
  obtain ⟨-, hruntime, hcandidate, -, h⟩ := h
  cases h
  have hruntime := accepted_of_validateReport hruntime
  have hcandidate := accepted_of_validateReport hcandidate
  refine ⟨hcandidate, ⟨_, rfl⟩, _, rfl, ?_⟩
  rw [List.flatMap_eq_nil_iff]
  -- The rows show every case of the candidate.
  have hlength : candidate.cases.length ≤ runtime.cases.length := by
    rw [hruntime.length, hcandidate.length]
  have hrows : (fixture.cases.zip (runtime.cases.zip candidate.cases)).map (fun row ↦ row.2.2) =
      candidate.cases := by
    have hzip : (fixture.cases.zip (runtime.cases.zip candidate.cases)).map Prod.snd =
        runtime.cases.zip candidate.cases := by
      apply List.map_snd_zip
      rw [List.length_zip, hruntime.length, hcandidate.length, Nat.min_self]
    calc (fixture.cases.zip (runtime.cases.zip candidate.cases)).map (fun row ↦ row.2.2)
        = ((fixture.cases.zip (runtime.cases.zip candidate.cases)).map Prod.snd).map Prod.snd := by
          rw [List.map_map]
          rfl
      _ = candidate.cases := by rw [hzip, List.map_snd_zip hlength]
  constructor
  · intro hnil case hcase
    rw [← hrows] at hcase
    obtain ⟨row, hrow, rfl⟩ := List.mem_map.mp hcase
    exact caseReasons_eq_nil.mp (hnil row hrow)
  · intro hclean row hrow
    refine caseReasons_eq_nil.mpr (hclean _ ?_)
    rw [← hrows]
    exact List.mem_map.mpr ⟨row, hrow, rfl⟩

/-- The candidate is ahead on a metric of quality. -/
def Wins (runtime candidate : Totals rounding) : Prop :=
  (temporalDelta runtime candidate).candidateBetter = true ∨
    (correctnessDelta runtime candidate).candidateBetter = true

theorem verdictOf_totalDeltas (regressions : List String) (runtime candidate : Totals rounding)
    (caseDeltas : List CaseDelta) :
    (verdictOf regressions (totalDeltas runtime candidate caseDeltas) = .rejected ↔
      regressions ≠ []) ∧
    (verdictOf regressions (totalDeltas runtime candidate caseDeltas) = .improvement ↔
      regressions = [] ∧ Wins runtime candidate) := by
  have hquality : ((totalDeltas runtime candidate caseDeltas).filter fun delta ↦
      delta.metric ∈ ["temporal_order_errors", "current_fact_correctness"]) =
        [temporalDelta runtime candidate, correctnessDelta runtime candidate] := by
    simp [totalDeltas, temporalDelta, correctnessDelta, countDelta, scalarDelta]
  rw [verdictOf, hquality, Wins]
  cases regressions with
  | nil => by_cases hb : (temporalDelta runtime candidate).candidateBetter = true ∨
      (correctnessDelta runtime candidate).candidateBetter = true <;> simp_all
  | cons reason rest => simp

namespace Compared

variable {fixture : MemoryEvalFixture} {runtime candidate : EvalReport rounding}
  {comparison : MemoryComparison rounding}

theorem rejected_iff (h : Compared fixture runtime candidate comparison) :
    comparison.verdict = .rejected ↔ ∃ case ∈ candidate.cases, ¬ Clean case := by
  obtain ⟨caseDeltas, hdeltas⟩ := h.deltas
  obtain ⟨regressions, hverdict, hnil⟩ := h.verdict
  rw [hverdict, hdeltas, (verdictOf_totalDeltas _ _ _ _).1, Ne, hnil]
  push Not
  rfl

theorem improvement_iff (h : Compared fixture runtime candidate comparison) :
    comparison.verdict = .improvement ↔
      (∀ case ∈ candidate.cases, Clean case) ∧ Wins runtime.totals candidate.totals := by
  obtain ⟨caseDeltas, hdeltas⟩ := h.deltas
  obtain ⟨regressions, hverdict, hnil⟩ := h.verdict
  rw [hverdict, hdeltas, (verdictOf_totalDeltas _ _ _ _).2, hnil]

end Compared

/-! ## Soundness -/

/-- The metrics that an improvement must not be worse on. -/
def guarded : List String :=
  ["temporal_order_errors", "current_fact_correctness", "stale_memory_use", "absent_violations",
    "truncated_claims", "refused_items"]

/-- One metric of quality is given for the other. -/
def Trades (runtime candidate : Totals rounding) : Prop :=
  (temporalDelta runtime candidate).candidateBetter = true ∧
      (correctnessDelta runtime candidate).candidateWorse = true ∨
    (correctnessDelta runtime candidate).candidateBetter = true ∧
      (temporalDelta runtime candidate).candidateWorse = true

theorem temporalDelta_not_worse {runtime candidate : Totals rounding}
    (h : (temporalDelta runtime candidate).candidateBetter = true) :
    (temporalDelta runtime candidate).candidateWorse = false :=
  scalarDelta_not_worse (Rounding.isDouble_ofNat _) (Rounding.isDouble_ofNat _) h

theorem correctnessDelta_not_worse {runtime candidate : Totals rounding}
    (h : (correctnessDelta runtime candidate).candidateBetter = true) :
    (correctnessDelta runtime candidate).candidateWorse = false :=
  scalarDelta_not_worse runtime.currentFactCorrectness.property
    candidate.currentFactCorrectness.property h

/-- Without a trade, winning on one metric of quality is not losing on the other. -/
theorem quality_not_worse {runtime candidate : Totals rounding} (hwins : Wins runtime candidate)
    (htrades : ¬ Trades runtime candidate) :
    (temporalDelta runtime candidate).candidateWorse = false ∧
      (correctnessDelta runtime candidate).candidateWorse = false := by
  rw [Trades, not_or, not_and, not_and, Bool.not_eq_true, Bool.not_eq_true] at htrades
  rcases hwins with hbetter | hbetter
  · exact ⟨temporalDelta_not_worse hbetter, htrades.1 hbetter⟩
  · exact ⟨htrades.2 hbetter, correctnessDelta_not_worse hbetter⟩

theorem sumOf_eq_zero {count : CaseReport rounding → Nat} {cases : List (CaseReport rounding)}
    (h : ∀ case ∈ cases, count case = 0) : sumOf count cases = 0 := by
  have hsum : (cases.map count).sum = 0 := by
    rw [List.sum_eq_zero]
    intro n hn
    obtain ⟨case, hcase, rfl⟩ := List.mem_map.mp hn
    exact h case hcase
  rw [sumOf, hsum, Nat.zero_mod]

/-- The totals that clean rows leave are not worse than any. -/
theorem counts_not_worse {report : EvalReport rounding}
    (htotals : mismatchedTotals report.totals report.cases = [])
    (hclean : ∀ case ∈ report.cases, Clean case) (metric : String) (runtime : Nat) :
    ∀ total ∈ [report.totals.staleMemoryUse, report.totals.absentViolations,
        report.totals.truncatedClaims, report.totals.refusedItems],
      (countDelta rounding metric runtime total).candidateWorse = false := by
  rw [mismatchedTotals, List.map_eq_nil_iff, List.filter_eq_nil_iff] at htotals
  have hrefusedSum : sumOf (fun case ↦ case.refusedItems.length) report.cases = 0 :=
    sumOf_eq_zero fun case hcase ↦ by rw [(hclean case hcase).refused, List.length_nil]
  rw [sumOf_eq_zero fun case hcase ↦ (hclean case hcase).stale,
    sumOf_eq_zero fun case hcase ↦ (hclean case hcase).absent,
    sumOf_eq_zero fun case hcase ↦ (hclean case hcase).truncated, hrefusedSum] at htotals
  intro total htotal
  apply countDelta_not_worse
  simp only [List.mem_cons, List.not_mem_nil, or_false] at htotal
  simp only [List.mem_cons, List.not_mem_nil, or_false, forall_eq_or_imp, forall_eq,
    Bool.not_eq_true', Bool.not_eq_false] at htotals
  obtain ⟨-, hstale, habsent, -, hrefused, htruncated, -⟩ := htotals
  rcases htotal with rfl | rfl | rfl | rfl
  · exact hstale
  · exact habsent
  · exact htruncated
  · exact hrefused

/-- **An improvement is one on every metric that matters** exactly when a row stands against the
candidate, or no metric of quality is given for the other. -/
theorem improvement_sound_iff {format : Format} {fixtureDigest : MemoryEvalFixture → String}
    {fixture : MemoryEvalFixture} {runtime candidate : EvalReport rounding}
    {comparison : MemoryComparison rounding}
    (h : compare format fixtureDigest fixture runtime candidate = .ok comparison) :
    (comparison.verdict = .improvement →
        ∀ delta ∈ comparison.deltas, delta.metric ∈ guarded → delta.candidateWorse = false) ↔
      (∃ case ∈ candidate.cases, ¬ Clean case) ∨ ¬ Trades runtime.totals candidate.totals := by
  have hcompared := compared_of_compare h
  obtain ⟨caseDeltas, hdeltas⟩ := hcompared.deltas
  constructor
  · intro hsound
    rw [or_iff_not_imp_left]
    intro hclean htrades
    push Not at hclean
    rw [hcompared.improvement_iff, hdeltas] at hsound
    rcases htrades with ⟨hbetter, hworse⟩ | ⟨hbetter, hworse⟩
    · have hmem : correctnessDelta runtime.totals candidate.totals ∈
          totalDeltas runtime.totals candidate.totals caseDeltas := by
        simp [totalDeltas]
      have hnot := hsound ⟨hclean, Or.inl hbetter⟩ _ hmem
        (show "current_fact_correctness" ∈ guarded by decide)
      rw [hworse] at hnot
      cases hnot
    · have hmem : temporalDelta runtime.totals candidate.totals ∈
          totalDeltas runtime.totals candidate.totals caseDeltas := by
        simp [totalDeltas]
      have hnot := hsound ⟨hclean, Or.inr hbetter⟩ _ hmem
        (show "temporal_order_errors" ∈ guarded by decide)
      rw [hworse] at hnot
      cases hnot
  · rintro hcondition himprovement delta hdelta hguarded
    obtain ⟨hclean, hwins⟩ := hcompared.improvement_iff.mp himprovement
    have htrades : ¬ Trades runtime.totals candidate.totals := by
      rcases hcondition with ⟨case, hcase, hunclean⟩ | htrades
      · exact absurd (hclean case hcase) hunclean
      · exact htrades
    have hquality := quality_not_worse hwins htrades
    have hcounts := counts_not_worse hcompared.accepted.totals hclean
    rw [hdeltas, totalDeltas] at hdelta
    simp only [List.mem_cons, List.not_mem_nil, or_false] at hdelta
    rcases hdelta with rfl | rfl | rfl | rfl | rfl | rfl | rfl | rfl
    · exact hquality.1
    · exact hquality.2
    · exact hcounts _ _ _ (by simp)
    · exact hcounts _ _ _ (by simp)
    · exact hcounts _ _ _ (by simp)
    · exact absurd hguarded (show "max_request_bytes" ∉ guarded by decide)
    · exact hcounts _ _ _ (by simp)
    · exact absurd hguarded (show "causal_pairs_delivered" ∉ guarded by decide)

/-! ## What the verdict depends on -/

/-- Two reports of one delivery. -/
def SameEvidence (a b : EvalReport rounding) : Prop :=
  List.Forall₂ (fun x y : CaseReport rounding ↦ x.delivered = y.delivered ∧
    x.refusedItems = y.refusedItems ∧ x.truncatedClaims = y.truncatedClaims ∧
      x.withinItemBudget = y.withinItemBudget ∧ x.withinByteBudget = y.withinByteBudget)
    a.cases b.cases

/-- What stands against a row is what it delivers. -/
theorem clean_of_sameEvidence {fixture : MemoryEvalFixture} {a b : EvalReport rounding}
    (ha : Accepted fixture a) (hb : Accepted fixture b) (hsame : SameEvidence a b)
    (hclean : ∀ case ∈ a.cases, Clean case) : ∀ case ∈ b.cases, Clean case := by
  intro case hcase
  obtain ⟨i, hi, rfl⟩ := List.mem_iff_getElem.mp hcase
  have hia : i < a.cases.length := by rwa [List.Forall₂.length_eq hsame]
  have hif : i < fixture.cases.length := by rwa [← hb.length]
  have hrow : ∀ {report : EvalReport rounding} (hi' : i < report.cases.length),
      (fixture.cases[i], report.cases[i]) ∈ fixture.cases.zip report.cases := by
    intro report hi'
    have hzip : i < (fixture.cases.zip report.cases).length := by
      rw [List.length_zip]
      omega
    have hmem := List.getElem_mem hzip
    rwa [List.getElem_zip] at hmem
  obtain ⟨hdelivered, hrefused, htruncated, hitems, hbytes⟩ := List.Forall₂.get hsame hia hi
  simp only [List.get_eq_getElem] at hdelivered hrefused htruncated hitems hbytes
  obtain ⟨hstaleA, habsentA⟩ := ha.rows _ (hrow hia)
  obtain ⟨hstaleB, habsentB⟩ := hb.rows _ (hrow hi)
  have hcleanA := hclean _ (List.getElem_mem hia)
  constructor
  case stale => rw [hstaleB, ← hdelivered, ← hstaleA, hcleanA.stale]
  case absent => rw [habsentB, ← hdelivered, ← habsentA, hcleanA.absent]
  case truncated => rw [← htruncated, hcleanA.truncated]
  case refused => rw [← hrefused, hcleanA.refused]
  case items => rw [← hitems, hcleanA.items]
  case bytes => rw [← hbytes, hcleanA.bytes]

theorem SameEvidence.symm {a b : EvalReport rounding} (h : SameEvidence a b) : SameEvidence b a := by
  apply List.Forall₂.flip
  apply List.Forall₂.imp _ h
  rintro x y ⟨hdelivered, hrefused, htruncated, hitems, hbytes⟩
  exact ⟨hdelivered.symm, hrefused.symm, htruncated.symm, hitems.symm, hbytes.symm⟩

/-- **Two reports of one delivery are judged alike** exactly when a row stands against both, or
both are ahead on quality by the totals they declare, or neither is. -/
theorem verdict_eq_iff {format : Format} {fixtureDigest : MemoryEvalFixture → String}
    {fixture : MemoryEvalFixture} {runtime a b : EvalReport rounding}
    {comparisonA comparisonB : MemoryComparison rounding}
    (ha : compare format fixtureDigest fixture runtime a = .ok comparisonA)
    (hb : compare format fixtureDigest fixture runtime b = .ok comparisonB)
    (hsame : SameEvidence a b) :
    comparisonA.verdict = comparisonB.verdict ↔
      (∃ case ∈ a.cases, ¬ Clean case) ∨
        (Wins runtime.totals a.totals ↔ Wins runtime.totals b.totals) := by
  have ha := compared_of_compare ha
  have hb := compared_of_compare hb
  by_cases hclean : ∀ case ∈ a.cases, Clean case
  · have hcleanB := clean_of_sameEvidence ha.accepted hb.accepted hsame hclean
    have hdirty : ¬ ∃ case ∈ a.cases, ¬ Clean case := by
      push Not
      exact hclean
    have hdirtyB : ¬ ∃ case ∈ b.cases, ¬ Clean case := by
      push Not
      exact hcleanB
    have hA := ha.improvement_iff
    have hB := hb.improvement_iff
    have hnotA := mt ha.rejected_iff.mp hdirty
    have hnotB := mt hb.rejected_iff.mp hdirtyB
    rw [or_iff_right hdirty]
    cases hverdictA : comparisonA.verdict <;> cases hverdictB : comparisonB.verdict <;> simp_all
  · have hdirty : ∃ case ∈ a.cases, ¬ Clean case := by
      push Not at hclean
      exact hclean
    have hdirtyB : ∃ case ∈ b.cases, ¬ Clean case := by
      by_contra hcleanB
      push Not at hcleanB
      exact hclean (clean_of_sameEvidence hb.accepted ha.accepted hsame.symm hcleanB)
    rw [ha.rejected_iff.mpr hdirty, hb.rejected_iff.mpr hdirtyB]
    exact iff_of_true rfl (Or.inl hdirty)

section Instances

/-- Small numbers are not rounded. -/
def exactRounding : Rounding where
  round := Float64.finite
  round_mono := fun {a b} h ↦ decide_eq_true h
  round_neg := fun _ ↦ rfl
  round_round := fun {a b} h ↦ by cases h; rfl
  round_zero := rfl
  round_finite := fun {a} _ ↦ rfl

def plainFormat : Format where
  debug := fun text ↦ "\"" ++ text ++ "\""
  debugList := fun texts ↦ "[" ++ ", ".intercalate texts ++ "]"
  float := fun value ↦ toString value.value

/-- An attempt and then its result, both of which the request needs. -/
def twoFacts : MemoryEvalFixture where
  schemaVersion := memoryEvalFixtureSchemaVersion
  cases := [{
    id := "two_facts"
    config := ⟨none, none, none, none, none⟩
    claims := [⟨"attempt", none, "tried", none, none, 1, none, none, none⟩,
      ⟨"result", none, "won", none, none, 2, none, none, none⟩]
    query := ⟨none, none, 3, 0⟩
    mustDeliver := ["attempt", "result"]
    mustNotDeliver := []
    stale := []
    expectedTemporalErrors := 0
    expectedDeliveryOrder := []
    expectedRetainedCausalSpans := none }]

/-- The report of one that delivers these claims, in this order. -/
def reportOf (delivered : List String) : EvalReport exactRounding :=
  reportFor (fun _ ↦ "digest") twoFacts (twoFacts.cases.map fun case ↦
    measureCase exactRounding case ⟨delivered.map fun id ↦ ⟨id, id, id⟩, [], []⟩ ⟨2, 0, 8, 8⟩)

/-- The same report, which does not own up to its order. -/
def withTemporalErrors (errors : Nat) (report : EvalReport exactRounding) :
    EvalReport exactRounding :=
  { report with
    cases := report.cases.map fun case ↦ { case with temporalOrderErrors := errors }
    totals := { report.totals with temporalOrderErrors := errors } }

def judge (runtime candidate : EvalReport exactRounding) :
    Except String (MemoryComparison exactRounding) :=
  compare plainFormat (fun _ ↦ "digest") twoFacts runtime candidate

/-- A candidate that delivers nothing is an improvement on a runtime that answers correctly, if
not in the order of the events. -/
theorem improvement_of_nothing :
    (judge (reportOf ["attempt", "result"]) (reportOf [])).toOption.map
        (fun comparison ↦ (comparison.verdict, comparison.deltas.map fun delta ↦
          (delta.metric, delta.candidateWorse))) =
      some (.improvement, [("temporal_order_errors", false), ("current_fact_correctness", true),
        ("stale_memory_use", false), ("absent_violations", false), ("truncated_claims", false),
        ("max_request_bytes", false), ("refused_items", false),
        ("causal_pairs_delivered", false)]) := by
  decide +kernel

theorem exists_of_isOk {ε α : Type} {x : Except ε α} (h : x.isOk = true) : ∃ a, x = .ok a := by
  cases x with
  | ok a => exact ⟨a, rfl⟩
  | error error => cases h

theorem improvement_sound_iff_facts :
    ∃ comparison, judge (reportOf ["result"]) (reportOf ["result", "attempt"]) = .ok comparison ∧
      ((comparison.verdict = .improvement →
          ∀ delta ∈ comparison.deltas, delta.metric ∈ guarded → delta.candidateWorse = false) ↔
        (∃ case ∈ (reportOf ["result", "attempt"]).cases, ¬ Clean case) ∨
          ¬ Trades (reportOf ["result"]).totals (reportOf ["result", "attempt"]).totals) := by
  obtain ⟨comparison, h⟩ : ∃ comparison,
      judge (reportOf ["result"]) (reportOf ["result", "attempt"]) = .ok comparison :=
    exists_of_isOk (by decide +kernel)
  exact ⟨comparison, h, improvement_sound_iff h⟩

/-- The delivery of the runtime, in its own order, is an improvement on it once its report says
that no pair is out of order. -/
theorem verdict_follows_declaration :
    SameEvidence (reportOf ["attempt", "result"])
        (withTemporalErrors 0 (reportOf ["attempt", "result"])) ∧
      (judge (reportOf ["attempt", "result"]) (reportOf ["attempt", "result"])).toOption.map
        MemoryComparison.verdict = some .noImprovement ∧
      (judge (reportOf ["attempt", "result"])
        (withTemporalErrors 0 (reportOf ["attempt", "result"]))).toOption.map
          MemoryComparison.verdict = some .improvement := by
  refine ⟨?_, by decide +kernel, by decide +kernel⟩
  exact List.Forall₂.cons ⟨rfl, rfl, rfl, rfl, rfl⟩ List.Forall₂.nil

theorem verdict_eq_iff_facts :
    ∃ comparisonA comparisonB,
      judge (reportOf ["result"]) (reportOf ["result", "attempt"]) = .ok comparisonA ∧
      judge (reportOf ["result"]) (withTemporalErrors 1 (reportOf ["result", "attempt"])) =
        .ok comparisonB ∧
      (comparisonA.verdict = comparisonB.verdict ↔
        (∃ case ∈ (reportOf ["result", "attempt"]).cases, ¬ Clean case) ∨
          (Wins (reportOf ["result"]).totals (reportOf ["result", "attempt"]).totals ↔
            Wins (reportOf ["result"]).totals
              (withTemporalErrors 1 (reportOf ["result", "attempt"])).totals)) := by
  obtain ⟨comparisonA, hA⟩ : ∃ comparison,
      judge (reportOf ["result"]) (reportOf ["result", "attempt"]) = .ok comparison :=
    exists_of_isOk (by decide +kernel)
  obtain ⟨comparisonB, hB⟩ : ∃ comparison, judge (reportOf ["result"])
      (withTemporalErrors 1 (reportOf ["result", "attempt"])) = .ok comparison :=
    exists_of_isOk (by decide +kernel)
  have hsame : SameEvidence (reportOf ["result", "attempt"])
      (withTemporalErrors 1 (reportOf ["result", "attempt"])) :=
    List.Forall₂.cons ⟨rfl, rfl, rfl, rfl, rfl⟩ List.Forall₂.nil
  exact ⟨comparisonA, comparisonB, hA, hB, verdict_eq_iff hA hB hsame⟩

end Instances

end Aivtuber.MemoryCompare
