import Mathlib.Algebra.Order.Ring.Rat
import Mathlib.Data.Rat.Cast.Order
import Mathlib.Tactic.Linarith
import Mathlib.Tactic.NormNum
import Aivtuber.Base.Median
import Aivtuber.Telemetry.BenchmarkGate

/-!
# The benchmark gate over exact numbers

The gate of `BenchmarkGate` with exact rationals for its measurements.  Two questions are asked
that rounding would blur.

An unchanged metric passes, and a worse head is never judged better, unless the base is zero
under a limit in percent: then every head that does not improve is infinitely far off, the
unchanged one with them (`evaluateMetric_neutral_iff`).  And the order of the runs of a side does
not matter, nor does a single run decide what a side amounts to, save that a violated invariant is
never lost (`compareRuns_perm`).
-/

namespace Aivtuber.ExactGate

open Std (ExtTreeMap)
open Saturating (satAdd)
open BenchmarkGate

/-- Exact numbers, in which nothing is infinite.  The sample that extremes are taken of is not
empty. -/
instance : Measure ℚ where
  zero := 0
  sub a b := a - b
  abs a := |a|
  mean a b := (a + b) / 2
  percent part whole := part / whole * 100
  lt a b := a < b
  ltInfinity _ := true
  isZero a := a = 0
  extremes values := { min := values.min?.getD 0, max := values.max?.getD 0 }

/-! ## One metric, from better to worse -/

/-- The first head is at least as good as the second one. -/
def NoWorse (direction : BudgetDirection) (head head' : ℚ) : Prop :=
  match direction with
  | .lower => head ≤ head'
  | .higher => head' ≤ head

/-- From good to bad; what is not gated has no rank of its own. -/
def severity : MetricStatus → Nat
  | .improved | .ungated => 0
  | .ok => 1
  | .warning => 2
  | .failed => 3

structure NonNegative (budget : MetricBudget ℚ) : Prop where
  warnPercent : ∀ limit ∈ budget.warnRegressionPercent, 0 ≤ limit
  failPercent : ∀ limit ∈ budget.failRegressionPercent, 0 ≤ limit
  warnAbsolute : ∀ limit ∈ budget.warnAbsoluteChange, 0 ≤ limit
  failAbsolute : ∀ limit ∈ budget.failAbsoluteChange, 0 ≤ limit

/-- A limit in percent, of which a base of zero leaves nothing. -/
def hasPercent (budget : MetricBudget ℚ) : Bool :=
  budget.failRegressionPercent.isSome || budget.warnRegressionPercent.isSome

variable {baseValue head head' limit : ℚ} {budget : MetricBudget ℚ} {sampleCount : Option Nat}

/-- A head that does not improve moves further off as it gets worse. -/
theorem abs_sub_mono (horder : NoWorse budget.direction head head')
    (hnot : budget.improved baseValue head = false) :
    |head - baseValue| ≤ |head' - baseValue| := by
  rw [MetricBudget.improved] at hnot
  cases hdirection : budget.direction with
  | lower =>
    rw [hdirection] at hnot horder
    have hle : 0 ≤ head - baseValue := not_lt.mp (of_decide_eq_false hnot)
    have hworse : head ≤ head' := horder
    rw [abs_of_nonneg hle, abs_of_nonneg (by linarith)]
    linarith
  | higher =>
    rw [hdirection] at hnot horder
    have hle : head - baseValue ≤ 0 := not_lt.mp (of_decide_eq_false hnot)
    have hworse : head' ≤ head := horder
    rw [abs_of_nonpos hle, abs_of_nonpos (by linarith)]
    linarith

theorem beyondAbsolute_mono (h : |head - baseValue| ≤ |head' - baseValue|)
    (hbeyond : beyondAbsolute baseValue head limit = true) :
    beyondAbsolute baseValue head' limit = true :=
  decide_eq_true ((of_decide_eq_true hbeyond).trans_le h)

theorem beyondPercent_mono (h : |head - baseValue| ≤ |head' - baseValue|)
    (hbeyond : beyondPercent baseValue head limit = true) :
    beyondPercent baseValue head' limit = true := by
  rw [beyondPercent] at hbeyond ⊢
  split at hbeyond
  case isTrue hbase =>
    rw [if_pos hbase]
    refine decide_eq_true ((of_decide_eq_true hbeyond).trans_le ?_)
    change |head - baseValue| / |baseValue| * 100 ≤ |head' - baseValue| / |baseValue| * 100
    gcongr
  case isFalse hbase =>
    rw [if_neg hbase]
    exact hbeyond

theorem any_mono {limits : Option ℚ} {p q : ℚ → Bool} (h : ∀ limit, p limit = true → q limit = true)
    (hany : limits.any p = true) : limits.any q = true := by
  cases limits with
  | none => exact hany
  | some limit => exact h limit hany

theorem improved_mono (horder : NoWorse budget.direction head head')
    (h : budget.improved baseValue head' = true) : budget.improved baseValue head = true := by
  rw [MetricBudget.improved] at h ⊢
  cases hdirection : budget.direction with
  | lower =>
    rw [hdirection] at h horder
    have hlt : head' - baseValue < 0 := of_decide_eq_true h
    have hworse : head ≤ head' := horder
    exact decide_eq_true (by linarith : head - baseValue < 0)
  | higher =>
    rw [hdirection] at h horder
    have hlt : 0 < head' - baseValue := of_decide_eq_true h
    have hworse : head' ≤ head := horder
    exact decide_eq_true (by linarith : 0 < head - baseValue)

/-- A worse head is never judged better. -/
theorem severity_mono (horder : NoWorse budget.direction head head') :
    severity (evaluateMetric baseValue head sampleCount budget) ≤
      severity (evaluateMetric baseValue head' sampleCount budget) := by
  rw [evaluateMetric, evaluateMetric]
  cases budget.belowFloor sampleCount with
  | true => exact le_rfl
  | false =>
    cases himproved : budget.improved baseValue head with
    | true => exact Nat.zero_le _
    | false =>
      have hnot : budget.improved baseValue head' = false := by
        rw [← Bool.not_eq_true]
        intro h
        rw [improved_mono horder h] at himproved
        exact Bool.false_ne_true himproved.symm
      have habs := abs_sub_mono horder himproved
      have hstep : ∀ percent absolute : Option ℚ,
          (percent.any (beyondPercent baseValue head) ||
            absolute.any (beyondAbsolute baseValue head)) = true →
          (percent.any (beyondPercent baseValue head') ||
            absolute.any (beyondAbsolute baseValue head')) = true := by
        intro percent absolute h
        rw [Bool.or_eq_true] at h ⊢
        exact h.imp (any_mono fun _ ↦ beyondPercent_mono habs)
          (any_mono fun _ ↦ beyondAbsolute_mono habs)
      have hfail := hstep budget.failRegressionPercent budget.failAbsoluteChange
      have hwarn := hstep budget.warnRegressionPercent budget.warnAbsoluteChange
      rw [hnot]
      simp only [Bool.false_eq_true, if_false]
      split_ifs <;> simp_all [severity]

/-- The status of a head that equals the base. -/
theorem evaluateMetric_self (hlimits : NonNegative budget)
    (hfloor : budget.belowFloor sampleCount = false) :
    evaluateMetric baseValue baseValue sampleCount budget =
      if baseValue = 0 ∧ budget.failRegressionPercent.isSome then .failed
      else if baseValue = 0 ∧ budget.warnRegressionPercent.isSome then .warning
      else .ok := by
  have hself : Measure.sub baseValue baseValue = 0 := sub_self baseValue
  have hnot : budget.improved baseValue baseValue = false := by
    rw [MetricBudget.improved, hself]
    cases budget.direction <;> rfl
  have habsolute : ∀ limits : Option ℚ, (∀ n ∈ limits, 0 ≤ n) →
      limits.any (beyondAbsolute baseValue baseValue) = false := by
    intro limits hlimits
    cases limits with
    | none => rfl
    | some n =>
      have hn : ¬n < |(0 : ℚ)| := by
        rw [abs_zero]
        exact not_lt.mpr (hlimits n rfl)
      rw [Option.any_some, beyondAbsolute, hself]
      exact decide_eq_false hn
  have hpercent : ∀ limits : Option ℚ, (∀ n ∈ limits, 0 ≤ n) →
      limits.any (beyondPercent baseValue baseValue) =
        (decide (baseValue = 0) && limits.isSome) := by
    intro limits hlimits
    cases limits with
    | none => rw [Option.any_none, Option.isSome_none, Bool.and_false]
    | some n =>
      rw [Option.any_some, beyondPercent, hself, Option.isSome_some, Bool.and_true]
      by_cases hzero : baseValue = 0
      · rw [hzero, decide_eq_true rfl]
        rfl
      · have hn : ¬n < |(0 : ℚ)| / |baseValue| * 100 := by
          rw [abs_zero, zero_div, zero_mul]
          exact not_lt.mpr (hlimits n rfl)
        have hbase : Measure.lt Measure.zero (Measure.abs baseValue) = true :=
          decide_eq_true (abs_pos.mpr hzero)
        rw [decide_eq_false hzero, if_pos hbase]
        exact decide_eq_false hn
  rw [evaluateMetric, hfloor, hnot]
  simp only [Bool.false_eq_true, if_false, hpercent _ hlimits.failPercent,
    hpercent _ hlimits.warnPercent, habsolute _ hlimits.failAbsolute,
    habsolute _ hlimits.warnAbsolute, Bool.or_false, Bool.and_eq_true, decide_eq_true_eq]

/-- **A worse head is judged no better, and an unchanged metric passes**, this last unless the base
is zero under a limit in percent. -/
theorem evaluateMetric_neutral_iff (baseValue : ℚ) (sampleCount : Option Nat)
    (budget : MetricBudget ℚ) :
    (∀ head head', NoWorse budget.direction head head' →
      severity (evaluateMetric baseValue head sampleCount budget) ≤
        severity (evaluateMetric baseValue head' sampleCount budget)) ∧
    (NonNegative budget →
      (evaluateMetric baseValue baseValue sampleCount budget ≠ .warning ∧
        evaluateMetric baseValue baseValue sampleCount budget ≠ .failed ↔
      ¬(baseValue = 0 ∧ hasPercent budget = true ∧ budget.belowFloor sampleCount = false))) := by
  refine ⟨fun _ _ horder ↦ severity_mono horder, fun hlimits ↦ ?_⟩
  cases hfloor : budget.belowFloor sampleCount with
  | true => simp [evaluateMetric, hfloor]
  | false =>
    rw [evaluateMetric_self hlimits hfloor, hasPercent]
    by_cases hzero : baseValue = 0 <;> cases budget.failRegressionPercent <;>
      cases budget.warnRegressionPercent <;> simp [hzero]

/-- A count that may grow by a quarter. -/
def quarterBudget : MetricBudget ℚ where
  direction := .lower
  warnRegressionPercent := some 10
  failRegressionPercent := some 25
  warnAbsoluteChange := none
  failAbsoluteChange := none
  minSamples := none

theorem quarterBudget_nonNegative : NonNegative quarterBudget := by
  constructor <;> intro limit hlimit <;> simp [quarterBudget] at hlimit <;> simp [← hlimit]

/-- A metric that is zero on both sides fails. -/
theorem evaluateMetric_zero : NonNegative quarterBudget ∧
    (∀ warn ∈ quarterBudget.warnRegressionPercent, ∀ fail ∈ quarterBudget.failRegressionPercent,
      warn ≤ fail) ∧
    evaluateMetric 0 0 none quarterBudget = .failed := by
  refine ⟨quarterBudget_nonNegative, ?_, ?_⟩
  · intro warn hwarn fail hfail
    obtain rfl := Option.mem_some_iff.mp hwarn
    obtain rfl := Option.mem_some_iff.mp hfail
    norm_num
  · rw [evaluateMetric_self quarterBudget_nonNegative rfl]
    rfl

theorem evaluateMetric_neutral_hundred :
    evaluateMetric 100 100 none quarterBudget ≠ .failed :=
  (((evaluateMetric_neutral_iff 100 none quarterBudget).2 quarterBudget_nonNegative).mpr
    (by norm_num)).2

/-! ## The order of the runs -/

/-- Values that may be missing, collected: all of them, or nothing. -/
theorem mapM_option {α β : Type*} (f : α → Option β) (l : List α) :
    l.mapM f = if l.all fun a ↦ (f a).isSome then some (l.filterMap f) else none := by
  induction l with
  | nil => rfl
  | cons a l ih =>
    rw [List.mapM_cons, ih, List.all_cons, List.filterMap_cons]
    cases f a with
    | none => rfl
    | some b => cases l.all fun a ↦ (f a).isSome <;> rfl

theorem satAdd_right_comm (a b c : Nat) : satAdd (satAdd a b) c = satAdd (satAdd a c) b := by
  simp only [satAdd]
  omega

/-- The gate's median of exact numbers is the median. -/
theorem median_eq (values : List ℚ) : BenchmarkGate.median values = Median.median values := by
  have horder : (fun left right : ℚ ↦ !Measure.lt right left) = fun left right ↦
      decide (left ≤ right) := by
    funext left right
    change (!decide (right < left)) = decide (left ≤ right)
    rw [← decide_not, decide_eq_decide, not_lt]
  rw [BenchmarkGate.median, Median.median, Median.sorted, horder]
  rfl

section Runs

variable {runs runs' : List (BenchmarkResult ℚ)} {name : String}

theorem pooledSamples_congr (h : runs.Perm runs') :
    pooledSamples runs name = pooledSamples runs' name := by
  rw [pooledSamples, pooledSamples, mapM_option, mapM_option, h.all_eq]
  split
  · rw [Option.map_some, Option.map_some,
      (h.filterMap _).foldl_eq' fun x _ y _ z ↦ satAdd_right_comm z x y]
  · rfl

theorem aggregateMetric_congr (h : runs.Perm runs') :
    aggregateMetric runs name = aggregateMetric runs' name := by
  have hvalues : (metricValues runs name).Perm (metricValues runs' name) := h.map _
  have hextremes : Measure.extremes (metricValues runs name) =
      Measure.extremes (metricValues runs' name) := by
    change MetricRange.mk _ _ = MetricRange.mk _ _
    rw [Median.min?_congr hvalues, Median.max?_congr hvalues]
  rw [aggregateMetric, aggregateMetric, median_eq, median_eq, Median.median_congr hvalues,
    pooledSamples_congr h, MetricRange.of, MetricRange.of, hvalues.length_eq, hextremes]

theorem invariantMaximum_congr (h : runs.Perm runs') :
    invariantMaximum runs name = invariantMaximum runs' name := by
  rw [invariantMaximum, invariantMaximum, Median.max?_congr (h.map _)]

/-- What the runs of a side have to agree on. -/
structure Signature where
  benchmarkSuite : String
  mode : String
  datasetId : Option String
  configuration : BenchmarkConfiguration
  git : BenchmarkGit
  metrics : List String
  invariants : List String

def signature (run : BenchmarkResult ℚ) : Signature where
  benchmarkSuite := run.benchmarkSuite
  mode := run.mode
  datasetId := run.datasetId
  configuration := run.configuration
  git := run.git
  metrics := run.metrics.keys
  invariants := run.invariants.keys

theorem keysDiffer_eq_false {α : Type} {mine theirs : ExtTreeMap String α} :
    keysDiffer mine theirs = false ↔ theirs.keys = mine.keys := by
  constructor
  · intro h
    rw [keysDiffer, Bool.or_eq_false_iff, Bool.or_eq_false_iff, bne_eq_false_iff_eq] at h
    exact h.1.1.symm
  · intro h
    have hmem : ∀ name, name ∈ theirs ↔ name ∈ mine := by
      intro name
      rw [← ExtTreeMap.mem_keys, ← ExtTreeMap.mem_keys, h]
    rw [keysDiffer, Bool.or_eq_false_iff, Bool.or_eq_false_iff, bne_eq_false_iff_eq]
    refine ⟨⟨h.symm, ?_⟩, ?_⟩
    · rw [List.any_eq_false]
      intro name hname
      rw [ExtTreeMap.mem_keys, ← hmem, ExtTreeMap.mem_iff_contains] at hname
      rw [hname]
      decide
    · rw [List.any_eq_false]
      intro name hname
      rw [ExtTreeMap.mem_keys, hmem, ExtTreeMap.mem_iff_contains] at hname
      rw [hname]
      decide

theorem validate_eq_ok {run : BenchmarkResult ℚ} (h : run.validate = .ok ()) :
    run.schemaVersion = resultSchemaVersion := by
  rw [BenchmarkResult.validate, Check.unit_bind_eq_ok, Check.ensure_eq_ok] at h
  exact of_decide_eq_true h.1

/-- A later run is accepted when it is valid and agrees with the first one. -/
theorem checkRepetition_eq_ok {side : Side} {first run : BenchmarkResult ℚ} :
    checkRepetition side first run = .ok () ↔
      run.validate = .ok () ∧ first.datasetId.isSome = true ∧ signature run = signature first := by
  rw [checkRepetition, Check.unit_bind_eq_ok, Check.unit_bind_eq_ok, Check.unit_bind_eq_ok,
    Check.unit_bind_eq_ok, Check.mapError_eq_ok, BenchmarkResult.ensureComparable,
    Check.unit_bind_eq_ok, Check.unit_bind_eq_ok, Check.unit_bind_eq_ok, Check.unit_bind_eq_ok]
  simp only [Check.ensure_eq_ok, Bool.not_eq_true', keysDiffer_eq_false, decide_eq_true_eq,
    Bool.and_eq_true]
  cases first with | mk _ _ _ _ _ git configuration _ _ =>
  cases run with | mk _ _ _ _ _ git' configuration' _ _ =>
  cases git
  cases git'
  cases configuration
  cases configuration'
  simp only [signature, Signature.mk.injEq, BenchmarkGit.mk.injEq,
    BenchmarkConfiguration.mk.injEq]
  constructor
  · rintro ⟨hvalid, ⟨rfl, rfl, ⟨hsome, rfl⟩, rfl, rfl⟩, rfl, hmetrics, hinvariants⟩
    exact ⟨hvalid, hsome, rfl, rfl, rfl, ⟨rfl, rfl⟩, rfl, hmetrics, hinvariants⟩
  · rintro ⟨hvalid, hsome, rfl, rfl, rfl, ⟨rfl, rfl⟩, rfl, hmetrics, hinvariants⟩
    exact ⟨hvalid, ⟨rfl, rfl, ⟨hsome, rfl⟩, rfl, rfl⟩, rfl, hmetrics, hinvariants⟩

/-- Runs that repeat one measurement; nothing here depends on which run is the first. -/
structure Repeats (runs : List (BenchmarkResult ℚ)) : Prop where
  valid : ∀ run ∈ runs, run.validate = .ok ()
  agree : ∀ run ∈ runs, ∀ run' ∈ runs, signature run = signature run'
  dataset : 2 ≤ runs.length → ∀ run ∈ runs, run.datasetId.isSome = true

theorem Repeats.perm (h : Repeats runs) (hperm : runs.Perm runs') : Repeats runs' where
  valid run hrun := h.valid run (hperm.mem_iff.mpr hrun)
  agree run hrun run' hrun' := h.agree run (hperm.mem_iff.mpr hrun) run' (hperm.mem_iff.mpr hrun')
  dataset hlength run hrun :=
    h.dataset (by rwa [hperm.length_eq]) run (hperm.mem_iff.mpr hrun)

/-- The result that the runs of a side amount to, with the identity of the first one. -/
def aggregate (first : BenchmarkResult ℚ) (runs : List (BenchmarkResult ℚ)) : BenchmarkResult ℚ :=
  { first with
    recording := none
    metrics := first.metrics.map fun name _ ↦ aggregateMetric runs name
    invariants := first.invariants.map fun name invariant ↦
      { value := invariantMaximum runs name, detail := invariant.detail } }

/-- A side is accepted when its runs repeat one measurement. -/
theorem aggregateRuns_eq_ok {side : Side} {result : BenchmarkResult ℚ} :
    aggregateRuns side runs = .ok result ↔
      ∃ first rest, runs = first :: rest ∧ Repeats runs ∧ result = aggregate first runs := by
  cases runs with
  | nil =>
    constructor
    · intro h
      cases h
    · rintro ⟨first, rest, h, -⟩
      cases h
  | cons first rest =>
    rw [aggregateRuns, Check.unit_bind_eq_ok, Check.unit_bind_eq_ok, Check.forM_eq_ok]
    simp only [checkRepetition_eq_ok]
    constructor
    · rintro ⟨hfirst, hrest, h⟩
      refine ⟨first, rest, rfl, ⟨?_, ?_, ?_⟩, (Except.ok.inj h).symm⟩
      · rintro run (_ | ⟨_, hrun⟩)
        · exact hfirst
        · exact (hrest run hrun).1
      · have hsame : ∀ run ∈ first :: rest, signature run = signature first := by
          rintro run (_ | ⟨_, hrun⟩)
          · rfl
          · exact (hrest run hrun).2.2
        intro run hrun run' hrun'
        rw [hsame run hrun, hsame run' hrun']
      · intro hlength
        obtain ⟨second, hsecond⟩ : ∃ second, second ∈ rest :=
          List.exists_mem_of_ne_nil rest fun hnil ↦ by simp [hnil] at hlength
        have hsome := (hrest second hsecond).2.1
        rintro run (_ | ⟨_, hrun⟩)
        · exact hsome
        · have hdataset := congrArg Signature.datasetId (hrest run hrun).2.2
          exact (congrArg Option.isSome hdataset).trans hsome
    · rintro ⟨_, _, heq, hrepeats, rfl⟩
      cases heq
      refine ⟨hrepeats.valid first List.mem_cons_self, ?_, rfl⟩
      intro run hrun
      have hmem := List.mem_cons_of_mem first hrun
      have hlength : 2 ≤ (first :: rest).length := by
        have := List.length_pos_of_mem hrun
        rw [List.length_cons]
        omega
      exact ⟨hrepeats.valid run hmem, hrepeats.dataset hlength first List.mem_cons_self,
        hrepeats.agree run hmem first List.mem_cons_self⟩

/-- A result without what no comparison reads. -/
def forget (result : BenchmarkResult ℚ) : BenchmarkResult ℚ :=
  { result with
    recording := none
    invariants := result.invariants.map fun _ invariant ↦
      { value := invariant.value, detail := none } }

theorem aggregate_forget_congr (h : Repeats runs) (hperm : runs.Perm runs')
    {first first' : BenchmarkResult ℚ} (hfirst : first ∈ runs) (hfirst' : first' ∈ runs) :
    forget (aggregate first runs) = forget (aggregate first' runs') := by
  have hschema : first.schemaVersion = first'.schemaVersion := by
    rw [validate_eq_ok (h.valid first hfirst), validate_eq_ok (h.valid first' hfirst')]
  have hsignature := h.agree first hfirst first' hfirst'
  have hmetrics : first.metrics.keys = first'.metrics.keys :=
    congrArg Signature.metrics hsignature
  have hinvariants : first.invariants.keys = first'.invariants.keys :=
    congrArg Signature.invariants hsignature
  have hmaps : (aggregate first runs).metrics = (aggregate first' runs').metrics := by
    apply ExtTreeMap.ext_getElem?
    intro name
    have hmem : first.metrics[name]?.isSome = first'.metrics[name]?.isSome := by
      rw [Bool.eq_iff_iff, ← ExtTreeMap.mem_iff_isSome_getElem?,
        ← ExtTreeMap.mem_iff_isSome_getElem?, ← ExtTreeMap.mem_keys, ← ExtTreeMap.mem_keys, hmetrics]
    rw [aggregate, aggregate, ExtTreeMap.getElem?_map, ExtTreeMap.getElem?_map,
      aggregateMetric_congr hperm]
    cases hmine : first.metrics[name]? <;> cases htheirs : first'.metrics[name]? <;>
      simp [hmine, htheirs] at hmem ⊢
  have hvalues : (forget (aggregate first runs)).invariants =
      (forget (aggregate first' runs')).invariants := by
    apply ExtTreeMap.ext_getElem?
    intro name
    have hmem : first.invariants[name]?.isSome = first'.invariants[name]?.isSome := by
      rw [Bool.eq_iff_iff, ← ExtTreeMap.mem_iff_isSome_getElem?,
        ← ExtTreeMap.mem_iff_isSome_getElem?, ← ExtTreeMap.mem_keys, ← ExtTreeMap.mem_keys,
        hinvariants]
    rw [forget, forget, aggregate, aggregate]
    simp only [ExtTreeMap.getElem?_map]
    rw [invariantMaximum_congr hperm]
    cases hmine : first.invariants[name]? <;> cases htheirs : first'.invariants[name]? <;>
      simp [hmine, htheirs] at hmem ⊢
  have hsuite := congrArg Signature.benchmarkSuite hsignature
  have hmode := congrArg Signature.mode hsignature
  have hdataset := congrArg Signature.datasetId hsignature
  have hconfiguration := congrArg Signature.configuration hsignature
  have hgit := congrArg Signature.git hsignature
  simp only [signature] at hsuite hmode hdataset hconfiguration hgit
  simp only [forget, aggregate] at hmaps hvalues ⊢
  rw [hschema, hsuite, hmode, hdataset, hconfiguration, hgit, hmaps, hvalues]

/-- **What a side amounts to does not depend on the order of its runs**. -/
theorem aggregateRuns_forget_congr (side : Side) (hperm : runs.Perm runs') :
    (aggregateRuns side runs).toOption.map forget =
      (aggregateRuns side runs').toOption.map forget := by
  by_cases h : Repeats runs ∧ runs ≠ []
  · obtain ⟨h, hne⟩ := h
    obtain ⟨first, rest, rfl⟩ := List.exists_cons_of_ne_nil hne
    obtain ⟨first', rest', rfl⟩ : ∃ first' rest', runs' = first' :: rest' := by
      apply List.exists_cons_of_ne_nil
      rintro rfl
      exact hne hperm.eq_nil
    rw [aggregateRuns_eq_ok.mpr ⟨first, rest, rfl, h, rfl⟩,
      aggregateRuns_eq_ok.mpr ⟨first', rest', rfl, h.perm hperm, rfl⟩]
    exact congrArg some (aggregate_forget_congr h hperm List.mem_cons_self
      (hperm.mem_iff.mpr List.mem_cons_self))
  · have hnone : ∀ {runs : List (BenchmarkResult ℚ)}, ¬(Repeats runs ∧ runs ≠ []) →
        (aggregateRuns side runs).toOption = none := by
      intro runs h
      cases hresult : aggregateRuns side runs with
      | error _ => rfl
      | ok result =>
        obtain ⟨first, rest, heq, hrepeats, -⟩ := aggregateRuns_eq_ok.mp hresult
        exact absurd ⟨hrepeats, by rw [heq]; exact List.cons_ne_nil _ _⟩ h
    rw [hnone h, hnone]
    rintro ⟨hrepeats, hne⟩
    refine h ⟨hrepeats.perm hperm.symm, ?_⟩
    rintro rfl
    exact hne hperm.symm.eq_nil

end Runs

section Compare

variable {base head : BenchmarkResult ℚ} {budgets : Budgets ℚ} {report : GateReport ℚ}
  {baseRuns headRuns baseRuns' headRuns' : List (BenchmarkResult ℚ)}

theorem compareInvariant_forget (base head : BenchmarkResult ℚ) (entry : String × InvariantBudget) :
    compareInvariant (forget base) (forget head) entry = compareInvariant base head entry := by
  obtain ⟨name, budget⟩ := entry
  simp only [compareInvariant, forget, ExtTreeMap.getElem?_map]
  cases head.invariants[name]? with
  | none => rfl
  | some headInvariant => cases base.invariants[name]? <;> rfl

theorem surfacedInvariants_forget (base head : BenchmarkResult ℚ) (budgets : Budgets ℚ) :
    surfacedInvariants (forget base) (forget head) budgets = surfacedInvariants base head budgets := by
  simp only [surfacedInvariants, forget, ExtTreeMap.toList_map,
    List.filter_map, List.map_map, ExtTreeMap.getElem?_map]
  apply List.map_congr_left
  rintro ⟨name, invariant⟩ _
  cases hbase : base.invariants[name]? <;> simp [hbase]

/-- No comparison reads what `forget` drops. -/
theorem compareResults_forget (base head : BenchmarkResult ℚ) (budgets : Budgets ℚ)
    (baseRuns headRuns : Nat) :
    compareResults (forget base) (forget head) budgets baseRuns headRuns =
      compareResults base head budgets baseRuns headRuns := by
  have hinvariants : compareInvariant (forget base) (forget head) = compareInvariant base head :=
    funext (compareInvariant_forget base head)
  rw [compareResults, compareResults, hinvariants, surfacedInvariants_forget]
  rfl

theorem compareRuns_toOption (baseRuns headRuns : List (BenchmarkResult ℚ)) (budgets : Budgets ℚ) :
    (compareRuns baseRuns headRuns budgets).toOption =
      ((aggregateRuns .base baseRuns).toOption.map forget).bind fun base ↦
        ((aggregateRuns .head headRuns).toOption.map forget).bind fun head ↦
          (compareResults base head budgets baseRuns.length headRuns.length).toOption := by
  rw [compareRuns]
  cases aggregateRuns .base baseRuns with
  | error _ => rfl
  | ok base =>
    cases aggregateRuns .head headRuns with
    | error _ => rfl
    | ok head => exact congrArg Except.toOption (compareResults_forget base head budgets _ _).symm

theorem compareRuns_congr (hbase : baseRuns.Perm baseRuns') (hhead : headRuns.Perm headRuns') :
    (compareRuns baseRuns headRuns budgets).toOption =
      (compareRuns baseRuns' headRuns' budgets).toOption := by
  rw [compareRuns_toOption, compareRuns_toOption, aggregateRuns_forget_congr .base hbase,
    aggregateRuns_forget_congr .head hhead, hbase.length_eq, hhead.length_eq]

/-! ## What a single run can do -/

/-- A value is not below all that the runs measure, nor above all of it. -/
def Between (runs : List (BenchmarkResult ℚ)) (name : String) (value : ℚ) : Prop :=
  (∃ run ∈ runs, ∃ metric, run.metrics[name]? = some metric ∧ metric.value ≤ value) ∧
    ∃ run ∈ runs, ∃ metric, run.metrics[name]? = some metric ∧ value ≤ metric.value

/-- The metrics of accepted runs are those of the result. -/
theorem aggregateRuns_mem {side : Side} {runs : List (BenchmarkResult ℚ)}
    {result : BenchmarkResult ℚ} (h : aggregateRuns side runs = .ok result) :
    runs ≠ [] ∧ ∀ run ∈ runs, ∀ name, name ∈ run.metrics ↔ name ∈ result.metrics := by
  obtain ⟨first, hfirst, hkeys, -, hmetrics, -⟩ := BenchmarkGate.aggregateRuns_eq_ok h
  refine ⟨List.ne_nil_of_mem hfirst, fun run hrun name ↦ ?_⟩
  rw [hmetrics, ExtTreeMap.mem_map]
  exact hkeys run hrun name

theorem aggregateRuns_metric_value {side : Side} {runs : List (BenchmarkResult ℚ)}
    {result : BenchmarkResult ℚ} {name : String} {metric : MetricValue ℚ}
    (h : aggregateRuns side runs = .ok result) (hmetric : result.metrics[name]? = some metric) :
    metric.value = Median.median (metricValues runs name) := by
  rw [((aggregateRuns_metric h).mp hmetric).2]
  exact median_eq _

/-- A value among those of some runs that all measure the metric is one of the runs'. -/
theorem between_of_metricValues {runs : List (BenchmarkResult ℚ)} {name : String} {value : ℚ}
    (hall : ∀ run ∈ runs, name ∈ run.metrics)
    (h : (∃ low ∈ metricValues runs name, low ≤ value) ∧
      ∃ high ∈ metricValues runs name, value ≤ high) : Between runs name value := by
  have hmeasured : ∀ x ∈ metricValues runs name,
      ∃ run ∈ runs, ∃ metric, run.metrics[name]? = some metric ∧ metric.value = x := by
    intro x hx
    obtain ⟨run, hrun, rfl⟩ := List.mem_map.mp hx
    obtain ⟨metric, hmetric⟩ := Option.isSome_iff_exists.mp
      (ExtTreeMap.mem_iff_isSome_getElem?.mp (hall run hrun))
    exact ⟨run, hrun, metric, hmetric, by rw [hmetric, Option.elim_some]⟩
  obtain ⟨⟨low, hlow, hle⟩, high, hhigh, hge⟩ := h
  constructor
  · obtain ⟨run, hrun, metric, hmetric, rfl⟩ := hmeasured low hlow
    exact ⟨run, hrun, metric, hmetric, hle⟩
  · obtain ⟨run, hrun, metric, hmetric, rfl⟩ := hmeasured high hhigh
    exact ⟨run, hrun, metric, hmetric, hge⟩

theorem aggregateRuns_between {side : Side} {runs : List (BenchmarkResult ℚ)}
    {result : BenchmarkResult ℚ} {name : String} {metric : MetricValue ℚ}
    (h : aggregateRuns side runs = .ok result) (hmetric : result.metrics[name]? = some metric) :
    Between runs name metric.value := by
  obtain ⟨hne, hmem⟩ := aggregateRuns_mem h
  have hname : name ∈ result.metrics :=
    ExtTreeMap.mem_iff_isSome_getElem?.mpr (Option.isSome_iff_exists.mpr ⟨metric, hmetric⟩)
  apply between_of_metricValues fun run hrun ↦ (hmem run hrun name).mpr hname
  rw [aggregateRuns_metric_value h hmetric]
  exact Median.median_between (by rwa [metricValues, Ne, List.map_eq_nil_iff])

theorem aggregateRuns_between_others {side : Side} {before after : List (BenchmarkResult ℚ)}
    {outlier result : BenchmarkResult ℚ} {name : String} {metric : MetricValue ℚ}
    (h : aggregateRuns side (before ++ outlier :: after) = .ok result)
    (hmetric : result.metrics[name]? = some metric)
    (hodd : (before ++ outlier :: after).length % 2 = 1)
    (hthree : 3 ≤ (before ++ outlier :: after).length) :
    Between (before ++ after) name metric.value := by
  obtain ⟨-, hmem⟩ := aggregateRuns_mem h
  have hname : name ∈ result.metrics :=
    ExtTreeMap.mem_iff_isSome_getElem?.mpr (Option.isSome_iff_exists.mpr ⟨metric, hmetric⟩)
  have hall : ∀ run ∈ before ++ after, name ∈ run.metrics := by
    intro run hrun
    refine (hmem run ?_ name).mpr hname
    rw [List.mem_append, List.mem_cons]
    rw [List.mem_append] at hrun
    exact hrun.imp_right Or.inr
  apply between_of_metricValues hall
  rw [aggregateRuns_metric_value h hmetric]
  rw [metricValues, metricValues, List.map_append, List.map_append, List.map_cons]
  apply Median.median_between_others
  · rw [List.length_append, List.length_cons, List.length_map, List.length_map]
    rwa [List.length_append, List.length_cons] at hodd
  · rw [List.length_append, List.length_cons, List.length_map, List.length_map]
    rwa [List.length_append, List.length_cons] at hthree

/-- No run reports an invariant above its result. -/
theorem aggregateRuns_invariant_le {side : Side} {runs : List (BenchmarkResult ℚ)}
    {result run : BenchmarkResult ℚ} {name : String} {invariant : InvariantValue}
    (h : aggregateRuns side runs = .ok result) (hrun : run ∈ runs)
    (hinvariant : run.invariants[name]? = some invariant) :
    ∃ compared, result.invariants[name]? = some compared ∧ invariant.value ≤ compared.value := by
  obtain ⟨first, -, -, hkeys, -, hinvariants⟩ := BenchmarkGate.aggregateRuns_eq_ok h
  have hname : name ∈ result.invariants := by
    rw [hinvariants, ExtTreeMap.mem_map, ← hkeys run hrun name]
    exact ExtTreeMap.mem_iff_isSome_getElem?.mpr (Option.isSome_iff_exists.mpr ⟨_, hinvariant⟩)
  obtain ⟨compared, hcompared⟩ :=
    Option.isSome_iff_exists.mp (ExtTreeMap.mem_iff_isSome_getElem?.mp hname)
  refine ⟨compared, hcompared, ?_⟩
  by_contra hlt
  obtain ⟨other, hother, hviolated⟩ := (aggregateRuns_violated h).mpr
    ⟨run, hrun, invariant, hinvariant, not_le.mp hlt⟩
  rw [hcompared] at hother
  exact absurd hviolated (Option.some.inj hother ▸ lt_irrefl _)

/-- The row of an invariant shows the values of the two results. -/
theorem row_of_gated {entry : String × InvariantBudget} {row : InvariantComparison}
    (h : compareInvariant base head entry = .ok row) :
    row.name = entry.1 ∧
      (∀ invariant, head.invariants[row.name]? = some invariant → row.head = invariant.value) ∧
      ∀ invariant, base.invariants[row.name]? = some invariant → row.base = invariant.value := by
  rw [compareInvariant, Check.expect_bind_eq_ok] at h
  obtain ⟨headInvariant, hhead, h⟩ := h
  rw [Check.expect_bind_eq_ok] at h
  obtain ⟨baseInvariant, hbase, h⟩ := h
  cases h
  refine ⟨rfl, ?_, ?_⟩
  · intro invariant hinvariant
    rw [hhead] at hinvariant
    cases hinvariant
    rfl
  · intro invariant hinvariant
    rw [hbase] at hinvariant
    cases hinvariant
    rfl

theorem row_of_surfaced {row : InvariantComparison}
    (h : row ∈ surfacedInvariants base head budgets) :
    (∀ invariant, head.invariants[row.name]? = some invariant → row.head = invariant.value) ∧
      ∀ invariant, base.invariants[row.name]? = some invariant → row.base = invariant.value := by
  rw [surfacedInvariants, List.mem_map] at h
  obtain ⟨⟨name, found⟩, hmem, rfl⟩ := h
  rw [List.mem_filter, ExtTreeMap.mem_toList_iff_getElem?_eq_some] at hmem
  constructor
  · intro invariant hinvariant
    have hfound : head.invariants[name]? = some found := hmem.1
    have heq : head.invariants[name]? = some invariant := hinvariant
    rw [hfound] at heq
    cases heq
    rfl
  · intro invariant hinvariant
    have heq : base.invariants[name]? = some invariant := hinvariant
    change base.invariants[name]?.elim 0 (·.value) = _
    rw [heq, Option.elim_some]

/-- The values in the rows are those of the two results. -/
theorem compareRuns_row (h : compareRuns baseRuns headRuns budgets = .ok report) :
    ∃ base head, aggregateRuns .base baseRuns = .ok base ∧ aggregateRuns .head headRuns = .ok head ∧
      (∀ row ∈ report.metrics, (∃ metric, head.metrics[row.name]? = some metric ∧
          row.head = metric.value) ∧
        ∀ value ∈ row.base, ∃ metric, base.metrics[row.name]? = some metric ∧
          value = metric.value) ∧
      (∀ name ∈ head.invariants, ∃ row ∈ report.invariants, row.name = name) ∧
      ∀ row ∈ report.invariants,
        (∀ invariant, head.invariants[row.name]? = some invariant → row.head = invariant.value) ∧
          ∀ invariant, base.invariants[row.name]? = some invariant →
            row.base = invariant.value := by
  obtain ⟨base, head, gated, h⟩ := compareRuns_eq_ok h
  obtain ⟨hall, hrows⟩ := Check.mapM_eq_ok h.ofGated
  refine ⟨base, head, h.ofBase, h.ofHead, ?_, ?_, ?_⟩
  · intro row hrow
    obtain ⟨⟨name, metric⟩, hmem, rfl⟩ := (h.metrics row).mp hrow
    rw [ExtTreeMap.mem_toList_iff_getElem?_eq_some] at hmem
    refine ⟨⟨metric, hmem, rfl⟩, ?_⟩
    intro value hvalue
    obtain ⟨baseMetric, hmetric, rfl⟩ := Option.mem_map.mp hvalue
    exact ⟨baseMetric, hmetric, rfl⟩
  · intro name hname
    cases hbudget : budgets.invariants[name]? with
    | some budget =>
      obtain ⟨row, hrow, hok⟩ := hall (name, budget)
        (ExtTreeMap.mem_toList_iff_getElem?_eq_some.mpr hbudget)
      exact ⟨row, (h.invariants row).mpr (Or.inl hrow), (row_of_gated hok).1⟩
    | none =>
      obtain ⟨invariant, hinvariant⟩ :=
        Option.isSome_iff_exists.mp (ExtTreeMap.mem_iff_isSome_getElem?.mp hname)
      refine ⟨_, (h.invariants _).mpr (Or.inr (List.mem_map.mpr ⟨(name, invariant), ?_, rfl⟩)), rfl⟩
      rw [List.mem_filter, ExtTreeMap.mem_toList_iff_getElem?_eq_some]
      refine ⟨hinvariant, ?_⟩
      rw [Bool.not_eq_true', ← Bool.not_eq_true, ← ExtTreeMap.mem_iff_contains,
        ExtTreeMap.mem_iff_isSome_getElem?, hbudget]
      exact Bool.false_ne_true
  · intro row hrow
    rcases (h.invariants row).mp hrow with hrow | hrow
    · obtain ⟨entry, -, hok⟩ := hrows row hrow
      exact (row_of_gated hok).2
    · exact row_of_surfaced hrow

/-- **Neither the order of the runs nor a single one of them decides**, save that no violation of
an invariant is lost. -/
theorem compareRuns_perm :
    (∀ (baseRuns baseRuns' headRuns headRuns' : List (BenchmarkResult ℚ)) budgets,
      baseRuns.Perm baseRuns' → headRuns.Perm headRuns' →
      (compareRuns baseRuns headRuns budgets).toOption =
        (compareRuns baseRuns' headRuns' budgets).toOption) ∧
    (∀ side (runs runs' : List (BenchmarkResult ℚ)), runs.Perm runs' →
      (aggregateRuns side runs).toOption.map forget =
        (aggregateRuns side runs').toOption.map forget) ∧
    ∀ baseRuns headRuns budgets report, compareRuns baseRuns headRuns budgets = .ok report →
      (∀ row ∈ report.metrics, Between headRuns row.name row.head ∧
        ∀ value ∈ row.base, Between baseRuns row.name value) ∧
      (∀ before outlier after, headRuns = before ++ outlier :: after →
        headRuns.length % 2 = 1 → 3 ≤ headRuns.length →
        ∀ row ∈ report.metrics, Between (before ++ after) row.name row.head) ∧
      (∀ before outlier after, baseRuns = before ++ outlier :: after →
        baseRuns.length % 2 = 1 → 3 ≤ baseRuns.length →
        ∀ row ∈ report.metrics, ∀ value ∈ row.base, Between (before ++ after) row.name value) ∧
      (∀ run ∈ headRuns, ∀ name invariant, run.invariants[name]? = some invariant →
        (∃ row ∈ report.invariants, row.name = name) ∧
          ∀ row ∈ report.invariants, row.name = name → invariant.value ≤ row.head) ∧
      ∀ run ∈ baseRuns, ∀ name invariant, run.invariants[name]? = some invariant →
        ∀ row ∈ report.invariants, row.name = name → invariant.value ≤ row.base := by
  refine ⟨fun _ _ _ _ _ hbase hhead ↦ compareRuns_congr hbase hhead,
    fun side _ _ hperm ↦ aggregateRuns_forget_congr side hperm, ?_⟩
  intro baseRuns headRuns budgets report h
  obtain ⟨base, head, hbase, hhead, hmetrics, hnames, hinvariants⟩ := compareRuns_row h
  refine ⟨?_, ?_, ?_, ?_, ?_⟩
  · intro row hrow
    obtain ⟨⟨metric, hmetric, hvalue⟩, hrowbase⟩ := hmetrics row hrow
    refine ⟨hvalue ▸ aggregateRuns_between hhead hmetric, ?_⟩
    intro value hmem
    obtain ⟨baseMetric, hbaseMetric, rfl⟩ := hrowbase value hmem
    exact aggregateRuns_between hbase hbaseMetric
  · rintro before outlier after rfl hodd hthree row hrow
    obtain ⟨⟨metric, hmetric, hvalue⟩, -⟩ := hmetrics row hrow
    exact hvalue ▸ aggregateRuns_between_others hhead hmetric hodd hthree
  · rintro before outlier after rfl hodd hthree row hrow value hmem
    obtain ⟨baseMetric, hbaseMetric, rfl⟩ := (hmetrics row hrow).2 value hmem
    exact aggregateRuns_between_others hbase hbaseMetric hodd hthree
  · intro run hrun name invariant hinvariant
    obtain ⟨compared, hcompared, hle⟩ := aggregateRuns_invariant_le hhead hrun hinvariant
    refine ⟨hnames name (ExtTreeMap.mem_iff_isSome_getElem?.mpr
      (Option.isSome_iff_exists.mpr ⟨compared, hcompared⟩)), ?_⟩
    rintro row hrow rfl
    rw [(hinvariants row hrow).1 compared hcompared]
    exact hle
  · rintro run hrun name invariant hinvariant row hrow rfl
    obtain ⟨compared, hcompared, hle⟩ := aggregateRuns_invariant_le hbase hrun hinvariant
    rw [(hinvariants row hrow).2 compared hcompared]
    exact hle

end Compare

/-- A run that measures one latency. -/
def latencyRun (value : ℚ) : BenchmarkResult ℚ where
  schemaVersion := resultSchemaVersion
  benchmarkSuite := "fast-path"
  mode := "deterministic"
  datasetId := some "fixture"
  recording := none
  git := ⟨"c0ffee"⟩
  configuration := ⟨"v1", 42⟩
  metrics := (∅ : ExtTreeMap String (MetricValue ℚ)).insert "latency_ms" ⟨value, some 10, none⟩
  invariants := ∅

theorem compareRuns_perm_latency :
    (compareRuns [latencyRun 20, latencyRun 90, latencyRun 21] [latencyRun 22]
        ⟨∅, ∅, true⟩).toOption =
      (compareRuns [latencyRun 90, latencyRun 20, latencyRun 21] [latencyRun 22]
        ⟨∅, ∅, true⟩).toOption :=
  compareRuns_perm.1 _ _ _ _ _ (List.Perm.swap _ _ _) (List.Perm.refl _)

end Aivtuber.ExactGate
