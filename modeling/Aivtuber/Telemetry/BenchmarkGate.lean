import Std.Data.ExtTreeMap
import Aivtuber.Base.Check
import Aivtuber.Base.Saturating
import Aivtuber.Base.Text

/-!
# The benchmark gate

The base and the head revision are measured by repeated runs.  The runs of a side collapse
into one result, a metric into its median and an invariant into its maximum, and the
results of the two sides are compared under the budgets of the repository.

The gate fails on a violated invariant, but only where the invariant has a budget: one that
only the head reports gets a row and no verdict (`violation_fails_iff`).  The metrics are
compared in a loop over those of the head, so a budgeted metric that the head stops
measuring leaves no trace (`budgeted_accounted_iff`).
-/

namespace Aivtuber.BenchmarkGate

open Std (ExtTreeMap)
open Saturating (satAdd)

/-! ## Results -/

variable {ν : Type}

/-- Result contract version this module implements. -/
def resultSchemaVersion : String := "1"

/-- The spread of a metric across the runs of a side. -/
structure MetricRange (ν : Type) where
  min : ν
  max : ν

structure MetricValue (ν : Type) where
  value : ν
  sampleCount : Option Nat
  runRange : Option (MetricRange ν)

structure InvariantValue where
  value : Nat
  detail : Option String

structure BenchmarkRecording where
  runId : String
  recordedAt : String
  attempt : Option Nat

structure BenchmarkGit where
  commit : String

structure BenchmarkConfiguration where
  configVersion : String
  seed : Nat

structure BenchmarkResult (ν : Type) where
  schemaVersion : String
  benchmarkSuite : String
  mode : String
  datasetId : Option String
  recording : Option BenchmarkRecording
  git : BenchmarkGit
  configuration : BenchmarkConfiguration
  metrics : ExtTreeMap String (MetricValue ν)
  invariants : ExtTreeMap String InvariantValue

inductive Side where
  | base
  | head
deriving DecidableEq

def Side.asStr : Side → String
  | .base => "base"
  | .head => "head"

/-- What the runs of a side have to agree on the names of. -/
inductive KeyKind where
  | metric
  | invariant
deriving DecidableEq

def KeyKind.asStr : KeyKind → String
  | .metric => "metric"
  | .invariant => "invariant"

inductive BenchmarkGateError where
  | unsupportedSchemaVersion (schemaVersion : String)
  | missingCommit
  | differentIdentity (name mine theirs : String)
  | differentDataset (mine theirs : Option String)
  | differentSeed (mine theirs : Nat)
  | noRuns (side : Side)
  | notComparable (side : Side) (error : BenchmarkGateError)
  | differentCommits (side : Side) (first run : String)
  | differentKeys (side : Side) (kind : KeyKind)
  | missingInvariant (side : Side) (name : String)

/-- An optional text as it is debugged. -/
def debugOption (quote : String → String) : Option String → String
  | some text => "Some(" ++ quote text ++ ")"
  | none => "None"

/-- The text of an error; `quote` quotes a string as it is debugged. -/
def BenchmarkGateError.message (quote : String → String) : BenchmarkGateError → String
  | .unsupportedSchemaVersion schemaVersion =>
    "unsupported benchmark result schema_version " ++ quote schemaVersion ++ "; expected " ++
      quote resultSchemaVersion ++
      " (results must not be compared across incompatible contracts)"
  | .missingCommit => "benchmark result git.commit must be recorded"
  | .differentIdentity name mine theirs =>
    "cannot compare results with different " ++ name ++ ": " ++ quote mine ++ " vs " ++
      quote theirs
  | .differentDataset mine theirs =>
    "cannot compare results with different dataset_id: " ++ debugOption quote mine ++ " vs " ++
      debugOption quote theirs
  | .differentSeed mine theirs =>
    "cannot compare results with different seed: " ++ toString mine ++ " vs " ++
      toString theirs
  | .noRuns side => side.asStr ++ " comparison needs at least one benchmark result"
  | .notComparable side error =>
    side.asStr ++ " runs are not comparable: " ++ error.message quote
  | .differentCommits side first run =>
    side.asStr ++ " runs disagree on git.commit: " ++ quote first ++ " vs " ++ quote run ++
      "; one side must be repeated measurements of a single revision"
  | .differentKeys side kind =>
    side.asStr ++ " runs disagree on " ++ kind.asStr ++
      " keys: the first run and a later run must measure exactly the same " ++ kind.asStr ++
      " set, so no metric is silently ungated and no invariant violation is silently dropped"
  | .missingInvariant side name =>
    side.asStr ++ " result is missing required invariant " ++ quote name

def BenchmarkResult.validate (result : BenchmarkResult ν) : Except BenchmarkGateError Unit := do
  Check.ensure (.unsupportedSchemaVersion result.schemaVersion)
    (result.schemaVersion = resultSchemaVersion)
  Check.ensure .missingCommit (!Text.isBlank result.git.commit)

/-- Results of different suites, modes, datasets, config versions or seeds are not compared. -/
def BenchmarkResult.ensureComparable (self other : BenchmarkResult ν) :
    Except BenchmarkGateError Unit := do
  Check.ensure (.differentIdentity "benchmark_suite" self.benchmarkSuite other.benchmarkSuite)
    (self.benchmarkSuite = other.benchmarkSuite)
  Check.ensure (.differentIdentity "mode" self.mode other.mode) (self.mode = other.mode)
  Check.ensure (.differentDataset self.datasetId other.datasetId)
    (self.datasetId.isSome && self.datasetId = other.datasetId)
  Check.ensure
    (.differentIdentity "config_version" self.configuration.configVersion
      other.configuration.configVersion)
    (self.configuration.configVersion = other.configuration.configVersion)
  Check.ensure (.differentSeed self.configuration.seed other.configuration.seed)
    (self.configuration.seed = other.configuration.seed)

/-! ## Budgets -/

inductive BudgetDirection where
  | lower
  | higher
deriving DecidableEq

structure MetricBudget (ν : Type) where
  direction : BudgetDirection
  warnRegressionPercent : Option ν
  failRegressionPercent : Option ν
  warnAbsoluteChange : Option ν
  failAbsoluteChange : Option ν
  minSamples : Option Nat

structure InvariantBudget where
  max : Nat

/-- Repository-controlled regression policy. -/
structure Budgets (ν : Type) where
  metrics : ExtTreeMap String (MetricBudget ν)
  invariants : ExtTreeMap String InvariantBudget
  /-- Warn of the metrics that have no budget. -/
  ungatedMetricsWarningOnly : Bool

def Budgets.default : Budgets ν where
  metrics := ∅
  invariants := ∅
  ungatedMetricsWarningOnly := true

inductive MetricStatus where
  | improved
  | ok
  | warning
  | failed
  | ungated
deriving DecidableEq

/-- What the gate does with the numbers of its measurements. -/
class Measure (ν : Type) where
  zero : ν
  sub (a b : ν) : ν
  abs (a : ν) : ν
  /-- The mean of two numbers. -/
  mean (a b : ν) : ν
  /-- `part / whole * 100`. -/
  percent (part whole : ν) : ν
  lt (a b : ν) : Bool
  ltInfinity (a : ν) : Bool
  isZero (a : ν) : Bool
  /-- The smallest and the largest of some values. -/
  extremes (values : List ν) : MetricRange ν

open BenchmarkGate.Measure

/-- The smaller of two floats; one that is not a number is ignored. -/
def floatMin (a b : Float) : Float :=
  if a.isNaN then b else if b.isNaN then a else if b < a then b else a

def floatMax (a b : Float) : Float :=
  if a.isNaN then b else if b.isNaN then a else if a < b then b else a

/-- The numbers of the source. -/
instance : Measure Float where
  zero := 0
  sub a b := a - b
  abs := Float.abs
  mean a b := (a + b) / 2
  percent part whole := part / whole * 100
  lt a b := a < b
  ltInfinity a := a < 1 / 0
  isZero a := a == 0
  extremes values :=
    { min := values.foldl floatMin (1 / 0), max := values.foldl floatMax (-1 / 0) }

variable [Measure ν]

/-- The samples stay below the floor; an unknown count does. -/
def MetricBudget.belowFloor (budget : MetricBudget ν) (sampleCount : Option Nat) : Bool :=
  budget.minSamples.any fun minSamples ↦ sampleCount.all fun count ↦ decide (count < minSamples)

def MetricBudget.improved (budget : MetricBudget ν) (baseValue headValue : ν) : Bool :=
  let delta := sub headValue baseValue
  match budget.direction with
  | .lower => lt delta zero
  | .higher => lt zero delta

/-- The regression relative to the base is beyond the limit; it is infinite for a base of zero. -/
def beyondPercent (baseValue headValue limit : ν) : Bool :=
  let regression := abs (sub headValue baseValue)
  let baseReference := abs baseValue
  if lt zero baseReference then lt limit (percent regression baseReference) else ltInfinity limit

def beyondAbsolute (baseValue headValue limit : ν) : Bool :=
  lt limit (abs (sub headValue baseValue))

/-- One metric against its budget.  An unknown sample count keeps the floor binding. -/
def evaluateMetric (baseValue headValue : ν) (sampleCount : Option Nat)
    (budget : MetricBudget ν) : MetricStatus :=
  if budget.belowFloor sampleCount then .ungated
  else if budget.improved baseValue headValue then .improved
  else if budget.failRegressionPercent.any (beyondPercent baseValue headValue) ||
      budget.failAbsoluteChange.any (beyondAbsolute baseValue headValue) then
    .failed
  else if budget.warnRegressionPercent.any (beyondPercent baseValue headValue) ||
      budget.warnAbsoluteChange.any (beyondAbsolute baseValue headValue) then
    .warning
  else
    .ok

/-! ## The runs of a side -/

/-- The spread of a metric, once there is more than one run. -/
def MetricRange.of (values : List ν) : Option (MetricRange ν) :=
  if 1 < values.length then some (extremes values) else none

/-- The middle order statistic, or the mean of the two middle values.  The sample is not
empty. -/
def median (values : List ν) : ν :=
  let sorted := values.mergeSort fun left right ↦ !lt right left
  let middle := sorted.length / 2
  if sorted.length % 2 = 0 then
    mean (sorted.getD (middle - 1) zero) (sorted.getD middle zero)
  else
    sorted.getD middle zero

/-- The values of a metric, run by run.  The runs agree on the names, so each has one. -/
def metricValues (runs : List (BenchmarkResult ν)) (name : String) : List ν :=
  runs.map fun run ↦ run.metrics[name]?.elim zero (·.value)

/-- The samples of all runs; unknown as soon as one run has no count. -/
def pooledSamples (runs : List (BenchmarkResult ν)) (name : String) : Option Nat :=
  (runs.mapM fun run ↦ run.metrics[name]?.bind (·.sampleCount)).map (·.foldl satAdd 0)

/-- A metric of a side: its median, with the samples and the spread of the runs. -/
def aggregateMetric (runs : List (BenchmarkResult ν)) (name : String) : MetricValue ν where
  value := median (metricValues runs name)
  sampleCount := pooledSamples runs name
  runRange := MetricRange.of (metricValues runs name)

def invariantMaximum (runs : List (BenchmarkResult ν)) (name : String) : Nat :=
  (runs.map fun run ↦ run.invariants[name]?.elim 0 (·.value)).max?.getD 0

def keysDiffer {α : Type} (mine theirs : ExtTreeMap String α) : Bool :=
  mine.keys != theirs.keys || mine.keys.any (!theirs.contains ·) ||
    theirs.keys.any (!mine.contains ·)

/-- A later run of a side repeats the measurement of the first one. -/
def checkRepetition (side : Side) (first run : BenchmarkResult ν) :
    Except BenchmarkGateError Unit := do
  run.validate
  (first.ensureComparable run).mapError (.notComparable side)
  Check.ensure (.differentCommits side first.git.commit run.git.commit)
    (run.git.commit = first.git.commit)
  Check.ensure (.differentKeys side .metric) (!keysDiffer first.metrics run.metrics)
  Check.ensure (.differentKeys side .invariant) (!keysDiffer first.invariants run.invariants)

/-- The runs of one side as a single result. -/
def aggregateRuns (side : Side) :
    List (BenchmarkResult ν) → Except BenchmarkGateError (BenchmarkResult ν)
  | [] => .error (.noRuns side)
  | first :: rest => do
    first.validate
    rest.forM (checkRepetition side first)
    let runs := first :: rest
    pure
      { first with
        recording := none
        metrics := first.metrics.map fun name _ ↦ aggregateMetric runs name
        invariants := first.invariants.map fun name invariant ↦
          { value := invariantMaximum runs name, detail := invariant.detail } }

/-! ## The comparison -/

structure MetricComparison (ν : Type) where
  name : String
  base : Option ν
  head : ν
  deltaPercent : Option ν
  status : MetricStatus
  baseRange : Option (MetricRange ν)
  headRange : Option (MetricRange ν)

structure InvariantComparison where
  name : String
  base : Nat
  head : Nat
  max : Nat
  passed : Bool
deriving DecidableEq

inductive GateVerdict where
  | pass
  | warning
  | fail
deriving DecidableEq

/-- The verdict on a comparison with a failure, with a warning, or with neither. -/
def GateVerdict.of (failed warned : Bool) : GateVerdict :=
  if failed then .fail else if warned then .warning else .pass

@[simp] theorem GateVerdict.of_eq_fail {failed warned : Bool} :
    of failed warned = .fail ↔ failed = true := by
  cases failed <;> cases warned <;> simp [of]

inductive GateWarning where
  | belowFloor (name : String) (sampleCount : Option Nat) (headRuns minSamples : Nat)
  | noBudget (name : String)
deriving DecidableEq

/-- The metric a warning names. -/
def GateWarning.name : GateWarning → String
  | .belowFloor name _ _ _ => name
  | .noBudget name => name

def GateWarning.message (quote : String → String) : GateWarning → String
  | .belowFloor name sampleCount headRuns minSamples =>
    "metric " ++ quote name ++ " pools " ++ sampleCount.elim "an unknown number of" toString ++
      " sample(s) over " ++ toString headRuns ++ " head run(s), below its min_samples floor of " ++
      toString minSamples ++ "; reported ungated (raise the repeat count, or lower the floor " ++
      "only with recorded evidence, #180)"
  | .noBudget name =>
    "metric " ++ quote name ++
      " has no budget entry; reported ungated (calibrate before gating, #58)"

structure GateReport (ν : Type) where
  baseCommit : String
  headCommit : String
  baseRuns : Nat
  headRuns : Nat
  metrics : List (MetricComparison ν)
  invariants : List InvariantComparison
  warnings : List GateWarning
  verdict : GateVerdict

/-- The change in percent, positive where the head improves the metric. -/
def deltaPercent (baseValue : Option ν) (headValue : ν) (budget : Option (MetricBudget ν)) :
    Option ν :=
  match baseValue, budget.map (·.direction) with
  | some baseValue, some direction =>
    if isZero baseValue then none
    else
      some (match direction with
        | .lower => percent (sub baseValue headValue) baseValue
        | .higher => percent (sub headValue baseValue) (abs baseValue))
  | _, _ => none

/-- The status of a metric of the head, and why it does not gate. -/
def metricStatus (budgets : Budgets ν) (headRuns : Nat) (name : String)
    (baseMetric : Option (MetricValue ν)) (headMetric : MetricValue ν) :
    MetricStatus × Option GateWarning :=
  match baseMetric, budgets.metrics[name]? with
  | some baseMetric, some budget =>
    let status :=
      evaluateMetric baseMetric.value headMetric.value headMetric.sampleCount budget
    (status,
      if status = .ungated then
        budget.minSamples.map (.belowFloor name headMetric.sampleCount headRuns ·)
      else
        none)
  | some _, none =>
    (.ungated, if budgets.ungatedMetricsWarningOnly then some (.noBudget name) else none)
  | none, _ => (.ungated, none)

/-- The row of a metric of the head, and the warning that goes with it. -/
def compareMetric (base : BenchmarkResult ν) (budgets : Budgets ν) (headRuns : Nat)
    (metric : String × MetricValue ν) : MetricComparison ν × Option GateWarning :=
  let (name, headMetric) := metric
  let baseMetric := base.metrics[name]?
  let baseValue := baseMetric.map (·.value)
  let (status, warning) := metricStatus budgets headRuns name baseMetric headMetric
  ({ name
     base := baseValue
     head := headMetric.value
     deltaPercent := deltaPercent baseValue headMetric.value budgets.metrics[name]?
     status
     baseRange := baseMetric.bind (·.runRange)
     headRange := headMetric.runRange }, warning)

/-- The row of an invariant with a budget; both sides must report it. -/
def compareInvariant (base head : BenchmarkResult ν) (entry : String × InvariantBudget) :
    Except BenchmarkGateError InvariantComparison := do
  let (name, budget) := entry
  let headInvariant ← Check.expect (.missingInvariant .head name) head.invariants[name]?
  let baseInvariant ← Check.expect (.missingInvariant .base name) base.invariants[name]?
  pure
    { name
      base := baseInvariant.value
      head := headInvariant.value
      max := budget.max
      passed := headInvariant.value ≤ budget.max }

/-- The rows of the invariants that only the results name. -/
def surfacedInvariants (base head : BenchmarkResult ν) (budgets : Budgets ν) :
    List InvariantComparison :=
  (head.invariants.toList.filter fun (name, _) ↦ !budgets.invariants.contains name).map
    fun (name, invariant) ↦
      { name
        base := base.invariants[name]?.elim 0 (·.value)
        head := invariant.value
        max := 0
        passed := invariant.value = 0 }

/-- The report on two results that `baseRuns` and `headRuns` many runs amount to. -/
def compareResults (base head : BenchmarkResult ν) (budgets : Budgets ν)
    (baseRuns headRuns : Nat) : Except BenchmarkGateError (GateReport ν) := do
  base.ensureComparable head
  let compared := head.metrics.toList.map (compareMetric base budgets headRuns)
  let gated ← budgets.invariants.toList.mapM (compareInvariant base head)
  -- Only a row of the first loop sets the flag.
  let failed := gated.any (!·.passed)
  let invariants := gated ++ surfacedInvariants base head budgets
  let metrics := (compared.map Prod.fst).mergeSort fun left right ↦
    (compare left.name right.name).isLE
  pure
    { baseCommit := base.git.commit
      headCommit := head.git.commit
      baseRuns
      headRuns
      metrics
      invariants := invariants.mergeSort fun left right ↦ (compare left.name right.name).isLE
      warnings := compared.filterMap Prod.snd
      verdict := .of (failed || metrics.any (·.status = .failed))
        (metrics.any (·.status = .warning)) }

/-- Compare repeated runs of base and head under the budgets. -/
def compareRuns (baseRuns headRuns : List (BenchmarkResult ν)) (budgets : Budgets ν) :
    Except BenchmarkGateError (GateReport ν) := do
  let base ← aggregateRuns .base baseRuns
  let head ← aggregateRuns .head headRuns
  compareResults base head budgets baseRuns.length headRuns.length

/-! ## What the runs of a side amount to -/

/-- The runs of a side measure a metric.  They agree on the names, so one run decides. -/
def Measures (runs : List (BenchmarkResult ν)) (name : String) : Prop :=
  ∃ run ∈ runs, name ∈ run.metrics

/-- A run reports the invariant above `max`. -/
def ViolatedIn (runs : List (BenchmarkResult ν)) (name : String) (max : Nat) : Prop :=
  ∃ run ∈ runs, ∃ invariant, run.invariants[name]? = some invariant ∧ max < invariant.value

theorem mem_iff_of_keysDiffer {α : Type} {mine theirs : ExtTreeMap String α}
    (h : keysDiffer mine theirs = false) (name : String) : name ∈ theirs ↔ name ∈ mine := by
  simp only [keysDiffer, Bool.or_eq_false_iff, bne_eq_false_iff_eq] at h
  rw [← ExtTreeMap.mem_keys, ← ExtTreeMap.mem_keys, h.1.1]

/-- A largest value is above a limit just when some value is. -/
theorem lt_max_iff {limit : Nat} {l : List Nat} : limit < l.max?.getD 0 ↔ ∃ n ∈ l, limit < n := by
  cases hmax : l.max? with
  | none =>
    rw [List.max?_eq_none_iff.mp hmax]
    simp
  | some m =>
    obtain ⟨hmem, hle⟩ := List.max?_eq_some_iff.mp hmax
    constructor
    · intro h
      exact ⟨m, hmem, h⟩
    · rintro ⟨n, hn, h⟩
      exact Nat.lt_of_lt_of_le h (hle n hn)

section Aggregate

variable {side : Side} {runs : List (BenchmarkResult ν)} {result : BenchmarkResult ν}
  {name : String}

/-- A side that is accepted has a first run, whose names are those of all runs. -/
theorem aggregateRuns_eq_ok (h : aggregateRuns side runs = .ok result) :
    ∃ first ∈ runs,
      (∀ run ∈ runs, ∀ name, name ∈ run.metrics ↔ name ∈ first.metrics) ∧
      (∀ run ∈ runs, ∀ name, name ∈ run.invariants ↔ name ∈ first.invariants) ∧
      result.metrics = first.metrics.map (fun name _ ↦ aggregateMetric runs name) ∧
      result.invariants = first.invariants.map fun name invariant ↦
        { value := invariantMaximum runs name, detail := invariant.detail } := by
  cases runs with
  | nil => cases h
  | cons first rest =>
    rw [aggregateRuns, Check.unit_bind_eq_ok, Check.unit_bind_eq_ok, Check.forM_eq_ok] at h
    obtain ⟨-, hrest, h⟩ := h
    cases h
    have hrepeats : ∀ run ∈ rest, keysDiffer first.metrics run.metrics = false ∧
        keysDiffer first.invariants run.invariants = false := by
      intro run hrun
      have h := hrest run hrun
      rw [checkRepetition, Check.unit_bind_eq_ok, Check.unit_bind_eq_ok, Check.unit_bind_eq_ok,
        Check.unit_bind_eq_ok, Check.ensure_eq_ok, Check.ensure_eq_ok, Check.ensure_eq_ok] at h
      simpa using h.2.2.2
    refine ⟨first, List.mem_cons_self, ?_, ?_, rfl, rfl⟩
    · rintro run (_ | ⟨_, hrun⟩) name
      · rfl
      · exact mem_iff_of_keysDiffer (hrepeats run hrun).1 name
    · rintro run (_ | ⟨_, hrun⟩) name
      · rfl
      · exact mem_iff_of_keysDiffer (hrepeats run hrun).2 name

theorem aggregateRuns_metric (h : aggregateRuns side runs = .ok result) {metric : MetricValue ν} :
    result.metrics[name]? = some metric ↔ Measures runs name ∧ metric = aggregateMetric runs name := by
  obtain ⟨first, hfirst, hkeys, -, hmetrics, -⟩ := aggregateRuns_eq_ok h
  have hmeasures : Measures runs name ↔ name ∈ first.metrics := by
    constructor
    · rintro ⟨run, hrun, hname⟩
      exact (hkeys run hrun name).mp hname
    · intro hname
      exact ⟨first, hfirst, hname⟩
  rw [hmeasures, hmetrics, ExtTreeMap.getElem?_map, ExtTreeMap.mem_iff_isSome_getElem?]
  cases first.metrics[name]? <;> simp [eq_comm]

theorem aggregateRuns_violated (h : aggregateRuns side runs = .ok result) {max : Nat} :
    (∃ invariant, result.invariants[name]? = some invariant ∧ max < invariant.value) ↔
      ViolatedIn runs name max := by
  obtain ⟨first, hfirst, -, hkeys, -, hinvariants⟩ := aggregateRuns_eq_ok h
  have hmax : ViolatedIn runs name max ↔ max < invariantMaximum runs name := by
    rw [invariantMaximum, lt_max_iff, ViolatedIn]
    simp only [List.mem_map, exists_exists_and_eq_and]
    refine exists_congr fun run ↦ and_congr_right fun _ ↦ ?_
    cases run.invariants[name]? <;> simp
  rw [hmax, hinvariants, ExtTreeMap.getElem?_map]
  cases hname : first.invariants[name]? with
  | some invariant => simp
  | none =>
    -- Then no run reports it, and the largest of no values is 0.
    have hnone : ¬max < invariantMaximum runs name := by
      rw [← hmax]
      rintro ⟨run, hrun, invariant, hinvariant, -⟩
      have hmem : name ∈ first.invariants :=
        (hkeys run hrun name).mp (ExtTreeMap.mem_iff_isSome_getElem?.mpr (by simp [hinvariant]))
      simp [ExtTreeMap.mem_iff_isSome_getElem?, hname] at hmem
    simp [hnone]

end Aggregate

/-! ## What the gate decides -/

section Compare

variable {baseRuns headRuns : List (BenchmarkResult ν)} {budgets : Budgets ν}
  {report : GateReport ν}
  {base head : BenchmarkResult ν} {gated : List InvariantComparison}

/-- A report that comes about, with the results it compares and the rows of the budgeted
invariants. -/
structure Compares (baseRuns headRuns : List (BenchmarkResult ν)) (budgets : Budgets ν)
    (report : GateReport ν) (base head : BenchmarkResult ν) (gated : List InvariantComparison) :
    Prop where
  ofBase : aggregateRuns .base baseRuns = .ok base
  ofHead : aggregateRuns .head headRuns = .ok head
  ofGated : budgets.invariants.toList.mapM (compareInvariant base head) = .ok gated
  metrics : ∀ row, row ∈ report.metrics ↔ ∃ metric ∈ head.metrics.toList,
    (compareMetric base budgets headRuns.length metric).1 = row
  warnings : ∀ warning, warning ∈ report.warnings ↔ ∃ metric ∈ head.metrics.toList,
    (compareMetric base budgets headRuns.length metric).2 = some warning
  invariants : ∀ row, row ∈ report.invariants ↔
    row ∈ gated ∨ row ∈ surfacedInvariants base head budgets
  fails : report.verdict = .fail ↔
    (∃ row ∈ gated, row.passed = false) ∨ ∃ row ∈ report.metrics, row.status = .failed

theorem compareRuns_eq_ok (h : compareRuns baseRuns headRuns budgets = .ok report) :
    ∃ base head gated, Compares baseRuns headRuns budgets report base head gated := by
  rw [compareRuns, Check.bind_eq_ok] at h
  obtain ⟨base, hbase, h⟩ := h
  rw [Check.bind_eq_ok] at h
  obtain ⟨head, hhead, h⟩ := h
  rw [compareResults, Check.unit_bind_eq_ok, Check.bind_eq_ok] at h
  obtain ⟨-, gated, hgated, h⟩ := h
  cases h
  refine ⟨base, head, gated, hbase, hhead, hgated, ?_, ?_, ?_, ?_⟩
  · intro row
    simp
  · intro warning
    simp
  · intro row
    simp
  · simp

/-! ### Invariants -/

/-- The row of a budgeted invariant fails just when a head run is above the maximum. -/
theorem Compares.passed_iff (h : Compares baseRuns headRuns budgets report base head gated)
    {entry : String × InvariantBudget} {row : InvariantComparison}
    (hrow : compareInvariant base head entry = .ok row) :
    row.passed = false ↔ ViolatedIn headRuns entry.1 entry.2.max := by
  rw [compareInvariant, Check.expect_bind_eq_ok] at hrow
  obtain ⟨headInvariant, hhead, hrow⟩ := hrow
  rw [Check.expect_bind_eq_ok] at hrow
  obtain ⟨baseInvariant, -, hrow⟩ := hrow
  cases hrow
  rw [← aggregateRuns_violated h.ofHead]
  simp [hhead]

theorem Compares.exists_gated_iff (h : Compares baseRuns headRuns budgets report base head gated) :
    (∃ row ∈ gated, row.passed = false) ↔
      ∃ name budget, budgets.invariants[name]? = some budget ∧
        ViolatedIn headRuns name budget.max := by
  obtain ⟨hall, hrows⟩ := Check.mapM_eq_ok h.ofGated
  constructor
  · rintro ⟨row, hrow, hpassed⟩
    obtain ⟨entry, hentry, hok⟩ := hrows row hrow
    rw [ExtTreeMap.mem_toList_iff_getElem?_eq_some] at hentry
    exact ⟨entry.1, entry.2, hentry, (h.passed_iff hok).mp hpassed⟩
  · rintro ⟨name, budget, hbudget, hviolated⟩
    obtain ⟨row, hrow, hok⟩ := hall (name, budget)
      (ExtTreeMap.mem_toList_iff_getElem?_eq_some.mpr hbudget)
    exact ⟨row, hrow, (h.passed_iff hok).mpr hviolated⟩

/-- The row of an invariant without a budget fails when a head run reports it at all. -/
theorem Compares.exists_surfaced_iff (h : Compares baseRuns headRuns budgets report base head gated) :
    (∃ row ∈ surfacedInvariants base head budgets, row.passed = false) ↔
      ∃ name, name ∉ budgets.invariants ∧ ViolatedIn headRuns name 0 := by
  simp only [← aggregateRuns_violated h.ofHead, surfacedInvariants, List.mem_map, List.mem_filter,
    ← ExtTreeMap.mem_toList_iff_getElem?_eq_some, ← ExtTreeMap.contains_iff_mem, Bool.not_eq_true]
  constructor
  · rintro ⟨row, ⟨⟨name, invariant⟩, ⟨hinvariant, hbudget⟩, rfl⟩, hpassed⟩
    refine ⟨name, by simpa using hbudget, invariant, hinvariant, ?_⟩
    simpa [Nat.pos_iff_ne_zero] using hpassed
  · rintro ⟨name, hbudget, invariant, hinvariant, hpos⟩
    refine ⟨_, ⟨(name, invariant), ⟨hinvariant, by simpa using hbudget⟩, rfl⟩, ?_⟩
    simpa [Nat.pos_iff_ne_zero] using hpos

/-! ### Metrics -/

/-- Both sides measure the metric, and the change of its median is beyond what its budget
lets pass. -/
def Regresses (baseRuns headRuns : List (BenchmarkResult ν)) (budgets : Budgets ν) (name : String) :
    Prop :=
  ∃ budget, budgets.metrics[name]? = some budget ∧ Measures baseRuns name ∧
    Measures headRuns name ∧
    evaluateMetric (median (metricValues baseRuns name)) (median (metricValues headRuns name))
      (pooledSamples headRuns name) budget = .failed

/-- A metric that both sides measure under a budget is evaluated. -/
theorem metricStatus_of_budget {budget : MetricBudget ν} {name : String}
    (hbudget : budgets.metrics[name]? = some budget) (n : Nat) (baseMetric headMetric : MetricValue ν) :
    (metricStatus budgets n name (some baseMetric) headMetric).1 =
      evaluateMetric baseMetric.value headMetric.value headMetric.sampleCount budget := by
  simp only [metricStatus, hbudget]

theorem metricStatus_failed {name : String} {n : Nat} {baseMetric : Option (MetricValue ν)}
    {headMetric : MetricValue ν}
    (h : (metricStatus budgets n name baseMetric headMetric).1 = .failed) :
    ∃ metric budget, baseMetric = some metric ∧ budgets.metrics[name]? = some budget := by
  unfold metricStatus at h
  split at h
  · rename_i metric budget hbudget
    exact ⟨metric, budget, rfl, hbudget⟩
  · cases h
  · cases h

/-- Only a floor that the samples do not reach leaves a metric ungated. -/
theorem evaluateMetric_ungated {baseValue headValue : ν} {sampleCount : Option Nat}
    {budget : MetricBudget ν}
    (h : evaluateMetric baseValue headValue sampleCount budget = .ungated) :
    ∃ minSamples, budget.minSamples = some minSamples := by
  cases hfloor : budget.minSamples with
  | some minSamples => exact ⟨minSamples, rfl⟩
  | none =>
    rw [evaluateMetric, MetricBudget.belowFloor, hfloor] at h
    split_ifs at h with hany
    simp at hany

/-- A metric that is left ungated in spite of its budget comes with a warning. -/
theorem metricStatus_ungated {budget : MetricBudget ν} {name : String}
    (hbudget : budgets.metrics[name]? = some budget) {n : Nat} {baseMetric headMetric : MetricValue ν}
    (h : (metricStatus budgets n name (some baseMetric) headMetric).1 = .ungated) :
    ∃ warning, (metricStatus budgets n name (some baseMetric) headMetric).2 = some warning ∧
      warning.name = name := by
  rw [metricStatus_of_budget hbudget] at h
  obtain ⟨minSamples, hfloor⟩ := evaluateMetric_ungated h
  refine ⟨.belowFloor name headMetric.sampleCount n minSamples, ?_, rfl⟩
  simp [metricStatus, hbudget, h, hfloor]

/-- The metrics of the report are those that the head runs measure. -/
theorem Compares.exists_metric_iff (h : Compares baseRuns headRuns budgets report base head gated)
    {P : MetricComparison ν × Option GateWarning → Prop} :
    (∃ metric ∈ head.metrics.toList, P (compareMetric base budgets headRuns.length metric)) ↔
      ∃ name, Measures headRuns name ∧ P (compareMetric base budgets headRuns.length
        (name, aggregateMetric headRuns name)) := by
  constructor
  · rintro ⟨⟨name, metric⟩, hmetric, hP⟩
    rw [ExtTreeMap.mem_toList_iff_getElem?_eq_some, aggregateRuns_metric h.ofHead] at hmetric
    obtain ⟨hmeasures, rfl⟩ := hmetric
    exact ⟨name, hmeasures, hP⟩
  · rintro ⟨name, hmeasures, hP⟩
    refine ⟨_, ?_, hP⟩
    rw [ExtTreeMap.mem_toList_iff_getElem?_eq_some, aggregateRuns_metric h.ofHead]
    exact ⟨hmeasures, rfl⟩

@[simp] theorem compareMetric_name (n : Nat) (metric : String × MetricValue ν) :
    (compareMetric base budgets n metric).1.name = metric.1 := rfl

theorem compareMetric_status (n : Nat) (metric : String × MetricValue ν) :
    (compareMetric base budgets n metric).1.status =
      (metricStatus budgets n metric.1 base.metrics[metric.1]? metric.2).1 := rfl

theorem compareMetric_warning (n : Nat) (metric : String × MetricValue ν) :
    (compareMetric base budgets n metric).2 =
      (metricStatus budgets n metric.1 base.metrics[metric.1]? metric.2).2 := rfl

theorem Compares.exists_row_metric_iff (h : Compares baseRuns headRuns budgets report base head gated)
    {P : MetricComparison ν → Prop} :
    (∃ row ∈ report.metrics, P row) ↔ ∃ name, Measures headRuns name ∧
      P (compareMetric base budgets headRuns.length (name, aggregateMetric headRuns name)).1 := by
  rw [← h.exists_metric_iff (P := fun compared ↦ P compared.1)]
  constructor
  · rintro ⟨row, hrow, hP⟩
    obtain ⟨metric, hmetric, rfl⟩ := (h.metrics row).mp hrow
    exact ⟨metric, hmetric, hP⟩
  · rintro ⟨metric, hmetric, hP⟩
    exact ⟨_, (h.metrics _).mpr ⟨metric, hmetric, rfl⟩, hP⟩

theorem Compares.exists_failed_iff (h : Compares baseRuns headRuns budgets report base head gated) :
    (∃ row ∈ report.metrics, row.status = .failed) ↔
      ∃ name, Regresses baseRuns headRuns budgets name := by
  rw [h.exists_row_metric_iff]
  refine exists_congr fun name ↦ ?_
  rw [compareMetric_status]
  constructor
  · rintro ⟨hhead, hfailed⟩
    obtain ⟨metric, budget, hmetric, hbudget⟩ := metricStatus_failed hfailed
    rw [hmetric, metricStatus_of_budget hbudget] at hfailed
    obtain ⟨hbase, rfl⟩ := (aggregateRuns_metric h.ofBase).mp hmetric
    exact ⟨budget, hbudget, hbase, hhead, hfailed⟩
  · rintro ⟨budget, hbudget, hbase, hhead, hfailed⟩
    refine ⟨hhead, ?_⟩
    rw [(aggregateRuns_metric h.ofBase).mpr ⟨hbase, rfl⟩, metricStatus_of_budget hbudget]
    exact hfailed

/-- A metric is accounted for: it has a row that gates, or one that does not and a warning
that names it. -/
def Accounted (report : GateReport ν) (name : String) : Prop :=
  (∃ row ∈ report.metrics, row.name = name ∧ row.status ≠ .ungated) ∨
    (∃ row ∈ report.metrics, row.name = name ∧ row.status = .ungated) ∧
      ∃ warning ∈ report.warnings, warning.name = name

/-- A budgeted metric of the base is accounted for just when the head measures it. -/
theorem Compares.accounted_iff (h : Compares baseRuns headRuns budgets report base head gated)
    {name : String} {budget : MetricBudget ν} (hbudget : budgets.metrics[name]? = some budget)
    (hbase : Measures baseRuns name) : Accounted report name ↔ Measures headRuns name := by
  constructor
  · have hrow : ∀ row ∈ report.metrics, Measures headRuns row.name := by
      intro row hrow
      obtain ⟨metric, hmetric, rfl⟩ := (h.metrics row).mp hrow
      rw [ExtTreeMap.mem_toList_iff_getElem?_eq_some, aggregateRuns_metric h.ofHead] at hmetric
      exact hmetric.1
    rintro (⟨row, hmem, rfl, -⟩ | ⟨⟨row, hmem, rfl, -⟩, -⟩)
    · exact hrow row hmem
    · exact hrow row hmem
  · intro hhead
    have hmetric := (aggregateRuns_metric h.ofBase).mpr ⟨hbase, rfl⟩
    have hmem : (name, aggregateMetric headRuns name) ∈ head.metrics.toList := by
      rw [ExtTreeMap.mem_toList_iff_getElem?_eq_some, aggregateRuns_metric h.ofHead]
      exact ⟨hhead, rfl⟩
    have hrow := (h.metrics _).mpr ⟨_, hmem, rfl⟩
    by_cases hgates : (compareMetric base budgets headRuns.length
        (name, aggregateMetric headRuns name)).1.status = .ungated
    · have hstatus := hgates
      rw [compareMetric_status, hmetric] at hstatus
      obtain ⟨warning, hwarning, hname⟩ := metricStatus_ungated hbudget hstatus
      refine Or.inr ⟨⟨_, hrow, rfl, hgates⟩, warning, ?_, hname⟩
      rw [h.warnings]
      refine ⟨_, hmem, ?_⟩
      rw [compareMetric_warning, hmetric, hwarning]
    · exact Or.inl ⟨_, hrow, rfl, hgates⟩

end Compare

section Verdict

variable {baseRuns headRuns : List (BenchmarkResult ν)} {budgets : Budgets ν}
  {report : GateReport ν}

/-- **A violated invariant fails the gate** just when it has a budget, or the gate fails
anyway: no invariant without a budget is above zero in a head run, or a head run is above
the maximum of an invariant that has one, or a metric regresses beyond its budget. -/
theorem violation_fails_iff (h : compareRuns baseRuns headRuns budgets = .ok report) :
    ((∃ row ∈ report.invariants, row.passed = false) → report.verdict = .fail) ↔
      (∀ name, name ∉ budgets.invariants → ¬ViolatedIn headRuns name 0) ∨
      (∃ name budget, budgets.invariants[name]? = some budget ∧
        ViolatedIn headRuns name budget.max) ∨
      ∃ name, Regresses baseRuns headRuns budgets name := by
  obtain ⟨base, head, gated, h⟩ := compareRuns_eq_ok h
  rw [h.fails, h.exists_failed_iff]
  simp only [h.invariants, or_and_right, exists_or]
  rw [h.exists_gated_iff, h.exists_surfaced_iff]
  have hnone : (∀ name, name ∉ budgets.invariants → ¬ViolatedIn headRuns name 0) ↔
      ¬∃ name, name ∉ budgets.invariants ∧ ViolatedIn headRuns name 0 := by
    simp only [not_exists, not_and]
  rw [hnone]
  constructor
  · intro himp
    by_cases hsurfaced : ∃ name, name ∉ budgets.invariants ∧ ViolatedIn headRuns name 0
    · exact Or.inr (himp (Or.inr hsurfaced))
    · exact Or.inl hsurfaced
  · rintro (hclean | hfails) hrow
    · exact Or.inl (hrow.resolve_right hclean)
    · exact hfails

/-- A result with the given metrics and invariants. -/
def exampleResult (metrics : ExtTreeMap String (MetricValue Float))
    (invariants : ExtTreeMap String InvariantValue) : BenchmarkResult Float where
  schemaVersion := resultSchemaVersion
  benchmarkSuite := "fast-path"
  mode := "deterministic"
  datasetId := some "fixture"
  recording := none
  git := ⟨"c0ffee"⟩
  configuration := ⟨"v1", 42⟩
  metrics
  invariants

/-- A run with the stale dispatch count `value`. -/
def staleRun (value : Nat) : BenchmarkResult Float :=
  exampleResult ∅ ((∅ : ExtTreeMap String InvariantValue).insert "stale_dispatch_count" ⟨value, none⟩)

/-- A head with a stale dispatch passes where the invariant has no budget. -/
theorem staleDispatch_passes : ∃ report,
    compareRuns [staleRun 0] [staleRun 1] .default = .ok report ∧
      (∃ row ∈ report.invariants, row.passed = false) ∧ report.verdict = .pass := by
  refine ⟨_, rfl, ?_⟩
  decide +kernel

theorem violation_fails_iff_staleDispatch : ∃ report,
    compareRuns [staleRun 0] [staleRun 1] .default = .ok report ∧
    (((∃ row ∈ report.invariants, row.passed = false) → report.verdict = .fail) ↔
      (∀ name, name ∉ (Budgets.default : Budgets Float).invariants →
        ¬ViolatedIn [staleRun 1] name 0) ∨
      (∃ name budget, (Budgets.default : Budgets Float).invariants[name]? = some budget ∧
        ViolatedIn [staleRun 1] name budget.max) ∨
      ∃ name, Regresses [staleRun 0] [staleRun 1] .default name) :=
  ⟨_, rfl, violation_fails_iff rfl⟩

/-- **Every budgeted metric that the base measures is accounted for** just when the head
measures each of them. -/
theorem budgeted_accounted_iff (h : compareRuns baseRuns headRuns budgets = .ok report) :
    (∀ name, name ∈ budgets.metrics → Measures baseRuns name → Accounted report name) ↔
      ∀ name, name ∈ budgets.metrics → Measures baseRuns name → Measures headRuns name := by
  obtain ⟨base, head, gated, h⟩ := compareRuns_eq_ok h
  refine forall_congr' fun name ↦ forall_congr' fun hname ↦ forall_congr' fun hbase ↦ ?_
  obtain ⟨budget, hbudget⟩ :=
    Option.isSome_iff_exists.mp (ExtTreeMap.mem_iff_isSome_getElem?.mp hname)
  exact h.accounted_iff hbudget hbase

/-- A run that measures a latency of zero. -/
def latencyRun : BenchmarkResult Float :=
  exampleResult ((∅ : ExtTreeMap String (MetricValue Float)).insert "latency_ms" ⟨0, some 10, none⟩) ∅

/-- A budget for the latency. -/
def latencyBudgets : Budgets Float where
  metrics := (∅ : ExtTreeMap String (MetricBudget Float)).insert "latency_ms"
    ⟨.lower, some 10, some 20, none, none, some 5⟩
  invariants := ∅
  ungatedMetricsWarningOnly := true

/-- A head that stops measuring a budgeted metric passes without a row and a warning. -/
theorem droppedLatency_passes : ∃ report,
    compareRuns [latencyRun] [exampleResult ∅ ∅] latencyBudgets = .ok report ∧
      "latency_ms" ∈ latencyBudgets.metrics ∧ Measures [latencyRun] "latency_ms" ∧
      ¬Accounted report "latency_ms" ∧ report.metrics = [] ∧ report.warnings = [] ∧
      report.verdict = .pass := by
  have hreport : ∃ report,
      compareRuns [latencyRun] [exampleResult ∅ ∅] latencyBudgets = .ok report ∧
        report.metrics.length = 0 ∧ report.warnings = [] ∧ report.verdict = .pass :=
    ⟨_, rfl, by decide +kernel⟩
  obtain ⟨report, hok, hlength, hwarnings, hverdict⟩ := hreport
  have hrows : report.metrics = [] := List.length_eq_zero_iff.mp hlength
  have hbase : Measures [latencyRun] "latency_ms" :=
    ⟨latencyRun, List.mem_singleton_self latencyRun, by decide +kernel⟩
  refine ⟨report, hok, by decide +kernel, hbase, ?_, hrows, hwarnings, hverdict⟩
  rintro (⟨row, hrow, -⟩ | ⟨⟨row, hrow, -⟩, -⟩)
  · simp [hrows] at hrow
  · simp [hrows] at hrow

theorem budgeted_accounted_iff_latency : ∃ report,
    compareRuns [latencyRun] [exampleResult ∅ ∅] latencyBudgets = .ok report ∧
    ((∀ name, name ∈ latencyBudgets.metrics → Measures [latencyRun] name →
        Accounted report name) ↔
      ∀ name, name ∈ latencyBudgets.metrics → Measures [latencyRun] name →
        Measures [exampleResult ∅ ∅] name) :=
  ⟨_, rfl, budgeted_accounted_iff rfl⟩

end Verdict

end Aivtuber.BenchmarkGate
