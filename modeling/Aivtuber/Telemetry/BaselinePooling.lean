import Mathlib.Data.Finset.Sort
import Mathlib.Data.String.Basic
import Aivtuber.Base.Check
import Aivtuber.Base.Float64
import Aivtuber.Base.Text
import Aivtuber.Telemetry.OperationalSlo

/-!
# Pooling of baselines

A history of reports is pooled into the evidence that targets are chosen from
(`BaselineProposalSet::from_reports` of `crates/telemetry/src/operational_slo.rs`).  A run is known
by its id.  It may arrive as a full report, as the shell of an aggregate row, and repeatedly; the
first artifact of a run is accepted, an identical one is a duplicate, and a full report and a shell
that agree collapse into the full report.

What is accepted is known of each run after any reports (`Settled`), and where no run has several
shells beside its full report, so are the counts of what is not.
-/

open Aivtuber.Check Saturating

namespace Aivtuber.BaselinePooling

open OperationalSlo (ObjectiveKind IndicatorUnit BaselineRun BaselineEvidence SloIndicatorRow
  catalog streamHourMs)

/-! ## Reports -/

structure SloSource where
  datasetId : String
  gitCommit : String
  mode : ComparisonMode
  configVersion : String
  seed : Nat
  streamDurationMs : Option Nat
  runId : Option String
deriving DecidableEq

structure LatencyCalibration where
  indicator : String
  window : String
  field : String
  samples : Nat
  p50Ms : Nat
  p95Ms : Nat
  p99Ms : Nat
  maxMs : Option Nat
deriving DecidableEq

/-- A report.  Its canonical text is determined by, and determines, the fields that are read and
the text of the others. -/
structure SloReport where
  schemaVersion : String
  catalogVersion : String
  countsTowardActiveSlo : Bool
  source : SloSource
  indicators : List SloIndicatorRow
  latencyCalibration : List LatencyCalibration
  limitations : List String
  others : String
deriving DecidableEq

def sloReportSchemaVersion : String := "1"
def sloCatalogVersion : String := "slo-catalog-v1"
def minBaselineRuns : Nat := 2

def aggregateShellLimitation : String := "aggregate #58 history row: a percentile-only shell"

def SloReport.isAggregateShell (report : SloReport) : Bool :=
  report.limitations.any fun line ↦ aggregateShellLimitation.toList.isPrefixOf line.toList

/-- The run id, without the blanks around it. -/
def SloReport.runKey (report : SloReport) : String := Text.trim (report.source.runId.getD "")

def SloReport.seriesKey (report : SloReport) : String :=
  compatibilitySeriesKey report.source.mode report.source.datasetId report.source.configVersion
    report.source.seed

inductive SloError where
  | schemaVersion (datasetId schemaVersion : String)
  | catalogVersion (datasetId catalogVersion : String)
  | noRunIdentity (datasetId : String)
  | severalSeries (first other : String)
  | conflictingRun (runId : String)
  | collapseRevision (runId : String)
  | collapseDuration (runId : String)
  | collapseSeries (runId : String)
  | collapseMissing (indicator window : String)
  | collapsePercentiles (indicator window : String)
  | severalBoundaries (id : String) (existing thresholdMs : Nat)
deriving DecidableEq

/-! ## The accepted artifacts -/

def collapseIntoFull (full shell : SloReport) : Except SloError Unit := do
  let run := shell.source.runId.getD "<none>"
  ensure (.collapseRevision run) (full.source.gitCommit = shell.source.gitCommit)
  ensure (.collapseDuration run) (full.source.streamDurationMs = shell.source.streamDurationMs)
  ensure (.collapseSeries run) (full.source.mode.asStr = shell.source.mode.asStr &&
    full.source.datasetId = shell.source.datasetId &&
    full.source.configVersion = shell.source.configVersion && full.source.seed = shell.source.seed)
  shell.latencyCalibration.forM fun point ↦ do
    let mate ← expect (.collapseMissing point.indicator point.window)
      (full.latencyCalibration.find? fun candidate ↦ candidate.indicator = point.indicator &&
        candidate.window = point.window && candidate.field = point.field)
    ensure (.collapsePercentiles point.indicator point.window)
      (mate.samples = point.samples && mate.p50Ms = point.p50Ms && mate.p95Ms = point.p95Ms &&
        mate.p99Ms = point.p99Ms)

/-- The artifacts that have been accepted, one for each run, and what was not. -/
structure History where
  distinct : List SloReport
  duplicates : Nat
  collapsed : Nat
  excluded : Nat
deriving DecidableEq

def History.new : History := ⟨[], 0, 0, 0⟩

/-- The artifact that has been accepted for a run. -/
def History.accepted (history : History) (runId : String) : Option SloReport :=
  history.distinct.find? (·.runKey = runId)

def History.accept (history : History) (report : SloReport) : Except SloError History :=
  if !report.countsTowardActiveSlo then .ok { history with excluded := history.excluded + 1 }
  else
    match history.accepted report.runKey with
    | none => .ok { history with distinct := history.distinct ++ [report] }
    | some prior =>
      if prior = report then .ok { history with duplicates := history.duplicates + 1 }
      else if prior.isAggregateShell = report.isAggregateShell then
        .error (.conflictingRun report.runKey)
      else if prior.isAggregateShell then do
        -- the full report is the richer one and takes the place of the shell
        collapseIntoFull report prior
        return { history with
          distinct := history.distinct.map fun other ↦
            if other.runKey = report.runKey then report else other
          collapsed := history.collapsed + 1 }
      else do
        collapseIntoFull prior report
        return { history with collapsed := history.collapsed + 1 }

/-! ## Pools -/

/-- What one row of a report adds to the pool of its indicator. -/
structure Contribution where
  id : String
  /-- The boundary that a latency was probed at. -/
  thresholdMs : Option Nat
  run : BaselineRun
  streamDurationMs : Option Nat
  eligible : Nat
  conforming : Nat

/-- The indicators whose ratio depends on a boundary. -/
def latencyIds : List String :=
  ["availability.event_to_first_visible_within_target",
    "availability.event_to_first_audio_within_target",
    "operability.operator_stop_responsiveness_within_target"]

def SloReport.contributor (report : SloReport) : BaselineRun :=
  ⟨report.source.runId.getD "", report.source.gitCommit⟩

def SloReport.contributions (report : SloReport) : List Contribution :=
  (report.indicators.filter (·.window = "session")).filterMap fun row ↦
    if row.kind ≠ .slo || row.unit ≠ .ratio || row.eligible = 0 then none
    else
      let add (thresholdMs : Option Nat) : Contribution :=
        { id := row.id
          thresholdMs
          run := report.contributor
          streamDurationMs := report.source.streamDurationMs
          eligible := row.eligible
          conforming := row.conforming }
      if row.id ∈ latencyIds then row.thresholdMs.map fun thresholdMs ↦ add (some thresholdMs)
      else some (add none)

structure RatioPool where
  runs : Nat
  eligible : Nat
  conforming : Nat
  contributors : List BaselineRun
  representedMs : Nat
  withoutDuration : Nat

def RatioPool.default : RatioPool := ⟨0, 0, 0, [], 0, 0⟩

def RatioPool.add (pool : RatioPool) (row : Contribution) : RatioPool where
  runs := pool.runs + 1
  eligible := satAdd pool.eligible row.eligible
  conforming := satAdd pool.conforming row.conforming
  contributors := pool.contributors ++ [row.run]
  representedMs := row.streamDurationMs.elim pool.representedMs (satAdd pool.representedMs)
  withoutDuration := row.streamDurationMs.elim (pool.withoutDuration + 1) fun _ ↦
    pool.withoutDuration

/-- The pool of an indicator, if a row was added to it. -/
def ratioPool (rows : List Contribution) (id : String) : Option RatioPool :=
  let rows := rows.filter (·.id = id)
  if rows.isEmpty then none else some (rows.foldl RatioPool.add .default)

/-- The boundary of a latency indicator: that of its first row. -/
def boundaryOf (rows : List Contribution) (id : String) : Option Nat :=
  (rows.find? (·.id = id)).bind (·.thresholdMs)

def checkBoundaries (rows : List Contribution) : Except SloError Unit :=
  rows.forM fun row ↦
    match boundaryOf rows row.id, row.thresholdMs with
    | some existing, some thresholdMs =>
      ensure (.severalBoundaries row.id existing thresholdMs) (existing = thresholdMs)
    | _, _ => pure ()

structure LatencyPool where
  runs : Nat
  samples : Nat
  p95Ms : Nat
  p99Ms : Nat
  maxMs : Option Nat
deriving DecidableEq

def LatencyPool.default : LatencyPool := ⟨0, 0, 0, 0, none⟩

def LatencyPool.add (pool : LatencyPool) (point : LatencyCalibration) : LatencyPool where
  runs := pool.runs + 1
  samples := pool.samples + point.samples
  p95Ms := max pool.p95Ms point.p95Ms
  p99Ms := max pool.p99Ms point.p99Ms
  maxMs := point.maxMs.elim pool.maxMs fun maxMs ↦ some (pool.maxMs.elim maxMs (max · maxMs))

def SloReport.points (report : SloReport) : List LatencyCalibration :=
  report.latencyCalibration.filter fun point ↦ point.window = "session" && 0 < point.samples

def latencyPool (points : List LatencyCalibration) (id field : String) : LatencyPool :=
  (points.filter fun point ↦ point.indicator = id && point.field = field).foldl LatencyPool.add
    .default

/-- The values, each once, in their order. -/
def sortedSet (values : List String) : List String := values.toFinset.sort (· ≤ ·)

def joinSorted (values : List String) : String := ",".intercalate (sortedSet values)

/-! ## Proposals -/

structure BaselineLatency where
  field : String
  runs : Nat
  samples : Nat
  p95Ms : Nat
  p99Ms : Nat
  maxMs : Option Nat
deriving DecidableEq

structure BaselineProposal where
  indicator : String
  window : String
  runs : Nat
  eligible : Option Nat
  conforming : Option Nat
  thresholdMs : Option Nat
  baseline : Option (BaselineEvidence Float64)
  latency : Option BaselineLatency

/-- What the evidence says of the whole history. -/
structure Provenance where
  series : String
  datasets : String
  configs : String
  modes : String
  seeds : String
deriving DecidableEq

def provenance (series : String) (distinct : List SloReport) : Provenance where
  series
  datasets := joinSorted (distinct.map (·.source.datasetId))
  configs := joinSorted (distinct.map (·.source.configVersion))
  modes := joinSorted (distinct.map (·.source.mode.asStr))
  seeds := joinSorted (distinct.map fun report ↦ toString report.source.seed)

def evidenceFor (arith : FloatArith) (provenance : Provenance) (pool : RatioPool)
    (boundary : Option Nat) : Option (BaselineEvidence Float64) :=
  if pool.runs < minBaselineRuns then none
  else
    let wholeHours := pool.representedMs / streamHourMs
    some
      { value := arith.div (arith.ofNat pool.conforming) (arith.ofNat pool.eligible)
        source := "slo-baseline: " ++ toString pool.runs ++ " distinct session run(s) [" ++
          joinSorted (pool.contributors.map (·.runId)) ++ "]; series=" ++ provenance.series ++
          "; datasets=" ++ provenance.datasets ++ "; revisions=" ++
          joinSorted (pool.contributors.map (·.gitCommit)) ++ "; config=" ++ provenance.configs ++
          "; mode=" ++ provenance.modes ++ "; seed=" ++ provenance.seeds ++
          boundary.elim "" fun thresholdMs ↦ "; probe_threshold_ms=" ++ toString thresholdMs
        streamHours := if 0 < wholeHours then some wholeHours else none
        series := some provenance.series
        runs := pool.contributors
        eligible := some pool.eligible }

/-- The proposal of the ratio of an indicator, before its latencies. -/
def ratioProposal (arith : FloatArith) (provenance : Provenance) (id : String)
    (pool : Option RatioPool) : BaselineProposal where
  indicator := id
  window := "session"
  runs := pool.elim 0 (·.runs)
  eligible := pool.map (·.eligible)
  conforming := pool.map (·.conforming)
  thresholdMs := none
  baseline := pool.bind (evidenceFor arith provenance · none)
  latency := none

/-- One latency of an indicator, added to its proposal. -/
def addLatency (arith : FloatArith) (provenance : Provenance) (pool : Option RatioPool)
    (boundary : Option Nat) (points : List LatencyCalibration) (proposal : BaselineProposal)
    (field : String) : BaselineProposal :=
  let latency := latencyPool points proposal.indicator field
  let proposal := { proposal with
    runs := max proposal.runs latency.runs
    latency := some
      { field
        runs := latency.runs
        samples := latency.samples
        p95Ms := latency.p95Ms
        p99Ms := latency.p99Ms
        maxMs := latency.maxMs } }
  match boundary, pool with
  | none, _ => proposal
  | some thresholdMs, none => { proposal with thresholdMs := some thresholdMs }
  | some thresholdMs, some pool =>
    { proposal with
      thresholdMs := some thresholdMs
      eligible := some pool.eligible
      conforming := some pool.conforming
      baseline := evidenceFor arith provenance pool (some thresholdMs) }

/-- The fields of an indicator that latencies were recorded of, in their order. -/
def latencyFields (points : List LatencyCalibration) (id : String) : List String :=
  sortedSet ((points.filter (·.indicator = id)).map (·.field))

/-- The proposal of an indicator with a ratio or a latency. -/
def proposalOf (arith : FloatArith) (provenance : Provenance) (rows : List Contribution)
    (points : List LatencyCalibration) (id : String) : Option BaselineProposal :=
  let pool := ratioPool rows id
  let fields := latencyFields points id
  if pool.isNone && fields.isEmpty then none
  else
    some (fields.foldl (addLatency arith provenance pool (boundaryOf rows id) points)
      (ratioProposal arith provenance id pool))

/-- What limits the evidence of a history, by the text that says so. -/
inductive BaselineLimitation where
  | sessionWindowOnly
  | worstPercentiles
  | duplicateReports (count : Nat)
  | collapsedShells (count : Nat)
  | fewRuns (count : Nat)
  | withoutDuration (count : Nat)
  | experimentalExcluded (count : Nat)
  | shortHistory (representedMs : Nat)
  /-- The indicators pooled from too few runs, each with its runs. -/
  | underSampled (pools : List (String × Nat))
  /-- The indicators below their sample floor, each with its events and the floor. -/
  | underFloor (pools : List (String × Nat × Nat))
  /-- The indicators with a run of unknown duration, each with these runs and all. -/
  | partialDuration (pools : List (String × Nat × Nat))
deriving DecidableEq

/-- A limitation that is told where it counts something. -/
def toldIf (condition : Bool) (limitation : BaselineLimitation) : List BaselineLimitation :=
  if condition then [limitation] else []

/-- The limitations of every history. -/
def acceptLimitations (history : History) : List BaselineLimitation :=
  [.sessionWindowOnly, .worstPercentiles] ++
    toldIf (0 < history.duplicates) (.duplicateReports history.duplicates) ++
    toldIf (0 < history.collapsed) (.collapsedShells history.collapsed)

/-- What a function tells of the pools, in the order of their indicators. -/
def tellPools {α : Type} (rows : List Contribution) (tell : String → RatioPool → Option α) :
    List α :=
  (sortedSet (rows.map (·.id))).filterMap fun id ↦ (ratioPool rows id).bind (tell id)

def tellUnderSampled (id : String) (pool : RatioPool) : Option (String × Nat) :=
  if pool.runs < minBaselineRuns then some (id, pool.runs) else none

def tellUnderFloor (id : String) (pool : RatioPool) : Option (String × Nat × Nat) :=
  if pool.runs < minBaselineRuns then none
  else
    (catalog.find? (·.id = id)).bind fun indicator ↦
      if pool.eligible < indicator.sampleFloor then some (id, pool.eligible, indicator.sampleFloor)
      else none

def tellPartialDuration (id : String) (pool : RatioPool) : Option (String × Nat × Nat) :=
  if 0 < pool.withoutDuration then some (id, pool.withoutDuration, pool.runs) else none

/-- The represented time of the whole history. -/
def representedMs (distinct : List SloReport) : Nat :=
  distinct.foldl (fun ms report ↦ report.source.streamDurationMs.elim ms (satAdd ms)) 0

def withoutDuration (distinct : List SloReport) : Nat :=
  distinct.countP (·.source.streamDurationMs.isNone)

/-- The limitations of a history that is pooled. -/
def poolLimitations (history : History) : List BaselineLimitation :=
  let distinct := history.distinct
  let rows := distinct.flatMap SloReport.contributions
  let underSampled := tellPools rows tellUnderSampled
  let underFloor := tellPools rows tellUnderFloor
  let partialDuration := tellPools rows tellPartialDuration
  toldIf (0 < withoutDuration distinct) (.withoutDuration (withoutDuration distinct)) ++
    toldIf (0 < history.excluded) (.experimentalExcluded history.excluded) ++
    toldIf (representedMs distinct / streamHourMs = 0) (.shortHistory (representedMs distinct)) ++
    toldIf (!underSampled.isEmpty) (.underSampled underSampled) ++
    toldIf (!underFloor.isEmpty) (.underFloor underFloor) ++
    toldIf (!partialDuration.isEmpty) (.partialDuration partialDuration)

structure BaselineProposalSet where
  schemaVersion : String
  catalogVersion : String
  reports : Nat
  contributingReports : Nat
  duplicateReports : Nat
  excludedExperimentalReports : Nat
  series : Option String
  revisions : List String
  datasets : List String
  contributingRuns : List BaselineRun
  proposals : String → Option BaselineProposal
  notMeasured : List String
  limitations : List BaselineLimitation

def checkReport (report : SloReport) : Except SloError Unit := do
  ensure (.schemaVersion report.source.datasetId report.schemaVersion)
    (report.schemaVersion = sloReportSchemaVersion)
  ensure (.catalogVersion report.source.datasetId report.catalogVersion)
    (report.catalogVersion = sloCatalogVersion)
  ensure (.noRunIdentity report.source.datasetId) (report.runKey ≠ "")

/-- The series of the reports that count; a second one is refused. -/
def extendSeries (series : Option String) (report : SloReport) : Except SloError (Option String) :=
  if !report.countsTowardActiveSlo then .ok series
  else
    match series with
    | none => .ok (some report.seriesKey)
    | some first =>
      if first = report.seriesKey then .ok series
      else .error (.severalSeries first report.seriesKey)

/-- What is published of the accepted artifacts, beside their proposals. -/
def proposalSet (reports : Nat) (series : Option String) (history : History)
    (proposals : String → Option BaselineProposal) (notMeasured : List String)
    (limitations : List BaselineLimitation) : BaselineProposalSet where
  schemaVersion := sloReportSchemaVersion
  catalogVersion := sloCatalogVersion
  reports := reports
  contributingReports := history.distinct.length
  duplicateReports := history.duplicates
  excludedExperimentalReports := history.excluded
  series
  revisions := sortedSet (history.distinct.map (·.source.gitCommit))
  datasets := sortedSet (history.distinct.map (·.source.datasetId))
  contributingRuns := (history.distinct.map SloReport.contributor).mergeSort fun left right ↦
    left.runId ≤ right.runId
  proposals
  notMeasured
  limitations := acceptLimitations history ++ limitations

/-- The objectives without a proposal. -/
def notMeasured (proposals : String → Option BaselineProposal) : List String :=
  (catalog.filter fun indicator ↦ indicator.kind = .slo && indicator.evidence = .measured &&
    (proposals indicator.id).isNone).map (·.id)

/-- The accepted artifacts pooled. -/
def pool (arith : FloatArith) (reports : Nat) (series : Option String) (history : History) :
    Except SloError BaselineProposalSet := do
  let distinct := history.distinct
  if distinct.length < minBaselineRuns then
    return proposalSet reports series history (fun _ ↦ none) [] [.fewRuns distinct.length]
  let rows := distinct.flatMap SloReport.contributions
  let points := distinct.flatMap SloReport.points
  checkBoundaries rows
  let proposals := proposalOf arith (provenance (series.getD "") distinct) rows points
  return proposalSet reports series history proposals (notMeasured proposals)
    (poolLimitations history)

def fromReports (arith : FloatArith) (reports : List SloReport) :
    Except SloError BaselineProposalSet := do
  reports.forM checkReport
  let series ← reports.foldlM extendSeries none
  let history ← reports.foldlM History.accept .new
  pool arith reports.length series history

/-! ## What is accepted -/

/-- The reports that count. -/
def active (reports : List SloReport) : List SloReport := reports.filter (·.countsTowardActiveSlo)

/-- A full report that agrees with a shell of the same run. -/
def Covers (full shell : SloReport) : Prop :=
  full.isAggregateShell = false ∧ shell.isAggregateShell = true ∧
    collapseIntoFull full shell = .ok ()

/-- The artifacts of each run are one artifact, repeated, or a full report and shells that agree
with it. -/
def Consistent (reports : List SloReport) : Prop :=
  ∀ x ∈ active reports, ∀ y ∈ active reports, x.runKey = y.runKey →
    x = y ∨ Covers x y ∨ Covers y x ∨
      ∃ full ∈ active reports, full.runKey = x.runKey ∧ Covers full x ∧ Covers full y

/-- Any two artifacts of a run are one, or a full report and a shell that agree. -/
def Paired (reports : List SloReport) : Prop :=
  ∀ x ∈ active reports, ∀ y ∈ active reports, x.runKey = y.runKey →
    x = y ∨ Covers x y ∨ Covers y x

/-- How many shells come with the run of a report. -/
def shellCount (reports : List SloReport) (report : SloReport) : Nat :=
  (active reports).countP fun other ↦ other.isAggregateShell && other.runKey = report.runKey

/-- No run comes as a full report with two or more shells. -/
def OneShell (reports : List SloReport) : Prop :=
  ∀ report ∈ active reports, report.isAggregateShell = false → shellCount reports report ≤ 1

/-- A shell whose run has a full report among the accepted artifacts. -/
def besideFull (distinct : List SloReport) (report : SloReport) : Bool :=
  report.isAggregateShell && distinct.any fun other ↦
    other.runKey = report.runKey && !other.isAggregateShell

/-- The artifacts that no full report of their run takes the place of. -/
def richest (reports : List SloReport) : List SloReport :=
  (active reports).filter fun report ↦ !besideFull (active reports) report

theorem active_append (l : List SloReport) (x : SloReport) :
    active (l ++ [x]) = active l ++ if x.countsTowardActiveSlo then [x] else [] := by
  rw [active, List.filter_append, List.filter_singleton]
  cases x.countsTowardActiveSlo <;> rfl

theorem mem_active_of_append {l l' : List SloReport} {x : SloReport} (h : x ∈ active l) :
    x ∈ active (l ++ l') := by
  rw [active, List.filter_append]
  exact List.mem_append_left _ h

theorem OneShell.prefix {l l' : List SloReport} (h : OneShell (l ++ l')) : OneShell l := by
  intro report hreport hfull
  have hsub : (active l).Sublist (active (l ++ l')) := (List.sublist_append_left l l').filter _
  exact hsub.countP_le.trans (h report (hsub.mem hreport) hfull)

theorem OneShell.perm {l l' : List SloReport} (h : OneShell l) (hperm : l.Perm l') :
    OneShell l' := by
  have hactive : (active l).Perm (active l') := hperm.filter _
  intro report hreport hfull
  rw [shellCount, ← hactive.countP_eq]
  exact h report (hactive.mem_iff.mpr hreport) hfull

theorem Consistent.perm {l l' : List SloReport} (h : Consistent l) (hperm : l.Perm l') :
    Consistent l' := by
  have hactive : (active l).Perm (active l') := hperm.filter _
  intro x hx y hy hkey
  refine (h x (hactive.mem_iff.mpr hx) y (hactive.mem_iff.mpr hy) hkey).imp_right
    (Or.imp_right (Or.imp_right ?_))
  rintro ⟨full, hfull, hcovers⟩
  exact ⟨full, hactive.mem_iff.mp hfull, hcovers⟩

/-- What the accepted artifacts are of the reports so far. -/
structure Settled (l : List SloReport) (history : History) : Prop where
  once : (history.distinct.map SloReport.runKey).Nodup
  known : ∀ r ∈ history.distinct, r ∈ active l
  covered : ∀ x ∈ active l, ∃ r ∈ history.distinct, r.runKey = x.runKey ∧ (r = x ∨ Covers r x)
  collapsed : OneShell l → history.collapsed = (active l).countP (besideFull history.distinct)
  total : history.duplicates + history.collapsed + history.distinct.length = (active l).length
  excluded : history.excluded = l.countP fun x ↦ !x.countsTowardActiveSlo

theorem eq_of_length_le_one {α : Type} {l : List α} (h : l.length ≤ 1) {a b : α} (ha : a ∈ l)
    (hb : b ∈ l) : a = b := by
  match l with
  | [] => cases ha
  | [c] => rw [List.mem_singleton.mp ha, List.mem_singleton.mp hb]
  | c :: d :: rest =>
    rw [List.length_cons, List.length_cons] at h
    omega

/-- Two properties that exclude each other are counted apart. -/
theorem countP_or {α : Type} {p q : α → Bool} {l : List α} (h : ∀ a ∈ l, p a = true → q a = false) :
    l.countP (fun a ↦ p a || q a) = l.countP p + l.countP q := by
  induction l with
  | nil => rfl
  | cons a l ih =>
    have ha := h a List.mem_cons_self
    rw [List.countP_cons, List.countP_cons, List.countP_cons,
      ih fun b hb ↦ h b (List.mem_cons_of_mem a hb)]
    cases hp : p a with
    | true =>
      rw [ha hp]
      simp
      omega
    | false =>
      simp
      omega

section Settled

variable {l : List SloReport} {history history' : History} {x y r : SloReport}

theorem Settled.unique (h : Settled l history) (hx : x ∈ history.distinct)
    (hy : y ∈ history.distinct) (hkey : x.runKey = y.runKey) : x = y :=
  List.inj_on_of_nodup_map h.once hx hy hkey

theorem Settled.accepted_eq_some (h : Settled l history) {runId : String} :
    history.accepted runId = some r ↔ r ∈ history.distinct ∧ r.runKey = runId := by
  constructor
  · intro haccepted
    have hkey := List.find?_some haccepted
    exact ⟨List.mem_of_find?_eq_some haccepted, of_decide_eq_true hkey⟩
  · rintro ⟨hr, hkey⟩
    cases haccepted : history.accepted runId with
    | none => exact absurd (decide_eq_true hkey) (List.find?_eq_none.mp haccepted r hr)
    | some found =>
      have hfound := List.find?_some haccepted
      exact congrArg some (h.unique (List.mem_of_find?_eq_some haccepted) hr
        ((of_decide_eq_true hfound).trans hkey.symm))

theorem besideFull_iff {distinct : List SloReport} : besideFull distinct x = true ↔
    x.isAggregateShell = true ∧
      ∃ r ∈ distinct, r.runKey = x.runKey ∧ r.isAggregateShell = false := by
  simp [besideFull]

theorem Settled.consistent (h : Settled l history) : Consistent l := by
  intro x hx y hy hkey
  obtain ⟨r, hr, hrx, hcoverx⟩ := h.covered x hx
  obtain ⟨r', hr', hry, hcovery⟩ := h.covered y hy
  obtain rfl := h.unique hr hr' (hrx.trans (hkey.trans hry.symm))
  rcases hcoverx with rfl | hcoverx
  · exact hcovery.imp_right .inl
  · rcases hcovery with rfl | hcovery
    · exact .inr (.inr (.inl hcoverx))
    · exact .inr (.inr (.inr ⟨r, h.known r hr, hrx, hcoverx, hcovery⟩))

/-- With one shell a run, a shell is the only one beside its full report. -/
theorem Consistent.paired (h : Consistent l) (hone : OneShell l) : Paired l := by
  intro x hx y hy hkey
  rcases h x hx y hy hkey with heq | hxy | hyx | ⟨full, hfull, hfullkey, hcoverx, hcovery⟩
  · exact .inl heq
  · exact .inr (.inl hxy)
  · exact .inr (.inr hyx)
  · left
    have hle := hone full hfull hcoverx.1
    rw [shellCount, List.countP_eq_length_filter] at hle
    refine eq_of_length_le_one hle (List.mem_filter.mpr ⟨hx, ?_⟩) (List.mem_filter.mpr ⟨hy, ?_⟩)
    · rw [hcoverx.2.1, hfullkey]
      simp
    · rw [hcovery.2.1, hfullkey, hkey]
      simp

theorem Settled.new : Settled [] .new where
  once := List.nodup_nil
  known r hr := by cases hr
  covered x hx := by cases hx
  collapsed _ := rfl
  total := rfl
  excluded := rfl

/-- A report of the other plane. -/
theorem Settled.exclude (h : Settled l history) (hx : x.countsTowardActiveSlo = false) :
    Settled (l ++ [x]) { history with excluded := history.excluded + 1 } := by
  have hactive : active (l ++ [x]) = active l := by
    rw [active_append, hx, if_neg Bool.false_ne_true, List.append_nil]
  refine ⟨h.once, ?_, ?_, ?_, ?_, ?_⟩
  · rw [hactive]
    exact h.known
  · rw [hactive]
    exact h.covered
  · intro hone
    rw [hactive]
    exact h.collapsed hone.prefix
  · rw [hactive]
    exact h.total
  · rw [List.countP_append, List.countP_singleton, hx, ← h.excluded]
    rfl

/-- The first artifact of a run. -/
theorem Settled.first (h : Settled l history) (hx : x.countsTowardActiveSlo = true)
    (hnone : history.accepted x.runKey = none) :
    Settled (l ++ [x]) { history with distinct := history.distinct ++ [x] } := by
  have hactive : active (l ++ [x]) = active l ++ [x] := by rw [active_append, if_pos hx]
  have hfresh : ∀ r ∈ history.distinct, r.runKey ≠ x.runKey := by
    intro r hr hkey
    exact absurd (decide_eq_true hkey) (List.find?_eq_none.mp hnone r hr)
  refine ⟨?_, ?_, ?_, ?_, ?_, ?_⟩
  · rw [List.map_append, List.nodup_append]
    refine ⟨h.once, List.nodup_singleton _, fun key hkey other hother heq ↦ ?_⟩
    obtain ⟨r, hr, rfl⟩ := List.mem_map.mp hkey
    rw [List.map_singleton, List.mem_singleton] at hother
    exact hfresh r hr (heq.trans hother)
  · intro r hr
    rw [hactive]
    exact List.mem_append.mpr ((List.mem_append.mp hr).imp_left (h.known r))
  · intro y hy
    rw [hactive, List.mem_append, List.mem_singleton] at hy
    rcases hy with hy | rfl
    · obtain ⟨r, hr, hcover⟩ := h.covered y hy
      exact ⟨r, List.mem_append_left _ hr, hcover⟩
    · exact ⟨y, List.mem_append_right _ (List.mem_singleton_self y), rfl, .inl rfl⟩
  · intro hone
    have hlast : besideFull (history.distinct ++ [x]) x = false := by
      rw [← Bool.not_eq_true, besideFull_iff]
      rintro ⟨hshell, r, hr, hkey, hfull⟩
      rcases List.mem_append.mp hr with hr | hr
      · exact hfresh r hr hkey
      · rw [List.mem_singleton.mp hr, hshell] at hfull
        cases hfull
    rw [hactive, List.countP_append, List.countP_singleton, hlast, if_neg Bool.false_ne_true,
      Nat.add_zero, h.collapsed hone.prefix]
    apply List.countP_congr
    intro y hy
    have hother : x.runKey ≠ y.runKey := by
      obtain ⟨r, hr, hkey, -⟩ := h.covered y hy
      exact fun heq ↦ hfresh r hr (hkey.trans heq.symm)
    simp [besideFull, hother]
  · have htotal := h.total
    rw [hactive, List.length_append, List.length_singleton]
    dsimp only
    rw [List.length_append, List.length_singleton]
    omega
  · rw [List.countP_append, List.countP_singleton, hx, h.excluded]
    rfl

/-- A report that is told by what is accepted already: an artifact that is repeated, or a shell
beside its full report. -/
theorem Settled.told (h : Settled l history) (hx : x.countsTowardActiveSlo = true)
    (hr : r ∈ history.distinct) (hkey : r.runKey = x.runKey) (hcover : r = x ∨ Covers r x)
    {duplicates collapsed : Nat}
    (hcollapsed : collapsed = history.collapsed +
      if besideFull history.distinct x = true then 1 else 0)
    (htotal : duplicates + collapsed = history.duplicates + history.collapsed + 1) :
    Settled (l ++ [x]) { history with duplicates, collapsed } := by
  have hactive : active (l ++ [x]) = active l ++ [x] := by rw [active_append, if_pos hx]
  refine ⟨h.once, ?_, ?_, ?_, ?_, ?_⟩
  · exact fun r hr ↦ mem_active_of_append (h.known r hr)
  · intro y hy
    rw [hactive, List.mem_append, List.mem_singleton] at hy
    rcases hy with hy | rfl
    · exact h.covered y hy
    · exact ⟨r, hr, hkey, hcover⟩
  · intro hone
    rw [hactive, List.countP_append, List.countP_singleton, ← h.collapsed hone.prefix]
    exact hcollapsed
  · have hbefore := h.total
    rw [hactive, List.length_append, List.length_singleton]
    dsimp only
    omega
  · rw [List.countP_append, List.countP_singleton, hx, h.excluded]
    rfl

/-- The full report takes the place of the shell. -/
theorem Settled.replace (h : Settled l history) (hx : x.countsTowardActiveSlo = true)
    (hr : r ∈ history.distinct) (hkey : r.runKey = x.runKey) (hcover : Covers x r) :
    Settled (l ++ [x])
      { history with
        distinct := history.distinct.map fun other ↦
          if other.runKey = x.runKey then x else other
        collapsed := history.collapsed + 1 } := by
  have hactive : active (l ++ [x]) = active l ++ [x] := by rw [active_append, if_pos hx]
  -- every report of the run so far is the shell itself
  have hshell : ∀ y ∈ active l, y.runKey = x.runKey → y = r := by
    intro y hy hykey
    obtain ⟨r', hr', hkey', hcover'⟩ := h.covered y hy
    obtain rfl := h.unique hr' hr (hkey'.trans (hykey.trans hkey.symm))
    rcases hcover' with rfl | hcover'
    · rfl
    · cases hcover.2.1.symm.trans hcover'.1
  have hnew : x ∈ history.distinct.map fun other ↦ if other.runKey = x.runKey then x else other :=
    List.mem_map.mpr ⟨r, hr, if_pos hkey⟩
  refine ⟨?_, ?_, ?_, ?_, ?_, ?_⟩
  · rw [List.map_map]
    have hkeys : history.distinct.map (SloReport.runKey ∘ fun other ↦
        if other.runKey = x.runKey then x else other) = history.distinct.map SloReport.runKey := by
      apply List.map_congr_left
      intro other _
      rw [Function.comp_apply]
      split
      case isTrue heq => exact heq.symm
      case isFalse => rfl
    rw [hkeys]
    exact h.once
  · intro other hother
    obtain ⟨old, hold, rfl⟩ := List.mem_map.mp hother
    rw [hactive]
    split
    · exact List.mem_append_right _ (List.mem_singleton_self x)
    · exact List.mem_append_left _ (h.known old hold)
  · intro y hy
    rw [hactive, List.mem_append, List.mem_singleton] at hy
    rcases hy with hy | rfl
    · by_cases hykey : y.runKey = x.runKey
      · refine ⟨x, hnew, hykey.symm, .inr ?_⟩
        rw [hshell y hy hykey]
        exact hcover
      · obtain ⟨old, hold, hoverkey, hovery⟩ := h.covered y hy
        refine ⟨old, List.mem_map.mpr ⟨old, hold, if_neg ?_⟩, hoverkey, hovery⟩
        rwa [hoverkey]
    · exact ⟨y, hnew, rfl, .inl rfl⟩
  · intro hone
    have hlast : besideFull (history.distinct.map fun other ↦
        if other.runKey = x.runKey then x else other) x = false := by
      rw [besideFull, hcover.1, Bool.false_and]
    have hsame : ∀ y ∈ active l, besideFull (history.distinct.map fun other ↦
        if other.runKey = x.runKey then x else other) y =
          (besideFull history.distinct y || decide (y.runKey = x.runKey)) := by
      intro y hy
      rw [Bool.eq_iff_iff, Bool.or_eq_true, besideFull_iff, besideFull_iff, decide_eq_true_iff]
      by_cases hykey : y.runKey = x.runKey
      · refine iff_of_true ⟨?_, x, hnew, hykey.symm, hcover.1⟩ (.inr hykey)
        rw [hshell y hy hykey]
        exact hcover.2.1
      · rw [or_iff_left hykey]
        refine and_congr_right fun _ ↦ ⟨?_, ?_⟩
        · rintro ⟨other, hother, hotherkey, hfull⟩
          obtain ⟨old, hold, rfl⟩ := List.mem_map.mp hother
          split at hotherkey
          case isTrue => exact absurd hotherkey.symm hykey
          case isFalse hne =>
            rw [if_neg hne] at hfull
            exact ⟨old, hold, hotherkey, hfull⟩
        · rintro ⟨old, hold, holdkey, hfull⟩
          refine ⟨old, List.mem_map.mpr ⟨old, hold, if_neg ?_⟩, holdkey, hfull⟩
          rwa [holdkey]
    have hapart : ∀ y ∈ active l, besideFull history.distinct y = true →
        decide (y.runKey = x.runKey) = false := by
      intro y _ hbeside
      obtain ⟨-, old, hold, holdkey, hfull⟩ := besideFull_iff.mp hbeside
      rw [decide_eq_false_iff_not]
      intro hykey
      rw [h.unique hold hr (holdkey.trans (hykey.trans hkey.symm)), hcover.2.1] at hfull
      cases hfull
    have hcount : (active l).countP (fun y ↦ decide (y.runKey = x.runKey)) = 1 := by
      apply Nat.le_antisymm
      · have hxmem : x ∈ active (l ++ [x]) := by
          rw [hactive]
          exact List.mem_append_right _ (List.mem_singleton_self x)
        have hle := hone x hxmem hcover.1
        rw [shellCount, hactive, List.countP_append] at hle
        refine le_trans (le_of_eq ?_) (le_trans (Nat.le_add_right _ _) hle)
        apply List.countP_congr
        intro y hy
        rw [decide_eq_true_iff, Bool.and_eq_true, decide_eq_true_iff]
        refine ⟨fun hykey ↦ ⟨?_, hykey⟩, And.right⟩
        rw [hshell y hy hykey]
        exact hcover.2.1
      · exact List.one_le_countP_iff.mpr ⟨r, h.known r hr, decide_eq_true hkey⟩
    rw [hactive, List.countP_append, List.countP_singleton, hlast, if_neg Bool.false_ne_true,
      Nat.add_zero, h.collapsed hone.prefix, ← hcount, ← countP_or hapart]
    exact (List.countP_congr fun y hy ↦ by rw [hsame y hy]).symm
  · have htotal := h.total
    rw [hactive, List.length_append, List.length_singleton]
    dsimp only
    rw [List.length_map]
    omega
  · rw [List.countP_append, List.countP_singleton, hx, h.excluded]
    rfl

/-- **One more report**, if it is accepted, leaves what is accepted settled. -/
theorem Settled.accept (h : Settled l history)
    (hok : history.accept x = .ok history') : Settled (l ++ [x]) history' := by
  rw [History.accept] at hok
  split at hok
  case isTrue hx =>
    cases hok
    exact h.exclude ((Bool.not_eq_true' _).mp hx)
  case isFalse hx =>
    rw [Bool.not_eq_true', Bool.not_eq_false] at hx
    split at hok
    case h_1 hnone =>
      cases hok
      exact h.first hx hnone
    case h_2 prior hprior =>
      obtain ⟨hmem, hkey⟩ := h.accepted_eq_some.mp hprior
      split_ifs at hok with hsame hkind hshell
      · cases hok
        subst hsame
        refine h.told hx hmem rfl (.inl rfl) ?_ (by omega)
        rw [if_neg]
        · rfl
        · rw [besideFull_iff]
          rintro ⟨hshell, r, hr, hrkey, hfull⟩
          rw [h.unique hr hmem hrkey, hshell] at hfull
          cases hfull
      · obtain ⟨⟨⟩, hcollapse, hok⟩ := bind_eq_ok.mp hok
        cases hok
        refine h.replace hx hmem hkey ⟨?_, hshell, hcollapse⟩
        rw [hshell] at hkind
        exact Bool.eq_false_of_not_eq_true fun heq ↦ hkind heq.symm
      · obtain ⟨⟨⟩, hcollapse, hok⟩ := bind_eq_ok.mp hok
        cases hok
        rw [Bool.not_eq_true] at hshell
        have hxshell : x.isAggregateShell = true := by
          rw [hshell] at hkind
          exact Bool.eq_true_of_not_eq_false fun heq ↦ hkind heq.symm
        refine h.told hx hmem hkey (.inr ⟨hshell, hxshell, hcollapse⟩) ?_ (by omega)
        rw [if_pos (besideFull_iff.mpr ⟨hxshell, prior, hmem, hkey, hshell⟩)]

theorem accept_first (hx : x.countsTowardActiveSlo = true)
    (hnone : history.accepted x.runKey = none) :
    history.accept x = .ok { history with distinct := history.distinct ++ [x] } := by
  rw [History.accept, hx, Bool.not_true, if_neg Bool.false_ne_true, hnone]

theorem accept_again (hx : x.countsTowardActiveSlo = true)
    (hprior : history.accepted x.runKey = some x) :
    history.accept x = .ok { history with duplicates := history.duplicates + 1 } := by
  rw [History.accept, hx, Bool.not_true, if_neg Bool.false_ne_true, hprior]
  exact if_pos rfl

/-- A shell after its full report. -/
theorem accept_shell (hx : x.countsTowardActiveSlo = true)
    (hprior : history.accepted x.runKey = some r) (hcover : Covers r x) :
    history.accept x = .ok { history with collapsed := history.collapsed + 1 } := by
  obtain ⟨hfull, hshell, hcollapse⟩ := hcover
  have hne : r ≠ x := by
    rintro rfl
    cases hfull.symm.trans hshell
  rw [History.accept, hx, Bool.not_true, if_neg Bool.false_ne_true, hprior]
  dsimp only
  rw [if_neg hne, hfull, hshell, if_neg Bool.false_ne_true, if_neg Bool.false_ne_true, hcollapse]
  rfl

/-- A full report after its shell. -/
theorem accept_full (hx : x.countsTowardActiveSlo = true)
    (hprior : history.accepted x.runKey = some r) (hcover : Covers x r) :
    history.accept x = .ok { history with
      distinct := history.distinct.map fun other ↦ if other.runKey = x.runKey then x else other
      collapsed := history.collapsed + 1 } := by
  obtain ⟨hfull, hshell, hcollapse⟩ := hcover
  have hne : r ≠ x := by
    rintro rfl
    cases hfull.symm.trans hshell
  rw [History.accept, hx, Bool.not_true, if_neg Bool.false_ne_true, hprior]
  dsimp only
  rw [if_neg hne, hfull, hshell, if_neg (by decide), if_pos rfl, hcollapse]
  rfl

/-- Two different artifacts of one kind. -/
theorem accept_conflict (hx : x.countsTowardActiveSlo = true)
    (hprior : history.accepted x.runKey = some r) (hne : r ≠ x)
    (hkind : r.isAggregateShell = x.isAggregateShell) :
    history.accept x = .error (.conflictingRun x.runKey) := by
  rw [History.accept, hx, Bool.not_true, if_neg Bool.false_ne_true, hprior]
  dsimp only
  rw [if_neg hne, if_pos hkind]

/-- A report that agrees with what is accepted of its run is accepted. -/
theorem accept_ok (hprior : ∀ prior ∈ history.distinct, prior.runKey = x.runKey →
    x.countsTowardActiveSlo = true → prior = x ∨ Covers prior x ∨ Covers x prior) :
    ∃ history', history.accept x = .ok history' := by
  cases hx : x.countsTowardActiveSlo with
  | false => exact ⟨_, by rw [History.accept, hx, Bool.not_false, if_pos rfl]⟩
  | true =>
    cases haccepted : history.accepted x.runKey with
    | none => exact ⟨_, accept_first hx haccepted⟩
    | some prior =>
      have hkey := List.find?_some haccepted
      rcases hprior prior (List.mem_of_find?_eq_some haccepted) (of_decide_eq_true hkey) hx with
        rfl | hcover | hcover
      · exact ⟨_, accept_again hx haccepted⟩
      · exact ⟨_, accept_shell hx haccepted hcover⟩
      · exact ⟨_, accept_full hx haccepted hcover⟩

/-- **What is accepted after all reports** is settled. -/
theorem settled_of_run (hrun : l.foldlM History.accept .new = .ok history) : Settled l history := by
  refine foldlM_invariant (P := Settled) ?_ .new hrun
  intro before x after _ earlier later hsettled hok
  exact hsettled.accept hok

/-- The reports are accepted if each of them is, after those before it. -/
theorem run_progress (h : ∀ before x after, before ++ x :: after = l → ∀ history,
    Settled before history → ∃ history', history.accept x = .ok history') :
    ∃ history, l.foldlM History.accept .new = .ok history := by
  induction l using List.reverseRecOn with
  | nil => exact ⟨_, rfl⟩
  | append_singleton l x ih =>
    obtain ⟨history, hrun⟩ := ih fun before y after hl ↦
      h before y (after ++ [x]) (by rw [← hl, List.append_assoc, List.cons_append])
    obtain ⟨history', hok⟩ := h l x [] rfl history (settled_of_run hrun)
    refine ⟨history', ?_⟩
    rw [List.foldlM_append, bind_eq_ok]
    refine ⟨history, hrun, ?_⟩
    rw [List.foldlM_cons, hok]
    rfl

theorem run_of_paired (hpaired : Paired l) :
    ∃ history, l.foldlM History.accept .new = .ok history := by
  apply run_progress
  rintro before x after rfl history hsettled
  apply accept_ok
  intro prior hprior hkey hx
  exact hpaired prior (mem_active_of_append (hsettled.known prior hprior)) x
    (List.mem_filter.mpr ⟨List.mem_append_right _ List.mem_cons_self, hx⟩) hkey

/-- Every shell comes after all full reports. -/
def FullsFirst (l : List SloReport) : Prop :=
  ∀ before x after, before ++ x :: after = l → x.isAggregateShell = true →
    ∀ full ∈ active l, full.isAggregateShell = false → full ∈ active before

/-- After the full reports, the shells of a run need only agree with its full report. -/
theorem run_of_fullsFirst (hfirst : FullsFirst l) (hconsistent : Consistent l) :
    ∃ history, l.foldlM History.accept .new = .ok history := by
  apply run_progress
  rintro before x after rfl history hsettled
  apply accept_ok
  intro prior hprior hkey hx
  rcases hconsistent prior (mem_active_of_append (hsettled.known prior hprior)) x
      (List.mem_filter.mpr ⟨List.mem_append_right _ List.mem_cons_self, hx⟩) hkey with
    heq | hcover | hcover | ⟨full, hfull, hfullkey, hcover, hcoverx⟩
  · exact .inl heq
  · exact .inr (.inl hcover)
  · exact .inr (.inr hcover)
  · -- the full report has been accepted before the shell, so what is accepted is no shell
    obtain ⟨r, hr, hrkey, hrcover⟩ := hsettled.covered full
      (hfirst before x after rfl hcoverx.2.1 full hfull hcover.1)
    obtain rfl := hsettled.unique hr hprior (hrkey.trans hfullkey)
    rcases hrcover with rfl | hrcover
    · cases hcover.1.symm.trans hcover.2.1
    · cases hcover.1.symm.trans hrcover.2.1

theorem exists_fullsFirst (l : List SloReport) : ∃ l', l.Perm l' ∧ FullsFirst l' := by
  refine ⟨_, (List.filter_append_perm (fun report ↦ !report.isAggregateShell) l).symm, ?_⟩
  intro before x after hl hx full hfull hkind
  obtain ⟨hmem, hactive⟩ := List.mem_filter.mp hfull
  have hfulls : full ∈ l.filter fun report ↦ !report.isAggregateShell := by
    rcases List.mem_append.mp hmem with hmem | hmem
    · exact hmem
    · have hshell := (List.mem_filter.mp hmem).2
      rw [hkind] at hshell
      cases hshell
  rcases List.append_eq_append_iff.mp hl with ⟨rest, hrest, htail⟩ | ⟨rest, hrest, htail⟩
  · cases rest with
    | nil =>
      rw [List.append_nil] at hrest
      rw [← hrest]
      exact List.mem_filter.mpr ⟨hfulls, hactive⟩
    | cons y rest =>
      -- a shell stands among the full reports
      obtain ⟨rfl, -⟩ := List.cons.inj htail
      have hshell : x ∈ l.filter fun report ↦ !report.isAggregateShell := by
        rw [hrest]
        exact List.mem_append_right _ List.mem_cons_self
      have hfull := (List.mem_filter.mp hshell).2
      rw [hx] at hfull
      cases hfull
  · rw [hrest]
    exact List.mem_filter.mpr ⟨List.mem_append_left _ hfulls, hactive⟩

/-- The accepted artifacts do not depend on the order of the reports. -/
theorem Settled.distinct_perm {l' : List SloReport} (h : Settled l history)
    (h' : Settled l' history') (hperm : l.Perm l') :
    history.distinct.Perm history'.distinct := by
  have hactive : (active l).Perm (active l') := hperm.filter _
  have hsub : ∀ {l l' : List SloReport} {history history' : History}, (active l).Perm (active l') →
      Settled l history → Settled l' history' → ∀ r ∈ history.distinct, r ∈ history'.distinct := by
    intro l l' history history' hactive h h' r hr
    obtain ⟨r', hr', hkey, hcover⟩ := h'.covered r (hactive.mem_iff.mp (h.known r hr))
    rcases hcover with rfl | hcover
    · exact hr'
    · obtain ⟨r'', hr'', hkey', hcover'⟩ := h.covered r' (hactive.mem_iff.mpr (h'.known r' hr'))
      obtain rfl := h.unique hr'' hr (hkey'.trans hkey)
      rcases hcover' with rfl | hcover'
      · exact hr'
      · cases hcover.1.symm.trans hcover'.2.1
  refine (List.perm_ext_iff_of_nodup h.once.of_map h'.once.of_map).mpr fun r ↦ ?_
  exact ⟨hsub hactive h h' r, hsub hactive.symm h' h r⟩

theorem Settled.counts_eq {l' : List SloReport} (h : Settled l history)
    (h' : Settled l' history') (hone : OneShell l) (hperm : l.Perm l') :
    history.duplicates = history'.duplicates ∧ history.collapsed = history'.collapsed ∧
      history.excluded = history'.excluded := by
  have hactive : (active l).Perm (active l') := hperm.filter _
  have hdistinct := h.distinct_perm h' hperm
  have hcollapsed : history.collapsed = history'.collapsed := by
    rw [h.collapsed hone, h'.collapsed (hone.perm hperm), ← hactive.countP_eq]
    apply List.countP_congr
    intro x _
    rw [besideFull_iff, besideFull_iff]
    exact and_congr_right fun _ ↦ exists_congr fun r ↦ and_congr_left fun _ ↦ hdistinct.mem_iff
  have htotal := h.total
  have htotal' := h'.total
  have hlength := hdistinct.length_eq
  have hlength' := hactive.length_eq
  refine ⟨by omega, hcollapsed, ?_⟩
  rw [h.excluded, h'.excluded, hperm.countP_eq]

/-- The accepted artifacts are those that no full report of their run takes the place of. -/
theorem Settled.mem_distinct_iff (h : Settled l history) :
    r ∈ history.distinct ↔ r ∈ richest l := by
  rw [richest, List.mem_filter, Bool.not_eq_true', ← Bool.not_eq_true, besideFull_iff]
  constructor
  · intro hr
    refine ⟨h.known r hr, ?_⟩
    rintro ⟨hshell, full, hfull, hkey, hkind⟩
    obtain ⟨r', hr', hkey', hcover⟩ := h.covered full hfull
    obtain rfl := h.unique hr' hr (hkey'.trans hkey)
    rcases hcover with rfl | hcover
    · cases hkind.symm.trans hshell
    · cases hkind.symm.trans hcover.2.1
  · rintro ⟨hr, halone⟩
    obtain ⟨r', hr', hkey, rfl | hcover⟩ := h.covered r hr
    · exact hr'
    · exact absurd ⟨hcover.2.1, r', h.known r' hr', hkey, hcover.1⟩ halone

theorem Settled.two_le_iff (h : Settled l history) :
    2 ≤ history.distinct.length ↔ ∃ x ∈ active l, ∃ y ∈ active l, x.runKey ≠ y.runKey := by
  constructor
  · intro htwo
    have hkeys := h.once
    match hdistinct : history.distinct, htwo with
    | x :: y :: rest, _ =>
      have hmem : ∀ r ∈ x :: y :: rest, r ∈ active l := by
        rw [← hdistinct]
        exact h.known
      refine ⟨x, hmem x List.mem_cons_self, y, hmem y (List.mem_cons_of_mem _ List.mem_cons_self),
        ?_⟩
      rw [hdistinct, List.map_cons, List.nodup_cons] at hkeys
      rintro heq
      exact hkeys.1 (heq ▸ List.mem_map_of_mem List.mem_cons_self)
  · rintro ⟨x, hx, y, hy, hne⟩
    obtain ⟨r, hr, hrkey, -⟩ := h.covered x hx
    obtain ⟨r', hr', hrkey', -⟩ := h.covered y hy
    by_contra hlt
    obtain rfl := eq_of_length_le_one (Nat.le_of_lt_succ (Nat.lt_of_not_le hlt)) hr hr'
    exact hne (hrkey.symm.trans hrkey')

end Settled

end Aivtuber.BaselinePooling
