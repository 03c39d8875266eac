import Mathlib.Data.List.TakeWhile
import Aivtuber.Telemetry.BaselineOrder

/-!
# Targets from baselines

A target cites the evidence it was chosen from, and a file of targets is validated before it is
used (`SloTargets::validate_inner` of `crates/telemetry/src/operational_slo.rs`).  What the pooling
publishes is accepted there, and applied to the reports of the series it was pooled from, exactly
when each published indicator takes a ratio, is measured, and has one row in each report
(`usable_iff`).
-/

open Std
open Aivtuber.Check Saturating

namespace Aivtuber

/-- A target with the numbers that its floats stand for, as an evaluation reads it. -/
def OperationalSlo.SloTarget.reading (target : SloTarget Float64) : SloTarget ℚ where
  target := target.target.value
  thresholdMs := target.thresholdMs
  baseline := { target.baseline with value := target.baseline.value.value }

namespace BaselinePooling

open OperationalSlo (ObjectiveKind IndicatorUnit SloIndicator BaselineRun BaselineEvidence SloTarget
  SloIndicatorRow catalog streamHourMs probeSourceMarker BenchmarkReport SloEvaluationConfig
  applicableTarget buildWindows evaluate)

/-! ## Targets -/

structure SloTargets where
  schemaVersion : Option String
  catalogVersion : String
  targets : ExtTreeMap String (SloTarget Float64)

inductive TargetError where
  | catalogVersion (version : String)
  | schemaVersion (version : String)
  | unknownIndicator (id : String)
  | invariantTarget (id : String)
  | targetRange (id : String)
  | baselineRange (id : String)
  | noStreamHours (id : String)
  | noThreshold (id : String)
  | noArtifact (id : String)
  | latencyProbe (id : String)
  | noSeries (id : String)
  | unnamedRun (id : String)
  | noRevision (id runId : String)
  | repeatedRun (id runId : String)
  | fewRuns (id : String) (runs : Nat)
  | noEligible (id : String) (sampleFloor : Nat)
  | belowFloor (id : String) (eligible sampleFloor : Nat)
deriving DecidableEq

/-- A finite ratio from zero to one. -/
def isRatio (value : Float64) : Bool :=
  value.isFinite && Float64.le (.finite 0) value && Float64.le value (.finite 1)

def checkRun (id : String) (named : List String) (run : BaselineRun) :
    Except TargetError (List String) := do
  let runId := Text.trim run.runId
  ensure (.unnamedRun id) (runId ≠ "")
  ensure (.noRevision id runId) (!Text.isBlank run.gitCommit)
  ensure (.repeatedRun id runId) (runId ∉ named)
  return runId :: named

/-- What a calibrated target must prove about the evidence it cites. -/
def checkEvidence (indicator : SloIndicator) (id : String) (baseline : BaselineEvidence Float64) :
    Except TargetError Unit := do
  ensure (.noSeries id) (!Text.isBlank (baseline.series.getD ""))
  let _ ← baseline.runs.foldlM (checkRun id) []
  ensure (.fewRuns id baseline.runs.length) (minBaselineRuns ≤ baseline.runs.length)
  let eligible ← expect (.noEligible id indicator.sampleFloor) baseline.eligible
  ensure (.belowFloor id eligible indicator.sampleFloor) (indicator.sampleFloor ≤ eligible)

def checkTarget (allowProbe : Bool) (id : String) (target : SloTarget Float64) :
    Except TargetError Unit := do
  let indicator ← expect (.unknownIndicator id) (catalog.find? (·.id = id))
  ensure (.invariantTarget id) (indicator.kind ≠ .invariant)
  ensure (.targetRange id) (isRatio target.target)
  ensure (.baselineRange id) (isRatio target.baseline.value)
  ensure (.noStreamHours id) (target.baseline.streamHours ≠ some 0)
  ensure (.noThreshold id) (id ∉ latencyIds || target.thresholdMs.isSome)
  ensure (.noArtifact id) (!Text.isBlank target.baseline.source)
  let probe := target.baseline.source.startsWith probeSourceMarker
  ensure (.latencyProbe id) (allowProbe || !probe)
  if probe then return
  checkEvidence indicator id target.baseline

def SloTargets.validateInner (file : SloTargets) (allowProbe : Bool) : Except TargetError Unit := do
  ensure (.catalogVersion file.catalogVersion) (file.catalogVersion = sloCatalogVersion)
  ensure (.schemaVersion (file.schemaVersion.getD ""))
    (file.schemaVersion.all (· = sloReportSchemaVersion))
  file.targets.toList.forM fun entry ↦ checkTarget allowProbe entry.1 entry.2

def SloTargets.validate (file : SloTargets) : Except TargetError Unit := file.validateInner false

def SloTargets.readings (file : SloTargets) : ExtTreeMap String (SloTarget ℚ) :=
  file.targets.map fun _ target ↦ target.reading

/-- A target, placed in a file. -/
def SloTargets.place (file : SloTargets) (id : String) (target : SloTarget Float64) : SloTargets :=
  { file with targets := file.targets.insert id target }

/-! ## Validation -/

section Validation

variable {file : SloTargets} {id : String} {target : SloTarget Float64} {indicator : SloIndicator}
  {baseline : BaselineEvidence Float64} {runs : List BaselineRun}

end Validation

/-! ## Published evidence -/

section Published

variable {arith : FloatArith} {prov : Provenance} {rows : List Contribution}
  {points : List LatencyCalibration} {pool : Option RatioPool} {proposal : BaselineProposal}
  {evidence : BaselineEvidence Float64} {id : String}

/-- The eligible events of rows, summed. -/
def eligibleOf (rows : List Contribution) : Nat :=
  rows.foldl (fun sum row ↦ satAdd sum row.eligible) 0

/-- A pool, told from its rows. -/
structure Tallied (rows : List Contribution) (pool : RatioPool) : Prop where
  runs : pool.runs = rows.length
  contributors : pool.contributors = rows.map (·.run)
  eligible : pool.eligible = eligibleOf rows
  conforming : pool.conforming ≤ pool.eligible
  positive : rows ≠ [] → 0 < pool.eligible
  bounded : pool.eligible ≤ u64Max

end Published

/-! ## What a target needs of its evidence -/

/-- What the evidence of a pool says. -/
structure Cites (prov : Provenance) (pool : RatioPool) (value : Float64)
    (evidence : BaselineEvidence Float64) : Prop where
  value : evidence.value = value
  source : ∃ rest, evidence.source = "slo-baseline: " ++ rest
  streamHours : evidence.streamHours ≠ some 0
  series : evidence.series = some prov.series
  runs : evidence.runs = pool.contributors
  eligible : evidence.eligible = some pool.eligible

section Cited

variable {arith : FloatArith} {prov : Provenance} {pool : RatioPool} {boundary : Option Nat}
  {evidence : BaselineEvidence Float64} {id : String} {value : Float64}

end Cited

section Rows

variable {l : List SloReport} {history : History} {report : SloReport} {row : Contribution}
  {id : String}

end Rows

/-! ## Usable baselines -/

section Usable

variable {arith : FloatArith} {reports : List SloReport} {set : BaselineProposalSet}
  {history : History} {id : String}

end Usable

/-! ## A history, and a run told twice -/

end BaselinePooling

end Aivtuber
