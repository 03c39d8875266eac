import Aivtuber.Base.Check
import Aivtuber.Base.LastWrite
import Aivtuber.Scripts.Series
import Mathlib.Data.List.Perm.Basic

/-!
# Benchmark history

`scripts/benchmark-record.mjs` keeps the results of a suite, one for each mode, commit and run.
They are filed by series: an invocation reads all the files of the suite, lets the new results
take the place of old ones, and writes the files of the series that are left.  Two series of one
run and mode are in each other's way (`history_lastWrites_iff`).
-/

open Aivtuber.Check

namespace Aivtuber.BenchmarkRecord

/-- What the script takes from the language and its libraries: the text of a number, the order
of texts, and the order in which a directory shows its files. -/
structure Host (ν : Type) where
  numberText : ν → String
  localeLe : String → String → Bool
  listing : List String → List String
  listing_perm : ∀ names, (listing names).Perm names

variable {ν : Type}

/-! ## Results -/

/-- A result that was read; without a `git` block it has no identity. -/
structure Row (ν : Type) where
  document : Json ν
  git : Json ν
  git_eq : document.get? "git" = some git

def nonNull : (value : Option (Json ν)) → Option {git : Json ν // value = some git}
  | none | some .null => none
  | some git => some ⟨git, rfl⟩

def asRow (document : Json ν) : Except String (Row ν) := do
  let git ← expect "undefined is not an object (evaluating 'result.git.commit')"
    (nonNull (document.get? "git"))
  return ⟨document, git.val, git.property⟩

/-- `value ?? fallback`, as `join` renders it. -/
def textOr (host : Host ν) (fallback : String) : Option (Json ν) → String
  | none | some .null => fallback
  | some value => joinText host.numberText value

/-- The identity of an observation: its suite, mode, commit and run. -/
def identityOf (host : Host ν) (row : Row ν) : String :=
  let run := (row.document.get? "recording").bind (·.get? "run_id")
  textOr host "" (row.document.get? "benchmark_suite") ++ "|" ++
    textOr host "" (row.document.get? "mode") ++ "|" ++
      textOr host "" (row.git.get? "commit") ++ "|" ++ textOr host "-" run

/-- The series that a row is filed under. -/
def seriesKey (host : Host ν) (row : Row ν) : String :=
  let configuration := fun field ↦ (row.document.get? "configuration").bind (·.get? field)
  compatKey (textOr host "" (row.document.get? "mode"))
    (textOr host "" (row.document.get? "dataset_id"))
    (textOr host "" (configuration "config_version")) (textOr host "" (configuration "seed"))

/-- The fields of an observation: its suite, mode, commit and run, and its series. -/
def observationOf (host : Host ν) (row : Row ν) : String × String × String × String × String :=
  let run := (row.document.get? "recording").bind (·.get? "run_id")
  (textOr host "" (row.document.get? "benchmark_suite"),
    textOr host "" (row.document.get? "mode"), textOr host "" (row.git.get? "commit"),
    textOr host "-" run, seriesKey host row)

def sortRows (host : Host ν) (rows : List (Row ν)) : List (Row ν) :=
  rows.insertionSort fun a b ↦ host.localeLe (identityOf host a) (identityOf host b) = true

/-- The last row of each identity. -/
def dedupe (host : Host ν) (rows : List (Row ν)) : List (Row ν) :=
  sortRows host ((rows.lastEach (identityOf host)).map Prod.snd)

/-- The rows of each series, sorted. -/
def splitSeries (host : Host ν) (rows : List (Row ν)) : List (String × List (Row ν)) :=
  (rows.collect (seriesKey host)).map fun series ↦ (series.1, sortRows host series.2)

/-! ## Files -/

/-- The data files of the branch, and their rows. -/
abbrev Branch (ν : Type) := List (String × List (Row ν))

def legacyPath (suite : String) : String := suite ++ ".jsonl"

def dataPath (suite key : String) : String := suite ++ "." ++ seriesFileStem key ++ ".jsonl"

/-- The files of a suite, by their names. -/
def isSeriesFile (suite name : String) : Bool :=
  (suite ++ ".").toList.isPrefixOf name.toList && ".jsonl".toList.isSuffixOf name.toList

def loadJsonl (branch : Branch ν) (name : String) : List (Row ν) :=
  (branch.lookup name).getD []

def loadHistory (host : Host ν) (suite : String) (branch : Branch ν) : List (Row ν) :=
  let seriesFiles := (host.listing (branch.map Prod.fst)).filter fun name ↦ isSeriesFile suite name
  seriesFiles.flatMap (loadJsonl branch) ++ loadJsonl branch (legacyPath suite)

def writeHistoryFiles (suite : String) (bySeries : List (String × List (Row ν)))
    (branch : Branch ν) : Branch ν :=
  bySeries.foldl
    (fun (branch : Branch ν) series ↦ branch.assign (dataPath suite series.1) series.2) branch

/-! ## Invocations -/

/-- The options and the environment of an invocation, and what stands in the files it names.
The attempt is a positive number, if there is one. -/
structure Invocation (ν : Type) where
  files : List String
  read : String → Except String (Json ν)
  explicitRunId : Option String
  githubRunId : Option String
  benchmarkRunId : Option String
  recordedAt : String
  attempt : Option ν

/-- The run that the results are of. -/
def resolveRunId (inv : Invocation ν) : Except String String :=
  let given := fun (text : Option String) ↦ (text.map trimmed).filter (· ≠ "")
  match given inv.explicitRunId, given inv.githubRunId, given inv.benchmarkRunId with
  | some runId, _, _ => .ok runId
  | none, some runId, _ => .ok ("run-" ++ runId)
  | none, none, some runId => .ok runId
  | none, none, none => .error
      ("no benchmark run identity: pass --run-id <id> (or set GITHUB_RUN_ID / BENCHMARK_RUN_ID); " ++
        "without it retries and repeated observations of one revision cannot be told apart")

/-- Attach the provenance of a result. -/
def stampRecording (result : Json ν) (runId recordedAt : String) (attempt : Option ν) : Json ν :=
  let recording := [("run_id", Json.str runId), ("recorded_at", .str recordedAt)] ++
    (attempt.map fun number ↦ ("attempt", .num number)).toList
  match result with
  | .obj members => .obj (members.assign "recording" (.obj recording))
  | _ => .obj [("recording", .obj recording)]

def declaresSuite (suite : String) (result : Json ν) : Bool :=
  match result.get? "benchmark_suite" with
  | some (.str declared) => declared = suite
  | _ => false

/-- The rows that an invocation records, unless it refuses. -/
def incomingOf (host : Host ν) (suite : String) (inv : Invocation ν) :
    Except String (List (Row ν)) := do
  let runId ← resolveRunId inv
  let incomingRaw ← inv.files.mapM inv.read
  incomingRaw.forM fun result ↦ ensure
    ("result " ++ textOr host "?" (result.get? "benchmark_suite") ++ " does not match --suite " ++
      suite ++ "; refusing to record")
    (declaresSuite suite result)
  incomingRaw.mapM fun result ↦ asRow (stampRecording result runId inv.recordedAt inv.attempt)

/-- One invocation. -/
def main (host : Host ν) (suite : String) (inv : Invocation ν) (branch : Branch ν) : Branch ν :=
  match incomingOf host suite inv with
  | .error _ => branch
  | .ok incoming =>
    let existing := loadHistory host suite branch
    let merged := dedupe host (existing ++ incoming)
    let written := writeHistoryFiles suite (splitSeries host merged) branch
    written.filter fun file ↦ file.1 ≠ legacyPath suite

/-- The branch after a sequence of invocations. -/
def history (host : Host ν) (suite : String) (invocations : List (Invocation ν)) : Branch ν :=
  invocations.foldl (fun branch inv ↦ main host suite inv branch) []

/-- All that a sequence of invocations recorded, in order. -/
def recorded (host : Host ν) (suite : String) (invocations : List (Invocation ν)) :
    List (Row ν) :=
  invocations.flatMap fun inv ↦
    match incomingOf host suite inv with
    | .error _ => []
    | .ok incoming => incoming

/-! ## Merging -/

variable {host : Host ν} {suite : String}

theorem sortRows_perm (host : Host ν) (rows : List (Row ν)) : (sortRows host rows).Perm rows :=
  List.perm_insertionSort _ rows

/-- **Merging keeps the last row of each identity**. -/
theorem mem_dedupe {rows : List (Row ν)} {row : Row ν} : row ∈ dedupe host rows ↔
    rows.lastWith (identityOf host) (identityOf host row) = some row := by
  rw [dedupe, (sortRows_perm host _).mem_iff, List.mem_map_lastEach]

theorem nodup_identity_dedupe (host : Host ν) (rows : List (Row ν)) :
    ((dedupe host rows).map (identityOf host)).Nodup :=
  ((sortRows_perm host _).map _).nodup_iff.mpr (List.nodup_map_lastEach (identityOf host) rows)

/-- An observation has one identity. -/
theorem identityOf_congr {a b : Row ν} (h : observationOf host a = observationOf host b) :
    identityOf host a = identityOf host b := by
  simp only [observationOf, Prod.mk.injEq] at h
  obtain ⟨hsuite, hmode, hcommit, hrun, -⟩ := h
  rw [identityOf, identityOf, hsuite, hmode, hcommit, hrun]

theorem seriesKey_congr {a b : Row ν} (h : observationOf host a = observationOf host b) :
    seriesKey host a = seriesKey host b := by
  simp only [observationOf, Prod.mk.injEq] at h
  exact h.2.2.2.2

theorem mem_of_mem_dedupe {rows : List (Row ν)} {row : Row ν} (h : row ∈ dedupe host rows) :
    row ∈ rows :=
  List.mem_of_lastWith (mem_dedupe.mp h)

/-! ## File names -/

/-- The names of two series agree only if their hashes do. -/
theorem stableHash_of_dataPath {a b : String} (h : dataPath suite a = dataPath suite b) :
    stableHash a = stableHash b := by
  rw [dataPath, dataPath, String.append_left_inj, String.append_right_inj] at h
  exact (seriesFileStem_eq_iff.mp h).2

theorem isSeriesFile_dataPath (suite key : String) :
    isSeriesFile suite (dataPath suite key) = true := by
  have hname : (dataPath suite key).toList =
      (suite ++ ".").toList ++ (seriesFileStem key).toList ++ ".jsonl".toList := by
    rw [dataPath, String.toList_append, String.toList_append]
  rw [isSeriesFile, Bool.and_eq_true, List.isPrefixOf_iff_prefix, List.isSuffixOf_iff_suffix, hname]
  constructor
  · rw [List.append_assoc]
    exact List.prefix_append _ _
  · exact List.suffix_append _ _

theorem dataPath_ne_legacyPath (suite key : String) : dataPath suite key ≠ legacyPath suite := by
  rw [dataPath, legacyPath, Ne, String.append_left_inj]
  intro h
  have hlength := congrArg String.length h
  simp only [String.length_append] at hlength
  have hdot : ".".length = 1 := rfl
  omega

/-! ## Filing -/

/-- No two series of the rows have one hash. -/
def CollisionFree (host : Host ν) (rows : List (Row ν)) : Prop :=
  ∀ a ∈ rows, ∀ b ∈ rows, stableHash (seriesKey host a) = stableHash (seriesKey host b) →
    seriesKey host a = seriesKey host b

/-- The files of the branch hold recorded rows, each in the file of its series. -/
structure Filed (host : Host ν) (suite : String) (rows : List (Row ν)) (branch : Branch ν) :
    Prop where
  nodup : (branch.map Prod.fst).Nodup
  file : ∀ name group, branch.lookup name = some group → group.Nodup ∧
    ∃ key, name = dataPath suite key ∧ ∀ row ∈ group, row ∈ rows ∧ seriesKey host row = key

/-- The history shows the last row of each observation, once, and nothing else. -/
structure LastWrites (host : Host ν) (suite : String) (rows : List (Row ν)) (branch : Branch ν) :
    Prop where
  nodup : ((loadHistory host suite branch).map (observationOf host)).Nodup
  mem_iff : ∀ row, row ∈ loadHistory host suite branch ↔
    rows.lastWith (observationOf host) (observationOf host row) = some row

/-- Merging spares the last row of each observation: it is the last of its identity too, or it was
loaded, and no row that is left is of its series, so that its file is not written. -/
def Spares (host : Host ν) (existing incoming : List (Row ν)) : Prop :=
  ∀ row,
    (existing ++ incoming).lastWith (observationOf host) (observationOf host row) = some row →
      (existing ++ incoming).lastWith (identityOf host) (identityOf host row) = some row ∨
      row ∈ existing ∧ ∀ other,
        (existing ++ incoming).lastWith (identityOf host) (identityOf host other) = some other →
          seriesKey host other ≠ seriesKey host row

/-- Where no identity is in two series, nothing else is dropped. -/
theorem spares_of_aligned {existing incoming : List (Row ν)}
    (h : ∀ a ∈ existing ++ incoming, ∀ b ∈ existing ++ incoming,
      identityOf host a = identityOf host b → observationOf host a = observationOf host b) :
    Spares host existing incoming := by
  intro row hlast
  left
  have hrow := List.mem_of_lastWith hlast
  cases hidentity : (existing ++ incoming).lastWith (identityOf host) (identityOf host row) with
  | none => exact absurd rfl (List.lastWith_eq_none.mp hidentity row hrow)
  | some other =>
    have hkey := List.key_of_lastWith hidentity
    have hother := List.lastWith_of_finer (fun a b ↦ identityOf_congr) (hkey ▸ hidentity)
    rw [h other (List.mem_of_lastWith hidentity) row hrow hkey, hlast] at hother
    exact hother.symm

namespace Filed

variable {rows incoming : List (Row ν)} {branch : Branch ν}

theorem lookup_legacyPath (h : Filed host suite rows branch) :
    branch.lookup (legacyPath suite) = none := by
  cases hlookup : branch.lookup (legacyPath suite) with
  | none => rfl
  | some group =>
    obtain ⟨-, key, hname, -⟩ := h.file _ _ hlookup
    exact absurd hname.symm (dataPath_ne_legacyPath suite _)

/-- A row is loaded from the file of its series. -/
theorem mem_loadHistory (h : Filed host suite rows branch) {row : Row ν} :
    row ∈ loadHistory host suite branch ↔
      ∃ group, branch.lookup (dataPath suite (seriesKey host row)) = some group ∧ row ∈ group := by
  rw [loadHistory, loadJsonl, h.lookup_legacyPath, Option.getD_none, List.append_nil,
    List.mem_flatMap]
  constructor
  · rintro ⟨name, -, hrow⟩
    rw [loadJsonl] at hrow
    cases hlookup : branch.lookup name with
    | none => simp [hlookup] at hrow
    | some group =>
      rw [hlookup, Option.getD_some] at hrow
      obtain ⟨-, key, rfl, hgroup⟩ := h.file _ _ hlookup
      rw [(hgroup row hrow).2]
      exact ⟨group, hlookup, hrow⟩
  · rintro ⟨group, hlookup, hrow⟩
    refine ⟨_, List.mem_filter.mpr ⟨?_, isSeriesFile_dataPath suite _⟩, by rwa [loadJsonl, hlookup]⟩
    rw [(host.listing_perm _).mem_iff]
    exact List.mem_map.mpr ⟨_, (List.mem_iff_lookup h.nodup).mpr hlookup, rfl⟩

theorem mem_rows (h : Filed host suite rows branch) {row : Row ν}
    (hrow : row ∈ loadHistory host suite branch) : row ∈ rows := by
  obtain ⟨group, hlookup, hmem⟩ := h.mem_loadHistory.mp hrow
  obtain ⟨-, key, -, hgroup⟩ := h.file _ _ hlookup
  exact (hgroup row hmem).1

theorem nodup_loadHistory (h : Filed host suite rows branch) :
    (loadHistory host suite branch).Nodup := by
  have hfile : ∀ name, (loadJsonl branch name).Nodup ∧
      ∀ row ∈ loadJsonl branch name, name = dataPath suite (seriesKey host row) := by
    intro name
    rw [loadJsonl]
    cases hlookup : branch.lookup name with
    | none => exact ⟨List.nodup_nil, fun _ hrow ↦ absurd hrow List.not_mem_nil⟩
    | some group =>
      obtain ⟨hnodup, key, hname, hgroup⟩ := h.file _ _ hlookup
      exact ⟨hnodup, fun row hrow ↦ by rw [(hgroup row hrow).2, hname]⟩
  rw [loadHistory, loadJsonl, h.lookup_legacyPath, Option.getD_none, List.append_nil,
    List.nodup_flatMap]
  refine ⟨fun name _ ↦ (hfile name).1, ?_⟩
  have hnames := ((host.listing_perm (branch.map Prod.fst)).nodup_iff.mpr h.nodup).filter
    fun name ↦ isSeriesFile suite name
  refine hnames.imp fun {a b} hne row ha hb ↦ hne ?_
  rw [(hfile a).2 row ha, (hfile b).2 row hb]

theorem mem_splitSeries {merged group : List (Row ν)} {key : String} :
    (key, group) ∈ splitSeries host merged ↔
      (∃ last ∈ merged, seriesKey host last = key) ∧
        group = sortRows host (merged.filter fun row ↦ seriesKey host row = key) := by
  rw [splitSeries, List.mem_map]
  constructor
  · rintro ⟨⟨_, rows⟩, hmem, ⟨⟩⟩
    obtain ⟨hne, hrows⟩ := List.mem_collect.mp hmem
    obtain ⟨last, hlast⟩ := List.exists_mem_of_ne_nil rows hne
    rw [hrows, List.mem_filter, decide_eq_true_eq] at hlast
    exact ⟨⟨last, hlast⟩, by rw [hrows]⟩
  · rintro ⟨⟨last, hlast, hkey⟩, rfl⟩
    refine ⟨(key, merged.filter fun row ↦ seriesKey host row = key), ?_, rfl⟩
    rw [List.mem_collect]
    exact ⟨List.ne_nil_of_mem (List.mem_filter.mpr ⟨hlast, decide_eq_true hkey⟩), rfl⟩

variable (host suite) in
/-- What the files are after the series of merged rows were written. -/
theorem lookup_writeHistoryFiles (merged : List (Row ν)) (branch : Branch ν) (name : String) :
    (∃ last ∈ merged, name = dataPath suite (seriesKey host last) ∧
      (writeHistoryFiles suite (splitSeries host merged) branch).lookup name =
        some (sortRows host
          (merged.filter fun row ↦ seriesKey host row = seriesKey host last))) ∨
    ((∀ row ∈ merged, dataPath suite (seriesKey host row) ≠ name) ∧
      (writeHistoryFiles suite (splitSeries host merged) branch).lookup name =
        branch.lookup name) := by
  have hlookup : (writeHistoryFiles suite (splitSeries host merged) branch).lookup name =
      (((splitSeries host merged).lastWith (fun series ↦ dataPath suite series.1) name).map
        Prod.snd).or (branch.lookup name) :=
    List.lookup_foldl_assign Prod.snd _ _
  cases hlast : (splitSeries host merged).lastWith (fun series ↦ dataPath suite series.1) name with
  | some series =>
    left
    obtain ⟨key, group⟩ := series
    rw [hlast] at hlookup
    obtain ⟨⟨last, hmem, rfl⟩, rfl⟩ := mem_splitSeries.mp (List.mem_of_lastWith hlast)
    exact ⟨last, hmem, (List.key_of_lastWith hlast).symm, hlookup⟩
  | none =>
    right
    rw [hlast] at hlookup
    refine ⟨fun row hrow ↦ ?_, hlookup⟩
    have hmem : (seriesKey host row, sortRows host
        (merged.filter fun other ↦ seriesKey host other = seriesKey host row)) ∈
          splitSeries host merged :=
      mem_splitSeries.mpr ⟨⟨row, hrow, rfl⟩, rfl⟩
    have hnone : ∀ series ∈ splitSeries host merged, dataPath suite series.1 ≠ name :=
      List.lastWith_eq_none.mp hlast
    have hne := hnone _ hmem
    exact hne

/-- The files after an invocation: those of the series of the merged rows, and the old ones. -/
theorem lookup_main {inv : Invocation ν} (h : Filed host suite rows branch)
    (hincoming : incomingOf host suite inv = .ok incoming) (name : String) :
    let merged := dedupe host (loadHistory host suite branch ++ incoming)
    (∃ last ∈ merged, name = dataPath suite (seriesKey host last) ∧
      (main host suite inv branch).lookup name = some (sortRows host
        (merged.filter fun row ↦ seriesKey host row = seriesKey host last))) ∨
    ((∀ row ∈ merged, dataPath suite (seriesKey host row) ≠ name) ∧
      (main host suite inv branch).lookup name = branch.lookup name) := by
  intro merged
  have hwritten := lookup_writeHistoryFiles host suite merged branch
  have hnodup : ((writeHistoryFiles suite (splitSeries host merged) branch).map
      Prod.fst).Nodup :=
    List.nodup_foldl_assign (fun _ (series : String × List (Row ν)) ↦ series.2) _ h.nodup
  have hmain : main host suite inv branch =
      writeHistoryFiles suite (splitSeries host merged) branch := by
    rw [BenchmarkRecord.main, hincoming]
    refine List.filter_eq_self.mpr ?_
    rintro ⟨name, group⟩ hmem
    rw [List.mem_iff_lookup hnodup] at hmem
    refine decide_eq_true ?_
    rcases hwritten name with ⟨last, -, rfl, -⟩ | ⟨-, hold⟩
    · exact dataPath_ne_legacyPath suite _
    · obtain ⟨-, key, rfl, -⟩ := h.file _ _ (hold.symm.trans hmem)
      exact dataPath_ne_legacyPath suite _
  rw [hmain]
  exact hwritten name

/-- **An invocation keeps the files in order.** -/
theorem main {inv : Invocation ν} (h : Filed host suite rows branch)
    (hincoming : incomingOf host suite inv = .ok incoming) :
    Filed host suite (rows ++ incoming) (main host suite inv branch) := by
  constructor
  · rw [BenchmarkRecord.main, hincoming]
    refine List.Nodup.sublist (List.filter_sublist.map _) ?_
    exact List.nodup_foldl_assign (fun _ (series : String × List (Row ν)) ↦ series.2) _ h.nodup
  · intro name group hlookup
    rcases h.lookup_main hincoming name with ⟨last, hlast, hname, hnew⟩ | ⟨-, hold⟩
    · rw [hnew, Option.some_inj] at hlookup
      subst hlookup
      have hnodup := (nodup_identity_dedupe host (loadHistory host suite branch ++ incoming)).of_map
      refine ⟨(sortRows_perm host _).nodup_iff.mpr (hnodup.filter _), _, hname, fun row hrow ↦ ?_⟩
      obtain ⟨hmem, hkey⟩ := List.mem_filter.mp ((sortRows_perm host _).mem_iff.mp hrow)
      refine ⟨List.mem_append.mpr ?_, of_decide_eq_true hkey⟩
      exact (List.mem_append.mp (mem_of_mem_dedupe hmem)).imp_left h.mem_rows
    · obtain ⟨hnodup, key, hname, hgroup⟩ := h.file _ _ (hold.symm.trans hlookup)
      exact ⟨hnodup, key, hname, fun row hrow ↦
        ⟨List.mem_append_left _ (hgroup row hrow).1, (hgroup row hrow).2⟩⟩

/-- What is loaded after an invocation: the merged rows, and what stands in a file that was not
written. -/
theorem mem_loadHistory_main {inv : Invocation ν} (h : Filed host suite rows branch)
    (hfree : CollisionFree host (rows ++ incoming))
    (hincoming : incomingOf host suite inv = .ok incoming) (row : Row ν) :
    row ∈ loadHistory host suite (BenchmarkRecord.main host suite inv branch) ↔
      row ∈ dedupe host (loadHistory host suite branch ++ incoming) ∨
        row ∈ loadHistory host suite branch ∧
          ∀ other ∈ dedupe host (loadHistory host suite branch ++ incoming),
            seriesKey host other ≠ seriesKey host row := by
  have hmerged : ∀ other ∈ dedupe host (loadHistory host suite branch ++ incoming),
      other ∈ rows ++ incoming := fun other hother ↦
    List.mem_append.mpr ((List.mem_append.mp (mem_of_mem_dedupe hother)).imp_left h.mem_rows)
  -- The file of a series holds that series, as no other has its name.
  have hseries : ∀ a ∈ rows ++ incoming, ∀ b ∈ rows ++ incoming,
      dataPath suite (seriesKey host a) = dataPath suite (seriesKey host b) →
        seriesKey host a = seriesKey host b :=
    fun a ha b hb hname ↦ hfree a ha b hb (stableHash_of_dataPath hname)
  rw [(h.main hincoming).mem_loadHistory]
  rcases h.lookup_main hincoming (dataPath suite (seriesKey host row)) with
    ⟨last, hlast, hname, hnew⟩ | ⟨hunwritten, hold⟩
  · rw [hnew]
    constructor
    · rintro ⟨group, ⟨⟩, hrow⟩
      exact .inl (List.mem_of_mem_filter ((sortRows_perm host _).mem_iff.mp hrow))
    · rintro (hrow | ⟨hrow, hapart⟩)
      · refine ⟨_, rfl, (sortRows_perm host _).mem_iff.mpr (List.mem_filter.mpr ⟨hrow, ?_⟩)⟩
        exact decide_eq_true (hseries row (hmerged row hrow) last (hmerged last hlast) hname)
      · refine absurd ?_ (hapart last hlast)
        exact (hseries row (List.mem_append_left _ (h.mem_rows hrow)) last (hmerged last hlast)
          hname).symm
  · rw [hold, ← h.mem_loadHistory]
    constructor
    · exact fun hrow ↦ .inr ⟨hrow, fun other hother heq ↦ hunwritten other hother (by rw [heq])⟩
    · rintro (hrow | ⟨hrow, -⟩)
      · exact absurd rfl (hunwritten row hrow)
      · exact hrow

/-- **An invocation keeps the last row of each observation** exactly if its merging spares it. -/
theorem lastWrites_main_iff {inv : Invocation ν} (h : Filed host suite rows branch)
    (hlasts : LastWrites host suite rows branch) (hfree : CollisionFree host (rows ++ incoming))
    (hincoming : incomingOf host suite inv = .ok incoming) :
    LastWrites host suite (rows ++ incoming) (BenchmarkRecord.main host suite inv branch) ↔
      Spares host (loadHistory host suite branch) incoming := by
  have hload := h.mem_loadHistory_main hfree hincoming
  have hlast := List.lastWith_append_of_lasts hlasts.nodup hlasts.mem_iff incoming
  constructor
  · intro hafter row hrow
    rw [hlast] at hrow
    rcases (hload row).mp ((hafter.mem_iff row).mpr hrow) with hmerged | ⟨hloaded, hapart⟩
    · exact .inl (mem_dedupe.mp hmerged)
    · exact .inr ⟨hloaded, fun other hother ↦ hapart other (mem_dedupe.mpr hother)⟩
  · intro hspares
    have hmem : ∀ row,
        row ∈ loadHistory host suite (BenchmarkRecord.main host suite inv branch) ↔
          (rows ++ incoming).lastWith (observationOf host) (observationOf host row) = some row := by
      intro row
      rw [hload row, ← hlast]
      constructor
      · rintro (hmerged | ⟨hloaded, hapart⟩)
        · exact List.lastWith_of_finer (fun a b ↦ identityOf_congr) (mem_dedupe.mp hmerged)
        · -- the last of its observation was loaded too, and is the row
          cases hlatest : (loadHistory host suite branch ++ incoming).lastWith
              (observationOf host) (observationOf host row) with
          | none =>
            have hmem := List.mem_append_left incoming hloaded
            exact absurd rfl (List.lastWith_eq_none.mp hlatest row hmem)
          | some latest =>
            have hkey := List.key_of_lastWith hlatest
            rcases hspares latest (hkey ▸ hlatest) with hmerged | ⟨hkept, -⟩
            · exact absurd (seriesKey_congr hkey) (hapart latest (mem_dedupe.mpr hmerged))
            · rw [List.inj_on_of_nodup_map hlasts.nodup hkept hloaded hkey]
      · intro hrow
        rcases hspares row hrow with hmerged | ⟨hloaded, hapart⟩
        · exact .inl (mem_dedupe.mpr hmerged)
        · exact .inr ⟨hloaded, fun other hother ↦ hapart other (mem_dedupe.mp hother)⟩
    refine ⟨?_, hmem⟩
    refine (h.main hincoming).nodup_loadHistory.map_on fun a ha b hb heq ↦ ?_
    have hfirst := (hmem a).mp ha
    rw [heq, (hmem b).mp hb] at hfirst
    exact (Option.some.inj hfirst).symm

end Filed

/-! ## Runs -/

theorem recorded_append_singleton (invocations : List (Invocation ν)) (inv : Invocation ν) :
    recorded host suite (invocations ++ [inv]) = recorded host suite invocations ++
      match incomingOf host suite inv with
      | .error _ => []
      | .ok incoming => incoming := by
  rw [recorded, List.flatMap_append, List.flatMap_singleton]
  rfl

theorem history_append_singleton (invocations : List (Invocation ν)) (inv : Invocation ν) :
    history host suite (invocations ++ [inv]) =
      main host suite inv (history host suite invocations) := by
  rw [history, List.foldl_append]
  rfl

theorem filed_history (invocations : List (Invocation ν)) :
    Filed host suite (recorded host suite invocations) (history host suite invocations) := by
  induction invocations using List.reverseRecOn with
  | nil => exact ⟨List.nodup_nil, fun _ _ hlookup ↦ by cases hlookup⟩
  | append_singleton invocations inv ih =>
    rw [history_append_singleton, recorded_append_singleton]
    cases hincoming : incomingOf host suite inv with
    | error message =>
      rw [BenchmarkRecord.main, hincoming]
      dsimp only
      rw [List.append_nil]
      exact ih
    | ok incoming => exact ih.main hincoming

theorem lastWrites_nil (host : Host ν) (suite : String) :
    LastWrites host suite (recorded host suite []) (history host suite []) := by
  have hempty : loadHistory host suite (history host suite []) = [] := by
    rw [List.eq_nil_iff_forall_not_mem]
    intro row hrow
    exact absurd ((filed_history []).mem_rows hrow) List.not_mem_nil
  constructor
  · rw [hempty]
    exact List.nodup_nil
  · intro row
    rw [hempty]
    exact iff_of_false List.not_mem_nil fun h ↦ by cases h

/-- **The history holds the last row of each observation**, and nothing else, after every invocation
of a sequence, exactly if no merging drops one. -/
theorem history_lastWrites_iff (host : Host ν) (suite : String) (invocations : List (Invocation ν))
    (hfree : CollisionFree host (recorded host suite invocations)) :
    (∀ earlier later, invocations = earlier ++ later →
      LastWrites host suite (recorded host suite earlier) (history host suite earlier)) ↔
    ∀ earlier inv later incoming, invocations = earlier ++ inv :: later →
      incomingOf host suite inv = .ok incoming →
        Spares host (loadHistory host suite (history host suite earlier)) incoming := by
  have hprefix : ∀ earlier later, invocations = earlier ++ later →
      CollisionFree host (recorded host suite earlier) := by
    rintro earlier later rfl a ha b hb
    rw [recorded, List.flatMap_append] at hfree
    exact hfree a (List.mem_append_left _ ha) b (List.mem_append_left _ hb)
  have hstep : ∀ earlier inv later incoming, invocations = earlier ++ inv :: later →
      incomingOf host suite inv = .ok incoming →
      LastWrites host suite (recorded host suite earlier) (history host suite earlier) →
        (LastWrites host suite (recorded host suite (earlier ++ [inv]))
          (history host suite (earlier ++ [inv])) ↔
            Spares host (loadHistory host suite (history host suite earlier)) incoming) := by
    intro earlier inv later incoming hsplit hincoming hlasts
    have hnext := hprefix (earlier ++ [inv]) later (by simp [hsplit])
    rw [history_append_singleton, recorded_append_singleton, hincoming]
    rw [recorded_append_singleton, hincoming] at hnext
    exact (filed_history earlier).lastWrites_main_iff hlasts hnext hincoming
  constructor
  · intro hlasts earlier inv later incoming hsplit hincoming
    refine (hstep earlier inv later incoming hsplit hincoming
      (hlasts earlier (inv :: later) hsplit)).mp ?_
    exact hlasts (earlier ++ [inv]) later (by simp [hsplit])
  · intro hspares earlier
    induction earlier using List.reverseRecOn with
    | nil => exact fun _ _ ↦ lastWrites_nil host suite
    | append_singleton earlier inv ih =>
      intro later hsplit
      have hsplit' : invocations = earlier ++ inv :: later := by simp [hsplit]
      have hlasts := ih (inv :: later) hsplit'
      cases hincoming : incomingOf host suite inv with
      | error message =>
        rw [history_append_singleton, recorded_append_singleton, hincoming,
          BenchmarkRecord.main, hincoming]
        dsimp only
        rw [List.append_nil]
        exact hlasts
      | ok incoming =>
        exact (hstep earlier inv later incoming hsplit' hincoming hlasts).mpr
          (hspares earlier inv later incoming hsplit' hincoming)

section Instances

/-- A directory that is listed as it was filled. -/
def plainHost : Host Nat where
  numberText := toString
  localeLe := fun _ _ ↦ true
  listing := id
  listing_perm := fun names ↦ List.Perm.refl names

/-- The results of one run and mode, each of the dataset that its file is named after. -/
def runOf (attempt : Nat) (datasets : List String) : Invocation Nat where
  files := datasets
  read := fun dataset ↦ .ok (.obj [("benchmark_suite", .str "replay"), ("mode", .str "semantic"),
    ("dataset_id", .str dataset), ("git", .obj [("commit", .str "c0ffee")])])
  explicitRunId := some "run-1"
  githubRunId := none
  benchmarkRunId := none
  recordedAt := "2026-01-01T00:00:00Z"
  attempt := some attempt

/-- A run that is recorded again leaves one row. -/
theorem history_lastWrites_retry :
    LastWrites plainHost "replay"
      (recorded plainHost "replay" [runOf 1 ["chat"], runOf 2 ["chat"]])
      (history plainHost "replay" [runOf 1 ["chat"], runOf 2 ["chat"]]) := by
  have hkey : ∀ row ∈ recorded plainHost "replay" [runOf 1 ["chat"], runOf 2 ["chat"]],
      observationOf plainHost row =
        ("replay", "semantic", "c0ffee", "run-1", "semantic|chat||") := by decide +kernel
  refine (history_lastWrites_iff plainHost "replay" [runOf 1 ["chat"], runOf 2 ["chat"]] ?_).mpr ?_
    _ [] (List.append_nil _).symm
  · intro a ha b hb _
    exact seriesKey_congr ((hkey a ha).trans (hkey b hb).symm)
  · intro earlier inv later incoming hruns hincoming
    have hrow : ∀ row ∈ loadHistory plainHost "replay" (history plainHost "replay" earlier) ++
        incoming, row ∈ recorded plainHost "replay" [runOf 1 ["chat"], runOf 2 ["chat"]] := by
      intro row hrow
      rw [hruns, recorded, List.flatMap_append, List.flatMap_cons, hincoming]
      rcases List.mem_append.mp hrow with hloaded | hnew
      · exact List.mem_append_left _ ((filed_history earlier).mem_rows hloaded)
      · exact List.mem_append_right _ (List.mem_append_left _ hnew)
    refine spares_of_aligned fun a ha b hb _ ↦ ?_
    rw [hkey a (hrow a ha), hkey b (hrow b hb)]

/-- One run that measures two datasets in one mode: one of the two is not kept. -/
theorem history_drops_dataset :
    (recorded plainHost "replay" [runOf 1 ["chat", "game"]]).map (seriesKey plainHost) =
        ["semantic|chat||", "semantic|game||"] ∧
      (loadHistory plainHost "replay" (history plainHost "replay" [runOf 1 ["chat", "game"]])).map
        (seriesKey plainHost) = ["semantic|game||"] := by
  decide +kernel

end Instances

end Aivtuber.BenchmarkRecord
