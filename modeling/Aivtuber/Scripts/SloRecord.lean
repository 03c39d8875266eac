import Aivtuber.Base.Check
import Aivtuber.Base.LastWrite
import Aivtuber.Scripts.Series

/-!
# Calibration history

`scripts/slo-record.mjs` files each report of the service levels beside the replay report that
it was evaluated from.  A report whose identity is incomplete, or whose source is missing or is
not the one it names, is refused before the history is touched.
-/

open Aivtuber.Check

namespace Aivtuber.SloRecord

/-- What the scripts take from the language and its libraries. -/
structure Host (ν : Type) where
  numberText : ν → String
  numberJson : ν → String
  sha256 : String → String
  join : String → String → String

variable {ν : Type}

/-! ## Documents -/

/-- A document or an array, as `typeof` tells an object. -/
def asBlock : (value : Option (Json ν)) → Option {block : Json ν // value = some block}
  | some (.obj members) => some ⟨.obj members, rfl⟩
  | some (.arr values) => some ⟨.arr values, rfl⟩
  | _ => none

/-- A text that is not blank. -/
def asText : (value : Option (Json ν)) →
    Option {text : String // value = some (.str text) ∧ trimmed text ≠ ""}
  | some (.str text) => if hblank : trimmed text = "" then none else some ⟨text, rfl, hblank⟩
  | _ => none

def block? (document : Json ν) (field : String) :
    Option {block : Json ν // document.get? field = some block} :=
  asBlock (document.get? field)

def text? (document : Json ν) (field : String) :
    Option {text : String // document.get? field = some (.str text) ∧ trimmed text ≠ ""} :=
  asText (document.get? field)

def isDocument : Json ν → Bool
  | .obj _ => true
  | _ => false

def isArray : Option (Json ν) → Bool
  | some (.arr _) => true
  | _ => false

/-- Identity of values: that of an array or of an object is never the same in two documents. -/
def strictEq [DecidableEq ν] : Option (Json ν) → Option (Json ν) → Bool
  | none, none => true
  | some .null, some .null => true
  | some (.bool a), some (.bool b) => decide (a = b)
  | some (.num a), some (.num b) => decide (a = b)
  | some (.str a), some (.str b) => decide (a = b)
  | _, _ => false

theorem eq_of_strictEq [DecidableEq ν] {a b : Option (Json ν)} (h : strictEq a b = true) :
    a = b := by
  rw [strictEq.eq_def] at h
  split at h <;> simp_all

/-- A value in a message; its members stand as they were read. -/
def stringify (host : Host ν) : Option (Json ν) → String
  | none => "undefined"
  | some value => value.canonical (fun _ ↦ []) host.numberJson

def canonicalJson (host : Host ν) (value : Json ν) : String :=
  value.canonical Json.utf16 host.numberJson

def sourceDigestOf (host : Host ν) (document : Json ν) : String :=
  host.sha256 (canonicalJson host document)

theorem head?_append {a b : String} {c : Char} (h : a.toList.head? = some c) :
    (a ++ b).toList.head? = some c := by
  rw [String.toList_append, List.head?_append, h, Option.some_or]

/-! ## Reports -/

/-- A report with its identity, which is complete. -/
structure Recordable (ν : Type) where
  report : Json ν
  source : Json ν
  schemaVersion : String
  catalogVersion : String
  runId : String
  datasetId : String
  configVersion : String
  mode : String
  source_eq : report.get? "source" = some source
  schema_eq : report.get? "schema_version" = some (.str schemaVersion)
  catalog_eq : report.get? "catalog_version" = some (.str catalogVersion)
  runId_eq : ∃ text, source.get? "run_id" = some (.str text) ∧ runId = trimmed text ∧ runId ≠ ""
  dataset_eq : source.get? "dataset_id" = some (.str datasetId)
  config_eq : source.get? "config_version" = some (.str configVersion)
  mode_eq : source.get? "mode" = some (.str mode)

/-- Refuse anything that is not a recordable measurement. -/
def requireRecordable (report : Json ν) (file : String) : Except String (Recordable ν) := do
  let fail := fun message ↦ file ++ ": " ++ message
  ensure (fail "not an SLO report document") (isDocument report)
  let catalog ← expect
    (fail "missing `catalog_version`; this is not an SLO report (`slo-report` output)")
    (text? report "catalog_version")
  let schema ← expect
    (fail "missing `schema_version`; this is not an SLO report (`slo-report` output)")
    (text? report "schema_version")
  let source ← expect (fail "missing the `source` identity block; this is not an SLO report")
    (block? report "source")
  let runId ← expect
    (fail ("carries no run identity, so it is a measurement but not calibration history; " ++
      "regenerate it with `slo-report --run-id <stable-id>` (stable across retries of one " ++
      "run, distinct across distinct runs)"))
    (text? source.val "run_id")
  let dataset ← expect
    (fail "has no `source.dataset_id`, so it names no compatibility series to pool within")
    (text? source.val "dataset_id")
  let config ← expect
    (fail "has no `source.config_version`, so it names no compatibility series to pool within")
    (text? source.val "config_version")
  let mode ← expect
    (fail "has no `source.mode`, so it names no compatibility series to pool within")
    (text? source.val "mode")
  return {
    report := report
    source := source.val
    schemaVersion := schema.val
    catalogVersion := catalog.val
    runId := trimmed runId.val
    datasetId := dataset.val
    configVersion := config.val
    mode := mode.val
    source_eq := source.property
    schema_eq := schema.property.1
    catalog_eq := catalog.property.1
    runId_eq := ⟨runId.val, runId.property.1, rfl, runId.property.2⟩
    dataset_eq := dataset.property.1
    config_eq := config.property.1
    mode_eq := mode.property.1 }

namespace Recordable

variable (host : Host ν)

/-- The series that a report was measured in. -/
def seriesKeyOf (report : Recordable ν) : String :=
  compatKey report.mode report.datasetId report.configVersion
    (((report.source.get? "seed").map (joinText host.numberText)).getD "")

/-- Where a document of the contract, the series and the run of a report is kept. -/
def pathIn (root : String) (report : Recordable ν) : String :=
  root ++ ("/" ++ versionFileStem report.schemaVersion ++ "/" ++
    versionFileStem report.catalogVersion ++ "/" ++ seriesFileStem (report.seriesKeyOf host) ++
      "/" ++ runFileStem report.runId ++ ".json")

def reportPathOf (report : Recordable ν) : String := report.pathIn host "reports"

def benchmarkPathOf (report : Recordable ν) : String := report.pathIn host "benchmark-reports"

variable {host}

/-- The two trees are alike: one path determines the other. -/
theorem benchmarkPathOf_inj {a b : Recordable ν} :
    a.benchmarkPathOf host = b.benchmarkPathOf host ↔ a.reportPathOf host = b.reportPathOf host := by
  simp only [benchmarkPathOf, reportPathOf, pathIn, String.append_right_inj]

theorem benchmarkPathOf_ne {report : Recordable ν} {path : String}
    (h : path.toList.head? ≠ some 'b') : report.benchmarkPathOf host ≠ path := by
  rintro rfl
  exact h (head?_append rfl)

theorem reportPathOf_eq_iff {report : Recordable ν} {rest : String} :
    report.reportPathOf host = "reports/" ++ rest ↔
      report.benchmarkPathOf host = "benchmark-reports/" ++ rest := by
  have hreports : "reports/" ++ rest = "reports" ++ ("/" ++ rest) := by
    rw [← String.append_assoc]
    rfl
  have hbenchmarks : "benchmark-reports/" ++ rest = "benchmark-reports" ++ ("/" ++ rest) := by
    rw [← String.append_assoc]
    rfl
  rw [hreports, hbenchmarks]
  simp only [benchmarkPathOf, reportPathOf, pathIn, String.append_right_inj]

end Recordable

/-! ## The worktree -/

structure Entry (ν : Type) where
  file : String
  report : Recordable ν

structure Source (ν : Type) where
  document : Json ν
  path : String

inductive Document (ν : Type) where
  | json (document : Json ν)
  | text (content : String)

abbrev Worktree (ν : Type) := String → Option (Document ν)

def Entry.path (host : Host ν) (entry : Entry ν) : String := entry.report.reportPathOf host

theorem Entry.head?_path (host : Host ν) (entry : Entry ν) :
    (entry.path host).toList.head? = some 'r' :=
  head?_append rfl

def writeEntry (host : Host ν) (sources : String → Option (Source ν)) (tree : Worktree ν)
    (entry : Entry ν) : Worktree ν :=
  let path := entry.report.reportPathOf host
  let written := Function.update tree path (some (.json entry.report.report))
  match sources path with
  | some source => Function.update written source.path (some (.json source.document))
  | none => written

/-- The entries of one loop, and the source of each. -/
def Sourced (host : Host ν) (sources : String → Option (Source ν)) (entries : List (Entry ν)) :
    Prop :=
  ∀ entry ∈ entries, ∃ benchmark,
    sources (entry.path host) = some ⟨benchmark, entry.report.benchmarkPathOf host⟩

variable {host : Host ν} {sources : String → Option (Source ν)} {tree : Worktree ν}

theorem writeEntry_of_sourced {entry : Entry ν} {benchmark : Json ν}
    (h : sources (entry.path host) = some ⟨benchmark, entry.report.benchmarkPathOf host⟩) :
    writeEntry host sources tree entry =
      Function.update (Function.update tree (entry.path host) (some (.json entry.report.report)))
        (entry.report.benchmarkPathOf host) (some (.json benchmark)) := by
  rw [writeEntry]
  dsimp only [Entry.path] at h ⊢
  rw [h]

/-- Where no source is kept, the last report with the path is left. -/
theorem writeAll_path {entries : List (Entry ν)} (h : Sourced host sources entries) {path : String}
    (hpath : ∀ report : Recordable ν, report.benchmarkPathOf host ≠ path) :
    entries.foldl (writeEntry host sources) tree path =
      ((entries.lastWith (Entry.path host) path).map
        fun entry ↦ Document.json entry.report.report).or (tree path) := by
  induction entries using List.reverseRecOn with
  | nil => rfl
  | append_singleton entries entry ih =>
    obtain ⟨benchmark, hsource⟩ := h entry (by simp)
    rw [List.foldl_append, List.foldl_cons, List.foldl_nil, writeEntry_of_sourced hsource,
      Function.update_of_ne (hpath entry.report).symm, List.lastWith_concat]
    by_cases hentry : entry.path host = path
    · rw [if_pos hentry, ← hentry, Function.update_self]
      rfl
    · rw [if_neg hentry, Function.update_of_ne (Ne.symm hentry),
        ih fun other hother ↦ h other (List.mem_append_left [entry] hother)]

/-- Beside the path of a report, its source is left. -/
theorem writeAll_benchmarkPath {entries : List (Entry ν)} (h : Sourced host sources entries)
    (report : Recordable ν) :
    entries.foldl (writeEntry host sources) tree (report.benchmarkPathOf host) =
      if (entries.lastWith (Entry.path host) (report.reportPathOf host)).isSome then
        (sources (report.reportPathOf host)).map fun source ↦ Document.json source.document
      else tree (report.benchmarkPathOf host) := by
  induction entries using List.reverseRecOn with
  | nil => rfl
  | append_singleton entries entry ih =>
    obtain ⟨benchmark, hsource⟩ := h entry (by simp)
    rw [List.foldl_append, List.foldl_cons, List.foldl_nil, writeEntry_of_sourced hsource,
      List.lastWith_concat]
    by_cases hpath : entry.path host = report.reportPathOf host
    · rw [if_pos hpath, Recordable.benchmarkPathOf_inj.mpr hpath, Function.update_self, ← hpath,
        hsource]
      rfl
    · have hbenchmark : report.benchmarkPathOf host ≠ entry.report.benchmarkPathOf host :=
        fun heq ↦ hpath (Recordable.benchmarkPathOf_inj.mp heq.symm)
      have hreport : report.benchmarkPathOf host ≠ entry.path host :=
        Recordable.benchmarkPathOf_ne (by rw [entry.head?_path]; decide)
      rw [if_neg hpath, Function.update_of_ne hbenchmark, Function.update_of_ne hreport,
        ih fun other hother ↦ h other (List.mem_append_left [entry] hother)]

/-! ## Pairs -/

variable [DecidableEq ν]

/-- Refuse a replay report that is not the source of the report that it is paired with. -/
def requirePairable (host : Host ν) (benchmark : Json ν) (report : Recordable ν) (file : String) :
    Except String Unit := do
  let fail := fun message ↦ file ++ ": " ++ message
  let series := fun (field : String) (observed : Option (Json ν)) ↦
    ensure
      (fail ("does not belong to the same compatibility series as its SLO report (" ++ field ++
        " " ++ stringify host observed ++ " vs " ++
          stringify host (report.source.get? field) ++ ")"))
      (strictEq observed (report.source.get? field))
  let artifact := fun (field : String) (observed expected : Option (Json ν)) ↦
    ensure
      (fail ("is not the replay report the SLO report was evaluated from (" ++ field ++
        " " ++ stringify host observed ++ " vs " ++ stringify host expected ++ ")"))
      (strictEq observed expected)
  ensure (fail "not a replay benchmark report document") (isDocument benchmark)
  let metadata ← expect (fail "not a replay benchmark report: no `metadata` block")
    (block? benchmark "metadata")
  ensure (fail "not a replay benchmark report: no `events` observations")
    (isArray (benchmark.get? "events"))
  series "dataset_id" (metadata.val.get? "dataset_id")
  series "config_version" (metadata.val.get? "config_version")
  series "mode" (benchmark.get? "mode")
  series "seed" (metadata.val.get? "seed")
  artifact "git_commit" (metadata.val.get? "git_commit") (report.source.get? "git_commit")
  -- A missing duration and an explicit null are one.
  artifact "stream_duration_ms" (some ((metadata.val.get? "stream_duration_ms").getD .null))
    (some ((report.source.get? "stream_duration_ms").getD .null))
  let digest ← expect
    (fail ("carries no `source.source_digest`; re-evaluate the SLO report from this replay " ++
      "report with `slo-report` so the pair is bound to the exact artifact"))
    (text? report.source "source_digest")
  ensure
    (fail ("is not the replay report the SLO report was evaluated from (source digest " ++
      sourceDigestOf host benchmark ++ " vs " ++ digest.val ++ ")"))
    (sourceDigestOf host benchmark = digest.val)

def field? (document : Json ν) (block field : String) : Option (Json ν) :=
  (document.get? block).bind (·.get? field)

/-- A replay report is the source of a report. -/
structure Matches (host : Host ν) (benchmark report : Json ν) : Prop where
  digest : field? report "source" "source_digest" = some (.str (sourceDigestOf host benchmark))
  mode : benchmark.get? "mode" = field? report "source" "mode"
  series : ∀ field ∈ ["dataset_id", "config_version", "seed"],
    field? benchmark "metadata" field = field? report "source" field
  commit : field? benchmark "metadata" "git_commit" = field? report "source" "git_commit"
  duration : (field? benchmark "metadata" "stream_duration_ms").getD .null =
    (field? report "source" "stream_duration_ms").getD .null

theorem matches_of_requirePairable {host : Host ν} {benchmark : Json ν} {report : Recordable ν}
    {file : String} (h : requirePairable host benchmark report file = .ok ()) :
    Matches host benchmark report.report := by
  simp only [requirePairable, unit_bind_eq_ok, expect_bind_eq_ok, ensure_eq_ok,
    decide_eq_true_eq] at h
  obtain ⟨-, ⟨metadata, hblock⟩, -, -, hdataset, hconfig, hmode, hseed, hcommit, hduration, digest, -,
    hdigest⟩ := h
  have hsource : ∀ field, field? report.report "source" field = report.source.get? field := by
    intro field
    rw [field?, report.source_eq, Option.bind_some]
  have hmetadata : ∀ field, field? benchmark "metadata" field = metadata.get? field := by
    intro field
    rw [field?, hblock, Option.bind_some]
  constructor
  case digest => rw [hsource, digest.property.1, hdigest]
  case mode => rw [hsource, eq_of_strictEq hmode]
  case series =>
      intro field hfield
      rw [hsource, hmetadata]
      simp only [List.mem_cons, List.not_mem_nil, or_false] at hfield
      rcases hfield with rfl | rfl | rfl
      · exact eq_of_strictEq hdataset
      · exact eq_of_strictEq hconfig
      · exact eq_of_strictEq hseed
  case commit => rw [hsource, hmetadata, eq_of_strictEq hcommit]
  case duration =>
      rw [hsource, hmetadata]
      exact Option.some.inj (eq_of_strictEq hduration)

/-! ## Recording -/

/-- The files that an invocation names, and what stands in them. -/
structure Invocation (ν : Type) where
  files : List String
  benchmarkDir : Option String
  read : String → Except String (Json ν)
  candidate : String → Option (Except String (Json ν))

/-- The name of a file without its directory and its extension. -/
def basename (file : String) : String :=
  let path := (file.toList.reverse.dropWhile (· = '/'))
  let name := (path.takeWhile (· ≠ '/')).reverse
  let stem := name.take (name.length - 5)
  if name = stem ++ ".json".toList ∧ (stem ≠ [] ∨ file = ".json") then String.ofList stem
  else String.ofList name

def readEntry (inv : Invocation ν) (file : String) : Except String (Entry ν) := do
  let report ← (inv.read file).mapError fun message ↦
    file ++ ": not an SLO report: " ++ message
  let recordable ← (requireRecordable report file).mapError ("slo-record: " ++ ·)
  return ⟨file, recordable⟩

/-- The replay report of the same stem, which a report must have. -/
def readSource (host : Host ν) (inv : Invocation ν) (benchmarkDir : String) (entry : Entry ν) :
    Except String (Json ν) := do
  let stem := basename entry.file
  let candidate := host.join benchmarkDir (stem ++ ".json")
  let found ← expect
    ("slo-record: " ++ entry.file ++ ": no replay report at " ++ candidate ++ "; the latency " ++
      "probe needs the source report, so a run without it cannot be probed later")
    (inv.candidate candidate)
  let benchmark ← found.mapError fun message ↦
    "slo-record: " ++ candidate ++ ": not a replay benchmark report: " ++ message
  (requirePairable host benchmark entry.report candidate).mapError ("slo-record: " ++ ·)
  return benchmark

/-- The sources by the paths of their reports; a later one takes the place of an earlier. -/
def pairAll (host : Host ν) (inv : Invocation ν) (benchmarkDir : String) :
    List (Entry ν) → (String → Option (Source ν)) → Except String (String → Option (Source ν))
  | [], sources => .ok sources
  | entry :: rest, sources => do
    let benchmark ← readSource host inv benchmarkDir entry
    pairAll host inv benchmarkDir rest
      (Function.update sources (entry.report.reportPathOf host)
        (some ⟨benchmark, entry.report.benchmarkPathOf host⟩))

/-- All that an invocation checks, which it does before it writes. -/
def collect (host : Host ν) (inv : Invocation ν) :
    Except String (List (Entry ν) × (String → Option (Source ν))) := do
  let benchmarkDir ← expect
    ("slo-record: --benchmarks <replay-report-dir> is required: a stored SLO run without its " ++
      "raw replay report can never be probed and its pair cannot be verified, so every " ++
      "calibration-history write needs the replay source")
    inv.benchmarkDir
  let incoming ← inv.files.mapM (readEntry inv)
  let sources ← pairAll host inv benchmarkDir incoming fun _ ↦ none
  return (incoming, sources)

/-- One invocation: what it reports, and the history after it. -/
def main (host : Host ν) (readme : String) (inv : Invocation ν) (tree : Worktree ν) :
    Except String Unit × Worktree ν :=
  match collect host inv with
  | .error message => (.error message, tree)
  | .ok (incoming, sources) =>
    let recorded := incoming.foldl (writeEntry host sources) tree
    (.ok (), Function.update recorded "README.md" (some (.text readme)))

/-- The history after a sequence of invocations. -/
def history (host : Host ν) (readme : String) (invocations : List (Invocation ν)) : Worktree ν :=
  invocations.foldl (fun tree inv ↦ (main host readme inv tree).2) fun _ ↦ none

/-! ## What is written -/

variable {inv : Invocation ν}

theorem matches_of_readSource {dir : String} {entry : Entry ν} {benchmark : Json ν}
    (h : readSource host inv dir entry = .ok benchmark) :
    Matches host benchmark entry.report.report := by
  simp only [readSource, bind_eq_ok, mapError_eq_ok] at h
  obtain ⟨-, -, _, -, ⟨⟩, hpairable, hbenchmark⟩ := h
  cases hbenchmark
  exact matches_of_requirePairable hpairable

theorem sources_of_lastWith_eq_none {dir : String} {entries : List (Entry ν)}
    {sources sources' : String → Option (Source ν)}
    (h : pairAll host inv dir entries sources = .ok sources') {path : String}
    (hnone : entries.lastWith (Entry.path host) path = none) : sources' path = sources path := by
  rw [List.lastWith_eq_none] at hnone
  induction entries generalizing sources with
  | nil =>
    cases h
    rfl
  | cons entry rest ih =>
    rw [pairAll, bind_eq_ok] at h
    obtain ⟨benchmark, -, h⟩ := h
    rw [ih h fun other hother ↦ hnone other (List.mem_cons_of_mem entry hother)]
    exact Function.update_of_ne (hnone entry List.mem_cons_self).symm _ _

/-- A source belongs to the last report with its path. -/
theorem sources_of_lastWith {dir : String} {entries : List (Entry ν)}
    {sources sources' : String → Option (Source ν)}
    (h : pairAll host inv dir entries sources = .ok sources') {path : String} {entry : Entry ν}
    (hlast : entries.lastWith (Entry.path host) path = some entry) :
    ∃ benchmark, sources' path = some ⟨benchmark, entry.report.benchmarkPathOf host⟩ ∧
      Matches host benchmark entry.report.report := by
  induction entries generalizing sources with
  | nil => cases hlast
  | cons first rest ih =>
    rw [pairAll, bind_eq_ok] at h
    obtain ⟨benchmark, hread, h⟩ := h
    rw [List.lastWith_cons] at hlast
    cases hrest : rest.lastWith (Entry.path host) path with
    | some later =>
      rw [hrest, Option.some_or] at hlast
      cases hlast
      exact ih h hrest
    | none =>
      rw [hrest, Option.none_or] at hlast
      split at hlast
      case isTrue hpath =>
          cases hlast
          refine ⟨benchmark, ?_, matches_of_readSource hread⟩
          rw [sources_of_lastWith_eq_none h hrest, ← hpath]
          exact Function.update_self _ _ _
      case isFalse => cases hlast

theorem sourced_of_pairAll {dir : String} {entries : List (Entry ν)}
    {sources sources' : String → Option (Source ν)}
    (h : pairAll host inv dir entries sources = .ok sources') : Sourced host sources' entries := by
  intro entry hentry
  cases hlast : entries.lastWith (Entry.path host) (entry.path host) with
  | none => exact absurd rfl (List.lastWith_eq_none.mp hlast entry hentry)
  | some last =>
    obtain ⟨benchmark, hsource, -⟩ := sources_of_lastWith h hlast
    refine ⟨benchmark, ?_⟩
    have hpath : last.path host = entry.path host := List.key_of_lastWith hlast
    rw [hsource, Recordable.benchmarkPathOf_inj.mpr hpath]

/-! ## Pairing -/

/-- Every report that the history holds is a complete one at its own path, and the replay
report at the same place of the other tree is its source. -/
def Paired (host : Host ν) (tree : Worktree ν) : Prop :=
  ∀ rest document, tree ("reports/" ++ rest) = some (.json document) →
    (∃ report : Recordable ν, report.report = document ∧
      report.reportPathOf host = "reports/" ++ rest) ∧
    ∃ benchmark, tree ("benchmark-reports/" ++ rest) = some (.json benchmark) ∧
      Matches host benchmark document

/-- **An invocation keeps the pairs together**. -/
theorem Paired.main {tree : Worktree ν} (h : Paired host tree) (readme : String)
    (inv : Invocation ν) : Paired host (main host readme inv tree).2 := by
  rw [SloRecord.main]
  split
  case h_1 => exact h
  case h_2 entries sources hcollected =>
      simp only [collect, bind_eq_ok] at hcollected
      obtain ⟨dir, -, _, -, _, hpair, ⟨⟩⟩ := hcollected
      have hsourced := sourced_of_pairAll hpair
      intro rest document hdocument
      have hhead : ("reports/" ++ rest).toList.head? = some 'r' := head?_append rfl
      have hhead' : ("benchmark-reports/" ++ rest).toList.head? = some 'b' := head?_append rfl
      have hreadme : "reports/" ++ rest ≠ "README.md" := by
        intro heq
        rw [heq] at hhead
        exact absurd hhead (by decide)
      have hreadme' : "benchmark-reports/" ++ rest ≠ "README.md" := by
        intro heq
        rw [heq] at hhead'
        exact absurd hhead' (by decide)
      dsimp only at hdocument ⊢
      rw [Function.update_of_ne hreadme, writeAll_path hsourced fun report ↦
        Recordable.benchmarkPathOf_ne (by rw [hhead]; decide)] at hdocument
      cases hlast : entries.lastWith (Entry.path host) ("reports/" ++ rest) with
      | some entry =>
        -- Written now: the last report with the path, and the source of that one.
        rw [hlast] at hdocument
        cases hdocument
        have hkey : entry.path host = "reports/" ++ rest := List.key_of_lastWith hlast
        have hpath : entry.report.reportPathOf host = "reports/" ++ rest := hkey
        obtain ⟨benchmark, hsource, hmatches⟩ := sources_of_lastWith hpair hlast
        refine ⟨⟨entry.report, rfl, hpath⟩, benchmark, ?_, hmatches⟩
        rw [Function.update_of_ne hreadme', ← Recordable.reportPathOf_eq_iff.mp hpath,
          writeAll_benchmarkPath hsourced, hpath, hlast, hsource]
        rfl
      | none =>
        -- Written before, and so was its source.
        rw [hlast] at hdocument
        obtain ⟨⟨report, hreport, hpath⟩, benchmark, hbenchmark, hmatches⟩ :=
          h rest document hdocument
        refine ⟨⟨report, hreport, hpath⟩, benchmark, ?_, hmatches⟩
        rw [Function.update_of_ne hreadme', ← Recordable.reportPathOf_eq_iff.mp hpath,
          writeAll_benchmarkPath hsourced, hpath, hlast, Recordable.reportPathOf_eq_iff.mp hpath]
        exact hbenchmark

theorem main_ok_or_eq (readme : String) (inv : Invocation ν) (tree : Worktree ν) :
    (main host readme inv tree).1 = .ok () ∨ (main host readme inv tree).2 = tree := by
  rw [main]
  cases collect host inv with
  | error message => exact Or.inr rfl
  | ok collected => exact Or.inl rfl

/-- **Whatever was recorded, the history is one of pairs**, and a refusal leaves it as it was. -/
theorem history_paired (host : Host ν) (readme : String) (invocations : List (Invocation ν)) :
    Paired host (history host readme invocations) ∧
      ∀ inv, (main host readme inv (history host readme invocations)).1 = .ok () ∨
        (main host readme inv (history host readme invocations)).2 =
          history host readme invocations := by
  constructor
  · rw [history]
    induction invocations using List.reverseRecOn with
    | nil =>
      intro rest document hdocument
      cases hdocument
    | append_singleton invocations inv ih =>
      rw [List.foldl_append, List.foldl_cons, List.foldl_nil]
      exact ih.main readme inv
  · exact fun inv ↦ main_ok_or_eq readme inv _

end Aivtuber.SloRecord
