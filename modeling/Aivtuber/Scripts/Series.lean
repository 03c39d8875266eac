import Aivtuber.Base.Double
import Aivtuber.Base.Json
import Aivtuber.Base.PrefixCode
import Aivtuber.Base.Saturating
import Mathlib.Data.List.GetD
import Mathlib.Data.Nat.Digits.Defs

/-!
# Compatibility series

Which measurements may be compared: those of one mode, dataset, configuration and seed.  The
calibration history (`scripts/benchmark-record.mjs`, `scripts/slo-record.mjs`) and the pooling
of `crates/telemetry/src/operational_slo.rs` each render these fields as a key.  The script
joins them as they are, and reads a seed as a double; the crate escapes the separator.  A
directory shows the cut slugs of a joined text, and a hash of 32 bits (`filedAlike_iff`).
-/

open Saturating (u64Max)

namespace Aivtuber

inductive ComparisonMode where
  | deterministicOnly | deterministicSemantic | deterministicSemanticJev | fullGenerative
deriving DecidableEq, Repr

def ComparisonMode.asStr : ComparisonMode → String
  | .deterministicOnly => "deterministic_only"
  | .deterministicSemantic => "deterministic_semantic"
  | .deterministicSemanticJev => "deterministic_semantic_jev"
  | .fullGenerative => "full_generative"

/-- The series fields of the `source` of a report. -/
structure SeriesSource where
  mode : ComparisonMode
  datasetId : String
  configVersion : String
  seed : Nat
  seed_le : seed ≤ u64Max
deriving DecidableEq

/-! ## The key of the crate -/

def escapeChar (c : Char) : List Char :=
  if c = '%' then ['%', '2', '5'] else if c = '|' then ['%', '7', 'C'] else [c]

def escape (component : String) : String := String.ofList (component.toList.flatMap escapeChar)

def compatibilitySeriesKey (mode : ComparisonMode) (datasetId configVersion : String)
    (seed : Nat) : String :=
  mode.asStr ++ "|" ++ escape datasetId ++ "|" ++ escape configVersion ++ "|" ++ toString seed

def SeriesSource.key (source : SeriesSource) : String :=
  compatibilitySeriesKey source.mode source.datasetId source.configVersion source.seed

/-! ## The key of the scripts -/

/-- The fields that a result is filed under; what is missing is joined as the empty text. -/
def compatKey (mode datasetId configVersion seed : String) : String :=
  mode ++ "|" ++ datasetId ++ "|" ++ configVersion ++ "|" ++ seed

/-- A seed is a double once it is parsed. -/
def seriesKeyOf (source : SeriesSource) : String :=
  compatKey source.mode.asStr source.datasetId source.configVersion
    (Double.text (Double.nearest source.seed))

section Join

variable {ν : Type}

mutual

/-- The text of a value as `join` renders it. -/
def joinText (numberText : ν → String) : Json ν → String
  | .null => ""
  | .bool value => if value then "true" else "false"
  | .num value => numberText value
  | .str value => value
  | .arr values => ",".intercalate (joinTexts numberText values)
  | .obj _ => "[object Object]"

def joinTexts (numberText : ν → String) : List (Json ν) → List String
  | [] => []
  | value :: values => joinText numberText value :: joinTexts numberText values

end

end Join

/-! ## File names -/

/-- A short stable hash: FNV-1a of 32 bits over the code units, in base 36. -/
def stableHash (text : String) : String :=
  let hash := (Json.utf16 text).foldl
    (fun (hash : UInt32) unit ↦ (hash ^^^ UInt32.ofNat unit) * 0x01000193) 0x811c9dc5
  let digits := (Nat.digits 36 hash.toNat).reverse.map fun digit ↦
    "0123456789abcdefghijklmnopqrstuvwxyz".toList.getD digit '0'
  if digits.isEmpty then "0" else String.ofList digits

def isStemChar (c : Char) : Bool :=
  (c.isAlphanum || c = '.' || c = '_' || c = '-')

/-- Every run of other characters becomes one dash. -/
def dashRuns (inRun : Bool) : List Char → List Char
  | [] => []
  | c :: rest =>
    if isStemChar c then c :: dashRuns false rest
    else if inRun then dashRuns true rest
    else '-' :: dashRuns true rest

/-- The part of a text that a file name may show, or `empty`. -/
def slug (limit : Nat) (empty : String) (text : List Char) : String :=
  let dashed := (dashRuns false text).dropWhile (· = '-')
  let stripped := (dashed.reverse.dropWhile (· = '-')).reverse
  let cut := stripped.take limit
  if cut.isEmpty then empty else String.ofList cut

/-- What the stem of a series shows of the parts of its key. -/
def seriesSlug (key : String) : String :=
  "__".intercalate ((key.toList.splitOn '|').map (slug 40 "-"))

/-- The stem of the files of a series. -/
def seriesFileStem (key : String) : String := seriesSlug key ++ "-" ++ stableHash key

/-- The stem of the files of a run. -/
def runFileStem (runId : String) : String :=
  slug 60 "run" runId.toList ++ "-" ++ stableHash runId

/-- White space, as the scripts trim it. -/
def isJsWhitespace (c : Char) : Bool :=
  [0x09, 0x0A, 0x0B, 0x0C, 0x0D, 0x20, 0xA0, 0x1680, 0x2028, 0x2029, 0x202F, 0x205F, 0x3000,
    0xFEFF].contains c.toNat || (0x2000 ≤ c.toNat && c.toNat ≤ 0x200A)

def trimmed (text : String) : String :=
  String.ofList ((text.toList.dropWhile isJsWhitespace).reverse.dropWhile isJsWhitespace).reverse

/-- The segment of a version: itself, as long as it is short and well formed. -/
def versionFileStem (version : String) : String :=
  let raw := trimmed version
  let wellFormed := match raw.toList with
    | [] => false
    | first :: rest =>
      (first.isAlphanum || first = '_') && rest.length ≤ 63 && rest.all isStemChar
  if wellFormed then raw else slug 40 "version" raw.toList ++ "-" ++ stableHash raw

/-! ## Joined texts -/

/-- A text from the last separator on determines where it begins. -/
theorem cons_append_inj {sep : Char} {a b x y : List Char} (ha : sep ∉ a) (hb : sep ∉ b)
    (h : x ++ sep :: a = y ++ sep :: b) : x = y ∧ a = b := by
  have hrev := congrArg List.reverse h
  rw [List.reverse_append, List.reverse_append, List.reverse_cons, List.reverse_cons,
    List.append_assoc, List.append_assoc] at hrev
  obtain ⟨hab, hxy⟩ := PrefixCode.append_cons_inj (by simpa using ha) (by simpa using hb) hrev
  exact ⟨List.reverse_inj.mp hxy, List.reverse_inj.mp hab⟩

theorem toList_bar : "|".toList = ['|'] := rfl

theorem ComparisonMode.asStr_injective : Function.Injective ComparisonMode.asStr := by
  intro a b h
  cases a <;> cases b <;> first | rfl | exact absurd h (by decide)

theorem bar_notMem_toString (n : Nat) : '|' ∉ (toString n).toList := by
  intro h
  have hdigit := Nat.isDigit_of_mem_toDigits (b := 10) (by decide) (by decide)
    (by simpa using h)
  exact absurd hdigit (by decide)

theorem bar_notMem_escape (component : String) : '|' ∉ (escape component).toList := by
  rw [escape, String.toList_ofList, List.mem_flatMap]
  rintro ⟨c, -, hc⟩
  rw [escapeChar] at hc
  split at hc
  · exact absurd hc (by decide)
  · split at hc
    · exact absurd hc (by decide)
    · rename_i h
      exact h (List.mem_singleton.mp hc).symm

theorem escapeChar_append_inj {c d : Char} {x y : List Char}
    (h : escapeChar c ++ x = escapeChar d ++ y) : c = d ∧ x = y := by
  by_cases hc : c = '%' <;> by_cases hc' : c = '|' <;> by_cases hd : d = '%' <;>
    by_cases hd' : d = '|' <;> simp_all [escapeChar, eq_comm]

theorem flatMap_escapeChar_injective {s t : List Char}
    (h : s.flatMap escapeChar = t.flatMap escapeChar) : s = t := by
  induction s generalizing t with
  | nil =>
    cases t with
    | nil => rfl
    | cons d t =>
      rw [List.flatMap_nil, List.flatMap_cons, escapeChar] at h
      split at h <;> (try split at h) <;> simp at h
  | cons c s ih =>
    cases t with
    | nil =>
      rw [List.flatMap_nil, List.flatMap_cons, escapeChar] at h
      split at h <;> (try split at h) <;> simp at h
    | cons d t =>
      rw [List.flatMap_cons, List.flatMap_cons] at h
      obtain ⟨hcd, hrest⟩ := escapeChar_append_inj h
      rw [hcd, ih hrest]

theorem escape_injective : Function.Injective escape := by
  intro s t h
  rw [← String.toList_inj]
  exact flatMap_escapeChar_injective (String.ofList_injective h)

/-! ## Agreement -/

/-- A key is read from its end, so that any text may stand before it. -/
theorem joinedKey_eq_iff {mode mode' datasetId datasetId' configVersion configVersion' : String}
    {seed seed' : Nat} :
    mode ++ "|" ++ escape datasetId ++ "|" ++ escape configVersion ++ "|" ++ toString seed =
        mode' ++ "|" ++ escape datasetId' ++ "|" ++ escape configVersion' ++ "|" ++
          toString seed' ↔
      mode = mode' ∧ datasetId = datasetId' ∧ configVersion = configVersion' ∧ seed = seed' := by
  constructor
  · intro h
    have h := congrArg String.toList h
    simp only [String.toList_append, toList_bar] at h
    simp only [List.append_assoc _ ['|'] _, List.singleton_append] at h
    obtain ⟨h, hseed⟩ := cons_append_inj (bar_notMem_toString seed) (bar_notMem_toString seed') h
    obtain ⟨h, hconfig⟩ :=
      cons_append_inj (bar_notMem_escape configVersion) (bar_notMem_escape configVersion') h
    obtain ⟨hmode, hdataset⟩ :=
      cons_append_inj (bar_notMem_escape datasetId) (bar_notMem_escape datasetId') h
    exact ⟨String.toList_inj.mp hmode, escape_injective (String.toList_inj.mp hdataset),
      escape_injective (String.toList_inj.mp hconfig),
      Nat.repr_inj.mp (String.toList_inj.mp hseed)⟩
  · rintro ⟨rfl, rfl, rfl, rfl⟩
    rfl

theorem dash_notMem_stableHash (text : String) : '-' ∉ (stableHash text).toList := by
  have hdigit : ∀ digit, "0123456789abcdefghijklmnopqrstuvwxyz".toList.getD digit '0' ≠ '-' := by
    have hmem : ∀ c ∈ "0123456789abcdefghijklmnopqrstuvwxyz".toList, c ≠ '-' := by simp
    generalize "0123456789abcdefghijklmnopqrstuvwxyz".toList = alphabet at hmem ⊢
    intro digit hdash
    rcases Nat.lt_or_ge digit alphabet.length with hlt | hge
    · rw [List.getD_eq_getElem _ _ hlt] at hdash
      exact hmem _ (List.getElem_mem hlt) hdash
    · rw [List.getD_eq_default _ _ hge] at hdash
      exact absurd hdash (by decide)
  rw [stableHash]
  split
  case isTrue => decide
  case isFalse =>
      rw [String.toList_ofList, List.mem_map]
      rintro ⟨digit, -, hdash⟩
      exact hdigit digit hdash

/-- A stem shows its slugs and its hash. -/
theorem seriesFileStem_eq_iff {key key' : String} : seriesFileStem key = seriesFileStem key' ↔
    seriesSlug key = seriesSlug key' ∧ stableHash key = stableHash key' := by
  constructor
  · intro h
    have hlist := congrArg String.toList h
    simp only [seriesFileStem, String.toList_append, List.append_assoc] at hlist
    obtain ⟨hslug, hhash⟩ :=
      cons_append_inj (dash_notMem_stableHash key) (dash_notMem_stableHash key') hlist
    exact ⟨String.toList_inj.mp hslug, String.toList_inj.mp hhash⟩
  · rintro ⟨hslug, hhash⟩
    rw [seriesFileStem, seriesFileStem, hslug, hhash]

end Aivtuber
