import Mathlib.Algebra.Order.Ring.Rat
import Aivtuber.Base.CanonicalJson
import Aivtuber.Base.Float64
import Aivtuber.Base.Text
import Aivtuber.Scripts.SloRecord

/-!
# Source digests

A report names the document that it was evaluated from by a digest of its canonical text.
`write_canonical` of `crates/telemetry/src/operational_slo.rs` writes this text, and `canonicalJson`
of `scripts/slo-record.mjs` writes it again from the stored document.  Floats come out alike: the
crate places their digits as ECMAScript does (`writeEcmascriptDigits_eq`).  But the script reads
every integer as a double, and sorts keys by UTF-16 units where the crate sorts them by bytes, and
the two parsers may read a float differently; the texts agree exactly where none of this shows
(`canonical_agrees_iff`).
-/

open Aivtuber.Text

namespace Aivtuber

/-! ## Numbers -/

/-- A number of a document: a natural number of 64 bits, the negative integer `-(below + 1)`, or
a finite float, as it stands there. -/
inductive SourceNumber where
  | posInt (value : Fin (2 ^ 64))
  | negInt (below : Fin (2 ^ 63))
  | float (literal : String)

/-- A float as the serializer renders it: the digits before and behind the point, and a power of
ten. -/
structure Rendered where
  integer : List (Fin 10)
  fraction : List (Fin 10)
  exponent : Int

/-- Significant digits, with a point in front of them, and a power of ten. -/
structure Digits where
  digits : List (Fin 10)
  exponent : Int

/-- Drop zeros in front, but not the last digit. -/
def dropZeros : List (Fin 10) → List (Fin 10)
  | digit :: next :: rest => if digit = 0 then dropZeros (next :: rest) else digit :: next :: rest
  | digits => digits

def shortestDigits (rendered : Rendered) : Digits :=
  let digits := dropZeros (rendered.integer ++ rendered.fraction)
  let scale := rendered.exponent - rendered.fraction.length
  let kept := (dropZeros digits.reverse).reverse
  ⟨kept, scale + (digits.length - kept.length) + kept.length⟩

/-- The shortest digits that denote a positive float, at most 17: as the serializer of the crate
renders them, and as the engine of the script picks them. -/
structure FloatWriter where
  ryu : ℚ → Rendered
  ecma : ℚ → Digits
  same : ∀ value, 0 < value → shortestDigits (ryu value) = ecma value
  nonempty : ∀ value, (ecma value).digits ≠ []
  short : ∀ value, (ecma value).digits.length ≤ 17

def digitChars (digits : List (Fin 10)) : List Char :=
  digits.map fun digit : Fin 10 ↦ Nat.digitChar digit.val

def writeEcmascriptDigits (digits : List (Fin 10)) (exponent : Int) : List Char :=
  let significand := digitChars digits
  let count : Int := digits.length
  if count ≤ exponent ∧ exponent ≤ 21 then
    significand ++ List.replicate (exponent - count).toNat '0'
  else if 0 < exponent ∧ exponent ≤ count then
    significand.take exponent.toNat ++ '.' :: significand.drop exponent.toNat
  else if -6 < exponent ∧ exponent ≤ 0 then
    '0' :: '.' :: (List.replicate (-exponent).toNat '0' ++ significand)
  else
    let power := exponent - 1
    significand.take 1 ++ (if 1 < count then '.' :: significand.drop 1 else []) ++
      'e' :: (if power < 0 then '-' else '+') :: (toString power.natAbs).toList

/-- The digits of a number, as ECMAScript places them. -/
def numberToString (digits : List (Fin 10)) (exponent : Int) : List Char :=
  let significand := digitChars digits
  let sign := if exponent - 1 < 0 then '-' else '+'
  if (digits.length : Int) ≤ exponent ∧ exponent ≤ 21 then
    significand ++ List.replicate (exponent - digits.length).toNat '0'
  else if 0 < exponent ∧ exponent ≤ 21 then
    significand.take exponent.toNat ++ '.' :: significand.drop exponent.toNat
  else if -6 < exponent ∧ exponent ≤ 0 then
    '0' :: '.' :: (List.replicate (-exponent).toNat '0' ++ significand)
  else if digits.length = 1 then
    significand ++ 'e' :: sign :: (toString (exponent - 1).natAbs).toList
  else
    significand.take 1 ++ '.' :: significand.drop 1 ++
      'e' :: sign :: (toString (exponent - 1).natAbs).toList

/-- The crate places the digits of a float as ECMAScript does. -/
theorem writeEcmascriptDigits_eq {digits : List (Fin 10)} (hne : digits ≠ [])
    (hshort : digits.length ≤ 21) (exponent : Int) :
    writeEcmascriptDigits digits exponent = numberToString digits exponent := by
  have hpos : 0 < digits.length := List.length_pos_iff.mpr hne
  have hlength : (digitChars digits).length = digits.length := by rw [digitChars, List.length_map]
  rw [writeEcmascriptDigits, numberToString]
  dsimp only
  by_cases hwhole : (digits.length : Int) ≤ exponent ∧ exponent ≤ 21
  · rw [if_pos hwhole, if_pos hwhole]
  rw [if_neg hwhole, if_neg hwhole]
  by_cases hpoint : 0 < exponent ∧ exponent ≤ digits.length
  · have hpoint' : 0 < exponent ∧ exponent ≤ 21 := by omega
    rw [if_pos hpoint, if_pos hpoint']
  have hpoint' : ¬(0 < exponent ∧ exponent ≤ 21) := by omega
  rw [if_neg hpoint, if_neg hpoint']
  by_cases hsmall : -6 < exponent ∧ exponent ≤ 0
  · rw [if_pos hsmall, if_pos hsmall]
  rw [if_neg hsmall, if_neg hsmall]
  by_cases hone : digits.length = 1
  · have hmany : ¬(1 : Int) < digits.length := by omega
    rw [if_pos hone, if_neg hmany, List.take_of_length_le (by omega), List.append_nil]
  · have hmany : (1 : Int) < digits.length := by omega
    rw [if_neg hone, if_pos hmany]

/-- The text of a float in ECMAScript. -/
def ecmaText (writer : FloatWriter) (value : ℚ) : String :=
  if value = 0 then "0"
  else
    let shortest := writer.ecma |value|
    (if value < 0 then "-" else "") ++
      String.ofList (numberToString shortest.digits shortest.exponent)

/-- The doubles that the parser of the crate and `JSON.parse` read.  The one of the crate may miss
the nearest double; the text of a double is read back as it. -/
structure FloatReader (writer : FloatWriter) where
  serde : String → ℚ
  ecma : String → ℚ
  roundTrip_serde : ∀ literal, ecma (ecmaText writer (serde literal)) = serde literal
  roundTrip_ecma : ∀ literal, ecma (ecmaText writer (ecma literal)) = ecma literal

section Documents

variable {writer : FloatWriter} (reader : FloatReader writer)

def writeCanonicalF64 (writer : FloatWriter) : Float64 → String
  | .finite value =>
    if value = 0 then "0"
    else
      let shortest := shortestDigits (writer.ryu |value|)
      (if value < 0 then "-" else "") ++
        String.ofList (writeEcmascriptDigits shortest.digits shortest.exponent)
  | .infinite _ | .nan => "null"

def writeCanonicalNumber : SourceNumber → String
  | .posInt value => toString value.val
  | .negInt below => "-" ++ toString (below.val + 1)
  | .float literal => writeCanonicalF64 writer (.finite (reader.serde literal))

/-- Keys in the order of their bytes. -/
def byteOrder (key : String) : List Nat := (utf8 key).map UInt8.toNat

def writeCanonical (document : Json SourceNumber) : String :=
  document.canonical byteOrder (writeCanonicalNumber reader)

def canonicalJsonDigest (sha256 : String → String) (document : Json SourceNumber) : String :=
  sha256 (writeCanonical reader document)

/-- `JSON.stringify` of a parsed number, which is a double. -/
def stringifyNumber : SourceNumber → String
  | .posInt value => Double.text (Double.nearest value.val)
  | .negInt below => "-" ++ Double.text (Double.nearest (below.val + 1))
  | .float literal => ecmaText writer (reader.ecma literal)

/-- The scripts, as they read such documents. -/
def scriptHost (sha256 : String → String) (join : String → String → String) :
    SloRecord.Host SourceNumber where
  numberText := stringifyNumber reader
  numberJson := stringifyNumber reader
  sha256 := sha256
  join := join

end Documents

/-! ## Agreement -/

variable {writer : FloatWriter}

/-- An integer that is the shortest decimal of the double nearest to it, or a float that both
parsers read as one double. -/
def SourceNumber.IsShared (reader : FloatReader writer) : SourceNumber → Prop
  | .posInt value => Double.shortest (Double.nearest value.val) 20 = value.val
  | .negInt below => Double.shortest (Double.nearest (below.val + 1)) 20 = below.val + 1
  | .float literal => reader.serde literal = reader.ecma literal

variable {reader : FloatReader writer}

/-- The crate writes a double as ECMAScript does. -/
theorem writeCanonicalF64_finite (value : ℚ) :
    writeCanonicalF64 writer (.finite value) = ecmaText writer value := by
  rw [writeCanonicalF64, ecmaText]
  by_cases hzero : value = 0
  · rw [if_pos hzero, if_pos hzero]
  rw [if_neg hzero, if_neg hzero]
  have hshort := writer.short |value|
  dsimp only
  rw [writer.same |value| (abs_pos.mpr hzero)]
  rw [writeEcmascriptDigits_eq (writer.nonempty |value|) (by omega)]

theorem isDigit_toString {n : Nat} {c : Char} (h : c ∈ (toString n).toList) : c.isDigit = true :=
  Nat.isDigit_of_mem_toDigits (b := 10) (by decide) (by decide) (by simpa using h)

/-- The characters of a number. -/
def IsNumeral (c : Char) : Prop := c.isDigit = true ∨ c ∈ ['.', 'e', '+', '-']

theorem not_delimiter_of_isNumeral (c : Char) (h : IsNumeral c) : c ≠ ',' ∧ c ≠ ']' ∧ c ≠ '}' := by
  refine ⟨?_, ?_, ?_⟩ <;> rintro rfl <;> rcases h with h | h <;> revert h <;> decide

theorem isNumeral_digitChars {digits : List (Fin 10)} {c : Char} (h : c ∈ digitChars digits) :
    IsNumeral c := by
  obtain ⟨digit, -, rfl⟩ := List.mem_map.mp h
  have hall : ∀ digit : Fin 10, (Nat.digitChar digit.val).isDigit = true := by decide
  exact .inl (hall digit)

theorem isNumeral_numberToString (digits : List (Fin 10)) (exponent : Int) :
    ∀ c ∈ numberToString digits exponent, IsNumeral c := by
  have hzero : IsNumeral '0' := .inl rfl
  have hpoint : IsNumeral '.' := .inr (by decide)
  have hpower : IsNumeral 'e' := .inr (by decide)
  have hsign : IsNumeral (if exponent - 1 < 0 then '-' else '+') := by
    split
    · exact .inr (by decide)
    · exact .inr (by decide)
  have hzeros : ∀ n, ∀ c ∈ List.replicate n '0', IsNumeral c :=
    fun n c hc ↦ List.eq_of_mem_replicate hc ▸ hzero
  have htake : ∀ n, ∀ c ∈ (digitChars digits).take n, IsNumeral c :=
    fun n c hc ↦ isNumeral_digitChars (List.mem_of_mem_take hc)
  have hdrop : ∀ n, ∀ c ∈ (digitChars digits).drop n, IsNumeral c :=
    fun n c hc ↦ isNumeral_digitChars (List.mem_of_mem_drop hc)
  have hdigits : ∀ n : Nat, ∀ c ∈ (toString n).toList, IsNumeral c :=
    fun n c hc ↦ .inl (isDigit_toString hc)
  rw [numberToString]
  -- the five layouts of a number
  split
  · exact List.forall_mem_append.mpr ⟨fun c ↦ isNumeral_digitChars, hzeros _⟩
  split
  · exact List.forall_mem_append.mpr ⟨htake _, List.forall_mem_cons.mpr ⟨hpoint, hdrop _⟩⟩
  split
  · refine List.forall_mem_cons.mpr ⟨hzero, List.forall_mem_cons.mpr ⟨hpoint, ?_⟩⟩
    exact List.forall_mem_append.mpr ⟨hzeros _, fun c ↦ isNumeral_digitChars⟩
  have hexponent : ∀ c ∈ 'e' :: (if exponent - 1 < 0 then '-' else '+') ::
      (toString (exponent - 1).natAbs).toList, IsNumeral c :=
    List.forall_mem_cons.mpr ⟨hpower, List.forall_mem_cons.mpr ⟨hsign, hdigits _⟩⟩
  split
  · exact List.forall_mem_append.mpr ⟨fun c ↦ isNumeral_digitChars, hexponent⟩
  · refine List.forall_mem_append.mpr ⟨?_, hexponent⟩
    exact List.forall_mem_append.mpr ⟨htake _, List.forall_mem_cons.mpr ⟨hpoint, hdrop _⟩⟩

theorem isNumeral_ecmaText {value : ℚ} {c : Char} (h : c ∈ (ecmaText writer value).toList) :
    IsNumeral c := by
  rw [ecmaText] at h
  split at h
  · rw [List.mem_singleton.mp h]
    exact .inl rfl
  · rw [String.toList_append, String.toList_ofList] at h
    rcases List.mem_append.mp h with h | h
    · split at h
      · rw [List.mem_singleton.mp h]
        exact .inr (by decide)
      · cases h
    · exact isNumeral_numberToString _ _ c h

/-- Two doubles that are written alike are one. -/
theorem FloatReader.eq_of_text (reader : FloatReader writer) {literal : String}
    (h : ecmaText writer (reader.serde literal) = ecmaText writer (reader.ecma literal)) :
    reader.serde literal = reader.ecma literal := by
  rw [← reader.roundTrip_serde literal, h, reader.roundTrip_ecma literal]

theorem toString_append_inj {m n : Nat} {x y : List Char} (hx : Json.Delimited x)
    (hy : Json.Delimited y) (h : (toString m).toList ++ x = (toString n).toList ++ y) :
    m = n ∧ x = y := by
  obtain ⟨hdigits, hxy⟩ := Json.append_inj_of_delimited not_delimiter_of_isNumeral
    (fun _ hc ↦ .inl (isDigit_toString hc)) (fun _ hc ↦ .inl (isDigit_toString hc)) hx hy h
  exact ⟨Nat.repr_inj.mp (String.toList_inj.mp hdigits), hxy⟩

theorem numerals_source : Json.Numerals (writeCanonicalNumber reader) (stringifyNumber reader)
    (SourceNumber.IsShared reader) where
  alike := by
    intro n h
    cases n with
    | posInt value => exact (congrArg toString h).symm
    | negInt below => exact congrArg (fun n : Nat ↦ "-" ++ toString n) h.symm
    | float literal => exact (writeCanonicalF64_finite _).trans (congrArg (ecmaText writer) h)
  told := by
    intro n x y hx hy h
    cases n with
    | posInt value =>
      obtain ⟨heq, hxy⟩ := toString_append_inj hx hy h
      exact ⟨heq.symm, hxy⟩
    | negInt below =>
      rw [writeCanonicalNumber, stringifyNumber, String.toList_append, String.toList_append,
        List.append_assoc, List.append_assoc] at h
      obtain ⟨heq, hxy⟩ := toString_append_inj hx hy (List.append_cancel_left h)
      exact ⟨heq.symm, hxy⟩
    | float literal =>
      rw [writeCanonicalNumber, stringifyNumber, writeCanonicalF64_finite] at h
      obtain ⟨htext, hxy⟩ := Json.append_inj_of_delimited not_delimiter_of_isNumeral
        (fun _ ↦ isNumeral_ecmaText) (fun _ ↦ isNumeral_ecmaText) hx hy h
      exact ⟨reader.eq_of_text (String.toList_inj.mp htext), hxy⟩

/-- A document in which every object has each key once. -/
abbrev SourceDocument := {document : Json SourceNumber // document.Keyed}

/-- **The two canonical texts** of a document are the same if and only if each of its integers is
the shortest decimal of the double nearest to it, each of its floats is one double to both parsers,
and the keys of each of its objects come in one order by their bytes and by their UTF-16 units; the
scripts accept the digest then. -/
theorem canonical_agrees_iff (writer : FloatWriter) (reader : FloatReader writer)
    (sha256 : String → String) (join : String → String → String) (document : SourceDocument) :
    (writeCanonical reader document.1 =
        SloRecord.canonicalJson (scriptHost reader sha256 join) document.1 ↔
      document.1.Alike byteOrder Json.utf16 (SourceNumber.IsShared reader)) ∧
    (document.1.Alike byteOrder Json.utf16 (SourceNumber.IsShared reader) →
      canonicalJsonDigest reader sha256 document.1 =
        SloRecord.sourceDigestOf (scriptHost reader sha256 join) document.1) := by
  have hagrees : writeCanonical reader document.1 =
        SloRecord.canonicalJson (scriptHost reader sha256 join) document.1 ↔
      document.1.Alike byteOrder Json.utf16 (SourceNumber.IsShared reader) :=
    Json.canonical_eq_iff numerals_source document.2
  exact ⟨hagrees, fun halike ↦ congrArg sha256 (hagrees.mpr halike)⟩

/-- A writer that knows one digit. -/
def oneDigitWriter : FloatWriter where
  ryu _ := ⟨[1], [0], 0⟩
  ecma _ := ⟨[1], 1⟩
  same _ _ := rfl
  nonempty _ := List.cons_ne_nil _ _
  short _ := by decide

/-- Readers that know one number. -/
def zeroReader : FloatReader oneDigitWriter where
  serde _ := 0
  ecma _ := 0
  roundTrip_serde _ := rfl
  roundTrip_ecma _ := rfl

/-- A seed above 53 bits: the script writes 9007199254740992. -/
theorem seed_rewritten :
    ¬∀ (writer : FloatWriter) (reader : FloatReader writer) (sha256 : String → String)
        (join : String → String → String) (document : SourceDocument),
      writeCanonical reader document.1 =
        SloRecord.canonicalJson (scriptHost reader sha256 join) document.1 := by
  intro h
  have hseed := h oneDigitWriter zeroReader id (· ++ ·)
    ⟨.obj [("seed", .num (.posInt 9007199254740993))], by simp [Json.Keyed, Json.KeyedMembers]⟩
  exact absurd hseed (by decide +kernel)

/-- Two keys that come in different orders: a private character, and one above 16 bits. -/
example : Json.sortedKeys byteOrder ["\uE000", String.singleton (Char.ofNat 0x10000)] ≠
    Json.sortedKeys Json.utf16 ["\uE000", String.singleton (Char.ofNat 0x10000)] := by
  decide +kernel

end Aivtuber
