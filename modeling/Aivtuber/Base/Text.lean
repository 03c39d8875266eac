import Mathlib.Data.List.Basic
import Mathlib.Tactic.IntervalCases

/-!
# Texts and their bytes

A parser reads a string through its UTF-8 bytes, a formatter writes decimal
numerals.  What a formatter writes is ASCII, where a character is one byte, so the
bytes of a formatted text are computed character by character.
-/

namespace Aivtuber.Text

/-- The UTF-8 bytes of a string. -/
def utf8 (s : String) : List UInt8 := s.toByteArray.data.toList

/-- The byte of an ASCII character. -/
def byte (c : Char) : UInt8 := c.val.toUInt8

def isDigit (b : UInt8) : Bool := byte '0' ≤ b && b ≤ byte '9'

/-- The byte of a decimal digit. -/
def digit (d : Nat) : UInt8 := byte (Nat.digitChar d)

/-- The white space of Unicode. -/
def isWhitespace (c : Char) : Bool :=
  let n := c.toNat
  (0x9 ≤ n && n ≤ 0xD) || n = 0x20 || n = 0x85 || n = 0xA0 || n = 0x1680 ||
    (0x2000 ≤ n && n ≤ 0x200A) || n = 0x2028 || n = 0x2029 || n = 0x202F || n = 0x205F ||
    n = 0x3000

/-- Without the white space at both ends. -/
def trim (s : String) : String :=
  String.ofList ((s.toList.dropWhile isWhitespace).reverse.dropWhile isWhitespace).reverse

/-- A string with nothing left once it is trimmed. -/
def isBlank (s : String) : Bool := trim s = ""

/-- The words of a string: what stands between white space. -/
def splitWhitespace (s : String) : List String :=
  ((s.toList.splitOnP isWhitespace).filter (· ≠ [])).map String.ofList

/-- The longest prefix of at most `maxBytes` UTF-8 bytes. -/
def takeBytes : Nat → List Char → List Char
  | _, [] => []
  | maxBytes, c :: cs =>
    if c.utf8Size ≤ maxBytes then c :: takeBytes (maxBytes - c.utf8Size) cs else []

def truncateUtf8 (s : String) (maxBytes : Nat) : String := String.ofList (takeBytes maxBytes s.toList)

/-- Where a character fits, a text with one is not cut to nothing. -/
theorem truncateUtf8_ne_empty {s : String} {maxBytes : Nat} (h : s ≠ "") (hbytes : 4 ≤ maxBytes) :
    truncateUtf8 s maxBytes ≠ "" := by
  intro hempty
  rw [truncateUtf8, ← String.toList_inj, String.toList_ofList, String.toList_empty] at hempty
  cases hchars : s.toList with
  | nil =>
    apply h
    rw [← String.toList_inj, hchars, String.toList_empty]
  | cons c cs =>
    rw [hchars, takeBytes, if_pos (c.utf8Size_le_four.trans hbytes)] at hempty
    cases hempty

/-- A decimal numeral of at least two digits. -/
def pad2 (n : Nat) : String := if n < 10 then "0" ++ toString n else toString n

/-- A decimal numeral of at least `width` digits. -/
def pad (width n : Nat) : String :=
  String.ofList (List.replicate (width - (Nat.toDigits 10 n).length) '0' ++ Nat.toDigits 10 n)

/-- The last `width` decimal digits. -/
def fixedDigits : Nat → Nat → List UInt8
  | 0, _ => []
  | width + 1, n => fixedDigits width (n / 10) ++ [digit (n % 10)]

/-! ## Bytes of a text -/

@[simp] theorem utf8_append (s t : String) : utf8 (s ++ t) = utf8 s ++ utf8 t := by
  simp [utf8, String.toByteArray_append]

theorem utf8_injective {s t : String} (h : utf8 s = utf8 t) : s = t := by
  apply String.toByteArray_inj.mp
  apply ByteArray.ext
  exact Array.toList_inj.mp h

theorem length_utf8 (s : String) : (utf8 s).length = s.utf8ByteSize := rfl

theorem utf8_ofList {cs : List Char} (h : ∀ c ∈ cs, c.utf8Size = 1) :
    utf8 (String.ofList cs) = cs.map byte := by
  have hencode : cs.flatMap String.utf8EncodeChar = cs.map byte := by
    induction cs with
    | nil => rfl
    | cons c cs ih =>
      rw [List.flatMap_cons, String.utf8EncodeChar_eq_singleton (h c List.mem_cons_self),
        ih fun d hd ↦ h d (List.mem_cons_of_mem _ hd)]
      rfl
  rw [utf8, String.toByteArray_ofList, List.utf8Encode, hencode]
  simp

/-! ## Numerals -/

theorem isDigit_digit {d : Nat} (h : d < 10) : isDigit (digit d) = true := by
  interval_cases d <;> rfl

theorem digit_value {d : Nat} (h : d < 10) : (digit d).toNat - (byte '0').toNat = d := by
  interval_cases d <;> rfl

theorem toNat_of_isDigit {c : Char} (h : c.isDigit = true) : 48 ≤ c.val.toNat ∧ c.val.toNat ≤ 57 := by
  simp only [Char.isDigit, Bool.and_eq_true, decide_eq_true_eq, ge_iff_le,
    UInt32.le_iff_toNat_le] at h
  exact h

theorem utf8Size_of_isDigit {c : Char} (h : c.isDigit = true) : c.utf8Size = 1 := by
  rw [Char.utf8Size_eq_one_iff, UInt32.le_iff_toNat_le]
  exact (toNat_of_isDigit h).2.trans (by decide)

theorem isDigit_byte {c : Char} (h : c.isDigit = true) : isDigit (byte c) = true := by
  obtain ⟨hlow, hhigh⟩ := toNat_of_isDigit h
  have hbyte : (byte c).toNat = c.val.toNat := by
    rw [byte, UInt32.toNat_toUInt8]
    exact Nat.mod_eq_of_lt (by omega)
  simp only [isDigit, Bool.and_eq_true, decide_eq_true_eq, UInt8.le_iff_toNat_le, hbyte]
  exact ⟨hlow, hhigh⟩

theorem utf8_toString (n : Nat) : utf8 (toString n) = (Nat.toDigits 10 n).map byte := by
  change utf8 n.repr = _
  rw [Nat.repr_eq_ofList_toDigits]
  exact utf8_ofList fun c hc ↦
    utf8Size_of_isDigit (Nat.isDigit_of_mem_toDigits (by decide) (by decide) hc)

theorem utf8_pad2_of_lt {n : Nat} (h : n < 100) :
    utf8 (pad2 n) = [digit (n / 10), digit (n % 10)] := by
  rw [pad2]
  split
  case isTrue hn =>
    rw [utf8_append, utf8_toString, Nat.toDigits_of_lt_base hn, Nat.div_eq_of_lt hn,
      Nat.mod_eq_of_lt hn]
    rfl
  case isFalse hn =>
    have hhigh : n / 10 < 10 := by omega
    rw [utf8_toString, Nat.toDigits_of_base_le (by decide) (by omega),
      Nat.toDigits_of_lt_base hhigh]
    rfl

/-- From 100 on the third byte is one more digit. -/
theorem utf8_pad2_of_le {n : Nat} (h : 100 ≤ n) :
    ∃ a b c rest, utf8 (pad2 n) = a :: b :: c :: rest ∧ isDigit c = true := by
  have hlen : ¬(Nat.toDigits 10 n).length ≤ 2 := by
    rw [Nat.length_toDigits_le_iff (by decide) (by decide)]
    omega
  have hdigits : ∀ c ∈ Nat.toDigits 10 n, c.isDigit = true :=
    fun c hc ↦ Nat.isDigit_of_mem_toDigits (by decide) (by decide) hc
  rw [pad2, if_neg (by omega), utf8_toString]
  match hn : Nat.toDigits 10 n with
  | [] | [_] | [_, _] => simp [hn] at hlen
  | a :: b :: c :: rest =>
    refine ⟨byte a, byte b, byte c, rest.map byte, rfl, isDigit_byte (hdigits c ?_)⟩
    simp [hn]

theorem utf8_pad (width n : Nat) : utf8 (pad width n) =
    List.replicate (width - (Nat.toDigits 10 n).length) (byte '0') ++
      (Nat.toDigits 10 n).map byte := by
  rw [pad, utf8_ofList, List.map_append, List.map_replicate]
  intro c hc
  rcases List.mem_append.mp hc with hzero | hdigit
  · rw [List.eq_of_mem_replicate hzero]
    rfl
  · exact utf8Size_of_isDigit (Nat.isDigit_of_mem_toDigits (by decide) (by decide) hdigit)

@[simp] theorem length_fixedDigits (width n : Nat) : (fixedDigits width n).length = width := by
  induction width generalizing n with
  | zero => rfl
  | succ width ih => rw [fixedDigits, List.length_append, ih, List.length_singleton]

theorem fixedDigits_zero (width : Nat) : fixedDigits width 0 = List.replicate width (byte '0') := by
  induction width with
  | zero => rfl
  | succ width ih =>
    rw [fixedDigits, Nat.zero_div, ih, List.replicate_succ']
    rfl

/-- A numeral that fits its width has just as many digits. -/
theorem utf8_pad_of_lt {width n : Nat} (h : n < 10 ^ (width + 1)) :
    utf8 (pad (width + 1) n) = fixedDigits (width + 1) n := by
  induction width generalizing n with
  | zero =>
    have hn : n < 10 := h
    rw [utf8_pad, Nat.toDigits_of_lt_base hn, fixedDigits, Nat.mod_eq_of_lt hn]
    rfl
  | succ width ih =>
    rcases Nat.lt_or_ge n 10 with hn | hn
    · rw [utf8_pad, Nat.toDigits_of_lt_base hn, fixedDigits, Nat.div_eq_of_lt hn,
        fixedDigits_zero, Nat.mod_eq_of_lt hn]
      rfl
    · have hdiv : n / 10 < 10 ^ (width + 1) := by
        rw [Nat.div_lt_iff_lt_mul (by decide)]
        exact h
      have hwidth : width + 1 + 1 - ((Nat.toDigits 10 (n / 10)).length + 1) =
          width + 1 - (Nat.toDigits 10 (n / 10)).length := by omega
      rw [fixedDigits, ← ih hdiv, utf8_pad, utf8_pad, Nat.toDigits_of_base_le (by decide) hn,
        List.length_append, List.length_singleton, hwidth, List.map_append, List.append_assoc]
      rfl

/-- One that does not is longer. -/
theorem lt_length_pad {width n : Nat} (hwidth : 0 < width) (h : 10 ^ width ≤ n) :
    width < (utf8 (pad width n)).length := by
  have hlength : ¬(Nat.toDigits 10 n).length ≤ width := by
    rw [Nat.length_toDigits_le_iff (by decide) hwidth]
    omega
  rw [utf8_pad, List.length_append, List.length_replicate, List.length_map]
  omega

theorem le_length_pad (width n : Nat) : width ≤ (utf8 (pad width n)).length := by
  rw [utf8_pad, List.length_append, List.length_replicate, List.length_map]
  omega

end Aivtuber.Text
