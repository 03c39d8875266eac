import Aivtuber.Domain.DateTime
import Mathlib.Data.List.Induction

/-!
# The grammar of date-times

The profile of RFC 3339 that the validator is meant to accept, as the texts of a
structure: a `DateTime` carries the ranges of its fields, so that it is the calendar
and the clock that decide which of them exist, and `DateTime.text` writes one down.
The two letters of the profile stand in either case, a fraction has as many digits as
one likes, and a leap second is not part of it.

The validator jumps from index to index.  A text that continues at an index in a given
way is taken apart by `drop_eq_cons_iff` and `drop_eq_append_iff`, which turn the
concatenation that the grammar writes into the reads of the validator.
-/

open Aivtuber.Text

namespace Aivtuber

/-! ## The profile -/

/-- A leap year of the Gregorian calendar. -/
def LeapYear (year : Nat) : Prop := 4 ∣ year ∧ (100 ∣ year → 400 ∣ year)

instance (year : Nat) : Decidable (LeapYear year) :=
  inferInstanceAs (Decidable (4 ∣ year ∧ (100 ∣ year → 400 ∣ year)))

/-- The days of the twelve months of a year. -/
def monthLengths (year : Nat) : List Nat :=
  [31, if LeapYear year then 29 else 28, 31, 30, 31, 30, 31, 31, 30, 31, 30, 31]

/-- A day that the calendar has, in a year of four digits. -/
structure Date where
  year : Fin 10000
  month : Nat
  day : Nat
  month_pos : 0 < month
  day_pos : 0 < day
  day_le : ∃ days, (monthLengths year)[month - 1]? = some days ∧ day ≤ days

inductive LetterCase where
  | upper
  | lower

/-- The offset of a local time from UTC. -/
inductive Offset where
  | utc (letter : LetterCase)
  | ahead (hour : Fin 24) (minute : Fin 60)
  | behind (hour : Fin 24) (minute : Fin 60)

structure DateTime where
  date : Date
  letter : LetterCase
  hour : Fin 24
  minute : Fin 60
  second : Fin 60
  /-- The digits after the point; without any there is no point. -/
  fraction : List (Fin 10)
  offset : Offset

/-- Hours and minutes, two digits each. -/
def clockText (hour minute : Nat) : List UInt8 :=
  fixedDigits 2 hour ++ (byte ':' :: fixedDigits 2 minute)

def Offset.text : Offset → List UInt8
  | .utc .upper => [byte 'Z']
  | .utc .lower => [byte 'z']
  | .ahead hour minute => byte '+' :: clockText hour minute
  | .behind hour minute => byte '-' :: clockText hour minute

def LetterCase.mark : LetterCase → UInt8
  | .upper => byte 'T'
  | .lower => byte 't'

def fractionDigits (fraction : List (Fin 10)) : List UInt8 := fraction.map fun d : Fin 10 ↦ digit d

def fractionText (fraction : List (Fin 10)) : List UInt8 :=
  if fraction = [] then [] else byte '.' :: fractionDigits fraction

/-- What is written after the seconds. -/
def DateTime.tailText (t : DateTime) : List UInt8 := fractionText t.fraction ++ t.offset.text

def DateTime.text (t : DateTime) : List UInt8 :=
  fixedDigits 4 t.date.year ++ (byte '-' :: (fixedDigits 2 t.date.month ++ (byte '-' ::
    (fixedDigits 2 t.date.day ++ (t.letter.mark :: (fixedDigits 2 t.hour ++ (byte ':' ::
      (fixedDigits 2 t.minute ++ (byte ':' :: (fixedDigits 2 t.second ++ t.tailText))))))))))

/-! ## The calendar -/

theorem isLeapYear_eq (year : Nat) : isLeapYear year = decide (LeapYear year) := by
  rw [isLeapYear, Bool.eq_iff_iff]
  simp only [LeapYear, Bool.and_eq_true, Bool.or_eq_true, Bool.not_eq_true', decide_eq_true_eq,
    decide_eq_false_iff_not, Nat.dvd_iff_mod_eq_zero, imp_iff_not_or]

theorem daysInMonth_eq (year : Nat) {month : Nat} (h : 0 < month) :
    daysInMonth year month = ((monthLengths year)[month - 1]?).getD 0 := by
  rcases Nat.lt_or_ge 12 month with hbig | hsmall
  · have hnone : (monthLengths year)[month - 1]? = none :=
      List.getElem?_eq_none (show 12 ≤ month - 1 by omega)
    rw [hnone]
    unfold daysInMonth
    split <;> first | omega | rfl
  · interval_cases month <;> simp [daysInMonth, monthLengths, isLeapYear_eq]

/-- The ranges that the validator checks are those of a calendar day and a time. -/
theorem inRange_iff {year month day hour minute second : Nat} :
    inRange year month day hour minute second = true ↔
      (0 < month ∧ 0 < day ∧
        ∃ days, (monthLengths year)[month - 1]? = some days ∧ day ≤ days) ∧
      hour < 24 ∧ minute < 60 ∧ second < 60 := by
  have hlength : (monthLengths year).length = 12 := rfl
  rcases Nat.eq_zero_or_pos month with rfl | hmonth
  · simp [inRange]
  cases hdays : (monthLengths year)[month - 1]? with
  | none =>
    have hbig : 12 ≤ month - 1 := by
      rw [← hlength]
      exact List.getElem?_eq_none_iff.mp hdays
    have hnot : ¬month ≤ 12 := by omega
    simp [inRange, hnot]
  | some days =>
    have hsmall : month - 1 < 12 := by
      rw [← hlength]
      exact (List.getElem?_eq_some_iff.mp hdays).1
    have hfits : daysInMonth year month = days := by
      rw [daysInMonth_eq year hmonth, hdays, Option.getD_some]
    simp only [inRange, hfits, Bool.not_eq_true', Bool.or_eq_false_iff, Bool.not_eq_false',
      Bool.and_eq_true, decide_eq_true_eq, decide_eq_false_iff_not, Option.some.injEq,
      exists_eq_left']
    omega

theorem Date.month_lt (d : Date) : d.month < 100 := by
  obtain ⟨days, hdays, -⟩ := d.day_le
  have hlt : d.month - 1 < 12 := (List.getElem?_eq_some_iff.mp hdays).1
  omega

theorem Date.day_lt (d : Date) : d.day < 100 := by
  obtain ⟨days, hdays, hle⟩ := d.day_le
  have hlength : ∀ n ∈ monthLengths d.year, n ≤ 31 := by
    simp only [monthLengths]
    split <;> decide
  have hdays31 := hlength days (List.mem_of_getElem? hdays)
  omega

/-! ## Reading at an index -/

theorem drop_eq_cons_iff {bytes rest : List UInt8} {index : Nat} {b : UInt8} :
    bytes.drop index = b :: rest ↔ bytes[index]? = some b ∧ bytes.drop (index + 1) = rest := by
  constructor
  · intro h
    have hget : (bytes.drop index)[0]? = some b := by rw [h]; rfl
    rw [List.getElem?_drop, Nat.add_zero] at hget
    refine ⟨hget, ?_⟩
    rw [← List.drop_drop, h]
    rfl
  · rintro ⟨hget, hrest⟩
    obtain ⟨hlt, hb⟩ := List.getElem?_eq_some_iff.mp hget
    rw [List.drop_eq_getElem_cons hlt, hb, hrest]

theorem drop_eq_append_iff {bytes front rest : List UInt8} {index width : Nat}
    (hwidth : front.length = width) :
    bytes.drop index = front ++ rest ↔
      (bytes.drop index).take width = front ∧ bytes.drop (index + width) = rest := by
  rw [← List.drop_drop]
  constructor
  · intro h
    rw [h, List.take_left' hwidth, List.drop_left' hwidth]
    exact ⟨rfl, rfl⟩
  · rintro ⟨hfront, hrest⟩
    rw [← List.take_append_drop width (bytes.drop index), hfront, hrest]

/-- A text that continues with a byte has that byte at the index. -/
theorem getElem?_of_drop {bytes rest : List UInt8} {index : Nat} {b : UInt8}
    (h : bytes.drop index = b :: rest) : bytes[index]? = some b :=
  (drop_eq_cons_iff.mp h).1

/-! ## Numerals -/

theorem exists_digit {b : UInt8} (h : isDigit b = true) : ∃ d : Fin 10, b = digit d := by
  simp only [isDigit, Bool.and_eq_true, decide_eq_true_eq, UInt8.le_iff_toNat_le] at h
  have hlow : 48 ≤ b.toNat := h.1
  have hhigh : b.toNat ≤ 57 := h.2
  have hvalue : ∀ d : Fin 10, (digit d).toNat = 48 + d := by decide
  refine ⟨⟨b.toNat - 48, by omega⟩, ?_⟩
  rw [← UInt8.toNat_inj, hvalue]
  exact (Nat.add_sub_of_le hlow).symm

/-- Digits in a row are the numeral of some number. -/
theorem exists_fixedDigits {ds : List UInt8} (h : ds.all isDigit = true) :
    ∃ n, n < 10 ^ ds.length ∧ ds = fixedDigits ds.length n := by
  induction ds using List.reverseRecOn with
  | nil => exact ⟨0, Nat.one_pos, rfl⟩
  | append_singleton ds b ih =>
    rw [List.all_append, Bool.and_eq_true, List.all_cons, List.all_nil, Bool.and_true] at h
    obtain ⟨n, hn, hds⟩ := ih h.1
    obtain ⟨d, rfl⟩ := exists_digit h.2
    have hd : (d : Nat) < 10 := d.isLt
    refine ⟨n * 10 + d, ?_, ?_⟩
    · rw [List.length_append, List.length_singleton, Nat.pow_succ]
      omega
    · have hdiv : (n * 10 + d) / 10 = n := by omega
      have hmod : (n * 10 + d) % 10 = d := by omega
      rw [List.length_append, List.length_singleton, fixedDigits, hdiv, hmod, ← hds]

/-- **A field of digits** is read as `n` just when the numeral of `n` stands there. -/
theorem parseDigits_eq_some_iff {bytes : List UInt8} {index width n : Nat} (hpos : 0 < width)
    (hwidth : 10 ^ width < 2 ^ 32) :
    parseDigits bytes index width = some n ↔
      n < 10 ^ width ∧ (bytes.drop index).take width = fixedDigits width n := by
  -- a numeral at the index is read back, so that the read determines it
  have hread : ∀ m, m < 10 ^ width → (bytes.drop index).take width = fixedDigits width m →
      parseDigits bytes index width = some m := by
    intro m hm hslice
    have hlength := congrArg List.length hslice
    rw [List.length_take, List.length_drop, length_fixedDigits] at hlength
    have htext : bytes.drop index = fixedDigits width m ++ bytes.drop (index + width) :=
      (drop_eq_append_iff (length_fixedDigits width m)).mpr ⟨hslice, rfl⟩
    exact parseDigits_of_drop htext hm hwidth (by omega)
  constructor
  · intro h
    have hdigits : index + width ≤ bytes.length ∧
        ((bytes.drop index).take width).all isDigit = true := by
      rw [parseDigits] at h
      split at h
      case isFalse => cases h
      case isTrue hlength =>
        dsimp only at h
        split at h
        case isFalse => cases h
        case isTrue hall => exact ⟨hlength, hall⟩
    have hslice : ((bytes.drop index).take width).length = width := by
      rw [List.length_take, List.length_drop]
      omega
    obtain ⟨m, hm, htext⟩ := exists_fixedDigits hdigits.2
    rw [hslice] at hm htext
    rw [hread m hm htext, Option.some.injEq] at h
    exact h ▸ ⟨hm, htext⟩
  · rintro ⟨hn, hslice⟩
    exact hread n hn hslice

/-! ## The tail of a date-time -/
theorem drop_eq_clockText_iff {bytes : List UInt8} {index hour minute : Nat} (hh : hour < 100)
    (hm : minute < 100) :
    bytes.drop index = clockText hour minute ↔
      parseDigits bytes index 2 = some hour ∧ bytes[index + 2]? = some (byte ':') ∧
        parseDigits bytes (index + 3) 2 = some minute ∧ index + 5 = bytes.length := by
  have hlast : fixedDigits 2 minute = fixedDigits 2 minute ++ [] := (List.append_nil _).symm
  rw [clockText, hlast, drop_eq_append_iff (length_fixedDigits 2 hour), drop_eq_cons_iff,
    drop_eq_append_iff (length_fixedDigits 2 minute),
    parseDigits_eq_some_iff (by decide) (by decide), parseDigits_eq_some_iff (by decide) (by decide),
    List.drop_eq_nil_iff]
  constructor
  · rintro ⟨hhour, hcolon, hminute, hlength⟩
    have hends := congrArg List.length hminute
    rw [List.length_take, List.length_drop, length_fixedDigits] at hends
    exact ⟨⟨hh, hhour⟩, hcolon, ⟨hm, hminute⟩, by omega⟩
  · rintro ⟨⟨-, hhour⟩, hcolon, ⟨-, hminute⟩, hlength⟩
    exact ⟨hhour, hcolon, hminute, by omega⟩

/-- **The offset** is accepted just when it is one of the profile. -/
theorem isOffset_iff {bytes : List UInt8} {index : Nat} :
    isOffset bytes index = true ↔ ∃ offset : Offset, bytes.drop index = offset.text := by
  constructor
  · intro h
    rw [isOffset] at h
    split at h
    case isTrue hz =>
      have hend : bytes.drop (index + 1) = [] := by
        rw [List.drop_eq_nil_iff]
        exact (decide_eq_true_eq.mp h).ge
      simp only [Bool.or_eq_true, decide_eq_true_eq] at hz
      rcases hz with hz | hz
      · exact ⟨.utc .upper, drop_eq_cons_iff.mpr ⟨hz, hend⟩⟩
      · exact ⟨.utc .lower, drop_eq_cons_iff.mpr ⟨hz, hend⟩⟩
    case isFalse =>
      split at h
      case isFalse => cases h
      case isTrue hsign =>
        split at h
        case isTrue => cases h
        case isFalse hshape =>
          simp only [Bool.or_eq_true, decide_eq_true_eq, not_or, not_not] at hshape hsign
          split at h
          case h_2 => cases h
          case h_1 hour minute hhour hminute =>
            simp only [Bool.and_eq_true, decide_eq_true_eq] at h
            have htext : bytes.drop (index + 1) = clockText hour minute :=
              (drop_eq_clockText_iff (by omega) (by omega)).mpr
                ⟨hhour, hshape.2, hminute, by omega⟩
            rcases hsign with hsign | hsign
            · exact ⟨.ahead ⟨hour, by omega⟩ ⟨minute, by omega⟩,
                drop_eq_cons_iff.mpr ⟨hsign, htext⟩⟩
            · exact ⟨.behind ⟨hour, by omega⟩ ⟨minute, by omega⟩,
                drop_eq_cons_iff.mpr ⟨hsign, htext⟩⟩
  · rintro ⟨offset, h⟩
    -- both signs are followed by the same clock
    have hsigned : ∀ (sign : UInt8) (hour : Fin 24) (minute : Fin 60),
        sign = byte '+' ∨ sign = byte '-' → bytes.drop index = sign :: clockText hour minute →
        isOffset bytes index = true := by
      intro sign hour minute hsign htext
      obtain ⟨hget, hclock⟩ := drop_eq_cons_iff.mp htext
      have hh : (hour : Nat) < 24 := hour.isLt
      have hm : (minute : Nat) < 60 := minute.isLt
      rw [drop_eq_clockText_iff (by omega) (by omega)] at hclock
      obtain ⟨hhour, hcolon, hminute, hlength⟩ := hclock
      have hletters : sign ≠ byte 'Z' ∧ sign ≠ byte 'z' := by
        rcases hsign with rfl | rfl <;> decide
      have hend : index + 6 = bytes.length := by omega
      rw [show index + 1 + 2 = index + 3 from rfl] at hcolon
      rw [show index + 1 + 3 = index + 4 from rfl] at hminute
      simp only [isOffset, hget, Option.some.injEq, hletters.1, hletters.2, hsign, hend, hcolon,
        hhour, hminute, decide_false, Bool.or_self, Bool.false_eq_true, if_false, Bool.or_eq_true,
        decide_eq_true_eq, if_true, ne_eq, not_true_eq_false, Bool.and_eq_true]
      omega
    have hletter : ∀ b : UInt8, b = byte 'Z' ∨ b = byte 'z' → bytes.drop index = [b] →
        isOffset bytes index = true := by
      intro b hb htext
      obtain ⟨hget, hend⟩ := drop_eq_cons_iff.mp htext
      obtain ⟨hlt, -⟩ := List.getElem?_eq_some_iff.mp hget
      have hlength : index + 1 = bytes.length :=
        Nat.le_antisymm hlt (List.drop_eq_nil_iff.mp hend)
      simp only [isOffset, hget, Option.some.injEq, Bool.or_eq_true, decide_eq_true_eq, hb,
        if_true, hlength]
    match offset, h with
    | .utc .upper, h => exact hletter _ (.inl rfl) h
    | .utc .lower, h => exact hletter _ (.inr rfl) h
    | .ahead hour minute, h => exact hsigned _ hour minute (.inl rfl) h
    | .behind hour minute, h => exact hsigned _ hour minute (.inr rfl) h

/-- What is written after the fraction begins with neither a digit nor a point. -/
theorem Offset.text_head (offset : Offset) :
    ∃ b rest, offset.text = b :: rest ∧ isDigit b = false ∧ b ≠ byte '.' := by
  rcases offset with (_ | _) | _ | _ <;> exact ⟨_, _, rfl, by decide, by decide⟩

theorem all_isDigit_fractionDigits (fraction : List (Fin 10)) :
    ∀ b ∈ fractionDigits fraction, isDigit b = true := by
  intro b hb
  obtain ⟨d, -, rfl⟩ := List.mem_map.mp hb
  exact isDigit_digit d.isLt

/-- Digits are the digits of a fraction. -/
theorem exists_fractionDigits {ds : List UInt8} (h : ∀ b ∈ ds, isDigit b = true) :
    ∃ fraction, ds = fractionDigits fraction := by
  induction ds with
  | nil => exact ⟨[], rfl⟩
  | cons b ds ih =>
    obtain ⟨d, rfl⟩ := exists_digit (h b List.mem_cons_self)
    obtain ⟨fraction, rfl⟩ := ih fun c hc ↦ h c (List.mem_cons_of_mem _ hc)
    exact ⟨d :: fraction, rfl⟩

/-- **The fraction** is skipped up to the offset, which no digit begins. -/
theorem skipFraction_iff {bytes : List UInt8} {offset : Offset} :
    (∃ index, skipFraction bytes = some index ∧ bytes.drop index = offset.text) ↔
      ∃ fraction, bytes.drop 19 = fractionText fraction ++ offset.text := by
  obtain ⟨b, rest, htext, hdigit, hpoint⟩ := offset.text_head
  constructor
  · rintro ⟨index, hskip, hdrop⟩
    rw [skipFraction] at hskip
    split at hskip
    case isFalse =>
      cases hskip
      exact ⟨[], hdrop⟩
    case isTrue hdot =>
      dsimp only at hskip
      split at hskip
      case isTrue => cases hskip
      case isFalse hsome =>
        cases hskip
        obtain ⟨fraction, hfraction⟩ := exists_fractionDigits
          (List.all_eq_true.mp List.all_takeWhile)
        have hne : fraction ≠ [] := by
          rintro rfl
          exact hsome (congrArg List.length hfraction)
        refine ⟨fraction, ?_⟩
        rw [fractionText, if_neg hne, List.cons_append, drop_eq_cons_iff, ← hfraction]
        refine ⟨hdot, ?_⟩
        rw [drop_eq_append_iff rfl, hdrop]
        exact ⟨List.prefix_iff_eq_take.mp (List.takeWhile_prefix _) |>.symm, rfl⟩
  · rintro ⟨fraction, hdrop⟩
    rcases eq_or_ne fraction [] with rfl | hne
    · refine ⟨19, ?_, hdrop⟩
      rw [fractionText, if_pos rfl, List.nil_append, htext] at hdrop
      rw [skipFraction, getElem?_of_drop hdrop, if_neg (by simpa using hpoint)]
    · rw [fractionText, if_neg hne, List.cons_append, drop_eq_cons_iff] at hdrop
      obtain ⟨hdot, hdrop⟩ := hdrop
      have hdigits : (bytes.drop 20).takeWhile isDigit = fractionDigits fraction := by
        rw [hdrop, htext, List.takeWhile_append_of_pos (all_isDigit_fractionDigits fraction),
          List.takeWhile_cons_of_neg (by simp [hdigit]), List.append_nil]
      have hlength : (fractionDigits fraction).length ≠ 0 := by
        simpa [fractionDigits] using hne
      refine ⟨20 + (fractionDigits fraction).length, ?_, ((drop_eq_append_iff rfl).mp hdrop).2⟩
      rw [skipFraction, if_pos hdot, hdigits]
      exact if_neg hlength

/-! ## The whole text -/

/-- The validator as one statement about what it reads. -/
theorem isJsonSchemaDateTime_eq_true_iff {value : String} :
    isJsonSchemaDateTime value = true ↔
      hasSeparators (utf8 value) = true ∧ ∃ year month day hour minute second,
        parseDigits (utf8 value) 0 4 = some year ∧ parseDigits (utf8 value) 5 2 = some month ∧
        parseDigits (utf8 value) 8 2 = some day ∧ parseDigits (utf8 value) 11 2 = some hour ∧
        parseDigits (utf8 value) 14 2 = some minute ∧
        parseDigits (utf8 value) 17 2 = some second ∧
        inRange year month day hour minute second = true ∧
        ∃ index, skipFraction (utf8 value) = some index ∧
          isOffset (utf8 value) index = true := by
  constructor
  · intro h
    rw [isJsonSchemaDateTime] at h
    split at h
    case isTrue => cases h
    case isFalse hseparators =>
      split at h
      case h_2 => cases h
      case h_1 year month day hour minute second hy hmo hd hh hmi hs =>
        split at h
        case isTrue => cases h
        case isFalse hrange =>
          split at h
          case h_1 => cases h
          case h_2 index hindex =>
            exact ⟨by simpa using hseparators, year, month, day, hour, minute, second, hy, hmo,
              hd, hh, hmi, hs, by simpa using hrange, index, hindex, h⟩
  · rintro ⟨hseparators, year, month, day, hour, minute, second, hy, hmo, hd, hh, hmi, hs, hrange,
      index, hindex, hoffset⟩
    simp [isJsonSchemaDateTime, hseparators, hy, hmo, hd, hh, hmi, hs, hrange, hindex, hoffset]

/-- A text of the grammar, read from index to index. -/
theorem eq_text_iff {bytes : List UInt8} {t : DateTime} :
    bytes = t.text ↔
      parseDigits bytes 0 4 = some t.date.year.val ∧ bytes[4]? = some (byte '-') ∧
      parseDigits bytes 5 2 = some t.date.month ∧ bytes[7]? = some (byte '-') ∧
      parseDigits bytes 8 2 = some t.date.day ∧ bytes[10]? = some t.letter.mark ∧
      parseDigits bytes 11 2 = some t.hour.val ∧ bytes[13]? = some (byte ':') ∧
      parseDigits bytes 14 2 = some t.minute.val ∧ bytes[16]? = some (byte ':') ∧
      parseDigits bytes 17 2 = some t.second.val ∧ bytes.drop 19 = t.tailText := by
  have hyear : (t.date.year : Nat) < 10 ^ 4 := t.date.year.isLt
  have hmonth : t.date.month < 10 ^ 2 := t.date.month_lt
  have hday : t.date.day < 10 ^ 2 := t.date.day_lt
  have hhour : (t.hour : Nat) < 10 ^ 2 := t.hour.isLt.trans (by decide)
  have hminute : (t.minute : Nat) < 10 ^ 2 := t.minute.isLt.trans (by decide)
  have hsecond : (t.second : Nat) < 10 ^ 2 := t.second.isLt.trans (by decide)
  have hstart : bytes = t.text ↔ bytes.drop 0 = t.text := Iff.rfl
  have hfour : 0 < 4 ∧ 10 ^ 4 < 2 ^ 32 := by decide
  have htwo : 0 < 2 ∧ 10 ^ 2 < 2 ^ 32 := by decide
  rw [hstart, DateTime.text]
  simp only [drop_eq_append_iff (length_fixedDigits _ _), drop_eq_cons_iff,
    parseDigits_eq_some_iff hfour.1 hfour.2, parseDigits_eq_some_iff htwo.1 htwo.2, hyear, hmonth,
    hday, hhour, hminute, hsecond, true_and]

theorem exists_mark_iff {b : Option UInt8} :
    (∃ letter : LetterCase, b = some letter.mark) ↔ b = some (byte 'T') ∨ b = some (byte 't') := by
  constructor
  · rintro ⟨_ | _, h⟩
    · exact .inl h
    · exact .inr h
  · rintro (h | h)
    · exact ⟨.upper, h⟩
    · exact ⟨.lower, h⟩

theorem hasSeparators_iff {bytes : List UInt8} (hlength : 20 ≤ bytes.length) :
    hasSeparators bytes = true ↔
      bytes[4]? = some (byte '-') ∧ bytes[7]? = some (byte '-') ∧
      (∃ letter : LetterCase, bytes[10]? = some letter.mark) ∧
      bytes[13]? = some (byte ':') ∧ bytes[16]? = some (byte ':') := by
  have hnot : ¬bytes.length < 20 := by omega
  simp only [hasSeparators, exists_mark_iff, hnot, decide_false, Bool.false_or, Bool.not_eq_true',
    Bool.or_eq_false_iff, Bool.not_eq_false', Bool.or_eq_true, decide_eq_true_eq,
    decide_eq_false_iff_not, ne_eq, not_not, and_assoc]

theorem length_text (t : DateTime) : 20 ≤ t.text.length := by
  obtain ⟨b, rest, htext, -, -⟩ := t.offset.text_head
  simp [DateTime.text, DateTime.tailText, htext]
  omega

/-- **The validator accepts exactly the date-times of the profile.** -/
theorem isJsonSchemaDateTime_iff (value : String) :
    isJsonSchemaDateTime value = true ↔ ∃ t : DateTime, utf8 value = t.text := by
  constructor
  · intro h
    rw [isJsonSchemaDateTime_eq_true_iff] at h
    obtain ⟨hseparators, year, month, day, hour, minute, second, hy, hmo, hd, hh, hmi, hs, hrange,
      index, hindex, hoffset⟩ := h
    have hlength : 20 ≤ (utf8 value).length := by
      by_contra hshort
      have hlt : (utf8 value).length < 20 := by omega
      simp [hasSeparators, hlt] at hseparators
    rw [hasSeparators_iff hlength] at hseparators
    obtain ⟨h4, h7, ⟨letter, h10⟩, h13, h16⟩ := hseparators
    rw [inRange_iff] at hrange
    obtain ⟨⟨hmonth, hday, hdays⟩, hhour, hminute, hsecond⟩ := hrange
    obtain ⟨offset, hdrop⟩ := isOffset_iff.mp hoffset
    obtain ⟨fraction, htail⟩ := skipFraction_iff.mp ⟨index, hindex, hdrop⟩
    have hyear : year < 10000 := ((parseDigits_eq_some_iff (by decide) (by decide)).mp hy).1
    let t : DateTime := {
      date := ⟨⟨year, hyear⟩, month, day, hmonth, hday, hdays⟩
      letter
      hour := ⟨hour, hhour⟩
      minute := ⟨minute, hminute⟩
      second := ⟨second, hsecond⟩
      fraction
      offset }
    exact ⟨t, eq_text_iff.mpr ⟨hy, h4, hmo, h7, hd, h10, hh, h13, hmi, h16, hs, htail⟩⟩
  · rintro ⟨t, htext⟩
    have hlength : 20 ≤ (utf8 value).length := htext ▸ length_text t
    obtain ⟨hy, h4, hmo, h7, hd, h10, hh, h13, hmi, h16, hs, htail⟩ := eq_text_iff.mp htext
    obtain ⟨index, hindex, hdrop⟩ := skipFraction_iff.mpr ⟨t.fraction, htail⟩
    rw [isJsonSchemaDateTime_eq_true_iff, hasSeparators_iff hlength]
    refine ⟨⟨h4, h7, ⟨t.letter, h10⟩, h13, h16⟩, t.date.year, t.date.month, t.date.day, t.hour,
      t.minute, t.second, hy, hmo, hd, hh, hmi, hs, ?_, index, hindex, isOffset_iff.mpr ⟨_, hdrop⟩⟩
    rw [inRange_iff]
    exact ⟨⟨t.date.month_pos, t.date.day_pos, t.date.day_le⟩, t.hour.isLt, t.minute.isLt,
      t.second.isLt⟩

end Aivtuber
