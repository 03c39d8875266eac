import Aivtuber.Base.Text

/-!
# RFC 3339 date-times

The validator of `crates/domain/src/event.rs`, which reads a timestamp by the
positions of its bytes: separators and two-digit fields stand at fixed places, so
that a formatter meets it exactly when each numeral it writes has the width that
the next field leaves.
-/

open Aivtuber.Text

namespace Aivtuber

/-! ## The validator -/

/-- One more digit of a value that must fit in 32 bits. -/
def pushDigit (value : Nat) (b : UInt8) : Option Nat :=
  let next := value * 10 + (b.toNat - (byte '0').toNat)
  if next < 2 ^ 32 then some next else none

/-- The value of `len` digits from `start` on. -/
def parseDigits (bytes : List UInt8) (start len : Nat) : Option Nat :=
  if start + len ≤ bytes.length then
    let slice := (bytes.drop start).take len
    if slice.all isDigit then slice.foldlM pushDigit 0 else none
  else none

def isLeapYear (year : Nat) : Bool := year % 4 = 0 && (!(year % 100 = 0) || year % 400 = 0)

def daysInMonth (year month : Nat) : Nat :=
  match month with
  | 1 | 3 | 5 | 7 | 8 | 10 | 12 => 31
  | 4 | 6 | 9 | 11 => 30
  | 2 => if isLeapYear year then 29 else 28
  | _ => 0

/-- The separators that stand at fixed positions. -/
def hasSeparators (bytes : List UInt8) : Bool :=
  !(bytes.length < 20 || bytes[4]? ≠ some (byte '-') || bytes[7]? ≠ some (byte '-') ||
    !(bytes[10]? = some (byte 'T') || bytes[10]? = some (byte 't')) ||
    bytes[13]? ≠ some (byte ':') || bytes[16]? ≠ some (byte ':'))

/-- The position after the optional fraction of a second. -/
def skipFraction (bytes : List UInt8) : Option Nat :=
  if bytes[19]? = some (byte '.') then
    let digits := ((bytes.drop 20).takeWhile isDigit).length
    if digits = 0 then none else some (20 + digits)
  else some 19

/-- The offset from UTC, which ends the text. -/
def isOffset (bytes : List UInt8) (index : Nat) : Bool :=
  if bytes[index]? = some (byte 'Z') || bytes[index]? = some (byte 'z') then
    index + 1 = bytes.length
  else if bytes[index]? = some (byte '+') || bytes[index]? = some (byte '-') then
    if index + 6 ≠ bytes.length || bytes[index + 3]? ≠ some (byte ':') then false
    else
      match parseDigits bytes (index + 1) 2, parseDigits bytes (index + 4) 2 with
      | some offsetHour, some offsetMinute => offsetHour ≤ 23 && offsetMinute ≤ 59
      | _, _ => false
  else false

/-- The ranges of the calendar fields and of the time of day. -/
def inRange (year month day hour minute second : Nat) : Bool :=
  !(!(1 ≤ month && month ≤ 12) || day = 0 || daysInMonth year month < day || 23 < hour ||
    59 < minute || 59 < second)

def isJsonSchemaDateTime (value : String) : Bool :=
  let bytes := utf8 value
  if !hasSeparators bytes then false
  else
    match parseDigits bytes 0 4, parseDigits bytes 5 2, parseDigits bytes 8 2,
      parseDigits bytes 11 2, parseDigits bytes 14 2, parseDigits bytes 17 2 with
    | some year, some month, some day, some hour, some minute, some second =>
      if !inRange year month day hour minute second then false
      else
        match skipFraction bytes with
        | none => false
        | some index => isOffset bytes index
    | _, _, _, _, _, _ => false

/-! ## Fields of a text -/

theorem pushDigit_digit {value d : Nat} (hd : d < 10) (h : value * 10 + d < 2 ^ 32) :
    pushDigit value (digit d) = some (value * 10 + d) := by
  rw [pushDigit, digit_value hd]
  exact if_pos h

theorem foldlM_fixedDigits {width n value : Nat} (hn : n < 10 ^ width)
    (h : value * 10 ^ width + n < 2 ^ 32) :
    (fixedDigits width n).foldlM pushDigit value = some (value * 10 ^ width + n) := by
  induction width generalizing n with
  | zero =>
    have hzero : n = 0 := by simpa using hn
    subst hzero
    simp [fixedDigits]
  | succ width ih =>
    have hdiv : n / 10 < 10 ^ width := by
      rw [Nat.div_lt_iff_lt_mul (by decide)]
      exact hn
    have hsplit : (value * 10 ^ width + n / 10) * 10 + n % 10 = value * 10 ^ (width + 1) + n := by
      rw [Nat.pow_succ, Nat.add_mul, Nat.mul_assoc]
      omega
    rw [fixedDigits, List.foldlM_append, ih hdiv (by omega), Option.bind_eq_bind, Option.bind_some,
      List.foldlM_cons, pushDigit_digit (Nat.mod_lt n (by decide)) (by omega), hsplit]
    rfl

theorem all_isDigit_fixedDigits (width n : Nat) : (fixedDigits width n).all isDigit = true := by
  induction width generalizing n with
  | zero => rfl
  | succ width ih =>
    rw [fixedDigits, List.all_append, ih, List.all_cons, List.all_nil,
      isDigit_digit (Nat.mod_lt n (by decide))]
    rfl

/-- A numeral of a fixed width is read back wherever it stands. -/
theorem parseDigits_fixed {width n : Nat} (hn : n < 10 ^ width) (hwidth : 10 ^ width < 2 ^ 32)
    (before after : List UInt8) :
    parseDigits (before ++ (fixedDigits width n ++ after)) before.length width = some n := by
  have hfold : (fixedDigits width n).foldlM pushDigit 0 = some n := by
    rw [foldlM_fixedDigits hn (by omega), Nat.zero_mul, Nat.zero_add]
  have hslice : ((before ++ (fixedDigits width n ++ after)).drop before.length).take width =
      fixedDigits width n := by
    rw [List.drop_left]
    exact List.take_left' (length_fixedDigits width n)
  rw [parseDigits, if_pos (by simp)]
  dsimp only
  rw [hslice, if_pos (all_isDigit_fixedDigits width n), hfold]

/-- A two-digit numeral is read back wherever it stands. -/
theorem parseDigits_two {n : Nat} (h : n < 100) (before after : List UInt8) :
    parseDigits (before ++ digit (n / 10) :: digit (n % 10) :: after) before.length 2 = some n := by
  have hdigits : fixedDigits 2 n = [digit (n / 10), digit (n % 10)] := by
    rw [fixedDigits, fixedDigits, fixedDigits, Nat.mod_eq_of_lt (by omega : n / 10 < 10)]
    rfl
  have hparse : parseDigits (before ++ (fixedDigits 2 n ++ after)) before.length 2 = some n :=
    parseDigits_fixed h (by decide) before after
  rw [hdigits] at hparse
  exact hparse

/-- What stands at a position is read back. -/
theorem parseDigits_of_drop {bytes after : List UInt8} {width n start : Nat}
    (hdrop : bytes.drop start = fixedDigits width n ++ after) (hn : n < 10 ^ width)
    (hwidth : 10 ^ width < 2 ^ 32) (hstart : start ≤ bytes.length) :
    parseDigits bytes start width = some n := by
  have hbytes : bytes = bytes.take start ++ (fixedDigits width n ++ after) := by
    rw [← hdrop, List.take_append_drop]
  have hlength : (bytes.take start).length = start := by
    rw [List.length_take, Nat.min_eq_left hstart]
  have hparse := parseDigits_fixed hn hwidth (bytes.take start) after
  rw [hlength, ← hbytes] at hparse
  exact hparse

/-- A date-time without its separators is refused. -/
theorem not_isJsonSchemaDateTime {value : String} (h : hasSeparators (utf8 value) = false) :
    isJsonSchemaDateTime value = false := by
  simp [isJsonSchemaDateTime, h]

end Aivtuber
