import Mathlib.Data.List.Lex
import Aivtuber.Domain.ScenarioTrace

/-!
# The texts of instants

Dates and days determine each other (`Calendar`), a start that names no date of the calendar is
refused, and before the year 10000 the text of an instant is read back, and the texts are ordered
as the instants are.  From that year on a text is longer than the parser reads
(`instantText_iff`).
-/

open Aivtuber.Check
open Aivtuber.Text

namespace Aivtuber

/-! ## The order of digits -/

/-- Bytes in the order of texts. -/
def BytesLt (x y : List UInt8) : Prop := List.Lex (· < ·) x y

theorem bytesLt_irrefl (x : List UInt8) : ¬BytesLt x x := irrefl_of (List.Lex (· < ·)) x

theorem bytesLt_asymm {x y : List UInt8} (h : BytesLt x y) : ¬BytesLt y x :=
  asymm_of (List.Lex (· < ·)) h

theorem bytesLt_append_left (a : List UInt8) {x y : List UInt8} (h : BytesLt x y) :
    BytesLt (a ++ x) (a ++ y) := List.Lex.append_left (· < ·) h a

/-- What follows texts of one length does not matter. -/
theorem bytesLt_append {a b : List UInt8} (h : BytesLt a b) (hlength : a.length = b.length)
    (x y : List UInt8) : BytesLt (a ++ x) (b ++ y) := by
  induction h with
  | nil => exact absurd hlength (Nat.succ_ne_zero _).symm
  | cons _ ih => exact List.Lex.cons (ih (Nat.succ.inj hlength))
  | rel hlt => exact List.Lex.rel hlt

theorem digit_lt {m n : Nat} (h : m < n) (hn : n < 10) : digit m < digit n := by
  interval_cases n <;> interval_cases m <;> decide

/-- Numbers of one width are ordered as their digits. -/
theorem fixedDigits_lt {width m n : Nat} (h : m < n) (hn : n < 10 ^ width) :
    BytesLt (fixedDigits width m) (fixedDigits width n) := by
  induction width generalizing m n with
  | zero =>
    rw [Nat.pow_zero] at hn
    omega
  | succ width ih =>
    rw [fixedDigits, fixedDigits]
    have hquotient : n / 10 < 10 ^ width := by
      rw [Nat.pow_succ] at hn
      omega
    by_cases hhigh : m / 10 < n / 10
    · exact bytesLt_append (ih hhigh hquotient)
        (by rw [length_fixedDigits, length_fixedDigits]) _ _
    · have hsame : m / 10 = n / 10 := by omega
      rw [hsame]
      apply bytesLt_append_left
      exact List.Lex.rel (digit_lt (by omega) (by omega))

/-- A field decides, or leaves the decision to what follows it. -/
theorem fixedDigits_append_lt {width m n : Nat} (hn : n < 10 ^ width) {x y : List UInt8}
    (h : m < n ∨ m = n ∧ BytesLt x y) :
    BytesLt (fixedDigits width m ++ x) (fixedDigits width n ++ y) := by
  rcases h with h | ⟨rfl, h⟩
  · exact bytesLt_append (fixedDigits_lt h hn) (by rw [length_fixedDigits, length_fixedDigits]) x y
  · exact bytesLt_append_left _ h

/-! ## The order of instants -/

section Instants

variable {epochMs epochMs' year month day hour minute second millis year' month' day' hour' minute'
  second' millis' : Nat}

/-- An instant is the start of its day and the time since. -/
theorem Stamp.epochMs_eq (h : Stamp epochMs year month day hour minute second millis) :
    ∃ days : Int, Calendar.civilFromDays days = ((year : Int), (month : Int), (day : Int)) ∧
      (epochMs : Int) =
        (days * 86400 + (hour * 3600 + minute * 60 + second : Nat)) * 1000 + millis := by
  have hinstant := h.instant
  rw [civilInstantMs] at hinstant
  split at hinstant
  case isTrue hdate => exact ⟨_, hdate, (Option.some.inj hinstant).symm⟩
  case isFalse => cases hinstant

/-- The fields of instants are ordered from the year down. -/
theorem Stamp.fields_lt (h : Stamp epochMs year month day hour minute second millis)
    (h' : Stamp epochMs' year' month' day' hour' minute' second' millis') (hlt : epochMs < epochMs') :
    year < year' ∨ year = year' ∧ (month < month' ∨ month = month' ∧ (day < day' ∨ day = day' ∧
      (hour < hour' ∨ hour = hour' ∧ (minute < minute' ∨ minute = minute' ∧
        (second < second' ∨ second = second' ∧ millis < millis'))))) := by
  obtain ⟨days, hdate, hdays⟩ := h.epochMs_eq
  obtain ⟨days', hdate', hdays'⟩ := h'.epochMs_eq
  have htime := h.isTimeOfDay
  have htime' := h'.isTimeOfDay
  have hmillis := h.fields.millis
  have hmillis' := h'.fields.millis
  simp only [Aivtuber.isTimeOfDay, Bool.and_eq_true, decide_eq_true_eq] at htime htime'
  rcases lt_trichotomy days days' with hbefore | rfl | hafter
  · have hdates := Calendar.civilFromDays_lt hdate hdate' hbefore
    omega
  · rw [hdate] at hdate'
    simp only [Prod.mk.injEq, Nat.cast_inj] at hdate'
    omega
  · omega

/-- **Before the year 10000 an earlier instant has the earlier text**. -/
theorem formatRfc3339_lt (h : epochMs' < year10000Ms) (hlt : epochMs < epochMs') :
    BytesLt (utf8 (formatRfc3339 epochMs)) (utf8 (formatRfc3339 epochMs')) := by
  obtain ⟨year, month, day, hour, minute, second, millis, hstamp⟩ := exists_stamp (hlt.trans h)
  obtain ⟨year', month', day', hour', minute', second', millis', hstamp'⟩ := exists_stamp h
  have hcons : ∀ (separator : UInt8) {x y : List UInt8}, BytesLt x y →
      BytesLt (separator :: x) (separator :: y) := fun _ _ _ hxy ↦ List.Lex.cons hxy
  have hfields := hstamp'.fields
  rw [hstamp.bytes, hstamp'.bytes, stampBytes, stampBytes]
  -- Each field decides, or agrees and leaves the decision to the next one.
  refine fixedDigits_append_lt hfields.year
    ((hstamp.fields_lt hstamp' hlt).imp_right (And.imp_right fun hrest ↦ hcons _ ?_))
  refine fixedDigits_append_lt hfields.month (hrest.imp_right (And.imp_right fun hrest ↦ hcons _ ?_))
  refine fixedDigits_append_lt hfields.day (hrest.imp_right (And.imp_right fun hrest ↦ hcons _ ?_))
  refine fixedDigits_append_lt hfields.hour (hrest.imp_right (And.imp_right fun hrest ↦ hcons _ ?_))
  refine fixedDigits_append_lt hfields.minute
    (hrest.imp_right (And.imp_right fun hrest ↦ hcons _ ?_))
  refine fixedDigits_append_lt hfields.second
    (hrest.imp_right (And.imp_right fun hrest ↦ hcons _ ?_))
  exact bytesLt_append (fixedDigits_lt hrest hfields.millis)
    (by rw [length_fixedDigits, length_fixedDigits]) _ _

theorem formatRfc3339_lt_iff (h : epochMs < year10000Ms) (h' : epochMs' < year10000Ms) :
    BytesLt (utf8 (formatRfc3339 epochMs)) (utf8 (formatRfc3339 epochMs')) ↔ epochMs < epochMs' := by
  constructor
  · intro hlt
    by_contra hnot
    rcases lt_or_eq_of_le (not_lt.mp hnot) with hafter | rfl
    · exact bytesLt_asymm hlt (formatRfc3339_lt h hafter)
    · exact bytesLt_irrefl _ hlt
  · exact formatRfc3339_lt h'

end Instants

/-! ## Starts -/

/-- A date that passes the parser is one of the calendar. -/
theorem valid_of_civilInstantMs {year month day hour minute second millis : Nat} {ms : Int}
    (h : civilInstantMs year month day hour minute second millis = some ms) :
    Calendar.Valid year month day := by
  rw [civilInstantMs] at h
  split at h
  case isTrue hdate => exact (Calendar.daysFromCivil_civilFromDays hdate).1
  case isFalse => cases h

/-- **A start that names no date of the calendar is refused**. -/
theorem parseLogicalStart_refuses {value : String} {year month day : Nat}
    (hyear : parseDigits (utf8 value) 0 4 = some year)
    (hmonth : parseDigits (utf8 value) 5 2 = some month)
    (hday : parseDigits (utf8 value) 8 2 = some day) (hdate : ¬Calendar.Valid year month day)
    (instant : Nat) : parseLogicalStart value ≠ .ok instant := by
  intro h
  rw [parseLogicalStart] at h
  simp only [unit_bind_eq_ok, expect_bind_eq_ok] at h
  obtain ⟨-, -, year', hyear', month', hmonth', day', hday', hour, -, minute, -, second, -, -, -, ms,
    hms, -⟩ := h
  rw [hyear] at hyear'
  rw [hmonth] at hmonth'
  rw [hday] at hday'
  cases hyear'
  cases hmonth'
  cases hday'
  exact hdate (valid_of_civilInstantMs hms)

/-- **Dates and instants are read back, and instants are ordered as their texts**, exactly before
the year 10000; that dates and days determine each other, and that a start is a date of the
calendar, holds of all. -/
theorem instantText_iff (epochMs epochMs' : Nat) :
    (∀ year month day, Calendar.Valid year month day →
      Calendar.civilFromDays (Calendar.daysFromCivil year month day) = (year, month, day)) ∧
    (∀ days year month day, Calendar.civilFromDays days = (year, month, day) →
      Calendar.Valid year month day ∧ Calendar.daysFromCivil year month day = days) ∧
    (∀ value year month day, parseDigits (utf8 value) 0 4 = some year →
      parseDigits (utf8 value) 5 2 = some month → parseDigits (utf8 value) 8 2 = some day →
      ¬Calendar.Valid year month day → ∀ instant, parseLogicalStart value ≠ .ok instant) ∧
    ((scenarioInstantMs (formatRfc3339 epochMs) = .ok epochMs ∧
        scenarioInstantMs (formatRfc3339 epochMs') = .ok epochMs' ∧
        (BytesLt (utf8 (formatRfc3339 epochMs)) (utf8 (formatRfc3339 epochMs')) ↔
          epochMs < epochMs')) ↔
      epochMs < year10000Ms ∧ epochMs' < year10000Ms) := by
  refine ⟨fun _ _ _ hvalid ↦ Calendar.civilFromDays_daysFromCivil hvalid,
    fun _ _ _ _ hdate ↦ Calendar.daysFromCivil_civilFromDays hdate,
    fun _ _ _ _ hyear hmonth hday hdate ↦ parseLogicalStart_refuses hyear hmonth hday hdate, ?_⟩
  constructor
  · rintro ⟨h, h', -⟩
    exact ⟨lt_of_scenarioInstantMs h, lt_of_scenarioInstantMs h'⟩
  · rintro ⟨h, h'⟩
    exact ⟨scenarioInstantMs_format h, scenarioInstantMs_format h', formatRfc3339_lt_iff h h'⟩

/-- The 30th of February is refused. -/
theorem instantText_february : parseLogicalStart "2026-02-30T00:00:00Z" ≠ .ok 1772409600000 :=
  (instantText_iff 0 0).2.2.1 "2026-02-30T00:00:00Z" 2026 2 30 (by decide +kernel) (by decide +kernel)
    (by decide +kernel) (fun h ↦ absurd h.ofDay.2 (by decide)) _

/-- The last instant of the year 9999 has a later text than the first one of the year 10000, which
is not read back. -/
theorem instantText_year10000 :
    (∀ instant, scenarioInstantMs (formatRfc3339 year10000Ms) ≠ .ok instant) ∧
    year10000Ms - 1 < year10000Ms ∧
    ¬BytesLt (utf8 (formatRfc3339 (year10000Ms - 1))) (utf8 (formatRfc3339 year10000Ms)) := by
  refine ⟨fun instant h ↦ absurd (lt_of_scenarioInstantMs h) (lt_irrefl _), by decide, ?_⟩
  have hlast : utf8 (formatRfc3339 (year10000Ms - 1)) = utf8 "9999-12-31T23:59:59.999Z" := by
    decide +kernel
  have hfirst : utf8 (formatRfc3339 year10000Ms) = utf8 "10000-01-01T00:00:00.000Z" := by
    decide +kernel
  have hafter : BytesLt (utf8 "10000-01-01T00:00:00.000Z") (utf8 "9999-12-31T23:59:59.999Z") := by
    have hnine : utf8 "9999-12-31T23:59:59.999Z" =
        byte '9' :: utf8 "999-12-31T23:59:59.999Z" := by decide +kernel
    have hone : utf8 "10000-01-01T00:00:00.000Z" =
        byte '1' :: utf8 "0000-01-01T00:00:00.000Z" := by decide +kernel
    rw [hnine, hone]
    exact List.Lex.rel (by decide)
  rw [hlast, hfirst]
  exact bytesLt_asymm hafter

end Aivtuber
