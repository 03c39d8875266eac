import Mathlib.Order.Basic
import Mathlib.Tactic.IntervalCases
import Mathlib.Tactic.Linarith

/-!
# The civil calendar

Days since 1970-01-01 and dates of the proleptic Gregorian calendar, by the algorithm that
counts years from the first of March: so the leap day ends a year, and four hundred years
form an era of always the same length.  All that is not linear is within an era, where the
year of a day is a quotient of a monotone function (`year_of_day`).
-/

namespace Calendar

/-- Days from 1970-01-01 for a proleptic Gregorian date. -/
def daysFromCivil (year month day : Int) : Int :=
  let year := if month ≤ 2 then year - 1 else year
  let era := (if 0 ≤ year then year else year - 399).tdiv 400
  let yearOfEra := year - era * 400
  let shiftedMonth := if 2 < month then month - 3 else month + 9
  let dayOfYear := (153 * shiftedMonth + 2) / 5 + day - 1
  let dayOfEra := yearOfEra * 365 + yearOfEra / 4 - yearOfEra / 100 + dayOfYear
  era * 146097 + dayOfEra - 719468

def civilFromDays (days : Int) : Int × Int × Int :=
  let shifted := days + 719468
  let era := (if 0 ≤ shifted then shifted else shifted - 146096).tdiv 146097
  let dayOfEra := shifted - era * 146097
  let yearOfEra :=
    (dayOfEra - dayOfEra / 1460 + dayOfEra / 36524 - dayOfEra / 146096) / 365
  let year := yearOfEra + era * 400
  let dayOfYear := dayOfEra - (365 * yearOfEra + yearOfEra / 4 - yearOfEra / 100)
  let shiftedMonth := (5 * dayOfYear + 2) / 153
  let day := dayOfYear - (153 * shiftedMonth + 2) / 5 + 1
  let month := if shiftedMonth < 10 then shiftedMonth + 3 else shiftedMonth - 9
  let year := if month ≤ 2 then year + 1 else year
  (year, month, day)

def IsLeap (year : Int) : Prop := year % 4 = 0 ∧ (year % 100 ≠ 0 ∨ year % 400 = 0)

instance (year : Int) : Decidable (IsLeap year) :=
  inferInstanceAs (Decidable (year % 4 = 0 ∧ (year % 100 ≠ 0 ∨ year % 400 = 0)))

/-- The days of a month. -/
def monthLength (year month : Int) : Int :=
  if month = 2 then if IsLeap year then 29 else 28
  else if month = 4 ∨ month = 6 ∨ month = 9 ∨ month = 11 then 30
  else 31

/-! ## The years of an era -/

/-- The day of an era without the leap days before it. -/
def spread (day : Nat) : Nat := day - day / 1460 + day / 36524 - day / 146096

/-- The day of an era that a year starts on. -/
def startOfYear (year : Nat) : Nat := 365 * year + year / 4 - year / 100

/-- The day of an era that a year ends on; the last one has the leap day of the era. -/
def endOfYear (year : Nat) : Nat := if year = 399 then 146096 else startOfYear (year + 1) - 1

theorem spread_monotone : Monotone spread := by
  apply monotone_nat_of_le_succ
  intro day
  unfold spread
  omega

theorem spread_year : ∀ year < 400,
    spread (startOfYear year) / 365 = year ∧ spread (endOfYear year) / 365 = year := by
  decide +kernel

/-- The year of a day of an era. -/
theorem year_of_day {day : Nat} (h : day ≤ 146096) :
    spread day / 365 ≤ 399 ∧ startOfYear (spread day / 365) ≤ day ∧
      day ≤ endOfYear (spread day / 365) := by
  have hyear : spread day / 365 ≤ 399 := Nat.div_le_div_right (spread_monotone h)
  generalize hn : spread day / 365 = year at hyear ⊢
  refine ⟨hyear, ?_, ?_⟩
  · -- A day before the year would be in the year before.
    cases year with
    | zero => exact Nat.zero_le day
    | succ year =>
      by_contra hbefore
      have hlast : day ≤ endOfYear year := by
        rw [endOfYear, if_neg (by omega)]
        omega
      have hle : spread day / 365 ≤ spread (endOfYear year) / 365 :=
        Nat.div_le_div_right (spread_monotone hlast)
      rw [(spread_year year (by omega)).2] at hle
      omega
  · by_contra hafter
    have hlt : year ≠ 399 := by
      rintro rfl
      exact hafter h
    have hnext : startOfYear (year + 1) ≤ day := by
      rw [endOfYear, if_neg hlt] at hafter
      omega
    have hle : spread (startOfYear (year + 1)) / 365 ≤ spread day / 365 :=
      Nat.div_le_div_right (spread_monotone hnext)
    rw [(spread_year (year + 1) (by omega)).1] at hle
    omega

/-- A year has 365 days, and one more when it ends with a leap day. -/
theorem endOfYear_le {year : Nat} (h : year ≤ 399) :
    endOfYear year ≤ startOfYear year + 365 ∧
      (endOfYear year = startOfYear year + 365 → IsLeap (year + 1)) := by
  unfold endOfYear startOfYear IsLeap
  split <;> omega

/-! ## Dates -/

/-- A division that rounds down, by one that rounds to zero. -/
theorem tdiv_eq_ediv (a : Int) {n : Int} (h : 0 < n) :
    (if 0 ≤ a then a else a - (n - 1)).tdiv n = a / n := by
  split
  case isTrue ha => exact Int.tdiv_eq_ediv_of_nonneg ha
  case isFalse ha =>
    have hneg : a - (n - 1) = -(n - 1 - a) := by omega
    have hrest : n - 1 - a % n + n * -(a / n) = n - 1 - a := by
      have hdivision := Int.emod_add_mul_ediv a n
      rw [Int.mul_neg]
      omega
    have hquotient : (n - 1 - a) / n = -(a / n) :=
      ((Int.ediv_emod_unique h).mpr ⟨hrest, by have := Int.emod_lt_of_pos a h; omega,
        by have := Int.emod_nonneg a h.ne'; omega⟩).1
    rw [hneg, Int.neg_tdiv, Int.tdiv_eq_ediv_of_nonneg (by omega), hquotient, Int.neg_neg]

/-- The place of a date: day `dayOfYear` of year `yearOfEra` of `era`, counted from March. -/
structure Place (days era yearOfEra dayOfYear : Int) : Prop where
  ofDays : days + 719468 =
    era * 146097 + (365 * yearOfEra + yearOfEra / 4 - yearOfEra / 100) + dayOfYear
  ofYear : 0 ≤ yearOfEra ∧ yearOfEra ≤ 399
  ofDay : 0 ≤ dayOfYear ∧ dayOfYear ≤ 365
  leap : dayOfYear = 365 → IsLeap (yearOfEra + 1)

/-- The date at a place. -/
def dateAt (era yearOfEra dayOfYear : Int) : Int × Int × Int :=
  let shiftedMonth := (5 * dayOfYear + 2) / 153
  let month := if shiftedMonth < 10 then shiftedMonth + 3 else shiftedMonth - 9
  (if month ≤ 2 then yearOfEra + era * 400 + 1 else yearOfEra + era * 400, month,
    dayOfYear - (153 * shiftedMonth + 2) / 5 + 1)

theorem civilFromDays_eq (days : Int) : ∃ era yearOfEra dayOfYear,
    Place days era yearOfEra dayOfYear ∧ civilFromDays days = dateAt era yearOfEra dayOfYear := by
  have hera := tdiv_eq_ediv (days + 719468) (n := 146097) (by decide)
  obtain ⟨day, hday⟩ : ∃ day : Nat, (day : Int) = days + 719468 - (days + 719468) / 146097 * 146097 :=
    ⟨(days + 719468 - (days + 719468) / 146097 * 146097).toNat, by omega⟩
  have hle : day ≤ 146096 := by omega
  obtain ⟨hyear, hstart, hend⟩ := year_of_day hle
  obtain ⟨hlength, hleap⟩ := endOfYear_le hyear
  have hspread : ((spread day / 365 : Nat) : Int) =
      ((day : Int) - day / 1460 + day / 36524 - day / 146096) / 365 := by
    unfold spread
    omega
  have hstartOf : ((startOfYear (spread day / 365) : Nat) : Int) =
      365 * ((spread day / 365 : Nat) : Int) + ((spread day / 365 : Nat) : Int) / 4 -
        ((spread day / 365 : Nat) : Int) / 100 := by
    unfold startOfYear
    omega
  refine ⟨(days + 719468) / 146097, (spread day / 365 : Nat),
    day - startOfYear (spread day / 365), ⟨?_, ?_, ?_, ?_⟩, ?_⟩
  · omega
  · omega
  · omega
  · intro hlast
    have hend' : endOfYear (spread day / 365) = startOfYear (spread day / 365) + 365 := by omega
    exact_mod_cast hleap hend'
  · have hera' : (if 0 ≤ days + 719468 then days + 719468 else days + 719468 - 146096).tdiv
        146097 = (days + 719468) / 146097 := hera
    rw [civilFromDays, hera', ← hday, ← hspread, ← hstartOf]
    rfl

/-- A date that the calendar has. -/
structure Valid (year month day : Int) : Prop where
  ofMonth : 1 ≤ month ∧ month ≤ 12
  ofDay : 1 ≤ day ∧ day ≤ monthLength year month

section Place

variable {days era yearOfEra dayOfYear year month day : Int}

theorem Place.valid (h : Place days era yearOfEra dayOfYear)
    (hdate : dateAt era yearOfEra dayOfYear = (year, month, day)) : Valid year month day := by
  obtain ⟨-, hofYear, hofDay, hleap⟩ := h
  simp only [dateAt, Prod.mk.injEq] at hdate
  obtain ⟨hyear, hmonth, hday⟩ := hdate
  generalize hshifted : (5 * dayOfYear + 2) / 153 = shiftedMonth at hyear hmonth hday
  have hlow : 0 ≤ shiftedMonth := by omega
  have hhigh : shiftedMonth ≤ 11 := by omega
  interval_cases shiftedMonth
  case «11» =>
    -- February, the last month of the year of the place.
    simp only [Int.reduceLT, if_false, Int.reduceSub] at hmonth
    subst hmonth
    refine ⟨by decide, by omega, ?_⟩
    rw [monthLength, if_pos rfl]
    split
    case isTrue => omega
    case isFalse hcommon =>
      have hnot : dayOfYear ≠ 365 := by
        intro hlast
        have hplace := hleap hlast
        unfold IsLeap at hplace hcommon
        rw [if_pos (by decide)] at hyear
        omega
      omega
  all_goals
    simp only [Int.reduceLT, if_true, if_false, Int.reduceAdd, Int.reduceSub] at hmonth
    subst hmonth
    exact ⟨by decide, by omega, by simp [monthLength]; omega⟩

theorem Place.daysFromCivil_eq (h : Place days era yearOfEra dayOfYear)
    (hdate : dateAt era yearOfEra dayOfYear = (year, month, day)) :
    daysFromCivil year month day = days := by
  obtain ⟨hofDays, hofYear, hofDay, -⟩ := h
  simp only [dateAt, Prod.mk.injEq] at hdate
  obtain ⟨hyear, hmonth, hday⟩ := hdate
  generalize hshifted : (5 * dayOfYear + 2) / 153 = shiftedMonth at hyear hmonth hday
  have hshiftedYear : (if month ≤ 2 then year - 1 else year) = yearOfEra + era * 400 := by
    split at hyear <;> split <;> omega
  have hshiftedMonth : (if 2 < month then month - 3 else month + 9) = shiftedMonth := by
    split at hmonth <;> split <;> omega
  have hera := tdiv_eq_ediv (yearOfEra + era * 400) (n := 400) (by decide)
  have hera' : (if 0 ≤ yearOfEra + era * 400 then yearOfEra + era * 400
      else yearOfEra + era * 400 - 399).tdiv 400 = era := hera.trans (by omega)
  rw [daysFromCivil, hshiftedYear, hshiftedMonth, hera']
  omega

/-- The date at a place is in the civil year `year` or before just when the place is before
the January after it. -/
theorem Place.year_le_iff (h : Place days era yearOfEra dayOfYear)
    (hdate : dateAt era yearOfEra dayOfYear = (year, month, day)) (last : Int) :
    year ≤ last ↔ days < daysFromCivil (last + 1) 1 1 := by
  obtain ⟨hofDays, hofYear, hofDay, -⟩ := h
  simp only [dateAt, Prod.mk.injEq] at hdate
  obtain ⟨hyear, hmonth, hday⟩ := hdate
  have hera := tdiv_eq_ediv last (n := 400) (by decide)
  have hfirst : daysFromCivil (last + 1) 1 1 =
      365 * last + last / 4 - last / 100 + last / 400 + 306 - 719468 := by
    have hshiftedYear : (if (1 : Int) ≤ 2 then last + 1 - 1 else last + 1) = last := by
      rw [if_pos (by decide), Int.add_sub_cancel]
    have hshiftedMonth : (if (2 : Int) < 1 then (1 : Int) - 3 else 1 + 9) = 10 := rfl
    have hera' : (if 0 ≤ last then last else last - 399).tdiv 400 = last / 400 := hera
    rw [daysFromCivil, hshiftedYear, hshiftedMonth, hera']
    omega
  have hdays : days + 719468 = 365 * (yearOfEra + era * 400) + (yearOfEra + era * 400) / 4 -
      (yearOfEra + era * 400) / 100 + (yearOfEra + era * 400) / 400 + dayOfYear := by
    omega
  have hnext : year = (if dayOfYear < 306 then yearOfEra + era * 400
      else yearOfEra + era * 400 + 1) := by
    split at hyear <;> split <;> omega
  rw [hfirst, hnext]
  clear hfirst hnext hera hyear hmonth hday hofDays
  generalize yearOfEra + era * 400 = civil at hdays ⊢
  split <;> omega

end Place

/-- **The date of a day is a date of the calendar, and the day of that date**. -/
theorem daysFromCivil_civilFromDays {days year month day : Int}
    (h : civilFromDays days = (year, month, day)) :
    Valid year month day ∧ daysFromCivil year month day = days := by
  obtain ⟨era, yearOfEra, dayOfYear, hplace, heq⟩ := civilFromDays_eq days
  rw [h] at heq
  exact ⟨hplace.valid heq.symm, hplace.daysFromCivil_eq heq.symm⟩

/-- Dates are ordered as days are, year by year. -/
theorem civilFromDays_year_le_iff {days year month day : Int}
    (h : civilFromDays days = (year, month, day)) (last : Int) :
    year ≤ last ↔ days < daysFromCivil (last + 1) 1 1 := by
  obtain ⟨era, yearOfEra, dayOfYear, hplace, heq⟩ := civilFromDays_eq days
  rw [h] at heq
  exact hplace.year_le_iff heq.symm last

/-! ## The order of dates -/

section Order

variable {days days' era era' yearOfEra yearOfEra' dayOfYear dayOfYear' year year' month month' day
  day' : Int}

/-- The days before a year, with the leap days counted by divisions. -/
def yearStart (year : Int) : Int := 365 * year + year / 4 - year / 100 + year / 400

theorem yearStart_succ (year : Int) : yearStart year + 365 ≤ yearStart (year + 1) ∧
    (IsLeap (year + 1) → yearStart year + 365 < yearStart (year + 1)) := by
  unfold yearStart IsLeap
  omega

theorem yearStart_le {year year' : Int} (h : year ≤ year') : yearStart year ≤ yearStart year' := by
  refine monotone_int_of_le_succ (fun year ↦ ?_) h
  have hsucc := (yearStart_succ year).1
  omega

theorem Place.days_eq (h : Place days era yearOfEra dayOfYear) :
    days + 719468 = yearStart (yearOfEra + era * 400) + dayOfYear := by
  obtain ⟨hofDays, hofYear, -, -⟩ := h
  unfold yearStart
  omega

/-- A place in an earlier year, or earlier in the year, is on an earlier day. -/
theorem Place.lt (h : Place days era yearOfEra dayOfYear)
    (h' : Place days' era' yearOfEra' dayOfYear')
    (hlt : yearOfEra + era * 400 < yearOfEra' + era' * 400 ∨
      yearOfEra + era * 400 = yearOfEra' + era' * 400 ∧ dayOfYear < dayOfYear') : days < days' := by
  have hdays := h.days_eq
  have hdays' := h'.days_eq
  obtain ⟨-, -, hofDay, hleap⟩ := h
  obtain ⟨-, -, hofDay', -⟩ := h'
  have hleap : dayOfYear = 365 → IsLeap (yearOfEra + era * 400 + 1) := by
    intro hlast
    have hyear := hleap hlast
    unfold IsLeap at hyear ⊢
    omega
  rcases hlt with hlt | ⟨hyear, hlt⟩
  · obtain ⟨hcommon, hlong⟩ := yearStart_succ (yearOfEra + era * 400)
    have hnext : yearStart (yearOfEra + era * 400 + 1) ≤ yearStart (yearOfEra' + era' * 400) :=
      yearStart_le hlt
    by_cases hlast : dayOfYear = 365
    · have := hlong (hleap hlast)
      omega
    · omega
  · rw [hyear] at hdays
    omega

/-- A day has one place. -/
theorem Place.unique (h : Place days era yearOfEra dayOfYear)
    (h' : Place days era' yearOfEra' dayOfYear') :
    era = era' ∧ yearOfEra = yearOfEra' ∧ dayOfYear = dayOfYear' := by
  have hbefore := mt (h.lt h') (lt_irrefl days)
  have hafter := mt (h'.lt h) (lt_irrefl days)
  obtain ⟨-, hofYear, -, -⟩ := h
  obtain ⟨-, hofYear', -, -⟩ := h'
  omega

/-- Every date of the calendar has a place. -/
theorem exists_place (h : Valid year month day) : ∃ era yearOfEra dayOfYear,
    Place (daysFromCivil year month day) era yearOfEra dayOfYear ∧
      dateAt era yearOfEra dayOfYear = (year, month, day) := by
  obtain ⟨⟨hfirst, hlast⟩, hday, hlength⟩ := h
  generalize hcivil : (if month ≤ 2 then year - 1 else year) = civil
  generalize hshifted : (if 2 < month then month - 3 else month + 9) = shiftedMonth
  have hera := tdiv_eq_ediv civil (n := 400) (by decide)
  have hera' : (if 0 ≤ civil then civil else civil - 399).tdiv 400 = civil / 400 := hera
  have hdays : daysFromCivil year month day = civil / 400 * 146097 +
      ((civil - civil / 400 * 400) * 365 + (civil - civil / 400 * 400) / 4 -
        (civil - civil / 400 * 400) / 100 + ((153 * shiftedMonth + 2) / 5 + day - 1)) - 719468 := by
    rw [daysFromCivil, hcivil, hshifted, hera']
  -- The day of the year tells the month.
  have hmonth : (5 * ((153 * shiftedMonth + 2) / 5 + day - 1) + 2) / 153 = shiftedMonth ∧
      0 ≤ (153 * shiftedMonth + 2) / 5 + day - 1 ∧ (153 * shiftedMonth + 2) / 5 + day - 1 ≤ 365 ∧
      ((153 * shiftedMonth + 2) / 5 + day - 1 = 365 → IsLeap (civil + 1)) := by
    interval_cases month
    case «2» =>
      simp only [monthLength, if_true] at hlength
      have hyear : civil + 1 = year := by
        rw [if_pos (by decide)] at hcivil
        omega
      rw [hyear]
      norm_num at hshifted
      subst hshifted
      split at hlength
      case isTrue hleap => exact ⟨by omega, by omega, by omega, fun _ ↦ hleap⟩
      case isFalse => exact ⟨by omega, by omega, by omega, fun hlast ↦ by omega⟩
    all_goals
      norm_num at hshifted
      norm_num [monthLength] at hlength
      subst hshifted
      exact ⟨by omega, by omega, by omega, fun hlast ↦ by omega⟩
  obtain ⟨htells, hlow, hhigh, hleap⟩ := hmonth
  refine ⟨civil / 400, civil - civil / 400 * 400, (153 * shiftedMonth + 2) / 5 + day - 1,
    ⟨?_, ?_, ⟨hlow, hhigh⟩, ?_⟩, ?_⟩
  · rw [hdays]
    omega
  · omega
  · intro hend
    have hyear := hleap hend
    unfold IsLeap at hyear ⊢
    omega
  · have hmonth : (if shiftedMonth < 10 then shiftedMonth + 3 else shiftedMonth - 9) = month := by
      rw [← hshifted]
      split_ifs <;> omega
    have hyear : (if month ≤ 2 then civil - civil / 400 * 400 + civil / 400 * 400 + 1
        else civil - civil / 400 * 400 + civil / 400 * 400) = year := by
      rw [← hcivil]
      split_ifs <;> omega
    rw [dateAt, htells, hmonth, hyear]
    refine Prod.ext rfl (Prod.ext rfl ?_)
    dsimp only
    omega

/-- **The day of a date of the calendar is a day of that date**. -/
theorem civilFromDays_daysFromCivil (h : Valid year month day) :
    civilFromDays (daysFromCivil year month day) = (year, month, day) := by
  obtain ⟨era, yearOfEra, dayOfYear, hplace, hdate⟩ := exists_place h
  obtain ⟨_, _, _, hplace', heq⟩ := civilFromDays_eq (daysFromCivil year month day)
  obtain ⟨rfl, rfl, rfl⟩ := hplace.unique hplace'
  rw [heq, hdate]

/-- Later days have later dates. -/
theorem civilFromDays_lt (hdate : civilFromDays days = (year, month, day))
    (hdate' : civilFromDays days' = (year', month', day')) (hlt : days < days') :
    year < year' ∨ year = year' ∧ (month < month' ∨ month = month' ∧ day < day') := by
  obtain ⟨era, yearOfEra, dayOfYear, hplace, heq⟩ := civilFromDays_eq days
  obtain ⟨era', yearOfEra', dayOfYear', hplace', heq'⟩ := civilFromDays_eq days'
  have horder : yearOfEra + era * 400 < yearOfEra' + era' * 400 ∨
      yearOfEra + era * 400 = yearOfEra' + era' * 400 ∧ dayOfYear < dayOfYear' := by
    by_contra hnot
    rcases lt_or_eq_of_le (show yearOfEra' + era' * 400 ≤ yearOfEra + era * 400 by omega) with
      hafter | heqYear
    · exact lt_asymm hlt (hplace'.lt hplace (Or.inl hafter))
    · rcases lt_or_eq_of_le (show dayOfYear' ≤ dayOfYear by omega) with hafter | heqDay
      · exact lt_asymm hlt (hplace'.lt hplace (Or.inr ⟨heqYear, hafter⟩))
      · have hdays := hplace.days_eq
        have hdays' := hplace'.days_eq
        rw [heqYear, heqDay] at hdays'
        omega
  rw [hdate] at heq
  rw [hdate'] at heq'
  simp only [dateAt, Prod.mk.injEq] at heq heq'
  obtain ⟨hyear, hmonth, hday⟩ := heq
  obtain ⟨hyear', hmonth', hday'⟩ := heq'
  obtain ⟨-, -, hofDay, -⟩ := hplace
  obtain ⟨-, -, hofDay', -⟩ := hplace'
  clear * - hyear hmonth hday hyear' hmonth' hday' hofDay hofDay' horder
  generalize yearOfEra + era * 400 = civil at *
  generalize yearOfEra' + era' * 400 = civil' at *
  generalize hshifted : (5 * dayOfYear + 2) / 153 = shiftedMonth at *
  generalize hshifted' : (5 * dayOfYear' + 2) / 153 = shiftedMonth' at *
  split_ifs at hyear hyear' hmonth hmonth' <;> omega

end Order

end Calendar
