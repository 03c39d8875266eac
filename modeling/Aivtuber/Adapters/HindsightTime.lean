import Aivtuber.Domain.ScenarioInstants

/-!
# Times for the memory service

`iso8601_utc` of `crates/adapters/src/hindsight.rs` writes the times of claims and queries.  Its
dates are those of the scenario's instants, with a second algorithm for the calendar
(`civilFromDays_eq`).  It leaves out the milliseconds, so that the service sees the second in which
a claim happened (`parseLogicalStart_iso8601Utc`).
-/

open Aivtuber.Check Aivtuber.Text
open Saturating (u64Max)

namespace Aivtuber.Hindsight

/-- The civil date of a day count since the Unix epoch. -/
def civilFromDays (days : Int) : Int × Nat × Nat :=
  let shifted := days + 719468
  let era := shifted / 146097
  let dayOfEra := shifted % 146097
  let yearOfEra :=
    (dayOfEra - dayOfEra / 1460 + dayOfEra / 36524 - dayOfEra / 146096) / 365
  let year := yearOfEra + era * 400
  let dayOfYear := dayOfEra - (365 * yearOfEra + yearOfEra / 4 - yearOfEra / 100)
  let monthPrime := (5 * dayOfYear + 2) / 153
  let day := (dayOfYear - (153 * monthPrime + 2) / 5 + 1).toNat
  let month := (if monthPrime < 10 then monthPrime + 3 else monthPrime - 9).toNat
  (if month ≤ 2 then year + 1 else year, month, day)

/-- Epoch milliseconds as an ISO 8601 UTC timestamp. -/
def iso8601Utc (epochMs : Nat) : String :=
  let totalSeconds := min (epochMs / 1000) (2 ^ 63 - 1)
  let days := totalSeconds / 86400
  let secondsOfDay := totalSeconds % 86400
  let (year, month, day) := civilFromDays days
  pad 4 year.toNat ++ "-" ++ pad 2 month ++ "-" ++ pad 2 day ++ "T" ++
    pad 2 (secondsOfDay / 3600) ++ ":" ++ pad 2 (secondsOfDay % 3600 / 60) ++ ":" ++
    pad 2 (secondsOfDay % 60) ++ "Z"

/-! ## The second calendar -/

/-- **The two calendars agree**, on every day. -/
theorem civilFromDays_eq {days year month day : Int}
    (hdate : Calendar.civilFromDays days = (year, month, day)) :
    civilFromDays days = (year, month.toNat, day.toNat) := by
  have hvalid := (Calendar.daysFromCivil_civilFromDays hdate).1
  have hmonth := hvalid.ofMonth
  have hera := Calendar.tdiv_eq_ediv (days + 719468) (n := 146097) (by decide)
  have hera' : (if 0 ≤ days + 719468 then days + 719468 else days + 719468 - 146096).tdiv
      146097 = (days + 719468) / 146097 := hera
  have hrest : days + 719468 - (days + 719468) / 146097 * 146097 = (days + 719468) % 146097 := by
    omega
  rw [Calendar.civilFromDays] at hdate
  rw [hera', hrest] at hdate
  rw [civilFromDays]
  simp only [Prod.mk.injEq] at hdate ⊢
  obtain ⟨hyear, hmonthEq, hday⟩ := hdate
  rw [hmonthEq] at hyear ⊢
  rw [hday]
  refine ⟨?_, rfl, rfl⟩
  rw [← hyear]
  have hearly : month.toNat ≤ 2 ↔ month ≤ 2 := by omega
  simp only [hearly]

/-! ## The texts -/

variable {epochMs year month day hour minute second millis : Nat}

/-- The bytes of a time whose fields have their widths. -/
def secondBytes (year month day hour minute second : Nat) : List UInt8 :=
  fixedDigits 4 year ++ (byte '-' :: (fixedDigits 2 month ++ (byte '-' :: (fixedDigits 2 day ++
    (byte 'T' :: (fixedDigits 2 hour ++ (byte ':' :: (fixedDigits 2 minute ++
      (byte ':' :: (fixedDigits 2 second ++ [byte 'Z']))))))))))

/-- The text of a scenario instant has the same date and time of day before its milliseconds. -/
theorem exists_front (h : epochMs < year10000Ms) : ∃ front : String,
    formatRfc3339 epochMs = front ++ "." ++ pad 3 (epochMs % 1000) ++ "Z" ∧
      iso8601Utc epochMs = front ++ "Z" := by
  obtain ⟨⟨year, month, day⟩, hdate⟩ :
      ∃ date, Calendar.civilFromDays (epochMs / 1000 / 86400 : Nat) = date := ⟨_, rfl⟩
  have hseconds : min (epochMs / 1000) (2 ^ 63 - 1) = epochMs / 1000 := by
    unfold year10000Ms at h
    omega
  refine ⟨pad 4 year.toNat ++ "-" ++ pad 2 month.toNat ++ "-" ++ pad 2 day.toNat ++ "T" ++
    pad 2 (epochMs / 1000 % 86400 / 3600) ++ ":" ++ pad 2 (epochMs / 1000 % 86400 % 3600 / 60) ++
      ":" ++ pad 2 (epochMs / 1000 % 86400 % 60), ?_, ?_⟩
  · rw [formatRfc3339]
    simp only [hdate]
  · rw [iso8601Utc]
    simp only [hseconds, civilFromDays_eq hdate]

/-- The bytes of a time, from the fields of the scenario's instant. -/
theorem utf8_iso8601Utc (h : epochMs < year10000Ms)
    (hstamp : Stamp epochMs year month day hour minute second millis) :
    utf8 (iso8601Utc epochMs) = secondBytes year month day hour minute second := by
  obtain ⟨front, hformat, hiso⟩ := exists_front h
  have hzulu : utf8 "Z" = [byte 'Z'] := by decide +kernel
  have hdot : utf8 "." = [byte '.'] := by decide +kernel
  have hmillis : epochMs % 1000 < 10 ^ 3 := Nat.mod_lt _ (by decide)
  have hbytes := hstamp.bytes
  rw [hformat, utf8_append, utf8_append, utf8_append, hzulu, hdot,
    utf8_pad_of_lt hmillis, List.append_assoc, List.append_assoc] at hbytes
  have hlength : (utf8 front).length = 19 := by
    have hall := congrArg List.length hbytes
    simp only [List.length_append, List.length_cons, List.length_nil, length_fixedDigits] at hall
    rw [(separators_stampBytes year month day hour minute second millis).1] at hall
    omega
  have hfront := congrArg (List.take 19) hbytes
  rw [List.take_append_of_le_length hlength.ge, List.take_of_length_le hlength.le] at hfront
  rw [hiso, utf8_append, hzulu, hfront]
  rfl

theorem parseDigits_secondBytes (h : Fields year month day hour minute second millis) :
    parseDigits (secondBytes year month day hour minute second) 0 4 = some year ∧
    parseDigits (secondBytes year month day hour minute second) 5 2 = some month ∧
    parseDigits (secondBytes year month day hour minute second) 8 2 = some day ∧
    parseDigits (secondBytes year month day hour minute second) 11 2 = some hour ∧
    parseDigits (secondBytes year month day hour minute second) 14 2 = some minute ∧
    parseDigits (secondBytes year month day hour minute second) 17 2 = some second := by
  refine ⟨?_, ?_, ?_, ?_, ?_, ?_⟩
  · exact parseDigits_of_drop rfl h.year (by decide) (Nat.zero_le _)
  · exact parseDigits_of_drop rfl h.month (by decide) (by simp [secondBytes])
  · exact parseDigits_of_drop rfl h.day (by decide) (by simp [secondBytes])
  · exact parseDigits_of_drop rfl h.hour (by decide) (by simp [secondBytes])
  · exact parseDigits_of_drop rfl h.minute (by decide) (by simp [secondBytes])
  · exact parseDigits_of_drop rfl h.second (by decide) (by simp [secondBytes])

theorem separators_secondBytes (year month day hour minute second : Nat) :
    (secondBytes year month day hour minute second).length = 20 ∧
    (secondBytes year month day hour minute second)[4]? = some (byte '-') ∧
    (secondBytes year month day hour minute second)[7]? = some (byte '-') ∧
    (secondBytes year month day hour minute second)[10]? = some (byte 'T') ∧
    (secondBytes year month day hour minute second)[13]? = some (byte ':') ∧
    (secondBytes year month day hour minute second)[16]? = some (byte ':') ∧
    (secondBytes year month day hour minute second)[19]? = some (byte 'Z') :=
  ⟨rfl, rfl, rfl, rfl, rfl, rfl, rfl⟩

/-- A time is a date-time of the calendar. -/
theorem isJsonSchemaDateTime_iso8601Utc (h : epochMs < year10000Ms) :
    isJsonSchemaDateTime (iso8601Utc epochMs) = true := by
  obtain ⟨year, month, day, hour, minute, second, millis, hstamp⟩ := exists_stamp h
  obtain ⟨hyear, hmonth, hday, hhour, hminute, hsecond⟩ :=
    parseDigits_secondBytes hstamp.fields
  obtain ⟨hlength, h4, h7, h10, h13, h16, h19⟩ :=
    separators_secondBytes year month day hour minute second
  have hseparators : hasSeparators (secondBytes year month day hour minute second) = true := by
    rw [hasSeparators, hlength, h4, h7, h10, h13, h16]
    decide
  have hfraction : skipFraction (secondBytes year month day hour minute second) = some 19 := by
    rw [skipFraction, h19]
    rfl
  have hoffset : isOffset (secondBytes year month day hour minute second) 19 = true := by
    rw [isOffset, hlength, h19]
    rfl
  simp only [isJsonSchemaDateTime, utf8_iso8601Utc h hstamp, hseparators, hyear, hmonth, hday,
    hhour, hminute, hsecond, hstamp.inRange, hfraction, hoffset]
  rfl

/-- **A time denotes the second of its instant.** -/
theorem parseLogicalStart_iso8601Utc (h : epochMs < year10000Ms) :
    parseLogicalStart (iso8601Utc epochMs) = .ok (epochMs / 1000 * 1000) := by
  obtain ⟨year, month, day, hour, minute, second, millis, hstamp⟩ := exists_stamp h
  obtain ⟨hyear, hmonth, hday, hhour, hminute, hsecond⟩ :=
    parseDigits_secondBytes hstamp.fields
  obtain ⟨hlength, h4, h7, h10, h13, h16, h19⟩ :=
    separators_secondBytes year month day hour minute second
  have hinstant : civilInstantMs year month day hour minute second 0 =
      some ((epochMs / 1000 * 1000 : Nat) : Int) := by
    have hexact := hstamp.instant
    have hmillis := hstamp.fields.millis
    rw [civilInstantMs] at hexact ⊢
    split at hexact
    case isFalse => cases hexact
    case isTrue hdate =>
      rw [if_pos hdate]
      have hms := Option.some.inj hexact
      refine congrArg some ?_
      omega
  rw [parseLogicalStart, unit_bind_eq_ok, ensure_eq_ok, utf8_iso8601Utc h hstamp]
  simp only [expect_bind_eq_ok, unit_bind_eq_ok, ensure_eq_ok]
  refine ⟨?_, ?_, year, hyear, month, hmonth, day, hday, hour, hhour, minute, hminute, second,
    hsecond, hstamp.isDate, hstamp.isTimeOfDay, _, hinstant, ?_⟩
  · rw [hlength, h4, h7, h10]
    decide
  · rw [h13, h16, h19]
    decide
  · exact congrArg Except.ok (Int.toNat_natCast _)

/-! ## The chronology -/

variable {a b : Nat}

/-- The service sees two instants as the project does: their times are date-times of the calendar,
denote them in their order, and denote what the scenario's instants denote. -/
structure KeepsChronology (a b : Nat) : Prop where
  dateTimes : isJsonSchemaDateTime (iso8601Utc a) = true ∧
    isJsonSchemaDateTime (iso8601Utc b) = true
  order : ∃ first second, parseLogicalStart (iso8601Utc a) = .ok first ∧
    parseLogicalStart (iso8601Utc b) = .ok second ∧ first < second
  agrees : ∀ ms ∈ [a, b], ∃ instant, parseLogicalStart (iso8601Utc ms) = .ok instant ∧
    scenarioInstantMs (formatRfc3339 ms) = .ok instant

theorem agrees_iff (h : a < year10000Ms) :
    (∃ instant, parseLogicalStart (iso8601Utc a) = .ok instant ∧
      scenarioInstantMs (formatRfc3339 a) = .ok instant) ↔ 1000 ∣ a := by
  rw [parseLogicalStart_iso8601Utc h, scenarioInstantMs_format h]
  constructor
  · rintro ⟨instant, hsecond, hexact⟩
    rw [Except.ok.injEq] at hsecond hexact
    omega
  · intro hwhole
    exact ⟨a, by rw [Nat.div_mul_cancel hwhole], rfl⟩

/-- **Times for the memory service** are date-times of the calendar and are ordered as the seconds
of their instants; the service sees two instants as the project does exactly if both are whole
seconds. -/
theorem keepsChronology_iff (hlt : a < b) (h : b < year10000Ms) :
    (isJsonSchemaDateTime (iso8601Utc a) = true ∧ isJsonSchemaDateTime (iso8601Utc b) = true) ∧
      ((∃ first second, parseLogicalStart (iso8601Utc a) = .ok first ∧
        parseLogicalStart (iso8601Utc b) = .ok second ∧ first < second) ↔
          a / 1000 < b / 1000) ∧
      (KeepsChronology a b ↔ 1000 ∣ a ∧ 1000 ∣ b) := by
  have ha := hlt.trans h
  have hdateTimes := And.intro (isJsonSchemaDateTime_iso8601Utc ha)
    (isJsonSchemaDateTime_iso8601Utc h)
  have horder : (∃ first second, parseLogicalStart (iso8601Utc a) = .ok first ∧
      parseLogicalStart (iso8601Utc b) = .ok second ∧ first < second) ↔ a / 1000 < b / 1000 := by
    rw [parseLogicalStart_iso8601Utc ha, parseLogicalStart_iso8601Utc h]
    constructor
    · rintro ⟨first, second, hfirst, hsecond, hless⟩
      rw [Except.ok.injEq] at hfirst hsecond
      omega
    · intro hless
      exact ⟨_, _, rfl, rfl, Nat.mul_lt_mul_of_pos_right hless (by decide)⟩
  refine ⟨hdateTimes, horder, fun hkeeps ↦ ?_, ?_⟩
  · exact ⟨(agrees_iff ha).mp (hkeeps.agrees a List.mem_cons_self),
      (agrees_iff h).mp (hkeeps.agrees b (List.mem_cons_of_mem _ List.mem_cons_self))⟩
  · rintro ⟨hwholeA, hwholeB⟩
    refine ⟨hdateTimes, horder.mpr (by omega), fun ms hms ↦ ?_⟩
    rcases List.mem_cons.mp hms with rfl | hms
    · exact (agrees_iff ha).mpr hwholeA
    · rw [List.mem_singleton.mp hms]
      exact (agrees_iff h).mpr hwholeB

theorem keepsChronology_iff_seconds :
    (isJsonSchemaDateTime (iso8601Utc 1000) = true ∧
        isJsonSchemaDateTime (iso8601Utc 2000) = true) ∧
      ((∃ first second, parseLogicalStart (iso8601Utc 1000) = .ok first ∧
        parseLogicalStart (iso8601Utc 2000) = .ok second ∧ first < second) ↔
          1000 / 1000 < 2000 / 1000) ∧
      (KeepsChronology 1000 2000 ↔ 1000 ∣ 1000 ∧ 1000 ∣ 2000) :=
  keepsChronology_iff (by decide) (by decide)

/-- Two instants in one second are simultaneous for the service. -/
theorem simultaneous_in_second :
    iso8601Utc 1767225600100 = iso8601Utc 1767225600900 ∧
      ¬ KeepsChronology 1767225600100 1767225600900 := by
  refine ⟨by decide +kernel, fun hkeeps ↦ ?_⟩
  obtain ⟨first, second, hfirst, hsecond, hless⟩ := hkeeps.order
  rw [show iso8601Utc 1767225600100 = iso8601Utc 1767225600900 by decide +kernel, hsecond] at hfirst
  cases hfirst
  exact absurd hless (Nat.lt_irrefl _)

end Aivtuber.Hindsight
