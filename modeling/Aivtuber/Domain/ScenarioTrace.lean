import Aivtuber.Domain.Scenario

/-!
# The traces of scenarios

A scenario that validates generates a trace: no draw is endless, the actor ids and the event
numbers fit their words, and the slots of a phase keep its instants apart.  What the validator
does not bound is where the stream ends on the calendar.  An event from the year 10000 on gets
an instant that is not read back, and one beyond the 64-bit milliseconds none at all.  So a
trace is well formed exactly when its seed schedules every event before that year
(`generated_iff`).
-/

open Aivtuber.Check
open Aivtuber.Text
open Saturating (u64Max)

namespace Aivtuber

/-- The first instant of the year 10000. -/
def year10000Ms : Nat := 253402300800000

/-! ## Instants are read back -/

section Instant

variable {epochMs : Nat}

/-- The bytes of an instant whose fields have their widths. -/
def stampBytes (year month day hour minute second millis : Nat) : List UInt8 :=
  fixedDigits 4 year ++ (byte '-' :: (fixedDigits 2 month ++ (byte '-' :: (fixedDigits 2 day ++
    (byte 'T' :: (fixedDigits 2 hour ++ (byte ':' :: (fixedDigits 2 minute ++
      (byte ':' :: (fixedDigits 2 second ++ (byte '.' :: (fixedDigits 3 millis ++
        [byte 'Z']))))))))))))

/-- The fields of an instant, each below the power of ten of its width. -/
structure Fields (year month day hour minute second millis : Nat) : Prop where
  year : year < 10 ^ 4
  month : month < 10 ^ 2
  day : day < 10 ^ 2
  hour : hour < 10 ^ 2
  minute : minute < 10 ^ 2
  second : second < 10 ^ 2
  millis : millis < 10 ^ 3

variable {year month day hour minute second millis : Nat}

theorem parseDigits_stampBytes (h : Fields year month day hour minute second millis) :
    parseDigits (stampBytes year month day hour minute second millis) 0 4 = some year ∧
    parseDigits (stampBytes year month day hour minute second millis) 5 2 = some month ∧
    parseDigits (stampBytes year month day hour minute second millis) 8 2 = some day ∧
    parseDigits (stampBytes year month day hour minute second millis) 11 2 = some hour ∧
    parseDigits (stampBytes year month day hour minute second millis) 14 2 = some minute ∧
    parseDigits (stampBytes year month day hour minute second millis) 17 2 = some second ∧
    parseDigits (stampBytes year month day hour minute second millis) 20 3 = some millis := by
  refine ⟨?_, ?_, ?_, ?_, ?_, ?_, ?_⟩
  · exact parseDigits_of_drop rfl h.year (by decide) (Nat.zero_le _)
  · exact parseDigits_of_drop rfl h.month (by decide) (by simp [stampBytes])
  · exact parseDigits_of_drop rfl h.day (by decide) (by simp [stampBytes])
  · exact parseDigits_of_drop rfl h.hour (by decide) (by simp [stampBytes])
  · exact parseDigits_of_drop rfl h.minute (by decide) (by simp [stampBytes])
  · exact parseDigits_of_drop rfl h.second (by decide) (by simp [stampBytes])
  · exact parseDigits_of_drop rfl h.millis (by decide) (by simp [stampBytes])

theorem separators_stampBytes (year month day hour minute second millis : Nat) :
    (stampBytes year month day hour minute second millis).length = 24 ∧
    (stampBytes year month day hour minute second millis)[4]? = some (byte '-') ∧
    (stampBytes year month day hour minute second millis)[7]? = some (byte '-') ∧
    (stampBytes year month day hour minute second millis)[10]? = some (byte 'T') ∧
    (stampBytes year month day hour minute second millis)[13]? = some (byte ':') ∧
    (stampBytes year month day hour minute second millis)[16]? = some (byte ':') ∧
    (stampBytes year month day hour minute second millis)[19]? = some (byte '.') ∧
    (stampBytes year month day hour minute second millis)[23]? = some (byte 'Z') :=
  ⟨rfl, rfl, rfl, rfl, rfl, rfl, rfl, rfl⟩

theorem skipFraction_stampBytes :
    skipFraction (stampBytes year month day hour minute second millis) = some 23 := by
  have hdrop : (stampBytes year month day hour minute second millis).drop 20 =
      fixedDigits 3 millis ++ [byte 'Z'] := rfl
  have hdigits : ((fixedDigits 3 millis ++ [byte 'Z']).takeWhile isDigit).length = 3 := by
    rw [List.takeWhile_append_of_pos
      (List.all_eq_true.mp (all_isDigit_fixedDigits 3 millis))]
    simp [show isDigit (byte 'Z') = false by decide]
  have hdot : (stampBytes year month day hour minute second millis)[19]? = some (byte '.') := rfl
  rw [skipFraction, if_pos hdot, hdrop, hdigits]
  rfl

theorem utf8_formatRfc3339 {year month day : Int}
    (hdate : Calendar.civilFromDays (epochMs / 1000 / 86400 : Nat) = (year, month, day)) :
    utf8 (formatRfc3339 epochMs) =
      utf8 (pad 4 year.toNat) ++ (byte '-' :: (utf8 (pad 2 month.toNat) ++ (byte '-' ::
        (utf8 (pad 2 day.toNat) ++ (byte 'T' ::
          (utf8 (pad 2 (epochMs / 1000 % 86400 / 3600)) ++ (byte ':' ::
            (utf8 (pad 2 (epochMs / 1000 % 86400 % 3600 / 60)) ++ (byte ':' ::
              (utf8 (pad 2 (epochMs / 1000 % 86400 % 60)) ++ (byte '.' ::
                (utf8 (pad 3 (epochMs % 1000)) ++ [byte 'Z'])))))))))))) := by
  have hdash : utf8 "-" = [byte '-'] := by decide +kernel
  have htime : utf8 "T" = [byte 'T'] := by decide +kernel
  have hcolon : utf8 ":" = [byte ':'] := by decide +kernel
  have hdot : utf8 "." = [byte '.'] := by decide +kernel
  have hzulu : utf8 "Z" = [byte 'Z'] := by decide +kernel
  rw [formatRfc3339]
  simp only [hdate, utf8_append, hdash, htime, hcolon, hdot, hzulu, List.append_assoc,
    List.cons_append, List.nil_append]

/-- The first day of the year 10000. -/
theorem year_lt_iff {days : Nat} {year month day : Int}
    (hdate : Calendar.civilFromDays days = (year, month, day)) : year ≤ 9999 ↔ days < 2932897 := by
  have hfirst : Calendar.daysFromCivil (9999 + 1) 1 1 = 2932897 := by decide
  rw [Calendar.civilFromDays_year_le_iff hdate, hfirst]
  omega

/-- The date of a day from 1970 on is one of natural numbers. -/
theorem exists_nat_date (days : Nat) : ∃ year month day : Nat,
    Calendar.civilFromDays days = ((year : Int), (month : Int), (day : Int)) ∧
      Calendar.Valid year month day ∧ Calendar.daysFromCivil year month day = days := by
  obtain ⟨⟨year, month, day⟩, hdate⟩ : ∃ date, Calendar.civilFromDays days = date := ⟨_, rfl⟩
  obtain ⟨hvalid, hdays⟩ := Calendar.daysFromCivil_civilFromDays hdate
  have hyear : ¬year ≤ -1 := by
    have hfirst : Calendar.daysFromCivil (-1 + 1) 1 1 = -719528 := by decide
    rw [Calendar.civilFromDays_year_le_iff hdate, hfirst]
    omega
  obtain ⟨y, rfl⟩ := Int.eq_ofNat_of_zero_le (by omega : 0 ≤ year)
  obtain ⟨m, rfl⟩ := Int.eq_ofNat_of_zero_le (by have := hvalid.ofMonth; omega : 0 ≤ month)
  obtain ⟨d, rfl⟩ := Int.eq_ofNat_of_zero_le (by have := hvalid.ofDay; omega : 0 ≤ day)
  exact ⟨y, m, d, hdate, hvalid, hdays⟩

theorem isLeapYear_iff (year : Nat) : isLeapYear year = true ↔ Calendar.IsLeap year := by
  simp only [isLeapYear, Calendar.IsLeap, Bool.and_eq_true, Bool.or_eq_true, Bool.not_eq_true',
    decide_eq_true_eq, decide_eq_false_iff_not]
  omega

theorem monthLength_eq {year month : Nat} (h : 1 ≤ month ∧ month ≤ 12) :
    Calendar.monthLength year month = daysInMonth year month := by
  obtain ⟨hlow, hhigh⟩ := h
  interval_cases month
  case «2» =>
    rw [Calendar.monthLength, if_pos (by decide), daysInMonth]
    by_cases hleap : Calendar.IsLeap year
    · rw [if_pos hleap, if_pos ((isLeapYear_iff year).mpr hleap)]
      rfl
    · rw [if_neg hleap, if_neg (mt (isLeapYear_iff year).mp hleap)]
      rfl
  all_goals rfl

theorem monthLength_le (year month : Int) : Calendar.monthLength year month ≤ 31 := by
  rw [Calendar.monthLength]
  split_ifs <;> decide

/-- The fields of an instant before the year 10000. -/
structure Stamp (epochMs year month day hour minute second millis : Nat) : Prop where
  bytes : utf8 (formatRfc3339 epochMs) = stampBytes year month day hour minute second millis
  fields : Fields year month day hour minute second millis
  isDate : isDate month day = true
  isTimeOfDay : isTimeOfDay hour minute second = true
  inRange : inRange year month day hour minute second = true
  instant : civilInstantMs year month day hour minute second millis = some (epochMs : Int)

theorem exists_stamp (h : epochMs < year10000Ms) : ∃ year month day hour minute second millis,
    Stamp epochMs year month day hour minute second millis := by
  obtain ⟨year, month, day, hdate, hvalid, hdays⟩ := exists_nat_date (epochMs / 1000 / 86400)
  have hyear : year ≤ 9999 := by
    have hbefore : epochMs / 1000 / 86400 < 2932897 := by
      unfold year10000Ms at h
      omega
    exact_mod_cast (year_lt_iff hdate).mpr hbefore
  have hmonth : 1 ≤ month ∧ month ≤ 12 := by exact_mod_cast hvalid.ofMonth
  have hday : 1 ≤ day ∧ day ≤ daysInMonth year month := by
    have hofDay := hvalid.ofDay
    rw [monthLength_eq hmonth] at hofDay
    exact_mod_cast hofDay
  have hlength : daysInMonth year month ≤ 31 := by
    have hle := monthLength_le year month
    rw [monthLength_eq hmonth] at hle
    exact_mod_cast hle
  have hfields : Fields year month day (epochMs / 1000 % 86400 / 3600)
      (epochMs / 1000 % 86400 % 3600 / 60) (epochMs / 1000 % 86400 % 60) (epochMs % 1000) := by
    constructor <;> omega
  refine ⟨year, month, day, _, _, _, _, ?_, hfields, ?_, ?_, ?_, ?_⟩
  · rw [utf8_formatRfc3339 hdate, Int.toNat_natCast, Int.toNat_natCast, Int.toNat_natCast,
      utf8_pad_of_lt hfields.year, utf8_pad_of_lt hfields.month, utf8_pad_of_lt hfields.day,
      utf8_pad_of_lt hfields.hour, utf8_pad_of_lt hfields.minute, utf8_pad_of_lt hfields.second,
      utf8_pad_of_lt hfields.millis, stampBytes]
  · simp only [isDate, Bool.and_eq_true, decide_eq_true_eq]
    omega
  · simp only [isTimeOfDay, Bool.and_eq_true, decide_eq_true_eq]
    omega
  · simp only [inRange, Bool.not_eq_true', Bool.or_eq_false_iff, Bool.not_eq_false', Bool.and_eq_true,
      decide_eq_true_eq, decide_eq_false_iff_not]
    omega
  · rw [civilInstantMs, hdays, if_pos hdate]
    congr 1
    omega

/-- **An instant before the year 10000 is read back from its text**. -/
theorem scenarioInstantMs_format (h : epochMs < year10000Ms) :
    scenarioInstantMs (formatRfc3339 epochMs) = .ok epochMs := by
  obtain ⟨year, month, day, hour, minute, second, millis, hstamp⟩ := exists_stamp h
  obtain ⟨hyear, hmonth, hday, hhour, hminute, hsecond, hmillis⟩ :=
    parseDigits_stampBytes hstamp.fields
  obtain ⟨hlength, h4, h7, h10, h13, h16, h19, h23⟩ :=
    separators_stampBytes year month day hour minute second millis
  rw [scenarioInstantMs, unit_bind_eq_ok, ensure_eq_ok, hstamp.bytes]
  simp only [expect_bind_eq_ok, unit_bind_eq_ok, ensure_eq_ok]
  refine ⟨?_, year, hyear, month, hmonth, day, hday, hour, hhour, minute, hminute, second, hsecond,
    millis, hmillis, ?_, epochMs, hstamp.instant, ?_⟩
  · rw [hlength, h4, h7, h10, h13, h16, h19, h23]
    decide
  · rw [hstamp.isDate, hstamp.isTimeOfDay]
    rfl
  · exact congrArg Except.ok (Int.toNat_natCast epochMs)

theorem isJsonSchemaDateTime_format (h : epochMs < year10000Ms) :
    isJsonSchemaDateTime (formatRfc3339 epochMs) = true := by
  obtain ⟨year, month, day, hour, minute, second, millis, hstamp⟩ := exists_stamp h
  obtain ⟨hyear, hmonth, hday, hhour, hminute, hsecond, -⟩ :=
    parseDigits_stampBytes hstamp.fields
  obtain ⟨hlength, h4, h7, h10, h13, h16, -, h23⟩ :=
    separators_stampBytes year month day hour minute second millis
  have hseparators :
      hasSeparators (stampBytes year month day hour minute second millis) = true := by
    rw [hasSeparators, hlength, h4, h7, h10, h13, h16]
    decide
  have hoffset : isOffset (stampBytes year month day hour minute second millis) 23 = true := by
    rw [isOffset, hlength, h23]
    rfl
  simp only [isJsonSchemaDateTime, hstamp.bytes, hseparators, hyear, hmonth, hday, hhour, hminute,
    hsecond, hstamp.inRange, skipFraction_stampBytes, hoffset]
  rfl

/-- From the year 10000 on an instant has no text that is read back. -/
theorem lt_of_scenarioInstantMs {instant : Nat}
    (h : scenarioInstantMs (formatRfc3339 epochMs) = .ok instant) : epochMs < year10000Ms := by
  by_contra hlate
  obtain ⟨year, month, day, hdate, -, -⟩ := exists_nat_date (epochMs / 1000 / 86400)
  have hyear : 10 ^ 4 ≤ year := by
    have hbefore : ¬epochMs / 1000 / 86400 < 2932897 := by
      unfold year10000Ms at hlate
      omega
    have hnot : ¬(year : Int) ≤ 9999 := mt (year_lt_iff hdate).mp hbefore
    omega
  have hwide : 4 < (utf8 (pad 4 year)).length := lt_length_pad (by decide) hyear
  rw [scenarioInstantMs, unit_bind_eq_ok, ensure_eq_ok] at h
  have hlength : (utf8 (formatRfc3339 epochMs)).length = 24 := by
    have hconditions := h.1
    simp only [Bool.and_eq_true, decide_eq_true_eq] at hconditions
    omega
  rw [utf8_formatRfc3339 hdate, Int.toNat_natCast, Int.toNat_natCast, Int.toNat_natCast] at hlength
  simp only [List.length_append, List.length_cons, List.length_nil] at hlength
  have hmonth := le_length_pad 2 month
  have hday := le_length_pad 2 day
  have hhour := le_length_pad 2 (epochMs / 1000 % 86400 / 3600)
  have hminute := le_length_pad 2 (epochMs / 1000 % 86400 % 3600 / 60)
  have hsecond := le_length_pad 2 (epochMs / 1000 % 86400 % 60)
  have hmillis := le_length_pad 3 (epochMs % 1000)
  omega

end Instant

/-! ## When the events are scheduled -/

/-- Evenly spread base offsets. -/
def spreadOffsets (durationMs count : Nat) : List Nat :=
  (List.range count).map fun ordinal ↦ ordinal * durationMs / count

/-- The offsets that the events of a phase draw, each within its slot. -/
def phaseOffsets (phase : ScenarioPhase) : List Nat → SplitMix64 → List Nat
  | [], _ => []
  | base :: bases, rng =>
    match drawEvent phase (slotOf phase base bases.head?) rng with
    | some (draws, rng) => (base + draws.jitter) :: phaseOffsets phase bases rng
    | none => []

/-- The offsets of the events of a phase, which its seed decides. -/
def offsetsOf (arith : FloatArith) (scenario : StreamScenario) (index : Nat)
    (phase : ScenarioPhase) : List Nat :=
  match phase.eventCount arith with
  | .ok count =>
    phaseOffsets phase (spreadOffsets phase.durationMs count) ⟨phaseSeed scenario index⟩
  | .error _ => []

/-- The instants of the events of phases that start at `origin`. -/
def scheduledFrom (arith : FloatArith) (scenario : StreamScenario) :
    Nat → Nat → List ScenarioPhase → List Nat
  | _, _, [] => []
  | index, origin, phase :: phases =>
    (offsetsOf arith scenario index phase).map (origin + ·) ++
      scheduledFrom arith scenario (index + 1) (origin + phase.durationMs) phases

/-- The instants of the events of a scenario. -/
def scheduled (arith : FloatArith) (scenario : StreamScenario) : List Nat :=
  match parseLogicalStart scenario.logicalStart with
  | .ok startMs => scheduledFrom arith scenario 0 startMs scenario.phases
  | .error _ => []

section Schedule

variable {arith : FloatArith} {scenario : StreamScenario} {phase : ScenarioPhase}

/-- The draws of an event end, and stay within their bounds. -/
theorem drawEvent_eq_some (phase : ScenarioPhase) {slot : Nat} (hslot : slot < 2 ^ 64)
    (rng : SplitMix64) : ∃ draws next, drawEvent phase slot rng = some (draws, next) ∧
      (0 < slot → draws.jitter < slot) ∧
      (0 < phase.distinctActors.toNat → draws.sampled < phase.distinctActors.toNat) := by
  have hword : ∀ n : UInt32, n.toNat < 2 ^ 64 := fun n ↦ n.toNat_lt.trans (by decide)
  obtain ⟨jitter, rng₁, hjitter, hjitter_lt⟩ :=
    rng.unit.2.unit.2.unit.2.below_eq_some hslot
  obtain ⟨sampled, rng₂, hsampled, hsampled_lt⟩ :=
    rng₁.unit.2.below_eq_some (hword phase.distinctActors)
  obtain ⟨topic, rng₃, htopic, -⟩ := rng₂.below_eq_some (hword phase.distinctTopics)
  have hintents : SemanticBand.axisIntents.length < 2 ^ 64 := by decide
  obtain ⟨intent, rng₄, hintent, -⟩ := rng₃.below_eq_some hintents
  have hdraw : drawEvent phase slot rng = some
      ({ kind := .finite rng.unit.1, band := .finite rng.unit.2.unit.1
         priority := .finite rng.unit.2.unit.2.unit.1, jitter, sampled, topic, intent }, rng₄) := by
    rw [drawEvent]
    refine Option.bind_eq_some_iff.mpr ⟨_, hjitter, ?_⟩
    refine Option.bind_eq_some_iff.mpr ⟨_, hsampled, ?_⟩
    refine Option.bind_eq_some_iff.mpr ⟨_, htopic, ?_⟩
    exact Option.bind_eq_some_iff.mpr ⟨_, hintent, rfl⟩
  exact ⟨_, _, hdraw, hjitter_lt, hsampled_lt⟩

/-- Where the slot of an event ends. -/
theorem slot_end {base end_ : Nat} {bases : List Nat}
    (h : (base :: bases ++ [end_]).Pairwise (· < ·)) :
    base < bases.head?.getD end_ ∧ bases.head?.getD end_ ≤ end_ := by
  rw [List.cons_append, List.pairwise_cons] at h
  obtain ⟨hbase, hbases⟩ := h
  cases bases with
  | nil => exact ⟨hbase end_ (List.mem_singleton_self end_), Nat.le_refl end_⟩
  | cons next bases =>
    rw [List.cons_append, List.pairwise_cons] at hbases
    exact ⟨hbase next List.mem_cons_self,
      (hbases.1 end_ (List.mem_append_right bases (List.mem_singleton_self end_))).le⟩

/-- The offsets of a phase keep to the slots of their events. -/
theorem phaseOffsets_spec {bases : List Nat} {rng : SplitMix64}
    (hbases : (bases ++ [phase.durationMs]).Pairwise (· < ·)) (hduration : phase.durationMs < 2 ^ 64) :
    (phaseOffsets phase bases rng).length = bases.length ∧
      (phaseOffsets phase bases rng).Pairwise (· < ·) ∧
      ∀ offset ∈ phaseOffsets phase bases rng,
        bases.head?.getD phase.durationMs ≤ offset ∧ offset < phase.durationMs := by
  induction bases generalizing rng with
  | nil => simp [phaseOffsets]
  | cons base bases ih =>
    obtain ⟨hnext, hend⟩ := slot_end hbases
    have hbases := (List.pairwise_cons.mp hbases).2
    have hslot : slotOf phase base bases.head? = bases.head?.getD phase.durationMs - base := by
      rw [slotOf]
      omega
    obtain ⟨draws, next, hdraw, hjitter, -⟩ := drawEvent_eq_some phase
      (by rw [hslot]; omega : slotOf phase base bases.head? < 2 ^ 64) rng
    have hoffset : base + draws.jitter < bases.head?.getD phase.durationMs := by
      have hlt := hjitter (by rw [hslot]; omega)
      rw [hslot] at hlt
      omega
    obtain ⟨hlength, hincreasing, hwithin⟩ := @ih next hbases
    rw [phaseOffsets, hdraw]
    refine ⟨congrArg Nat.succ hlength, List.pairwise_cons.mpr ⟨?_, hincreasing⟩, ?_⟩
    · intro offset hmem
      have := hwithin offset hmem
      omega
    · rintro offset (_ | ⟨_, hmem⟩)
      · exact ⟨Nat.le_add_right base draws.jitter, by omega⟩
      · have := hwithin offset hmem
        exact ⟨by rw [List.head?_cons, Option.getD_some]; omega, this.2⟩

/-- The slots of a phase are not empty: it has no more events than milliseconds. -/
theorem pairwise_spreadOffsets {durationMs count : Nat} (h : count ≤ durationMs) :
    (spreadOffsets durationMs count ++ [durationMs]).Pairwise (· < ·) := by
  rcases Nat.eq_zero_or_pos count with rfl | hpos
  · simp [spreadOffsets]
  · have hlast : spreadOffsets durationMs count ++ [durationMs] =
        (List.range (count + 1)).map fun ordinal ↦ ordinal * durationMs / count := by
      rw [List.range_succ, List.map_append, List.map_singleton, Nat.mul_div_cancel_left _ hpos]
      rfl
    have hstep : StrictMono fun ordinal ↦ ordinal * durationMs / count := by
      apply strictMono_nat_of_lt_succ
      intro ordinal
      rw [Nat.succ_mul, Nat.lt_iff_add_one_le, Nat.le_div_iff_mul_le hpos, Nat.add_mul, Nat.one_mul]
      have := Nat.div_mul_le_self (ordinal * durationMs) count
      omega
    rw [hlast]
    exact List.pairwise_lt_range.map _ fun _ _ hlt ↦ hstep hlt

end Schedule

/-! ## What is generated -/

section Generate

variable {arith : FloatArith} {scenario : StreamScenario} {phase : ScenarioPhase}
  {stretch : Stretch}

theorem fits_eq_ok {bits n m : Nat} : fits bits n = .ok m ↔ n < 2 ^ bits ∧ m = n := by
  rw [fits]
  split <;> simp_all [eq_comm]

theorem mem_of_pickFrom {κ : Type} {key : κ} {threshold : Float64} {last : Option κ}
    {weights : List (κ × Float64)} (h : pickFrom arith threshold last weights = some key) :
    last = some key ∨ key ∈ weights.map Prod.fst := by
  induction weights generalizing threshold last with
  | nil => exact Or.inl h
  | cons weight weights ih =>
    obtain ⟨first, weight⟩ := weight
    rw [pickFrom] at h
    split at h
    · cases h
      exact Or.inr List.mem_cons_self
    · rcases ih h with hlast | hmem
      · cases hlast
        exact Or.inr List.mem_cons_self
      · exact Or.inr (List.mem_cons_of_mem first hmem)

theorem exists_pickFrom {κ : Type} (threshold : Float64) {last : Option κ}
    {weights : List (κ × Float64)} (h : last.isSome ∨ weights ≠ []) :
    ∃ key, pickFrom arith threshold last weights = some key := by
  induction weights generalizing threshold last with
  | nil =>
    rw [pickFrom]
    exact Option.isSome_iff_exists.mp (h.resolve_right fun hne ↦ hne rfl)
  | cons weight weights ih =>
    obtain ⟨first, weight⟩ := weight
    rw [pickFrom]
    split
    · exact ⟨first, rfl⟩
    · exact ih _ (Or.inl rfl)

theorem exists_pickWeighted {κ : Type} (arith : FloatArith) (unit : Float64)
    {weights : List (κ × Float64)} (h : weights ≠ []) :
    ∃ key, pickWeighted arith unit weights = some key := exists_pickFrom _ (Or.inr h)

/-- The event is one of the kinds of its phase, at an instant of its own. -/
def Generated (scenario : StreamScenario) (phase : ScenarioPhase) (sequence instant : Nat)
    (entry : ScenarioEvent) : Prop :=
  ∃ actor kind priority payload, kind ∈ phase.kindMix.map Prod.fst ∧
    entry.event = scenarioEnvelope scenario sequence instant actor kind priority payload

theorem generateEvent_eq_ok {ordinal base : Nat} {next : Option Nat} {state state' : PhaseState}
    {entry : ScenarioEvent}
    (h : generateEvent arith scenario phase stretch ordinal base next state = .ok (entry, state')) :
    ∃ draws, drawEvent phase (slotOf phase base next) state.rng = some (draws, state'.rng) ∧
      Generated scenario phase (state.sequence + 1)
        (stretch.startMs + stretch.phaseStartMs + (base + draws.jitter)) entry ∧
      state'.sequence = state.sequence + 1 := by
  rw [generateEvent, expect_bind_eq_ok] at h
  obtain ⟨⟨draws, rng⟩, hdraws, h⟩ := h
  simp only [bind_eq_ok, expect_eq_ok, fits_eq_ok] at h
  obtain ⟨kind, hkind, band, -, priority, -, _, ⟨-, rfl⟩, _, ⟨-, rfl⟩, _, ⟨-, rfl⟩,
    ⟨actor, nextActor⟩, -, _, ⟨-, rfl⟩, _, ⟨-, rfl⟩, h⟩ := h
  cases h
  refine ⟨draws, hdraws, ⟨actor, kind, priority, _, ?_, rfl⟩, rfl⟩
  exact (mem_of_pickFrom hkind).resolve_left (fun hnone ↦ by cases hnone)

/-- The events of a phase, with the instants that it schedules and numbers in a row. -/
theorem generateEvents_eq_ok {ordinal : Nat} {bases : List Nat} {state state' : PhaseState}
    {events : List ScenarioEvent}
    (h : generateEvents arith scenario phase stretch ordinal bases state = .ok (events, state')) :
    List.Forall₂ (fun instant entry ↦ ∃ sequence, Generated scenario phase sequence instant entry)
        ((phaseOffsets phase bases state.rng).map
          (stretch.startMs + stretch.phaseStartMs + ·)) events ∧
      events.map (·.event.sequence) = List.range' (state.sequence + 1) bases.length ∧
      state'.sequence = state.sequence + bases.length := by
  induction bases generalizing ordinal state events with
  | nil =>
    cases h
    exact ⟨.nil, rfl, rfl⟩
  | cons base bases ih =>
    rw [generateEvents, bind_eq_ok] at h
    obtain ⟨⟨entry, next⟩, hentry, h⟩ := h
    rw [bind_eq_ok] at h
    obtain ⟨⟨rest, last⟩, hrest, h⟩ := h
    cases h
    obtain ⟨draws, hdraws, hgenerated, hsequence⟩ := generateEvent_eq_ok hentry
    obtain ⟨hinstants, hnumbers, hlast⟩ := ih hrest
    rw [phaseOffsets, hdraws, List.map_cons]
    refine ⟨.cons ⟨_, hgenerated⟩ hinstants, ?_, ?_⟩
    · obtain ⟨actor, kind, priority, payload, -, heq⟩ := hgenerated
      rw [List.map_cons, hnumbers, heq, hsequence, List.length_cons, List.range'_succ]
      rfl
    · rw [hlast, hsequence, List.length_cons]
      omega

/-! ### No event fails -/

/-- What the validator has seen to in a phase. -/
structure Sound (phase : ScenarioPhase) : Prop where
  kinds : phase.kindMix ≠ []
  bands : phase.semanticMix ≠ []
  priorities : phase.priorityMix ≠ []
  unprivileged : EventKind.operatorCommand ∉ phase.kindMix.map Prod.fst
  actors : 0 < phase.distinctActors.toNat

/-- The numbers of a phase are in range. -/
structure Stretch.InRange (stretch : Stretch) (phase : ScenarioPhase) : Prop where
  actorEnd : stretch.actorEnd = stretch.actorBase + phase.distinctActors.toNat
  actorEnd_le : stretch.actorEnd ≤ u32Max
  count : stretch.count ≤ maxTraceEvents
  quota : stretch.quota ≤ stretch.count

theorem exists_repeatsAt (h : stretch.InRange phase) {ordinal : Nat}
    (hordinal : ordinal < stretch.count) :
    ∃ repeated, repeatsAt ordinal stretch.count stretch.quota = .ok repeated := by
  have hproduct : (ordinal + 1) * stretch.quota ≤ maxTraceEvents * maxTraceEvents :=
    Nat.mul_le_mul (hordinal.trans_le h.count) (h.quota.trans h.count)
  have hfits : (ordinal + 1) * stretch.quota < 2 ^ 64 := by
    unfold maxTraceEvents at hproduct
    omega
  rw [repeatsAt]
  split
  · exact ⟨false, rfl⟩
  · exact ⟨_, bind_eq_ok.mpr ⟨_, fits_eq_ok.mpr ⟨hfits, rfl⟩, rfl⟩⟩

theorem exists_chooseActor (h : stretch.InRange phase) {ordinal : Nat}
    (hordinal : ordinal < stretch.count) (sampled : Nat) {state : PhaseState}
    (hnext : state.nextActor ≤ stretch.actorEnd) :
    ∃ actor next, chooseActor stretch ordinal sampled state = .ok (actor, next) ∧
      next ≤ stretch.actorEnd := by
  have hfresh : ∃ actor next,
      (if state.nextActor < stretch.actorEnd then do
        let next ← fits 32 (state.nextActor + 1)
        pure (state.nextActor, next)
      else
        pure (sampled, state.nextActor) : Except GenerationFault (Nat × Nat)) = .ok (actor, next) ∧
      next ≤ stretch.actorEnd := by
    split
    case isTrue hlt =>
      have hfits : state.nextActor + 1 < 2 ^ 32 := by
        have := h.actorEnd_le
        unfold u32Max at this
        omega
      exact ⟨_, _, bind_eq_ok.mpr ⟨_, fits_eq_ok.mpr ⟨hfits, rfl⟩, rfl⟩, hlt⟩
    case isFalse => exact ⟨_, _, rfl, hnext⟩
  obtain ⟨repeated, hrepeated⟩ := exists_repeatsAt h hordinal
  rw [chooseActor]
  cases hprevious : state.previousActor with
  | none => exact hfresh
  | some previous =>
    simp only [hrepeated]
    cases repeated with
    | true => exact ⟨previous, state.nextActor, rfl, hnext⟩
    | false => exact hfresh

theorem exists_generateEvent (hsound : Sound phase) (h : stretch.InRange phase)
    {ordinal base : Nat} {next : Option Nat} {state : PhaseState} {draws : EventDraws}
    {rng : SplitMix64} (hordinal : ordinal < stretch.count)
    (hdraws : drawEvent phase (slotOf phase base next) state.rng = some (draws, rng))
    (hsampled : draws.sampled < phase.distinctActors.toNat)
    (hnext : state.nextActor ≤ stretch.actorEnd) (hsequence : state.sequence + 1 < 2 ^ 64)
    (hinstant : stretch.startMs + stretch.phaseStartMs + (base + draws.jitter) < 2 ^ 64) :
    ∃ entry state', generateEvent arith scenario phase stretch ordinal base next state =
      .ok (entry, state') ∧ state'.nextActor ≤ stretch.actorEnd := by
  obtain ⟨kind, hkind⟩ := exists_pickWeighted arith draws.kind hsound.kinds
  obtain ⟨band, hband⟩ := exists_pickWeighted arith draws.band hsound.bands
  obtain ⟨priority, hpriority⟩ := exists_pickWeighted arith draws.priority hsound.priorities
  have hmod : draws.sampled % 2 ^ 32 ≤ draws.sampled := Nat.mod_le _ _
  have hactor : stretch.actorBase + draws.sampled % 2 ^ 32 < 2 ^ 32 := by
    have hend := h.actorEnd
    have hle := h.actorEnd_le
    unfold u32Max at hle
    omega
  have hoffset : base + draws.jitter < 2 ^ 64 := by omega
  have horigin : stretch.startMs + stretch.phaseStartMs < 2 ^ 64 := by omega
  obtain ⟨actor, following, hchoose, hfollowing⟩ :=
    exists_chooseActor h hordinal (stretch.actorBase + draws.sampled % 2 ^ 32) hnext
  have hevent : ∃ entry, generateEvent arith scenario phase stretch ordinal base next state =
      .ok (entry, { rng, previousActor := some actor, nextActor := following
                    sequence := state.sequence + 1 }) := by
    simp only [generateEvent, bind_eq_ok, expect_eq_ok, fits_eq_ok]
    exact ⟨_, _, hdraws, kind, hkind, band, hband, priority, hpriority, _, ⟨hoffset, rfl⟩, _,
      ⟨hsequence, rfl⟩, _, ⟨hactor, rfl⟩, _, hchoose, _, ⟨horigin, rfl⟩, _, ⟨hinstant, rfl⟩, rfl⟩
  obtain ⟨entry, hentry⟩ := hevent
  exact ⟨entry, _, hentry, hfollowing⟩

/-- No event of a phase fails that is scheduled within the 64-bit milliseconds. -/
theorem exists_generateEvents (hsound : Sound phase) (h : stretch.InRange phase)
    (hduration : phase.durationMs < 2 ^ 64) {ordinal : Nat} {bases : List Nat}
    {state : PhaseState} (hbases : (bases ++ [phase.durationMs]).Pairwise (· < ·))
    (hcount : ordinal + bases.length = stretch.count)
    (hnext : state.nextActor ≤ stretch.actorEnd)
    (hsequence : state.sequence + bases.length < 2 ^ 64)
    (hinstants : ∀ offset ∈ phaseOffsets phase bases state.rng,
      stretch.startMs + stretch.phaseStartMs + offset < 2 ^ 64) :
    ∃ events state', generateEvents arith scenario phase stretch ordinal bases state =
      .ok (events, state') := by
  induction bases generalizing ordinal state with
  | nil => exact ⟨_, _, rfl⟩
  | cons base bases ih =>
    obtain ⟨-, hend⟩ := slot_end hbases
    have hslot : slotOf phase base bases.head? < 2 ^ 64 := by
      rw [slotOf]
      omega
    obtain ⟨draws, rng, hdraws, -, hsampled⟩ := drawEvent_eq_some phase hslot state.rng
    rw [phaseOffsets, hdraws] at hinstants
    simp only [List.mem_cons, forall_eq_or_imp] at hinstants
    rw [List.length_cons] at hcount hsequence
    obtain ⟨entry, state', hentry, hnext'⟩ := exists_generateEvent hsound h
      (by omega : ordinal < stretch.count) hdraws (hsampled hsound.actors) hnext
      (by omega) hinstants.1
    obtain ⟨draws', hdraws', -, hsequence'⟩ := generateEvent_eq_ok hentry
    rw [hdraws] at hdraws'
    cases hdraws'
    obtain ⟨rest, last, hrest⟩ := ih (List.pairwise_cons.mp hbases).2
      (by omega : ordinal + 1 + bases.length = stretch.count) hnext' (by omega) hinstants.2
    refine ⟨entry :: rest, last, ?_⟩
    rw [generateEvents, bind_eq_ok]
    refine ⟨(entry, state'), hentry, ?_⟩
    rw [bind_eq_ok]
    exact ⟨(rest, last), hrest, rfl⟩

theorem baseOffsets_eq {durationMs count : Nat} (hduration : durationMs < 2 ^ 64)
    (hcount : count ≤ durationMs) :
    baseOffsets durationMs count = .ok (spreadOffsets durationMs count) := by
  apply mapM_eq_map
  intro ordinal hordinal
  rw [List.mem_range] at hordinal
  have hproduct : ordinal * durationMs < 2 ^ 128 := by
    have hle : ordinal * durationMs ≤ 2 ^ 64 * 2 ^ 64 := Nat.mul_le_mul (by omega) (by omega)
    have hlt : ordinal * durationMs < 2 ^ 64 * 2 ^ 64 := by
      refine lt_of_le_of_ne hle fun heq ↦ ?_
      have := Nat.mul_lt_mul_of_lt_of_le (by omega : ordinal < 2 ^ 64) hduration.le (by decide)
      omega
    exact hlt
  have hquotient : ordinal * durationMs / count < 2 ^ 64 := by
    have hlt : ordinal * durationMs / count ≤ durationMs := by
      apply Nat.div_le_of_le_mul
      exact Nat.mul_le_mul_right durationMs hordinal.le
    omega
  rw [bind_eq_ok]
  exact ⟨_, fits_eq_ok.mpr ⟨hproduct, rfl⟩, by rw [Nat.mod_eq_of_lt hquotient]; rfl⟩

/-! ### The phases in a row -/

/-- What the phases still need fits: the event numbers from `sequence` on, the milliseconds
from `phaseStartMs` on, the actor ids from `actorBase` on. -/
def Fits (arith : FloatArith) : List ScenarioPhase → Nat → Nat → Nat → Prop
  | [], _, _, _ => True
  | phase :: phases, sequence, phaseStartMs, actorBase =>
    ∃ count, phase.eventCount arith = .ok count ∧ count ≤ phase.durationMs ∧ Sound phase ∧
      sequence + count ≤ maxTraceEvents ∧ phaseStartMs + phase.durationMs ≤ u64Max ∧
      actorBase + phase.distinctActors.toNat ≤ u32Max ∧
      Fits arith phases (sequence + count) (phaseStartMs + phase.durationMs)
        (actorBase + phase.distinctActors.toNat)

/-- What the validator has bounded of that, whatever the durations leave room for. -/
def Ranged (arith : FloatArith) : List ScenarioPhase → Nat → Nat → Nat → Prop
  | [], _, _, _ => True
  | phase :: phases, sequence, phaseStartMs, actorBase =>
    ∃ count, phase.eventCount arith = .ok count ∧ Sound phase ∧
      sequence + count ≤ maxTraceEvents ∧ phaseStartMs + phase.durationMs ≤ u64Max ∧
      actorBase + phase.distinctActors.toNat ≤ u32Max ∧
      Ranged arith phases (sequence + count) (phaseStartMs + phase.durationMs)
        (actorBase + phase.distinctActors.toNat)

theorem Ranged.fits {phases : List ScenarioPhase} {sequence phaseStartMs actorBase : Nat}
    (h : Ranged arith phases sequence phaseStartMs actorBase)
    (hfit : ∀ phase ∈ phases, ∀ count, phase.eventCount arith = .ok count →
      count ≤ phase.durationMs) : Fits arith phases sequence phaseStartMs actorBase := by
  induction phases generalizing sequence phaseStartMs actorBase with
  | nil => trivial
  | cons phase phases ih =>
    obtain ⟨count, hcount, hsound, htotal, hduration, hactors, hrest⟩ := h
    exact ⟨count, hcount, hfit phase List.mem_cons_self count hcount, hsound, htotal, hduration,
      hactors, ih hrest fun phase hphase ↦ hfit phase (List.mem_cons_of_mem _ hphase)⟩

/-- The stretches of a trace, each with the instants that its phase schedules from `origin`
on and with event numbers that follow `sequence`. -/
def Laid (arith : FloatArith) (scenario : StreamScenario) :
    Nat → Nat → Nat → List ScenarioPhase → List ScenarioEvent → Prop
  | _, _, _, [], trace => trace = []
  | index, origin, sequence, phase :: phases, trace =>
    ∃ stretch rest, trace = stretch ++ rest ∧
      List.Forall₂ (fun instant entry ↦ ∃ sequence, Generated scenario phase sequence instant entry)
        ((offsetsOf arith scenario index phase).map (origin + ·)) stretch ∧
      stretch.map (·.event.sequence) = List.range' (sequence + 1) stretch.length ∧
      Laid arith scenario (index + 1) (origin + phase.durationMs) (sequence + stretch.length)
        phases rest

theorem refusing_eq_ok {α : Type} {result : Except ScenarioError α} {a : α} :
    refusing result = .ok a ↔ result = .ok a := by
  cases result <;> simp [refusing, Except.mapError]

theorem checkedActorNamespaceEnd_eq_ok {scenarioId : String} {index actorBase actorEnd : Nat} :
    checkedActorNamespaceEnd scenarioId index phase actorBase = .ok actorEnd ↔
      actorBase + phase.distinctActors.toNat ≤ u32Max ∧
        actorEnd = actorBase + phase.distinctActors.toNat := by
  rw [checkedActorNamespaceEnd, unit_bind_eq_ok, ensure_eq_ok, decide_eq_true_eq]
  simp [pure, Except.pure, eq_comm]

theorem generatePhase_eq_ok {startMs index count : Nat} {state state' : StreamState}
    {events : List ScenarioEvent} (hcount : phase.eventCount arith = .ok count)
    (hle : count ≤ phase.durationMs) (hduration : state.phaseStartMs + phase.durationMs ≤ u64Max)
    (h : generatePhase arith scenario startMs index phase state = .ok (events, state')) :
    List.Forall₂ (fun instant entry ↦ ∃ sequence, Generated scenario phase sequence instant entry)
        ((offsetsOf arith scenario index phase).map (startMs + state.phaseStartMs + ·)) events ∧
      events.length = count ∧
      events.map (·.event.sequence) = List.range' (state.sequence + 1) count ∧
      state' = { sequence := state.sequence + count
                 phaseStartMs := state.phaseStartMs + phase.durationMs
                 actorBase := state.actorBase + phase.distinctActors.toNat } := by
  have hbound : phase.durationMs < 2 ^ 64 := by
    unfold Saturating.u64Max at hduration
    omega
  simp only [generatePhase, bind_eq_ok, refusing_eq_ok, hcount, checkedActorNamespaceEnd_eq_ok,
    fits_eq_ok] at h
  obtain ⟨_, hok, _, ⟨-, rfl⟩, bases, hbases, ⟨stretch, last⟩, hevents, _, ⟨-, rfl⟩, h⟩ := h
  cases hok
  cases h
  rw [baseOffsets_eq hbound hle] at hbases
  cases hbases
  obtain ⟨hinstants, hnumbers, hlast⟩ := generateEvents_eq_ok hevents
  have hlength : (spreadOffsets phase.durationMs count).length = count := by
    simp [spreadOffsets]
  have hoffsets : offsetsOf arith scenario index phase =
      phaseOffsets phase (spreadOffsets phase.durationMs count) ⟨phaseSeed scenario index⟩ := by
    rw [offsetsOf, hcount]
  have hsize : (phaseOffsets phase (spreadOffsets phase.durationMs count)
      ⟨phaseSeed scenario index⟩).length = (spreadOffsets phase.durationMs count).length :=
    (phaseOffsets_spec (pairwise_spreadOffsets hle) hbound).1
  rw [hlength] at hnumbers hlast hsize
  refine ⟨by rw [hoffsets]; exact hinstants, ?_, hnumbers, by rw [hlast]⟩
  rw [← hinstants.length_eq, List.length_map]
  exact hsize

theorem exists_generatePhase {startMs index count : Nat} {state : StreamState}
    (hcount : phase.eventCount arith = .ok count) (hle : count ≤ phase.durationMs)
    (hsound : Sound phase) (htotal : state.sequence + count ≤ maxTraceEvents)
    (hduration : state.phaseStartMs + phase.durationMs ≤ u64Max)
    (hactors : state.actorBase + phase.distinctActors.toNat ≤ u32Max)
    (hinstants : ∀ instant ∈
      (offsetsOf arith scenario index phase).map (startMs + state.phaseStartMs + ·),
      instant < 2 ^ 64) :
    ∃ events next, generatePhase arith scenario startMs index phase state = .ok (events, next) := by
  have hbound : state.phaseStartMs + phase.durationMs < 2 ^ 64 := by
    unfold Saturating.u64Max at hduration
    omega
  have hsequence : state.sequence + count < 2 ^ 64 := by
    unfold maxTraceEvents at htotal
    omega
  have hlength : (spreadOffsets phase.durationMs count).length = count := by
    simp [spreadOffsets]
  have hevents : ∃ events last, generateEvents arith scenario phase
      { startMs, phaseStartMs := state.phaseStartMs, actorBase := state.actorBase
        actorEnd := state.actorBase + phase.distinctActors.toNat, count
        quota := repeatQuota arith count phase.repeatViewerProbability }
      0 (spreadOffsets phase.durationMs count)
      { rng := ⟨phaseSeed scenario index⟩, previousActor := none, nextActor := state.actorBase
        sequence := state.sequence } = .ok (events, last) := by
    apply exists_generateEvents hsound
    · refine ⟨rfl, hactors, ?_, ?_⟩
      · exact Nat.le_trans (Nat.le_add_left count state.sequence) htotal
      · exact (Nat.min_le_right _ _).trans (Nat.sub_le count 1)
    · omega
    · exact pairwise_spreadOffsets hle
    · rw [hlength, Nat.zero_add]
    · exact Nat.le_add_right _ _
    · rw [hlength]
      exact hsequence
    · intro offset hoffset
      apply hinstants
      rw [offsetsOf, hcount]
      exact List.mem_map_of_mem hoffset
  obtain ⟨events, last, hevents⟩ := hevents
  refine ⟨events, { sequence := last.sequence, phaseStartMs := state.phaseStartMs + phase.durationMs
                    actorBase := state.actorBase + phase.distinctActors.toNat }, ?_⟩
  simp only [generatePhase, bind_eq_ok, refusing_eq_ok, hcount, checkedActorNamespaceEnd_eq_ok,
    fits_eq_ok]
  exact ⟨count, rfl, _, ⟨hactors, rfl⟩, _, baseOffsets_eq (by omega) hle, _, hevents, _,
    ⟨hbound, rfl⟩, rfl⟩

/-- A trace that comes about is laid out as scheduled. -/
theorem generatePhases_eq_ok {startMs index : Nat} {phases : List ScenarioPhase}
    {state : StreamState} {trace : List ScenarioEvent}
    (hfits : Fits arith phases state.sequence state.phaseStartMs state.actorBase)
    (h : generatePhases arith scenario startMs index phases state = .ok trace) :
    Laid arith scenario index (startMs + state.phaseStartMs) state.sequence phases trace := by
  induction phases generalizing index state trace with
  | nil =>
    cases h
    rfl
  | cons phase phases ih =>
    obtain ⟨count, hcount, hle, -, -, hduration, -, hfits⟩ := hfits
    rw [generatePhases, bind_eq_ok] at h
    obtain ⟨⟨events, next⟩, hevents, h⟩ := h
    rw [bind_eq_ok] at h
    obtain ⟨rest, hrest, h⟩ := h
    cases h
    obtain ⟨hinstants, hlength, hnumbers, rfl⟩ := generatePhase_eq_ok hcount hle hduration hevents
    refine ⟨events, rest, rfl, hinstants, ?_, ?_⟩
    · rw [hlength]
      exact hnumbers
    · rw [hlength, Nat.add_assoc]
      exact ih hfits hrest

/-- A trace comes about whose events are all scheduled within the 64-bit milliseconds. -/
theorem exists_generatePhases {startMs index : Nat} {phases : List ScenarioPhase}
    {state : StreamState}
    (hfits : Fits arith phases state.sequence state.phaseStartMs state.actorBase)
    (hinstants : ∀ instant ∈ scheduledFrom arith scenario index (startMs + state.phaseStartMs) phases,
      instant < 2 ^ 64) :
    ∃ trace, generatePhases arith scenario startMs index phases state = .ok trace := by
  induction phases generalizing index state with
  | nil => exact ⟨[], rfl⟩
  | cons phase phases ih =>
    obtain ⟨count, hcount, hle, hsound, htotal, hduration, hactors, hfits⟩ := hfits
    rw [scheduledFrom] at hinstants
    obtain ⟨events, next, hevents⟩ := exists_generatePhase hcount hle hsound htotal hduration
      hactors fun instant hinstant ↦ hinstants instant (List.mem_append_left _ hinstant)
    obtain ⟨-, -, -, rfl⟩ := generatePhase_eq_ok hcount hle hduration hevents
    have hrest : ∃ rest, generatePhases arith scenario startMs (index + 1) phases
        { sequence := state.sequence + count
          phaseStartMs := state.phaseStartMs + phase.durationMs
          actorBase := state.actorBase + phase.distinctActors.toNat } = .ok rest := by
      apply ih hfits
      intro instant hinstant
      rw [← Nat.add_assoc] at hinstant
      exact hinstants instant (List.mem_append_right _ hinstant)
    obtain ⟨rest, hrest⟩ := hrest
    refine ⟨events ++ rest, ?_⟩
    rw [generatePhases, bind_eq_ok]
    refine ⟨_, hevents, ?_⟩
    rw [bind_eq_ok]
    exact ⟨rest, hrest, rfl⟩

end Generate

/-! ## What the validator has seen to -/

section Validate

variable {arith : FloatArith} {scenario : StreamScenario} {phase : ScenarioPhase}

theorem validateWeights_eq_ok {κ : Type} {debug : κ → String} {weights : List (κ × Float64)}
    (h : ScenarioPhase.validateWeights arith debug weights = .ok ()) :
    weights ≠ [] ∧ ∀ entry ∈ weights, (Float64.finite 0).lt entry.2 = true := by
  rw [ScenarioPhase.validateWeights, unit_bind_eq_ok, unit_bind_eq_ok, ensure_eq_ok, forM_eq_ok] at h
  obtain ⟨hempty, hweights, -⟩ := h
  refine ⟨by simpa using hempty, fun entry hentry ↦ ?_⟩
  have hpositive := ensure_eq_ok.mp (hweights entry hentry)
  obtain ⟨key, weight⟩ := entry
  cases weight with
  | finite value => simpa [Float64.isFinite, Float64.le, Float64.lt] using hpositive
  | infinite negative => simp [Float64.isFinite] at hpositive
  | nan => simp [Float64.isFinite] at hpositive

theorem sound_of_validate {index : Nat} (h : phase.validate arith index = .ok ()) :
    Sound phase := by
  rw [ScenarioPhase.validate, unit_bind_eq_ok, mapError_eq_ok] at h
  have hfields := h.1
  simp only [ScenarioPhase.checkFields, unit_bind_eq_ok, ensure_eq_ok, mapError_eq_ok,
    decide_eq_true_eq] at hfields
  obtain ⟨-, -, -, -, hactors, -, hkinds, hbands, hpriorities, hoperator⟩ := hfields
  obtain ⟨hkinds, hpositive⟩ := validateWeights_eq_ok hkinds
  refine ⟨hkinds, (validateWeights_eq_ok hbands).1, (validateWeights_eq_ok hpriorities).1, ?_, ?_⟩
  · intro hmem
    obtain ⟨⟨key, weight⟩, hentry, rfl⟩ := List.mem_map.mp hmem
    have hsome : (phase.kindMix.lookup .operatorCommand).isSome := by
      rw [List.lookup_isSome_iff]
      exact ⟨_, hentry, by simp⟩
    obtain ⟨found, hfound⟩ := Option.isSome_iff_exists.mp hsome
    obtain ⟨before, after, hsplit, -⟩ := List.lookup_eq_some_iff.mp hfound
    have hweight := hpositive (.operatorCommand, found) (by rw [hsplit]; simp)
    rw [hfound, Option.any_some, hweight] at hoperator
    cases hoperator
  · rw [Nat.pos_iff_ne_zero]
    intro hzero
    exact hactors (UInt32.toNat_inj.mp hzero)

/-- The sums of the validator bound what the phases need. -/
theorem ranged_of_folds {phases : List ScenarioPhase} {index : Nat} {totals last : PhaseTotals}
    {total whole : Nat}
    (hphases : (phases.zipIdx index).foldlM (scenario.checkPhase arith) totals = .ok last)
    (hcounts : phases.foldlM (fun total phase ↦ do
      let count ← phase.eventCount arith
      ensure .eventCountOverflow (total + count ≤ u64Max)
      pure (total + count)) total = .ok whole)
    (hwhole : whole ≤ maxTraceEvents) :
    total ≤ whole ∧ last.durationTotal = totals.durationTotal + (phases.map (·.durationMs)).sum ∧
      Ranged arith phases total totals.durationTotal totals.actorNamespaceEnd := by
  induction phases generalizing index totals total with
  | nil =>
    cases hcounts
    cases hphases
    exact ⟨Nat.le_refl _, rfl, trivial⟩
  | cons phase phases ih =>
    rw [List.zipIdx_cons, List.foldlM_cons, bind_eq_ok] at hphases
    obtain ⟨next, hphase, hphases⟩ := hphases
    rw [List.foldlM_cons, bind_eq_ok] at hcounts
    obtain ⟨_, hcount, hcounts⟩ := hcounts
    rw [bind_eq_ok] at hcount
    obtain ⟨count, hcount, hadd⟩ := hcount
    rw [unit_bind_eq_ok] at hadd
    cases hadd.2
    rw [StreamScenario.checkPhase, unit_bind_eq_ok, bind_eq_ok] at hphase
    obtain ⟨hvalidate, _, hend, hphase⟩ := hphase
    obtain ⟨hactors, rfl⟩ := checkedActorNamespaceEnd_eq_ok.mp hend
    rw [unit_bind_eq_ok, unit_bind_eq_ok, ensure_eq_ok, ensure_eq_ok, decide_eq_true_eq,
      decide_eq_true_eq] at hphase
    obtain ⟨-, hduration, hphase⟩ := hphase
    cases hphase
    obtain ⟨htotal, hlast, hranged⟩ := ih hphases hcounts
    rw [List.map_cons, List.sum_cons]
    exact ⟨by omega, by rw [hlast, Nat.add_assoc], count, hcount, sound_of_validate hvalidate,
      by omega, hduration, hactors, hranged⟩

end Validate

/-! ## Well-formed traces -/

/-- The stretches of a trace: each phase from `origin` on has as many events as it counts,
at instants within the phase. -/
def InPhases (arith : FloatArith) : Nat → List ScenarioPhase → List ScenarioEvent → Prop
  | _, [], trace => trace = []
  | origin, phase :: phases, trace =>
    ∃ stretch rest, trace = stretch ++ rest ∧ phase.eventCount arith = .ok stretch.length ∧
      (∀ entry ∈ stretch, ∃ instant, scenarioInstantMs entry.event.observedAt = .ok instant ∧
        origin ≤ instant ∧ instant < origin + phase.durationMs) ∧
      InPhases arith (origin + phase.durationMs) phases rest

/-- A trace as its scenario declares it. -/
structure WellFormedTrace (arith : FloatArith) (scenario : StreamScenario)
    (trace : List ScenarioEvent) : Prop where
  /-- The events are numbered from 1 on. -/
  numbered : trace.map (·.event.sequence) = List.range' 1 trace.length
  /-- Each phase has its events, within its half-open interval. -/
  phased : ∃ startMs, parseLogicalStart scenario.logicalStart = .ok startMs ∧
    InPhases arith startMs scenario.phases trace
  /-- The text of an event gives the instant that is scheduled for it. -/
  readBack : trace.map (fun entry ↦ scenarioInstantMs entry.event.observedAt) =
    (scheduled arith scenario).map .ok
  increasing : (scheduled arith scenario).Pairwise (· < ·)
  valid : ∀ entry ∈ trace, entry.event.validate = .ok ()

section WellFormed

variable {arith : FloatArith} {scenario : StreamScenario} {phase : ScenarioPhase}

/-- An event before the year 10000 has a valid envelope. -/
theorem Generated.validate {sequence instant : Nat} {entry : ScenarioEvent} (hsound : Sound phase)
    (h : Generated scenario phase sequence instant entry) (hinstant : instant < year10000Ms) :
    entry.event.validate = .ok () := by
  obtain ⟨actor, kind, priority, payload, hkind, heq⟩ := h
  rw [heq, EventEnvelope.validate_eq_ok]
  have hne : ∀ s : String, s ≠ "" → scenario.scenarioId ++ s ≠ "" := by
    intro s hs hempty
    exact hs (String.append_eq_empty_iff.mp hempty).2
  refine ⟨rfl, ?_, hne "-stream" (by decide), isJsonSchemaDateTime_format hinstant, ?_, ?_, ?_⟩
  · rw [scenarioEnvelope, String.append_assoc]
    exact hne _ fun hempty ↦ absurd (String.append_eq_empty_iff.mp hempty).1 (by decide)
  · exact (by decide : "scenario" ≠ "")
  · intro hint hmem
    cases hmem
    cases priority <;> decide +kernel
  · cases kind with
    | operatorCommand => exact absurd hkind hsound.unprivileged
    | _ => exact ⟨rfl, rfl, by simp [scenarioEnvelope, trustFor], rfl⟩

theorem Generated.observedAt {sequence instant : Nat} {entry : ScenarioEvent}
    (h : Generated scenario phase sequence instant entry) :
    entry.event.observedAt = formatRfc3339 instant := by
  obtain ⟨actor, kind, priority, payload, -, heq⟩ := h
  rw [heq]
  rfl

theorem map_eq_of_forall₂ {α β γ : Type} {R : α → β → Prop} {f : α → γ} {g : β → γ}
    {left : List α} {right : List β} (h : List.Forall₂ R left right)
    (heq : ∀ a b, R a b → g b = f a) : right.map g = left.map f := by
  induction h with
  | nil => rfl
  | cons hab _ ih => rw [List.map_cons, List.map_cons, heq _ _ hab, ih]

theorem exists_of_mem_right {α β : Type} {R : α → β → Prop} {left : List α} {right : List β}
    (h : List.Forall₂ R left right) : ∀ b ∈ right, ∃ a ∈ left, R a b := by
  induction h with
  | nil => simp
  | cons hab _ ih =>
    rintro b (_ | ⟨_, hb⟩)
    · exact ⟨_, List.mem_cons_self, hab⟩
    · obtain ⟨a, ha, hR⟩ := ih b hb
      exact ⟨a, List.mem_cons_of_mem _ ha, hR⟩

/-- What is laid out has the instants that are scheduled, and is numbered in a row. -/
theorem Laid.spec {index origin sequence : Nat} {phases : List ScenarioPhase}
    {trace : List ScenarioEvent} (h : Laid arith scenario index origin sequence phases trace) :
    trace.map (·.event.observedAt) =
        (scheduledFrom arith scenario index origin phases).map formatRfc3339 ∧
      trace.map (·.event.sequence) = List.range' (sequence + 1) trace.length := by
  induction phases generalizing index origin sequence trace with
  | nil =>
    cases h
    exact ⟨rfl, rfl⟩
  | cons phase phases ih =>
    obtain ⟨stretch, rest, rfl, hinstants, hnumbers, hrest⟩ := h
    obtain ⟨htexts, hrestNumbers⟩ := ih hrest
    constructor
    · have hstretch : stretch.map (·.event.observedAt) =
          ((offsetsOf arith scenario index phase).map (origin + ·)).map formatRfc3339 :=
        map_eq_of_forall₂ hinstants fun instant entry ⟨_, hentry⟩ ↦ hentry.observedAt
      rw [scheduledFrom, List.map_append, List.map_append, hstretch, htexts]
    · rw [List.map_append, hnumbers, hrestNumbers, List.length_append, Nat.add_right_comm]
      exact List.range'_append_1

/-- The instants of a phase, in its interval. -/
theorem offsetsOf_spec {index count : Nat} (hcount : phase.eventCount arith = .ok count)
    (hle : count ≤ phase.durationMs) (hduration : phase.durationMs ≤ u64Max) :
    (offsetsOf arith scenario index phase).length = count ∧
      (offsetsOf arith scenario index phase).Pairwise (· < ·) ∧
      ∀ offset ∈ offsetsOf arith scenario index phase, offset < phase.durationMs := by
  have hbound : phase.durationMs < 2 ^ 64 := by
    unfold Saturating.u64Max at hduration
    omega
  obtain ⟨hlength, hincreasing, hwithin⟩ :=
    @phaseOffsets_spec phase _ ⟨phaseSeed scenario index⟩ (pairwise_spreadOffsets hle) hbound
  rw [offsetsOf, hcount]
  refine ⟨?_, hincreasing, fun offset hoffset ↦ (hwithin offset hoffset).2⟩
  rw [hlength, spreadOffsets, List.length_map, List.length_range]

/-- The instants of the phases increase, and end with the stream. -/
theorem scheduledFrom_spec {index origin sequence phaseStartMs actorBase : Nat}
    {phases : List ScenarioPhase} (h : Fits arith phases sequence phaseStartMs actorBase) :
    (scheduledFrom arith scenario index origin phases).Pairwise (· < ·) ∧
      ∀ instant ∈ scheduledFrom arith scenario index origin phases,
        origin ≤ instant ∧ instant < origin + (phases.map (·.durationMs)).sum := by
  induction phases generalizing index origin sequence phaseStartMs actorBase with
  | nil => simp [scheduledFrom]
  | cons phase phases ih =>
    obtain ⟨count, hcount, hle, -, -, hduration, -, hfits⟩ := h
    obtain ⟨-, hoffsets, hwithin⟩ := @offsetsOf_spec arith scenario phase index count hcount hle
      (by omega)
    obtain ⟨hincreasing, hrest⟩ := @ih (index + 1) (origin + phase.durationMs) _ _ _ hfits
    rw [scheduledFrom, List.map_cons, List.sum_cons]
    constructor
    · rw [List.pairwise_append]
      refine ⟨hoffsets.map _ fun _ _ hlt ↦ Nat.add_lt_add_left hlt origin, hincreasing, ?_⟩
      intro instant hinstant later hlater
      obtain ⟨offset, hoffset, rfl⟩ := List.mem_map.mp hinstant
      have hlt := hwithin offset hoffset
      have hge := (hrest later hlater).1
      omega
    · intro instant hinstant
      rcases List.mem_append.mp hinstant with hmem | hmem
      · obtain ⟨offset, hoffset, rfl⟩ := List.mem_map.mp hmem
        have hlt := hwithin offset hoffset
        omega
      · have := hrest instant hmem
        omega

/-- What is laid out before the year 10000 lies within its phases, and is valid. -/
theorem Laid.inPhases {index origin sequence sequence' phaseStartMs actorBase : Nat}
    {phases : List ScenarioPhase} {trace : List ScenarioEvent}
    (hfits : Fits arith phases sequence' phaseStartMs actorBase)
    (h : Laid arith scenario index origin sequence phases trace)
    (hearly : ∀ instant ∈ scheduledFrom arith scenario index origin phases,
      instant < year10000Ms) :
    InPhases arith origin phases trace ∧ ∀ entry ∈ trace, entry.event.validate = .ok () := by
  induction phases generalizing index origin sequence sequence' phaseStartMs actorBase trace with
  | nil =>
    cases h
    simp [InPhases]
  | cons phase phases ih =>
    obtain ⟨count, hcount, hle, hsound, -, hduration, -, hfits⟩ := hfits
    obtain ⟨stretch, rest, rfl, hinstants, -, hrest⟩ := h
    obtain ⟨hlength, -, hwithin⟩ := @offsetsOf_spec arith scenario phase index count hcount hle
      (by omega)
    obtain ⟨hlaid, hvalid⟩ := ih hfits hrest
      fun instant hinstant ↦ hearly instant (List.mem_append_right _ hinstant)
    have hstretch : ∀ entry ∈ stretch, ∃ offset ∈ offsetsOf arith scenario index phase,
        ∃ sequence, Generated scenario phase sequence (origin + offset) entry := by
      intro entry hentry
      obtain ⟨instant, hinstant, hgenerated⟩ := exists_of_mem_right hinstants entry hentry
      obtain ⟨offset, hoffset, rfl⟩ := List.mem_map.mp hinstant
      exact ⟨offset, hoffset, hgenerated⟩
    have hearly' : ∀ offset ∈ offsetsOf arith scenario index phase,
        origin + offset < year10000Ms := fun offset hoffset ↦
      hearly _ (List.mem_append_left _ (List.mem_map_of_mem hoffset))
    refine ⟨⟨stretch, rest, rfl, ?_, ?_, hlaid⟩, ?_⟩
    · rw [hcount, ← hlength, ← hinstants.length_eq, List.length_map]
    · intro entry hentry
      obtain ⟨offset, hoffset, sequence, hgenerated⟩ := hstretch entry hentry
      refine ⟨origin + offset, ?_, Nat.le_add_right _ _,
        Nat.add_lt_add_left (hwithin offset hoffset) _⟩
      rw [hgenerated.observedAt]
      exact scenarioInstantMs_format (hearly' offset hoffset)
    · intro entry hentry
      rcases List.mem_append.mp hentry with hmem | hmem
      · obtain ⟨offset, hoffset, sequence, hgenerated⟩ := hstretch entry hmem
        exact hgenerated.validate hsound (hearly' offset hoffset)
      · exact hvalid entry hmem

/-- What a scenario that validates comes to. -/
theorem validate_ranged (h : scenario.validate arith = .ok ()) :
    Ranged arith scenario.phases 0 0 0 ∧
      (scenario.phases.map (·.durationMs)).sum = scenario.streamDurationMs ∧
      ∃ startMs, parseLogicalStart scenario.logicalStart = .ok startMs := by
  simp only [StreamScenario.validate, bind_eq_ok] at h
  obtain ⟨_, -, _, -, _, -, _, -, _, -, _, -, totals, hphases, _, hduration, whole, hcounts, _, -, _, hwhole,
    startMs, hstart, -⟩ := h
  have hwhole := ensure_eq_ok.mp hwhole
  have hduration := ensure_eq_ok.mp hduration
  rw [decide_eq_true_eq] at hwhole hduration
  obtain ⟨-, hlast, hranged⟩ := ranged_of_folds hphases hcounts hwhole
  rw [hduration] at hlast
  exact ⟨hranged, (hlast.trans (Nat.zero_add _)).symm, startMs, hstart⟩

theorem validate_eq_ok (h : scenario.validate arith = .ok ())
    (hfit : ∀ phase ∈ scenario.phases, ∀ count, phase.eventCount arith = .ok count →
      count ≤ phase.durationMs) :
    Fits arith scenario.phases 0 0 0 ∧
      (scenario.phases.map (·.durationMs)).sum = scenario.streamDurationMs ∧
      ∃ startMs, parseLogicalStart scenario.logicalStart = .ok startMs := by
  obtain ⟨hranged, hrest⟩ := validate_ranged h
  exact ⟨hranged.fits hfit, hrest⟩

/-- The events of a scenario fall within its stream. -/
theorem scheduled_within (h : scenario.validate arith = .ok ())
    (hfit : ∀ phase ∈ scenario.phases, ∀ count, phase.eventCount arith = .ok count →
      count ≤ phase.durationMs) {startMs : Nat}
    (hstart : parseLogicalStart scenario.logicalStart = .ok startMs) :
    ∀ instant ∈ scheduled arith scenario,
      startMs ≤ instant ∧ instant < startMs + scenario.streamDurationMs := by
  obtain ⟨hfits, hduration, -⟩ := validate_eq_ok h hfit
  rw [scheduled, hstart, ← hduration]
  exact (scheduledFrom_spec hfits).2

theorem generateScenarioTrace_eq {startMs : Nat} (h : scenario.validate arith = .ok ())
    (hstart : parseLogicalStart scenario.logicalStart = .ok startMs) :
    generateScenarioTrace arith scenario = generatePhases arith scenario startMs 0 scenario.phases
      { sequence := 0, phaseStartMs := 0, actorBase := 0 } := by
  rw [generateScenarioTrace, h, hstart]
  rfl

/-- **A scenario that validates generates a well-formed trace** just when it schedules every
event before the year 10000, as it does if its stream ends by then. -/
theorem generated_iff (h : scenario.validate arith = .ok ())
    (hfit : ∀ phase ∈ scenario.phases, ∀ count, phase.eventCount arith = .ok count →
      count ≤ phase.durationMs) :
    ((∃ trace, generateScenarioTrace arith scenario = .ok trace ∧
        WellFormedTrace arith scenario trace) ↔
      ∀ instant ∈ scheduled arith scenario, instant < year10000Ms) ∧
    ∀ startMs, parseLogicalStart scenario.logicalStart = .ok startMs →
      startMs + scenario.streamDurationMs ≤ year10000Ms →
        ∀ instant ∈ scheduled arith scenario, instant < year10000Ms := by
  refine ⟨?_, fun startMs hstart hends instant hinstant ↦
    (scheduled_within h hfit hstart instant hinstant).2.trans_le hends⟩
  obtain ⟨hfits, -, startMs, hstart⟩ := validate_eq_ok h hfit
  have hgenerate := generateScenarioTrace_eq h hstart
  have hscheduled : scheduled arith scenario =
      scheduledFrom arith scenario 0 startMs scenario.phases := by
    rw [scheduled, hstart]
  constructor
  · rintro ⟨trace, htrace, hwell⟩ instant hinstant
    rw [hgenerate] at htrace
    have hlaid := generatePhases_eq_ok hfits htrace
    have htexts := hlaid.spec.1
    rw [Nat.add_zero, ← hscheduled] at htexts
    have hread : ((scheduled arith scenario).map formatRfc3339).map scenarioInstantMs =
        (scheduled arith scenario).map .ok := by
      rw [← htexts, List.map_map]
      exact hwell.readBack
    have hmem : scenarioInstantMs (formatRfc3339 instant) ∈ (scheduled arith scenario).map .ok := by
      rw [← hread]
      exact List.mem_map_of_mem (List.mem_map_of_mem hinstant)
    obtain ⟨back, -, hback⟩ := List.mem_map.mp hmem
    exact lt_of_scenarioInstantMs hback.symm
  · intro hearly
    rw [hscheduled] at hearly
    have htotal : ∃ trace, generatePhases arith scenario startMs 0 scenario.phases
        { sequence := 0, phaseStartMs := 0, actorBase := 0 } = .ok trace := by
      apply exists_generatePhases hfits
      intro instant hinstant
      have hlt := hearly instant hinstant
      unfold year10000Ms at hlt
      omega
    obtain ⟨trace, htrace⟩ := htotal
    have hlaid := generatePhases_eq_ok hfits htrace
    rw [Nat.add_zero] at hlaid
    obtain ⟨htexts, hnumbers⟩ := hlaid.spec
    obtain ⟨hphases, hvalid⟩ := hlaid.inPhases hfits hearly
    refine ⟨trace, hgenerate.trans htrace, ?_, ⟨startMs, hstart, hphases⟩, ?_, ?_, hvalid⟩
    · exact hnumbers
    · have hback : (trace.map (·.event.observedAt)).map scenarioInstantMs =
          ((scheduledFrom arith scenario 0 startMs scenario.phases).map formatRfc3339).map
            scenarioInstantMs := by rw [htexts]
      rw [List.map_map, List.map_map] at hback
      rw [hscheduled]
      refine hback.trans (List.map_congr_left fun instant hinstant ↦ ?_)
      rw [Function.comp_apply]
      exact scenarioInstantMs_format (hearly instant hinstant)
    · rw [hscheduled]
      exact (scheduledFrom_spec hfits).1

end WellFormed

section Sample

/-- An operation on the finite floats. -/
def liftFinite (op : ℚ → ℚ → ℚ) : Float64 → Float64 → Float64
  | .finite left, .finite right => .finite (op left right)
  | _, _ => .nan

/-- Arithmetic without rounding, as that of floats is on small integers. -/
def exactArith : FloatArith where
  add := liftFinite (· + ·)
  sub := liftFinite (· - ·)
  mul := liftFinite (· * ·)
  div := liftFinite (· / ·)
  ofNat n := .finite n
  single value := value

/-- Two seconds of chat, a message each. -/
def chatPhase : ScenarioPhase where
  name := "chat"
  durationMs := 2000
  eventsPerMinute := .finite 60
  kindMix := [(.chatMessage, .finite 1)]
  semanticMix := [(.hit, .finite 1)]
  priorityMix := [(.normal, .finite 1)]
  distinctActors := 3
  distinctTopics := 2
  repeatViewerProbability := .finite 0

/-- A stream of two seconds that starts at `logicalStart`. -/
def chatScenario (logicalStart : String) : StreamScenario where
  schemaVersion := scenarioSchemaVersion
  scenarioId := "chat"
  scenarioVersion := 1
  provenanceNote := "a design assumption"
  seed := 7
  logicalStart
  streamDurationMs := 2000
  phases := [chatPhase]

theorem chatPhase_fits {logicalStart : String} : ∀ phase ∈ (chatScenario logicalStart).phases,
    ∀ count, phase.eventCount exactArith = .ok count → count ≤ phase.durationMs := by
  intro phase hphase count hcount
  rw [List.mem_singleton.mp hphase] at hcount ⊢
  have hok : chatPhase.eventCount exactArith = .ok 2 := by decide +kernel
  rw [hok] at hcount
  cases hcount
  decide

theorem generated_iff_chat :
    ∃ trace, generateScenarioTrace exactArith (chatScenario "2026-01-31T12:00:00Z") = .ok trace ∧
      WellFormedTrace exactArith (chatScenario "2026-01-31T12:00:00Z") trace := by
  obtain ⟨hiff, hends⟩ := @generated_iff exactArith
    (chatScenario "2026-01-31T12:00:00Z") (by decide +kernel) chatPhase_fits
  exact hiff.mpr (hends 1769860800000 (by decide +kernel) (by decide +kernel))

/-- In a stream that starts in the last second of the year 9999, the second event has an
instant that is not read back. -/
theorem newYear_unreadable :
    (chatScenario "9999-12-31T23:59:59Z").validate exactArith = .ok () ∧
      (∀ phase ∈ (chatScenario "9999-12-31T23:59:59Z").phases, ∀ count,
        phase.eventCount exactArith = .ok count → count ≤ phase.durationMs) ∧
      ¬∃ trace, generateScenarioTrace exactArith (chatScenario "9999-12-31T23:59:59Z") =
          .ok trace ∧
        WellFormedTrace exactArith (chatScenario "9999-12-31T23:59:59Z") trace := by
  refine ⟨by decide +kernel, chatPhase_fits, ?_⟩
  rintro ⟨trace, htrace, hwell⟩
  have htexts : (generateScenarioTrace exactArith (chatScenario "9999-12-31T23:59:59Z")).toOption.map
      (List.map (·.event.observedAt)) =
        some ["9999-12-31T23:59:59.470Z", "10000-01-01T00:00:00.250Z"] := by decide +kernel
  rw [htrace] at htexts
  have hlist : trace.map (·.event.observedAt) =
      ["9999-12-31T23:59:59.470Z", "10000-01-01T00:00:00.250Z"] := Option.some.inj htexts
  have hread : (trace.map (·.event.observedAt)).map scenarioInstantMs = _ :=
    (List.map_map ..).trans hwell.readBack
  have hmem : scenarioInstantMs "10000-01-01T00:00:00.250Z" ∈
      (scheduled exactArith (chatScenario "9999-12-31T23:59:59Z")).map .ok := by
    rw [← hread, hlist]
    simp
  obtain ⟨instant, -, hback⟩ := List.mem_map.mp hmem
  have hfails : (scenarioInstantMs "10000-01-01T00:00:00.250Z").toOption = none := by
    decide +kernel
  rw [← hback] at hfails
  cases hfails

end Sample

end Aivtuber
