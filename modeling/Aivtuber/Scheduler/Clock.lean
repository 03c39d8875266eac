import Aivtuber.Scheduler.Cooldown

/-!
# The clock of the scheduler

What the operations of a performer do to the logical clock, and to the numbers of the plans.
A request moves the clock to its instant and no further, a plan that is accepted gets the
next number and starts no earlier than the clock, and what an advance leaves has not ended.
-/

open Saturating

namespace Aivtuber

namespace Scheduler

theorem stopLoop_nowMs (atMs : Nat) : ∀ (fuel index : Nat) (s : Scheduler)
    (stopped : List PlannedPerformance), (stopLoop atMs fuel index s stopped).1.nowMs = s.nowMs := by
  intro fuel
  induction fuel with
  | zero => exact fun _ _ _ ↦ rfl
  | succ fuel ih =>
    intro index s stopped
    rw [stopLoop]
    cases s.items[index]? with
    | none => rfl
    | some item =>
      dsimp only
      cases item.status with
      | playing => exact (ih _ _ _).trans (retire_nowMs atMs)
      | queued => exact (ih _ _ _).trans (cancelQueued_nowMs atMs)
      | completed | cancelled => exact ih _ _ _

theorem stopAll_nowMs (s : Scheduler) (atMs : Nat) :
    (s.stopAll atMs).1.nowMs = max atMs s.nowMs :=
  (stopLoop_nowMs atMs _ _ _ _).trans (s.advanceTo_spec atMs).nowMs

/-- What is carried on has its plan, and has not ended. -/
theorem lt_of_carry {item item' : ScheduledItem} {target : Nat} (h : item.Live)
    (hcarry : item.carry target = some item') : item'.plan = item.plan ∧
      (target < item.effectiveEndMs ∨ target < item.plan.startAtMs) := by
  rcases h with hplaying | ⟨hqueued, hc⟩
  · rw [ScheduledItem.carry_playing hplaying] at hcarry
    split at hcarry
    case isTrue => cases hcarry
    case isFalse hend =>
      cases hcarry
      exact ⟨rfl, .inl (Nat.lt_of_not_le hend)⟩
  · rw [ScheduledItem.carry_queued hqueued hc] at hcarry
    split at hcarry
    case isTrue =>
      split at hcarry
      case isTrue => cases hcarry
      case isFalse hend =>
        cases hcarry
        exact ⟨rfl, .inl (Nat.lt_of_not_le hend)⟩
    case isFalse hstart =>
      cases hcarry
      exact ⟨rfl, .inr (Nat.lt_of_not_le hstart)⟩

/-- What is left after an advance has not ended. -/
theorem lt_endAtMs_of_mem_advanceTo {s : Scheduler} (hs : s.Tidy) (atMs : Nat)
    {item : ScheduledItem} (hitem : item ∈ (s.advanceTo atMs).items)
    (hstart : item.plan.startAtMs ≤ u64Max) : (s.advanceTo atMs).nowMs < item.plan.endAtMs := by
  have h := s.advanceTo_spec atMs
  obtain ⟨item₀, hitem₀, hcarry⟩ := List.mem_filterMap.mp (h.items.mem_iff.mp hitem)
  obtain ⟨hplan, hrunning⟩ := lt_of_carry (hs item₀ hitem₀) hcarry
  rw [h.nowMs]
  rw [hplan] at hstart ⊢
  rcases hrunning with hrunning | hwaiting
  · exact hrunning.trans_le item₀.effectiveEndMs_le_endAtMs
  · exact hwaiting.trans_le (le_satAdd hstart)

/-- What a request does to the clock and to the numbers. -/
structure Requests (requestAtMs : Nat) (s s' : Scheduler) (accepted : Option PlannedPerformance) :
    Prop where
  nowMs : s'.nowMs = max requestAtMs s.nowMs
  plans : ∀ item ∈ s'.items, item.plan ∈ accepted ∨ ∃ item₀ ∈ s.items, item₀.plan = item.plan
  rejected : accepted = none → s'.generation = s.generation
  accepted : ∀ plan ∈ accepted, plan.generation = satAdd s.generation 1 ∧
    s'.generation = plan.generation ∧ s'.nowMs ≤ plan.startAtMs

theorem scheduleAt_requests {s : Scheduler} (hs : s.Tidy) (requestAtMs : Nat)
    (plan : PlannedPerformance) :
    Requests requestAtMs s (s.scheduleAt requestAtMs plan).1
      (s.scheduleAt requestAtMs plan).2.toOption := by
  have hbook : Steps s { s with lastRejection := none } :=
    Steps.book ⟨rfl, rfl, rfl, rfl, rfl, rfl, rfl⟩
  have hadvance := hbook.trans (advanceTo_steps (hbook.tidy hs) requestAtMs)
  have hnow : (({ s with lastRejection := none } : Scheduler).advanceTo requestAtMs).nowMs =
      max requestAtMs s.nowMs := rfl
  rw [scheduleAt, scheduleNow]
  generalize ({ s with lastRejection := none } : Scheduler).advanceTo requestAtMs = advanced
    at hadvance hnow
  split
  case h_1 rejection hrejected =>
    refine ⟨hnow, fun item hitem ↦ .inr (hadvance.plans_subset item hitem),
      fun _ ↦ hadvance.generation_eq, fun _ hnone ↦ ?_⟩
    cases hnone
  case h_2 state hcontended =>
    obtain ⟨t, q⟩ := state
    have hcon : advanced.Contended requestAtMs plan t q := contend_ok hcontended
    have hres := resolveQueue_spec requestAtMs t q
    have hsteps := (hadvance.trans (hcon.steps (hadvance.tidy hs))).trans hres.steps
    have ht : t.nowMs = advanced.nowMs := by rw [hcon.state_eq]
    dsimp only
    generalize resolveQueue requestAtMs (t.items.length + 1) (t, q) = resolved at hres hsteps
    refine ⟨hres.nowMs.trans (ht.trans hnow), fun item hitem ↦ ?_, fun hnone ↦ ?_,
      fun accepted haccepted ↦ ?_⟩
    · rcases List.mem_append.mp hitem with hbefore | hnew
      · exact .inr (hsteps.plans_subset item hbefore)
      · rw [List.mem_singleton.mp hnew]
        exact .inl rfl
    · cases hnone
    · cases haccepted
      refine ⟨congrArg (satAdd · 1) hsteps.generation_eq, rfl, ?_⟩
      show resolved.1.nowMs ≤ resolved.2.startAtMs
      calc resolved.1.nowMs = advanced.nowMs := hres.nowMs.trans ht
        _ ≤ (advanced.requestedPlan requestAtMs plan).startAtMs := le_max_right _ _
        _ ≤ q.startAtMs := hcon.postponed.start_le
        _ ≤ resolved.2.startAtMs := hres.postponed.start_le

end Scheduler

end Aivtuber
