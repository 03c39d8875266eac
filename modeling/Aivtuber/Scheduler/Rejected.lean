import Aivtuber.Scheduler.Clock

/-!
# Rejected requests

A request moves logical time before it is arbitrated, and a rejection is decided before
anything else is written.  So a rejected request leaves the state that advancing to its
arrival would have left, but for the reason that it records.
-/

namespace Aivtuber

namespace Scheduler

/-! ## The recorded rejection is never read -/

section Recorded

variable (s : Scheduler) (rejection : Option Rejection)

theorem retire_record (index atMs : Nat) :
    ({ s with lastRejection := rejection } : Scheduler).retire index atMs =
      { s.retire index atMs with lastRejection := rejection } := by
  rw [retire, retire]
  dsimp only
  cases s.items[index]? with
  | none => rfl
  | some item =>
    dsimp only [trimHistory]
    split <;> rfl

theorem advanceLoop_record (target fuel index : Nat) :
    advanceLoop target fuel index { s with lastRejection := rejection } =
      { advanceLoop target fuel index s with lastRejection := rejection } := by
  induction fuel generalizing index s with
  | zero => rfl
  | succ fuel ih =>
    rw [advanceLoop, advanceLoop]
    dsimp only
    cases s.items[index]? with
    | none => rfl
    | some item =>
      dsimp only
      cases item.advance target with
      | keep => exact ih s (index + 1)
      | play => exact ih (s.setItem index { item with status := .playing }) (index + 1)
      | drop =>
        dsimp only
        rw [retire_record]
        exact ih (s.retire index target) index
      | finish status atMs =>
        dsimp only
        rw [← ih, ← retire_record]
        rfl

theorem advanceTo_record (atMs : Nat) :
    ({ s with lastRejection := rejection } : Scheduler).advanceTo atMs =
      { s.advanceTo atMs with lastRejection := rejection } := by
  rw [advanceTo, advanceTo]
  dsimp only
  rw [← show ({ s.expireCooldowns (max atMs s.nowMs) with lastRejection := rejection } :
      Scheduler) = ({ s with lastRejection := rejection } : Scheduler).expireCooldowns
        (max atMs s.nowMs) from rfl, advanceLoop_record]

end Recorded

/-! ## What a rejection leaves -/

/-- A request is a duplicate as soon as an item carries its event id. -/
theorem contend_eq_duplicateEvent {s : Scheduler} {requestAtMs : Nat} {plan : PlannedPerformance} :
    s.contend requestAtMs plan = .error .duplicateEvent ↔
      ∃ item ∈ s.items, item.plan.eventId = plan.eventId := by
  have hany : s.items.any (·.plan.eventId = plan.eventId) = true ↔
      ∃ item ∈ s.items, item.plan.eventId = plan.eventId := by simp
  rw [← hany, contend_eq]
  dsimp only
  by_cases hdup : s.items.any (·.plan.eventId = plan.eventId) = true
  · simp [hdup]
  · rw [if_neg hdup]
    split
    · simp [hdup]
    · split <;> simp [hdup]

theorem occupiesTimeline_of_live {item : ScheduledItem} (h : item.Live) :
    item.occupiesTimeline = true := by
  rcases h with h | ⟨h, -⟩ <;> simp [ScheduledItem.occupiesTimeline, h]

theorem scheduleNow_error {s : Scheduler} {requestAtMs : Nat} {plan : PlannedPerformance}
    {rejection : Rejection} :
    (s.scheduleNow requestAtMs plan).2 = .error rejection ↔
      s.contend requestAtMs plan = .error rejection := by
  rw [scheduleNow]
  cases s.contend requestAtMs plan with
  | error reason => simp [reject]
  | ok state => simp [accept]

/-- **Rejections are atomic**: in every reachable state a rejected request leaves the state
that advancing to it leaves, with the rejection recorded; and it is a duplicate exactly when
a queued or playing item carries its event id after that advance. -/
theorem rejection_atomic (config : SchedulerConfig) (ops : List Op) (requestAtMs : Nat)
    (plan : PlannedPerformance) :
    (∀ rejection,
      ((machine.run (new config) ops).scheduleAt requestAtMs plan).2 = .error rejection →
      ((machine.run (new config) ops).scheduleAt requestAtMs plan).1 =
        { (machine.run (new config) ops).advanceTo requestAtMs with
          lastRejection := some rejection }) ∧
    (((machine.run (new config) ops).scheduleAt requestAtMs plan).2 = .error .duplicateEvent ↔
      ∃ item ∈ ((machine.run (new config) ops).advanceTo requestAtMs).items,
        item.occupiesTimeline = true ∧ item.plan.eventId = plan.eventId) := by
  generalize hs : machine.run (new config) ops = s
  have htidy : s.Tidy := hs ▸ reachable_tidy config ops
  rw [scheduleAt, advanceTo_record]
  constructor
  · intro rejection h
    rw [scheduleNow_error] at h
    rw [scheduleNow, h]
    rfl
  · rw [scheduleNow_error, contend_eq_duplicateEvent]
    have hlive := (advanceTo_steps htidy requestAtMs).tidy htidy
    constructor
    · rintro ⟨item, hitem, heq⟩
      exact ⟨item, hitem, occupiesTimeline_of_live (hlive item hitem), heq⟩
    · rintro ⟨item, hitem, -, heq⟩
      exact ⟨item, hitem, heq⟩

end Scheduler

end Aivtuber
