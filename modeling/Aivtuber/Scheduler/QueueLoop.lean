import Aivtuber.Base.Loop
import Aivtuber.Scheduler.Queue

/-!
# The queue loop terminates

The loop of `schedule_at` has no counter: it leaves at the first pass that finds no queued
item in the way of the plan.  `QueueLoop` is that loop, pass by pass, from any state and
any plan; the fuel of `resolveQueue` is enough for it.

A pass may leave the start where it is, when it only cancels, or when the start has
saturated.  What it always lowers is `pending`, the number of items that end after the
start: an item that is waited for ends by then, since no end is above the largest instant
either, and a cancelled one is gone.
-/

open Saturating

namespace Aivtuber

namespace Scheduler

/-- The loop of `schedule_at` from a state and the plan that it moves. -/
def QueueLoop (requestAtMs : Nat) :
    Scheduler × PlannedPerformance → Nat → Scheduler × PlannedPerformance → Prop :=
  Loop (fun state ↦ state.1.queuedSlots state.2 = []) (resolvePass requestAtMs)

/-- The fuel of `resolveQueue` runs the loop to its end. -/
theorem QueueLoop.resolveQueue_eq {requestAtMs passes : Nat}
    {state state' : Scheduler × PlannedPerformance} (h : QueueLoop requestAtMs state passes state')
    {fuel : Nat} (hfuel : passes ≤ fuel) : resolveQueue requestAtMs (fuel + 1) state = state' := by
  induction h generalizing fuel with
  | exit hdone => rw [resolveQueue_succ, if_pos hdone]
  | again hslots _ ih =>
    rw [resolveQueue_succ, if_neg hslots]
    cases fuel with
    | zero => omega
    | succ fuel => exact ih (by omega)

/-- **The queue loop terminates**, whatever the state and the plan: it leaves after at most
as many passes as there are live items, always with the same result, which is the one the
scheduler goes on with, and no queued item that conflicts with the plan overlaps it then. -/
theorem queueLoop_terminates (requestAtMs : Nat) (s : Scheduler) (plan : PlannedPerformance) :
    ∃ passes s' plan', passes ≤ s.items.length ∧
      QueueLoop requestAtMs (s, plan) passes (s', plan') ∧
      (∀ passes' state', QueueLoop requestAtMs (s, plan) passes' state' →
        passes' = passes ∧ state' = (s', plan')) ∧
      resolveQueue requestAtMs (s.items.length + 1) (s, plan) = (s', plan') ∧
      ∀ item ∈ s'.items, item.status = .queued → plansConflict item.plan plan' →
        ¬ intervalsOverlap plan'.startAtMs plan'.endAtMs item.plan.startAtMs
          item.effectiveEndMs := by
  have hpass : ∀ state : Scheduler × PlannedPerformance, ¬ state.1.queuedSlots state.2 = [] →
      pending (resolvePass requestAtMs state) < pending state :=
    fun _ hslots ↦ pending_resolvePass_lt hslots
  obtain ⟨passes, ⟨s', plan'⟩, hpasses, hloop⟩ := Loop.terminates hpass (s, plan)
  have hlength : passes ≤ s.items.length := hpasses.trans List.countP_le_length
  refine ⟨passes, s', plan', hlength, hloop, fun passes' state' h ↦ ?_,
    QueueLoop.resolveQueue_eq hloop hlength, ?_⟩
  · obtain ⟨hcount, hstate⟩ := hloop.unique h
    exact ⟨hcount.symm, hstate.symm⟩
  · intro item hitem hqueued hconflict hoverlap
    have hclear := queuedSlots_eq_nil_iff.mp hloop.done_last item hitem
    simp [blocks, hqueued, hconflict, hoverlap] at hclear

end Scheduler

end Aivtuber
