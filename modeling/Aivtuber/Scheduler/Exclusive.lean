import Mathlib.Order.CompletePartialOrder
import Mathlib.Order.Interval.Set.Disjoint
import Aivtuber.Scheduler.Run

/-!
# Exclusivity of the timeline

No two live items whose plans conflict hold a common instant.  The invariant is
`Exclusive`: the items are pairwise `Apart`, which is stated with the overlap test
of the source and so also covers the empty intervals that the test treats as
points.  It survives a retirement because the items left are a sub-multiset of the
ones before, a revision because the revised item ends no later, and an acceptance
because the accepted plan is clear of the items (`Accepted.clear`).
-/

open Saturating

namespace Aivtuber

namespace Scheduler

/-- Items that conflict do not overlap. -/
def Apart (a b : ScheduledItem) : Prop :=
  plansConflict a.plan b.plan →
    ¬ intervalsOverlap a.plan.startAtMs a.effectiveEndMs b.plan.startAtMs b.effectiveEndMs

/-- Live items are pairwise apart. -/
def Exclusive (s : Scheduler) : Prop := s.items.Pairwise Apart

theorem Apart.symm {a b : ScheduledItem} (h : Apart a b) : Apart b a := by
  intro hconf hover
  rw [plansConflict_comm] at hconf
  rw [intervalsOverlap_comm] at hover
  exact h hconf hover

/-- An item that ends earlier stays apart. -/
theorem Apart.shorten {a a' b : ScheduledItem} (h : Apart a b) (hplan : a'.plan = a.plan)
    (hend : a'.effectiveEndMs ≤ a.effectiveEndMs) : Apart a' b := by
  intro hconf hover
  rw [hplan] at hconf hover
  refine h hconf ?_
  simp only [intervalsOverlap, Bool.and_eq_true, decide_eq_true_eq] at hover ⊢
  exact ⟨hover.1, lt_of_lt_of_le hover.2 hend⟩

theorem Apart.disjoint {a b : ScheduledItem} (h : Apart a b)
    (hconf : plansConflict a.plan b.plan) :
    Disjoint (Set.Ico a.plan.startAtMs a.effectiveEndMs)
      (Set.Ico b.plan.startAtMs b.effectiveEndMs) := by
  rw [Set.disjoint_left]
  intro instant ha hb
  refine h hconf ?_
  simp only [intervalsOverlap, Bool.and_eq_true, decide_eq_true_eq]
  exact ⟨lt_of_le_of_lt ha.1 hb.2, lt_of_le_of_lt hb.1 ha.2⟩

theorem Quiet.exclusive {s t : Scheduler} (h : Quiet s t) (hs : s.Exclusive) : t.Exclusive := by
  cases h with
  | retire item' atMs hget =>
    rw [Exclusive, setItem_retire_items hget]
    have hperm := List.swapRemove_perm hget
    exact ((hperm.pairwise_iff Apart.symm).mp hs).tail
  | revise item' hget hplan _ hend =>
    obtain ⟨m, hperm, hperm'⟩ := List.set_perm hget item'
    have hpair := (hperm.pairwise_iff Apart.symm).mp hs
    refine (hperm'.pairwise_iff Apart.symm).mpr ?_
    rw [List.pairwise_cons] at hpair ⊢
    exact ⟨fun b hb ↦ (hpair.1 b hb).shorten hplan hend, hpair.2⟩
  | book h =>
    rw [Exclusive, h.items]
    exact hs

theorem accept_exclusive {t : Scheduler} {q : PlannedPerformance} (ht : t.Exclusive)
    (hclear : ∀ item ∈ t.items, plansConflict item.plan q →
      ¬ intervalsOverlap q.startAtMs q.endAtMs item.plan.startAtMs item.effectiveEndMs) :
    (t.accept q).1.Exclusive := by
  refine List.pairwise_append.mpr ⟨ht, List.pairwise_singleton _ _, fun item hitem new hnew ↦ ?_⟩
  rw [List.mem_singleton.mp hnew]
  intro hconf hover
  refine hclear item hitem hconf ?_
  rw [intervalsOverlap_comm]
  -- nothing has cut the accepted plan yet
  have hend : min q.endAtMs q.endAtMs = q.endAtMs := min_self _
  exact hend ▸ hover

theorem Effect.exclusive {s t : Scheduler} {out : Outcome} (h : Effect s t out)
    (hs : s.Exclusive) : t.Exclusive := by
  cases h with
  | quiet h => exact h.invariant (fun _ _ hq ↦ hq.exclusive) hs
  | drain => exact hs
  | accept h _ hclear => exact accept_exclusive (h.invariant (fun _ _ hq ↦ hq.exclusive) hs) hclear

/-- **The timeline is exclusive** in every reachable state: two live items whose
plans conflict have disjoint effective intervals. -/
theorem conflicting_items_disjoint (config : SchedulerConfig) (ops : List Op) {i j : Nat}
    {a b : ScheduledItem} (hij : i ≠ j)
    (ha : (machine.run (new config) ops).items[i]? = some a)
    (hb : (machine.run (new config) ops).items[j]? = some b)
    (hconf : plansConflict a.plan b.plan) :
    Disjoint (Set.Ico a.plan.startAtMs a.effectiveEndMs)
      (Set.Ico b.plan.startAtMs b.effectiveEndMs) := by
  have hex : (machine.run (new config) ops).Exclusive :=
    reachable_invariant config List.Pairwise.nil (fun _ _ _ _ h ↦ h.exclusive) ops
  obtain ⟨hi, rfl⟩ := List.getElem?_eq_some_iff.mp ha
  obtain ⟨hj, rfl⟩ := List.getElem?_eq_some_iff.mp hb
  refine Apart.disjoint ?_ hconf
  rcases Nat.lt_or_gt_of_ne hij with hlt | hgt
  · exact List.pairwise_iff_getElem.mp hex i j hi hj hlt
  · exact (List.pairwise_iff_getElem.mp hex j i hj hi hgt).symm

section Preemption

/-- Speech that can be left after 10 ms. -/
def speech : PlannedPerformance :=
  { PlannedPerformance.cue "speech" "line" .conversation {.audio} 0 100 with
    interruptible := true
    interruptPointsMs := [10] }

def command : PlannedPerformance :=
  PlannedPerformance.cue "command" "notice" .operator {.audio} 5 50

/-- An operator command takes over at the safe point of the speech that plays. -/
theorem conflicting_items_disjoint_preempted :
    Disjoint (Set.Ico 0 10) (Set.Ico 10 60) :=
  conflicting_items_disjoint .default [.schedule speech, .schedule command]
    (a := ⟨{ speech with generation := 1 }, .playing, some 10⟩)
    (b := ⟨{ command with startAtMs := 10, generation := 2 }, .queued, none⟩) Nat.zero_ne_one
    (by decide +kernel) (by decide +kernel) (by decide +kernel)

end Preemption

end Scheduler

end Aivtuber
