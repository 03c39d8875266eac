import Mathlib.Data.List.Count
import Aivtuber.Scheduler.Contend

/-!
# Resolving future reservations

One pass of the queue loop visits the blocking slots from the back, cancelling the
items the request supersedes and waiting behind the others.  A cancellation only
moves slots behind the one it empties, so a pass acts on the items it found
(`resolvePass_spec`): the superseded ones leave, and the start is the fold of
`waitBehind` over the ends of the rest.

A pass over at least one slot lowers the number of items that end after the start
of the request (`pending_resolvePass_lt`), so the loop ends, and it ends at a pass
without blocking items (`resolveQueue_spec`).
-/

open Saturating

namespace Aivtuber

namespace Scheduler

/-- A blocking item the request supersedes. -/
def supersedes (plan : PlannedPerformance) (item : ScheduledItem) : Bool :=
  blocks plan item && decide (plan.priority.rank < item.plan.priority.rank)

/-- A blocking item the request waits behind. -/
def waitsFor (plan : PlannedPerformance) (item : ScheduledItem) : Bool :=
  blocks plan item && !decide (plan.priority.rank < item.plan.priority.rank)

/-- One pass of the queue loop. -/
def resolvePass (requestAtMs : Nat) (state : Scheduler × PlannedPerformance) :
    Scheduler × PlannedPerformance :=
  (state.1.queuedSlots state.2).foldl (resolveSlot requestAtMs) state

/-! ## Cancelling a queued item, field by field -/

section CancelQueued

variable {s : Scheduler} {index : Nat} {item : ScheduledItem} (atMs : Nat)

theorem cancelQueued_cooldowns (h : s.items[index]? = some item) :
    (s.cancelQueued index atMs).cooldowns =
      releaseCooldown s.config.minReactionSpacingMs s.cooldowns item := by
  rw [cancelQueued, h]
  exact retire_cooldowns atMs

@[simp] theorem cancelQueued_nowMs : (s.cancelQueued index atMs).nowMs = s.nowMs := by
  rw [cancelQueued]
  split
  · rfl
  · exact retire_nowMs atMs

@[simp] theorem cancelQueued_lastTerminalAt :
    (s.cancelQueued index atMs).lastTerminalAt = s.lastTerminalAt := by
  rw [cancelQueued]
  split
  · rfl
  · exact retire_lastTerminalAt atMs

end CancelQueued

/-! ## Waiting -/

/-- Waiting behind a list of ends, in order. -/
def waitBehindAll (spacingMs : Nat) (plan : PlannedPerformance) (ends : List Nat) :
    PlannedPerformance := ends.foldl (waitBehind spacingMs) plan

theorem waitBehindAll_eq (spacingMs : Nat) (plan : PlannedPerformance) (ends : List Nat) :
    waitBehindAll spacingMs plan ends =
      { plan with startAtMs := (waitBehindAll spacingMs plan ends).startAtMs } := by
  induction ends generalizing plan with
  | nil => rfl
  | cons e ends ih => exact ih (waitBehind spacingMs plan e)

theorem waitBehind_bounds (spacingMs : Nat) {e : Nat} {plan : PlannedPerformance}
    (hplan : plan.startAtMs ≤ u64Max) (he : e ≤ u64Max) :
    plan.startAtMs ≤ (waitBehind spacingMs plan e).startAtMs ∧
      e ≤ (waitBehind spacingMs plan e).startAtMs ∧
      (waitBehind spacingMs plan e).startAtMs ≤ u64Max := by
  have hmax : max plan.startAtMs e ≤ u64Max := max_le hplan he
  rw [waitBehind]
  dsimp only
  split
  · exact ⟨le_max_left _ _, le_max_right _ _, hmax⟩
  · have hsat := le_satAdd (b := spacingMs) hmax
    exact ⟨(le_max_left _ _).trans hsat, (le_max_right _ _).trans hsat, satAdd_le_max _ _⟩

/-- Waiting never moves the start backwards, and moves it past every end. -/
theorem waitBehindAll_bounds (spacingMs : Nat) {plan : PlannedPerformance} {ends : List Nat}
    (hplan : plan.startAtMs ≤ u64Max) (hends : ∀ e ∈ ends, e ≤ u64Max) :
    plan.startAtMs ≤ (waitBehindAll spacingMs plan ends).startAtMs ∧
      ∀ e ∈ ends, e ≤ (waitBehindAll spacingMs plan ends).startAtMs := by
  induction ends generalizing plan with
  | nil => exact ⟨le_refl _, fun e he ↦ absurd he List.not_mem_nil⟩
  | cons e ends ih =>
    obtain ⟨hle, hend, hmax⟩ := waitBehind_bounds spacingMs hplan
      (hends e List.mem_cons_self)
    obtain ⟨hle', hends'⟩ := ih hmax fun e he ↦ hends e (List.mem_cons_of_mem _ he)
    refine ⟨hle.trans hle', fun e' he' ↦ ?_⟩
    rcases List.mem_cons.mp he' with rfl | he'
    · exact hend.trans hle'
    · exact hends' e' he'

/-! ## One pass -/

/-- What a pass over slots holding the items `cancelled` and `waited` does. -/
structure Passed (state state' : Scheduler × PlannedPerformance)
    (kept cancelled waited : List ScheduledItem) : Prop where
  steps : Steps state.1 state'.1
  items : state'.1.items.Perm kept
  cooldowns : state'.1.cooldowns =
    cancelled.foldl (releaseCooldown state.1.config.minReactionSpacingMs) state.1.cooldowns
  plan : state'.2 = waitBehindAll state.1.config.minReactionSpacingMs state.2
    (waited.map (·.effectiveEndMs))
  nowMs : state'.1.nowMs = state.1.nowMs
  lastTerminalAt : state'.1.lastTerminalAt = state.1.lastTerminalAt

/-- Visiting slots from the back.  The induction is on the slots still to be
visited, the last one first; `r` is what lies behind them, in any order. -/
theorem foldl_resolveSlot (requestAtMs : Nat) (p : ScheduledItem → Bool) (rank : Nat) :
    ∀ (l r : List ScheduledItem) (t : Scheduler) (q : PlannedPerformance),
      q.priority.rank = rank → t.items = l ++ r →
      Passed (t, q) (((l.slots p).map Prod.snd).reverse.foldl (resolveSlot requestAtMs) (t, q))
        ((l.filter fun x ↦ !(p x && decide (rank < x.plan.priority.rank))) ++ r)
        (l.filter fun x ↦ p x && decide (rank < x.plan.priority.rank)).reverse
        (l.filter fun x ↦ p x && !decide (rank < x.plan.priority.rank)).reverse := by
  intro l
  induction l using List.reverseRecOn with
  | nil =>
    intro r t q _ ht
    exact ⟨Steps.refl t, List.Perm.of_eq ht, rfl, rfl, rfl, rfl⟩
  | append_singleton l x ih =>
    intro r t q hq ht
    rw [List.append_assoc, List.singleton_append] at ht
    have hget : t.items[l.length]? = some x := by
      rw [ht, List.getElem?_append_right (le_refl _), Nat.sub_self]; rfl
    simp only [List.slots_concat, List.filter_append, List.filter_singleton]
    cases hp : p x with
    | false =>
      have h := ih (x :: r) t q hq ht
      simpa using h
    | true =>
      have hslot : (((l.slots p ++ if true = true then [(x, l.length)] else []).map
          Prod.snd).reverse) = l.length :: ((l.slots p).map Prod.snd).reverse := by simp
      rw [hslot, List.foldl_cons]
      have hstep : resolveSlot requestAtMs (t, q) l.length =
          if q.priority.rank < x.plan.priority.rank then
            (t.cancelQueued l.length requestAtMs, q)
          else (t, waitBehind t.config.minReactionSpacingMs q x.effectiveEndMs) := by
        simp only [resolveSlot, hget]
      rw [hstep, hq]
      by_cases hrank : rank < x.plan.priority.rank
      · -- superseded: the items behind the slot are rotated
        have hitems : (t.cancelQueued l.length requestAtMs).items = l ++ r.rotateLast := by
          rw [cancelQueued_items requestAtMs hget, ht, List.swapRemove_append_cons]
        have hsteps := cancelQueued_steps t l.length requestAtMs
        have h := ih r.rotateLast _ q hq hitems
        rw [if_pos hrank]
        refine ⟨hsteps.trans h.steps, ?_, ?_, ?_, ?_, ?_⟩
        · refine h.items.trans ?_
          simpa [hrank] using r.rotateLast_perm.append_left _
        · rw [h.cooldowns, hsteps.config_eq, cancelQueued_cooldowns requestAtMs hget]
          simp [hrank]
        · rw [h.plan, hsteps.config_eq]
          simp [hrank]
        · rw [h.nowMs, cancelQueued_nowMs]
        · rw [h.lastTerminalAt, cancelQueued_lastTerminalAt]
      · have h := ih (x :: r) t (waitBehind t.config.minReactionSpacingMs q x.effectiveEndMs) hq
          ht
        rw [if_neg hrank]
        refine ⟨h.steps, ?_, ?_, ?_, h.nowMs, h.lastTerminalAt⟩
        · refine h.items.trans ?_
          simp [hrank]
        · rw [h.cooldowns]
          simp [hrank]
        · rw [h.plan]
          simp [hrank, waitBehindAll]

/-- **One pass**, by the items it found. -/
theorem resolvePass_spec (requestAtMs : Nat) (t : Scheduler) (q : PlannedPerformance) :
    Passed (t, q) (resolvePass requestAtMs (t, q))
      (t.items.filter fun x ↦ !supersedes q x) (t.items.filter (supersedes q)).reverse
      (t.items.filter (waitsFor q)).reverse := by
  have h := foldl_resolveSlot requestAtMs (blocks q) q.priority.rank t.items [] t q rfl
    (by rw [List.append_nil])
  rw [List.append_nil] at h
  exact h

/-! ## The whole loop -/

theorem queuedSlots_eq_nil_iff {t : Scheduler} {q : PlannedPerformance} :
    t.queuedSlots q = [] ↔ ∀ item ∈ t.items, blocks q item = false := by
  rw [queuedSlots, List.reverse_eq_nil_iff, List.map_eq_nil_iff, ← List.map_eq_nil_iff (f := Prod.fst),
    List.map_fst_slots, List.filter_eq_nil_iff]
  simp only [Bool.not_eq_true]

/-- A pass that finds no slot ends the loop; otherwise the loop goes on from what
the pass leaves. -/
theorem resolveQueue_succ (requestAtMs fuel : Nat) (state : Scheduler × PlannedPerformance) :
    resolveQueue requestAtMs (fuel + 1) state =
      if state.1.queuedSlots state.2 = [] then state
      else resolveQueue requestAtMs fuel (resolvePass requestAtMs state) := by
  rw [resolveQueue]
  split
  · rename_i h; rw [if_pos h]
  · rename_i h; rw [if_neg h]; rfl

/-- **Loop invariants of the queue loop**: what a pass over some slots preserves. -/
theorem resolveQueue_invariant (requestAtMs : Nat) {P : Scheduler × PlannedPerformance → Prop}
    (hpass : ∀ state, P state → state.1.queuedSlots state.2 ≠ [] →
      P (resolvePass requestAtMs state)) (fuel : Nat) (state : Scheduler × PlannedPerformance)
    (h : P state) : P (resolveQueue requestAtMs fuel state) := by
  induction fuel generalizing state with
  | zero => exact h
  | succ fuel ih =>
    rw [resolveQueue_succ]
    split
    · exact h
    · rename_i hslots; exact ih _ (hpass state h hslots)

theorem blocks_lt {q : PlannedPerformance} {item : ScheduledItem} (h : blocks q item) :
    q.startAtMs < item.effectiveEndMs := by
  simp only [blocks, intervalsOverlap, Bool.and_eq_true, decide_eq_true_eq] at h
  exact h.2.1

theorem supersedes_or_waitsFor {q : PlannedPerformance} {item : ScheduledItem}
    (h : blocks q item) : supersedes q item ∨ waitsFor q item := by
  rw [supersedes, waitsFor, h]
  by_cases hrank : q.priority.rank < item.plan.priority.rank
  · exact Or.inl (by simpa using hrank)
  · exact Or.inr (by simpa using hrank)

/-- A pass over some slots starts in range, and moves the start past the end of
every item it waits behind. -/
theorem resolvePass_bounds (requestAtMs : Nat) {t : Scheduler} {q : PlannedPerformance}
    (hslots : t.queuedSlots q ≠ []) :
    q.startAtMs ≤ (resolvePass requestAtMs (t, q)).2.startAtMs ∧
      ∀ item ∈ t.items, waitsFor q item →
        item.effectiveEndMs ≤ (resolvePass requestAtMs (t, q)).2.startAtMs := by
  have hstart : q.startAtMs ≤ u64Max := by
    rw [Ne, queuedSlots_eq_nil_iff] at hslots
    push Not at hslots
    obtain ⟨item, _, hb⟩ := hslots
    rw [Bool.ne_false_iff] at hb
    exact (blocks_lt hb).le.trans item.effectiveEndMs_le_max
  have hends : ∀ e ∈ (t.items.filter (waitsFor q)).reverse.map (·.effectiveEndMs), e ≤ u64Max := by
    intro e he
    obtain ⟨item, _, rfl⟩ := List.mem_map.mp he
    exact item.effectiveEndMs_le_max
  obtain ⟨hle, hmem⟩ := waitBehindAll_bounds t.config.minReactionSpacingMs hstart hends
  rw [(resolvePass_spec requestAtMs t q).plan]
  refine ⟨hle, fun item hitem hw ↦ hmem _ ?_⟩
  exact List.mem_map_of_mem (List.mem_reverse.mpr (List.mem_filter.mpr ⟨hitem, hw⟩))

theorem postponed_resolvePass {requestAtMs : Nat} {t : Scheduler} {q : PlannedPerformance}
    (hslots : t.queuedSlots q ≠ []) : q.Postponed (resolvePass requestAtMs (t, q)).2 := by
  refine ⟨?_, (resolvePass_bounds requestAtMs hslots).1⟩
  rw [(resolvePass_spec requestAtMs t q).plan]
  exact waitBehindAll_eq _ _ _

/-- The items that end after the start of the request: the only ones that can
still be in its way. -/
def pending (state : Scheduler × PlannedPerformance) : Nat :=
  state.1.items.countP fun item ↦ state.2.startAtMs < item.effectiveEndMs

theorem pending_resolvePass_lt {requestAtMs : Nat} {t : Scheduler} {q : PlannedPerformance}
    (hslots : t.queuedSlots q ≠ []) : pending (resolvePass requestAtMs (t, q)) < pending (t, q) := by
  obtain ⟨hle, hmem⟩ := resolvePass_bounds requestAtMs hslots
  obtain ⟨item, hitem, hb⟩ : ∃ item ∈ t.items, blocks q item := by
    rw [Ne, queuedSlots_eq_nil_iff] at hslots
    push Not at hslots
    obtain ⟨item, hitem, hb⟩ := hslots
    exact ⟨item, hitem, Bool.ne_false_iff.mp hb⟩
  rw [pending, (resolvePass_spec requestAtMs t q).items.countP_eq, List.countP_filter, pending]
  refine List.countP_lt_countP (fun x _ hx ↦ ?_) hitem (decide_eq_true (blocks_lt hb)) fun hx ↦ ?_
  · simp only [Bool.and_eq_true, decide_eq_true_eq] at hx ⊢
    exact lt_of_le_of_lt hle hx.1
  · -- the blocking item is counted before the pass and not after it
    simp only [Bool.and_eq_true, decide_eq_true_eq, Bool.not_eq_true'] at hx
    rcases supersedes_or_waitsFor hb with hs | hw
    · rw [hs] at hx
      exact absurd hx.2 (Bool.not_eq_false _ ▸ rfl)
    · exact absurd (hmem item hitem hw) (not_le.mpr hx.1)

/-- What the queue loop makes of the state `t` and the plan `q`. -/
structure Resolved (t : Scheduler) (q : PlannedPerformance) (t' : Scheduler)
    (q' : PlannedPerformance) : Prop where
  steps : Steps t t'
  postponed : q.Postponed q'
  subset : t'.items ⊆ t.items
  nowMs : t'.nowMs = t.nowMs
  /-- No queued item is left in the way. -/
  clear : ∀ item ∈ t'.items, blocks q' item = false

theorem resolveQueue_clear (requestAtMs : Nat) : ∀ (fuel : Nat)
    (state : Scheduler × PlannedPerformance), pending state ≤ fuel →
      (resolveQueue requestAtMs fuel state).1.queuedSlots
        (resolveQueue requestAtMs fuel state).2 = [] := by
  intro fuel
  induction fuel with
  | zero =>
    intro state h
    rw [resolveQueue, queuedSlots_eq_nil_iff]
    intro item hitem
    rw [Nat.le_zero, pending, List.countP_eq_zero] at h
    by_contra hb
    rw [Bool.not_eq_false] at hb
    exact h item hitem (decide_eq_true (blocks_lt hb))
  | succ fuel ih =>
    intro state h
    rw [resolveQueue_succ]
    split
    · assumption
    · rename_i hslots
      exact ih _ (Nat.le_of_lt_succ (lt_of_lt_of_le (pending_resolvePass_lt hslots) h))

/-- **The queue loop** ends with nothing queued in the way, and has only moved the
start of the request, and only forwards. -/
theorem resolveQueue_spec (requestAtMs : Nat) (t : Scheduler) (q : PlannedPerformance) :
    Resolved t q (resolveQueue requestAtMs (t.items.length + 1) (t, q)).1
      (resolveQueue requestAtMs (t.items.length + 1) (t, q)).2 := by
  have hinv := resolveQueue_invariant requestAtMs
    (P := fun state ↦ Steps t state.1 ∧ q.Postponed state.2 ∧ state.1.items ⊆ t.items ∧
      state.1.nowMs = t.nowMs)
    (fun state ⟨hsteps, hpost, hsub, hnow⟩ hslots ↦ by
      have h := resolvePass_spec requestAtMs state.1 state.2
      have hkept : (resolvePass requestAtMs state).1.items ⊆ state.1.items :=
        fun item hitem ↦ (List.mem_filter.mp (h.items.mem_iff.mp hitem)).1
      exact ⟨hsteps.trans h.steps, hpost.trans (postponed_resolvePass hslots), List.Subset.trans hkept hsub,
        h.nowMs.trans hnow⟩)
    (t.items.length + 1) (t, q) ⟨Steps.refl t, .refl q, fun _ h ↦ h, rfl⟩
  have hclear := resolveQueue_clear requestAtMs (t.items.length + 1) (t, q)
    (List.countP_le_length.trans (Nat.le_succ _))
  exact ⟨hinv.1, hinv.2.1, hinv.2.2.1, hinv.2.2.2, queuedSlots_eq_nil_iff.mp hclear⟩

end Scheduler

end Aivtuber
