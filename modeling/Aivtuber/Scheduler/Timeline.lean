import Mathlib.Data.List.Permutation
import Aivtuber.Scheduler.Advance
import Aivtuber.Scheduler.Run

/-!
# States that differ in the order of their slots

`SameTimeline` relates two states with the same items, cooldowns and clocks, in
whatever order their slots are.  Advancing logical time respects the relation, and
advancing twice is advancing once (`advanceTo_advanceTo`).

Scheduling respects it but for one place.  A request that waits behind several
queued items adds the reaction spacing once for each, in slot order, so its start
can depend on that order; `waitsInAnyOrder` is the condition on one pass of the
queue loop under which it does not, and `orderFree` the condition on a request.
-/

open Saturating
open Std (ExtTreeMap)

namespace Aivtuber

namespace Scheduler

open ScheduledItem

/-- The same state, up to the order of its slots and to records that no request
reads. -/
structure SameTimeline (s t : Scheduler) : Prop where
  items : s.items.Perm t.items
  cooldowns : s.cooldowns = t.cooldowns
  generation : s.generation = t.generation
  config : s.config = t.config
  nowMs : s.nowMs = t.nowMs
  lastTerminalAt : s.lastTerminalAt = t.lastTerminalAt

namespace SameTimeline

theorem refl (s : Scheduler) : SameTimeline s s := ⟨.refl _, rfl, rfl, rfl, rfl, rfl⟩

theorem symm {s t : Scheduler} (h : SameTimeline s t) : SameTimeline t s :=
  ⟨h.items.symm, h.cooldowns.symm, h.generation.symm, h.config.symm, h.nowMs.symm,
    h.lastTerminalAt.symm⟩

theorem trans {s t u : Scheduler} (h : SameTimeline s t) (h' : SameTimeline t u) :
    SameTimeline s u :=
  ⟨h.items.trans h'.items, h.cooldowns.trans h'.cooldowns, h.generation.trans h'.generation,
    h.config.trans h'.config, h.nowMs.trans h'.nowMs, h.lastTerminalAt.trans h'.lastTerminalAt⟩

end SameTimeline

/-! ## Advancing -/

theorem Advanced.sameTimeline {target : Nat} {s t s' t' : Scheduler} (h : SameTimeline s t)
    (hs : Advanced target s s') (ht : Advanced target t t') : SameTimeline s' t' := by
  refine ⟨?_, ?_, ?_, ?_, hs.nowMs.trans ht.nowMs.symm, ?_⟩
  · exact hs.items.trans ((h.items.filterMap _).trans ht.items.symm)
  · rw [hs.cooldowns, ht.cooldowns, h.cooldowns]
  · rw [hs.generation, ht.generation, h.generation]
  · rw [hs.config, ht.config, h.config]
  · rw [hs.lastTerminalAt, ht.lastTerminalAt, h.lastTerminalAt,
      (h.items.filterMap (terminal target)).foldl_eq]

theorem SameTimeline.advanceTo {s t : Scheduler} (h : SameTimeline s t) (atMs : Nat) :
    SameTimeline (s.advanceTo atMs) (t.advanceTo atMs) := by
  have ht := t.advanceTo_spec atMs
  rw [← h.nowMs] at ht
  exact Advanced.sameTimeline h (s.advanceTo_spec atMs) ht

/-- What two advances record of the items that ended is what one records. -/
theorem terminals_perm {s : Scheduler} (hs : s.Tidy) {t u : Nat} (htu : t ≤ u) :
    (s.items.filterMap (terminal t) ++
        (s.items.filterMap (carry t)).filterMap (terminal u)).Perm
      (s.items.filterMap (terminal u)) := by
  rw [List.filterMap_filterMap, List.filterMap_eq_flatMap_toList, List.filterMap_eq_flatMap_toList,
    List.filterMap_eq_flatMap_toList]
  refine (List.flatMap_append_perm _ _ _).trans (List.Perm.of_eq ?_)
  exact List.flatMap_congr fun item hitem ↦ (carry_carry (hs item hitem) htu).2

theorem filter_filter_cooldowns {t u : Nat} (htu : t ≤ u) (cooldowns : ExtTreeMap String Nat) :
    ((cooldowns.filter fun _ untilMs ↦ t < untilMs).filter fun _ untilMs ↦ u < untilMs) =
      cooldowns.filter fun _ untilMs ↦ u < untilMs := by
  have hpred : (fun untilMs : Nat ↦ decide (t < untilMs) && decide (u < untilMs)) =
      fun untilMs ↦ decide (u < untilMs) := by
    funext untilMs
    by_cases hu : u < untilMs
    · simp [hu, lt_of_le_of_lt htu hu]
    · simp [hu]
  apply ExtTreeMap.ext_getElem?
  intro assetId
  simp only [ExtTreeMap.getElem?_filter', Option.filter_filter, hpred]

/-- **Two advances are one**, up to the order of the slots. -/
theorem advanceTo_advanceTo {s : Scheduler} (hs : s.Tidy) (a b : Nat) :
    SameTimeline ((s.advanceTo a).advanceTo b) (s.advanceTo (max a b)) := by
  have ha := s.advanceTo_spec a
  have hb := (s.advanceTo a).advanceTo_spec b
  have hab := s.advanceTo_spec (max a b)
  have htarget : max b (s.advanceTo a).nowMs = max (max a b) s.nowMs := by
    rw [ha.nowMs, max_comm a b, max_assoc]
  rw [htarget] at hb
  have hle : max a s.nowMs ≤ max (max a b) s.nowMs := max_le_max (le_max_left a b) (le_refl _)
  refine ⟨?_, ?_, ?_, ?_, hb.nowMs.trans hab.nowMs.symm, ?_⟩
  · refine hb.items.trans (((ha.items.filterMap _).trans (List.Perm.of_eq ?_)).trans hab.items.symm)
    rw [List.filterMap_filterMap]
    exact List.filterMap_congr fun item hitem ↦ (carry_carry (hs item hitem) hle).1
  · rw [hb.cooldowns, ha.cooldowns, hab.cooldowns, filter_filter_cooldowns hle]
  · rw [hb.generation, ha.generation, hab.generation]
  · rw [hb.config, ha.config, hab.config]
  · rw [hb.lastTerminalAt, ha.lastTerminalAt, hab.lastTerminalAt,
      (ha.items.filterMap (terminal (max (max a b) s.nowMs))).foldl_eq, ← List.foldl_append,
      (terminals_perm hs hle).foldl_eq]

/-! ## Arbitration -/

theorem SameTimeline.any_eq {s t : Scheduler} (h : SameTimeline s t) (p : ScheduledItem → Bool) :
    s.items.any p = t.items.any p := by
  rw [Bool.eq_iff_iff, List.any_eq_true, List.any_eq_true]
  constructor
  · rintro ⟨item, hitem, hp⟩
    exact ⟨item, h.items.mem_iff.mp hitem, hp⟩
  · rintro ⟨item, hitem, hp⟩
    exact ⟨item, h.items.mem_iff.mpr hitem, hp⟩

theorem SameTimeline.spacedStart_eq {s t : Scheduler} (h : SameTimeline s t) (requestAtMs : Nat)
    (plan : PlannedPerformance) :
    s.spacedStart plan (s.handoff requestAtMs plan) =
      t.spacedStart plan (t.handoff requestAtMs plan) := by
  have hperm : (s.boundaries requestAtMs plan).Perm (t.boundaries requestAtMs plan) :=
    (h.items.filter _).map _
  have hstart : (s.handoff requestAtMs plan).candidateStart =
      (t.handoff requestAtMs plan).candidateStart := hperm.foldl_eq _
  have hterminal : (s.handoff requestAtMs plan).handoffTerminal =
      (t.handoff requestAtMs plan).handoffTerminal := hperm.foldl_eq _
  rw [spacedStart, spacedStart, hstart, hterminal, h.config, h.lastTerminalAt]

/-- The two states answer a request alike, or let it into the queue loop with the
same plan. -/
theorem SameTimeline.contend {s t : Scheduler} (h : SameTimeline s t) (requestAtMs : Nat)
    (plan : PlannedPerformance) :
    (∃ rejection, s.contend requestAtMs plan = .error rejection ∧
        t.contend requestAtMs plan = .error rejection) ∨
      ∃ s' t' q, s.contend requestAtMs plan = .ok (s', q) ∧
        t.contend requestAtMs plan = .ok (t', q) ∧ SameTimeline s' t' := by
  have hplan : t.requestedPlan requestAtMs plan = s.requestedPlan requestAtMs plan := by
    rw [requestedPlan, requestedPlan, h.nowMs]
  rw [contend_eq, contend_eq, hplan]
  dsimp only
  rw [← h.cooldowns, ← h.any_eq, ← h.any_eq, ← h.spacedStart_eq]
  split
  · exact Or.inl ⟨_, rfl, rfl⟩
  split
  · exact Or.inl ⟨_, rfl, rfl⟩
  split
  · exact Or.inl ⟨_, rfl, rfl⟩
  exact Or.inr ⟨_, _, _, rfl, rfl, h.items.map _, rfl, h.generation, h.config, h.nowMs,
    h.lastTerminalAt⟩

/-! ## The queue loop -/

theorem getElem?_releaseCooldown (spacingMs : Nat) (cooldowns : ExtTreeMap String Nat)
    (item : ScheduledItem) (assetId : String) :
    (releaseCooldown spacingMs cooldowns item)[assetId]? =
      if item.plan.assetId = assetId ∧
          cooldowns[assetId]? = some (satAdd item.plan.endAtMs spacingMs) then none
      else cooldowns[assetId]? := by
  have hrelease : releaseCooldown spacingMs cooldowns item =
      if cooldowns[item.plan.assetId]? = some (satAdd item.plan.endAtMs spacingMs) then
        cooldowns.erase item.plan.assetId
      else cooldowns := rfl
  rw [hrelease]
  by_cases hc : cooldowns[item.plan.assetId]? = some (satAdd item.plan.endAtMs spacingMs)
  · rw [if_pos hc, PositionIndex.getElem?_erase]
    by_cases hasset : item.plan.assetId = assetId
    · rw [if_pos hasset, if_pos ⟨hasset, hasset ▸ hc⟩]
    · rw [if_neg hasset, if_neg fun h ↦ hasset h.1]
  · rw [if_neg hc, if_neg]
    rintro ⟨rfl, h⟩
    exact hc h

/-- The order in which cooldowns are given up does not matter. -/
instance (spacingMs : Nat) : RightCommutative (releaseCooldown spacingMs) where
  right_comm cooldowns a b := by
    apply ExtTreeMap.ext_getElem?
    intro assetId
    simp only [getElem?_releaseCooldown]
    by_cases ha : a.plan.assetId = assetId ∧
        cooldowns[assetId]? = some (satAdd a.plan.endAtMs spacingMs)
    · simp [ha]
    · by_cases hb : b.plan.assetId = assetId ∧
          cooldowns[assetId]? = some (satAdd b.plan.endAtMs spacingMs)
      · simp [hb]
      · simp [ha, hb]

/-- Waiting behind the ends in any order gives the same start. -/
def waitsInAnyOrder (spacingMs : Nat) (plan : PlannedPerformance) (ends : List Nat) : Bool :=
  ends.permutations'.all fun order ↦
    decide (waitBehindAll spacingMs plan order = waitBehindAll spacingMs plan ends)

theorem waitBehindAll_perm {spacingMs : Nat} {plan : PlannedPerformance} {ends order : List Nat}
    (h : waitsInAnyOrder spacingMs plan ends) (hperm : order.Perm ends) :
    waitBehindAll spacingMs plan order = waitBehindAll spacingMs plan ends := by
  rw [waitsInAnyOrder, List.all_eq_true] at h
  exact of_decide_eq_true (h order (List.mem_permutations'.mpr hperm))

/-- The ends a pass of the queue loop waits behind. -/
def waitedEnds (s : Scheduler) (plan : PlannedPerformance) : List Nat :=
  (s.items.filter (waitsFor plan)).map (·.effectiveEndMs)

/-- No pass of the queue loop depends on the order of the slots. -/
def queueOrderFree (requestAtMs : Nat) : Nat → Scheduler × PlannedPerformance → Bool
  | 0, _ => true
  | fuel + 1, state =>
    (state.1.queuedSlots state.2).isEmpty ||
      (waitsInAnyOrder state.1.config.minReactionSpacingMs state.2
          (state.1.waitedEnds state.2) &&
        queueOrderFree requestAtMs fuel (resolvePass requestAtMs state))

/-- A request whose start does not depend on the order of the slots. -/
def orderFree (s : Scheduler) (requestAtMs : Nat) (plan : PlannedPerformance) : Bool :=
  match ({ s with lastRejection := none }.advanceTo requestAtMs).contend requestAtMs plan with
  | .error _ => true
  | .ok state => queueOrderFree requestAtMs (state.1.items.length + 1) state

theorem Passed.plan_eq {state state' : Scheduler × PlannedPerformance}
    {kept cancelled waited : List ScheduledItem} (h : Passed state state' kept cancelled waited)
    {ends : List Nat} (hperm : (waited.map (·.effectiveEndMs)).Perm ends)
    (hfree : waitsInAnyOrder state.1.config.minReactionSpacingMs state.2 ends) :
    state'.2 = waitBehindAll state.1.config.minReactionSpacingMs state.2 ends :=
  h.plan.trans (waitBehindAll_perm hfree hperm)

/-- A pass on states with the same timeline. -/
theorem SameTimeline.resolvePass {s t : Scheduler} (h : SameTimeline s t) (requestAtMs : Nat)
    {q : PlannedPerformance}
    (hfree : waitsInAnyOrder s.config.minReactionSpacingMs q (s.waitedEnds q)) :
    SameTimeline (resolvePass requestAtMs (s, q)).1 (resolvePass requestAtMs (t, q)).1 ∧
      (resolvePass requestAtMs (s, q)).2 = (resolvePass requestAtMs (t, q)).2 := by
  have hs := resolvePass_spec requestAtMs s q
  have ht := resolvePass_spec requestAtMs t q
  have hcancelled : (s.items.filter (supersedes q)).reverse.Perm
      (t.items.filter (supersedes q)).reverse :=
    (List.reverse_perm _).trans ((h.items.filter _).trans (List.reverse_perm _).symm)
  have hwaited : ((t.items.filter (waitsFor q)).reverse.map (·.effectiveEndMs)).Perm
      (s.waitedEnds q) :=
    ((List.reverse_perm _).trans (h.items.filter _).symm).map _
  refine ⟨⟨?_, ?_, ?_, ?_, ?_, ?_⟩, ?_⟩
  · exact hs.items.trans ((h.items.filter _).trans ht.items.symm)
  · rw [hs.cooldowns, ht.cooldowns, h.cooldowns, h.config]
    exact hcancelled.foldl_eq _
  · rw [hs.steps.generation_eq, ht.steps.generation_eq, h.generation]
  · rw [hs.steps.config_eq, ht.steps.config_eq, h.config]
  · rw [hs.nowMs, ht.nowMs, h.nowMs]
  · rw [hs.lastTerminalAt, ht.lastTerminalAt, h.lastTerminalAt]
  · rw [hs.plan_eq ((List.reverse_perm _).map _) hfree, ht.plan_eq hwaited (h.config ▸ hfree),
      h.config]
    rfl

theorem SameTimeline.queuedSlots_eq_nil_iff {s t : Scheduler} (h : SameTimeline s t)
    (q : PlannedPerformance) : s.queuedSlots q = [] ↔ t.queuedSlots q = [] := by
  rw [Scheduler.queuedSlots_eq_nil_iff, Scheduler.queuedSlots_eq_nil_iff]
  simp only [h.items.mem_iff]

theorem SameTimeline.resolveQueue (requestAtMs : Nat) : ∀ (fuel : Nat) {s t : Scheduler}
    {q : PlannedPerformance}, SameTimeline s t → queueOrderFree requestAtMs fuel (s, q) →
      SameTimeline (resolveQueue requestAtMs fuel (s, q)).1
          (resolveQueue requestAtMs fuel (t, q)).1 ∧
        (resolveQueue requestAtMs fuel (s, q)).2 = (resolveQueue requestAtMs fuel (t, q)).2 := by
  intro fuel
  induction fuel with
  | zero => intro s t q h _; exact ⟨h, rfl⟩
  | succ fuel ih =>
    intro s t q h hfree
    rw [resolveQueue_succ, resolveQueue_succ]
    by_cases hslots : s.queuedSlots q = []
    · rw [if_pos hslots, if_pos ((h.queuedSlots_eq_nil_iff q).mp hslots)]
      exact ⟨h, rfl⟩
    · rw [if_neg hslots, if_neg fun hc ↦ hslots ((h.queuedSlots_eq_nil_iff q).mpr hc)]
      rw [queueOrderFree, Bool.or_eq_true, List.isEmpty_iff] at hfree
      have hpass := hfree.resolve_left hslots
      rw [Bool.and_eq_true] at hpass
      obtain ⟨hsame, hplan⟩ := h.resolvePass requestAtMs hpass.1
      obtain ⟨t', ht'⟩ : ∃ t', Scheduler.resolvePass requestAtMs (t, q) =
          (t', (Scheduler.resolvePass requestAtMs (s, q)).2) :=
        ⟨_, Prod.ext rfl hplan.symm⟩
      rw [ht'] at hsame ⊢
      exact ih hsame hpass.2

/-! ## A request -/

theorem SameTimeline.accept {s t : Scheduler} (h : SameTimeline s t) (q : PlannedPerformance) :
    SameTimeline (s.accept q).1 (t.accept q).1 ∧ (s.accept q).2 = (t.accept q).2 := by
  refine ⟨⟨?_, ?_, ?_, h.config, h.nowMs, h.lastTerminalAt⟩, ?_⟩
  · rw [Scheduler.accept, Scheduler.accept, h.generation, h.nowMs]
    exact h.items.append_right _
  · rw [Scheduler.accept, Scheduler.accept, h.cooldowns, h.config, h.generation]
  · rw [Scheduler.accept, Scheduler.accept, h.generation]
  · rw [Scheduler.accept, Scheduler.accept, h.generation]

/-- **A request on states with the same timeline** is answered alike, when its
start does not depend on the order of the slots. -/
theorem SameTimeline.scheduleAt {s t : Scheduler} {requestAtMs : Nat} {plan : PlannedPerformance}
    (h : SameTimeline ({ s with lastRejection := none }.advanceTo requestAtMs)
      ({ t with lastRejection := none }.advanceTo requestAtMs))
    (hfree : s.orderFree requestAtMs plan) :
    SameTimeline (s.scheduleAt requestAtMs plan).1 (t.scheduleAt requestAtMs plan).1 ∧
      (s.scheduleAt requestAtMs plan).2 = (t.scheduleAt requestAtMs plan).2 := by
  rw [orderFree] at hfree
  rw [Scheduler.scheduleAt, Scheduler.scheduleAt, scheduleNow, scheduleNow]
  rcases h.contend requestAtMs plan with ⟨rejection, hs, ht⟩ | ⟨s', t', q, hs, ht, hsame⟩
  · rw [hs, ht]
    exact ⟨⟨h.items, h.cooldowns, h.generation, h.config, h.nowMs, h.lastTerminalAt⟩, rfl⟩
  · rw [hs] at hfree ⊢
    rw [ht]
    dsimp only at hfree ⊢
    rw [← hsame.items.length_eq]
    obtain ⟨hqueue, hplan⟩ := SameTimeline.resolveQueue requestAtMs _ hsame hfree
    rw [← hplan]
    exact hqueue.accept _

end Scheduler

end Aivtuber
