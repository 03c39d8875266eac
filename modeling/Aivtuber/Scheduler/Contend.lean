import Aivtuber.Scheduler.Steps

/-!
# Arbitration against the playing work

`contend` walks over the playing items that conflict with a request, folds their
safe boundaries into the earliest start, and then cuts the items that can be left
before their end.  Both loops are put in closed form (`arbitrate_eq`,
`contend_eq`): a request is refused for one of three reasons that depend on the
items only as a collection, and otherwise every item is mapped by `cutFor`.

What the queue loop may rely on is `Contended`: the request is fresh, out of
cooldown, and starts no earlier than the end of every playing item it conflicts
with.
-/

open Saturating

namespace Aivtuber

namespace Scheduler

/-- What a request makes of an item: a playing item in its way that can be left
early is cut at its safe boundary. -/
def cutFor (requestAtMs : Nat) (plan : PlannedPerformance) (item : ScheduledItem) :
    ScheduledItem :=
  if decide (handoffBoundary item requestAtMs < item.plan.endAtMs) && contends plan item then
    cutAt (handoffBoundary item requestAtMs) item
  else item

/-- A playing item in the way that the request has to give way to. -/
def outranks (plan : PlannedPerformance) (item : ScheduledItem) : Bool :=
  contends plan item && decide (item.plan.priority.rank < plan.priority.rank)

/-- The boundaries of the playing items in the way of a request, in slot order. -/
def boundaries (s : Scheduler) (requestAtMs : Nat) (plan : PlannedPerformance) : List Nat :=
  (s.items.filter (contends plan)).map (handoffBoundary · requestAtMs)

/-- The arbitration outcome of a request that nothing outranks. -/
def handoff (s : Scheduler) (requestAtMs : Nat) (plan : PlannedPerformance) : Handoff where
  candidateStart := (s.boundaries requestAtMs plan).foldl max plan.startAtMs
  handoffTerminal := (s.boundaries requestAtMs plan).foldl latestTerminal none
  pendingCancellations :=
    (s.items.slots fun item ↦ decide (handoffBoundary item requestAtMs < item.plan.endAtMs) &&
      contends plan item).map fun x ↦ (x.2, handoffBoundary x.1 requestAtMs)

/-! ## The loops in closed form -/

theorem arbitrate_eq (rank requestAtMs : Nat) (active : List (ScheduledItem × Nat)) (h : Handoff) :
    arbitrate rank requestAtMs active h =
      if active.any fun x ↦ x.1.plan.priority.rank < rank then .error .priority
      else .ok
        { candidateStart :=
            (active.map fun x ↦ handoffBoundary x.1 requestAtMs).foldl max h.candidateStart
          handoffTerminal :=
            (active.map fun x ↦ handoffBoundary x.1 requestAtMs).foldl latestTerminal
              h.handoffTerminal
          pendingCancellations := h.pendingCancellations ++
            (active.filter fun x ↦
              decide (handoffBoundary x.1 requestAtMs < x.1.plan.endAtMs)).map fun x ↦
                (x.2, handoffBoundary x.1 requestAtMs) } := by
  induction active generalizing h with
  | nil => simp [arbitrate]
  | cons x active ih =>
    obtain ⟨item, index⟩ := x
    rw [arbitrate]
    by_cases hrank : rank > item.plan.priority.rank
    · rw [if_pos hrank, if_pos (by simp [hrank])]
    · rw [if_neg hrank, ih]
      have hany : ((item, index) :: active).any (fun x ↦ x.1.plan.priority.rank < rank) =
          active.any fun x ↦ x.1.plan.priority.rank < rank := by simp [hrank]
      rw [hany]
      refine if_congr Iff.rfl rfl ?_
      by_cases hb : handoffBoundary item requestAtMs < item.plan.endAtMs
      · simp [hb]
      · simp [hb]

theorem arbitrate_slots (s : Scheduler) (requestAtMs : Nat) (plan : PlannedPerformance) :
    arbitrate plan.priority.rank requestAtMs (s.items.slots (contends plan))
        ⟨plan.startAtMs, none, []⟩ =
      if s.items.any (outranks plan) then .error .priority
      else .ok (s.handoff requestAtMs plan) := by
  have hmap : (s.items.slots (contends plan)).map (fun x ↦ handoffBoundary x.1 requestAtMs) =
      s.boundaries requestAtMs plan := by
    rw [boundaries, ← List.map_fst_slots, List.map_map]; rfl
  have hany : ((s.items.slots (contends plan)).any fun x ↦
      decide (x.1.plan.priority.rank < plan.priority.rank)) =
      s.items.any (outranks plan) := by
    have hout : outranks plan = fun item ↦ contends plan item &&
        decide (item.plan.priority.rank < plan.priority.rank) := rfl
    rw [hout, ← List.any_filter, ← List.map_fst_slots, List.any_map]; rfl
  rw [arbitrate_eq, hmap, hany, List.nil_append, List.slots, List.filter_filter]
  rfl

/-- Cutting the playing items in the way maps over the items. -/
theorem applyCancellations_handoff (s : Scheduler) (requestAtMs : Nat)
    (plan : PlannedPerformance) :
    s.applyCancellations (s.handoff requestAtMs plan).pendingCancellations =
      { s with items := s.items.map (cutFor requestAtMs plan) } := by
  rw [applyCancellations, handoff]
  congr 1
  exact List.foldl_modify_slots _ (handoffBoundary · requestAtMs) cutAt s.items

/-- **Arbitration in closed form.**  A request is refused as a duplicate, for a
cooldown or for its priority, and otherwise enters the queue loop at the start its
handoff leaves. -/
theorem contend_eq (s : Scheduler) (requestAtMs : Nat) (plan : PlannedPerformance) :
    s.contend requestAtMs plan =
      let q := s.requestedPlan requestAtMs plan
      if s.items.any (·.plan.eventId = plan.eventId) then .error .duplicateEvent
      else if q.startAtMs < s.cooldowns[plan.assetId]?.getD 0 then .error .cooldown
      else if s.items.any (outranks q) then .error .priority
      else .ok ({ s with items := s.items.map (cutFor requestAtMs q) },
        { q with startAtMs := s.spacedStart q (s.handoff requestAtMs q) }) := by
  rw [contend]
  dsimp only
  split
  · rfl
  · have hasset : (s.requestedPlan requestAtMs plan).assetId = plan.assetId := rfl
    rw [arbitrate_slots, hasset]
    split
    · rfl
    · by_cases hrank : s.items.any (outranks (s.requestedPlan requestAtMs plan))
      · rw [if_pos hrank, if_pos hrank]
      · rw [if_neg hrank, if_neg hrank]
        dsimp only
        rw [applyCancellations_handoff]
        rfl

/-! ## What enters the queue loop -/

theorem contends_of_cutFor {requestAtMs : Nat} {plan plan' : PlannedPerformance}
    {item : ScheduledItem} (h : contends plan (cutFor requestAtMs plan' item)) :
    contends plan item := by
  rw [cutFor] at h
  split at h <;> exact h

theorem plan_cutFor (requestAtMs : Nat) (plan : PlannedPerformance) (item : ScheduledItem) :
    (cutFor requestAtMs plan item).plan = item.plan := by
  rw [cutFor]; split <;> rfl

theorem status_cutFor (requestAtMs : Nat) (plan : PlannedPerformance) (item : ScheduledItem) :
    (cutFor requestAtMs plan item).status = item.status := by
  rw [cutFor]; split <;> rfl

theorem effectiveEndMs_cutFor_le (requestAtMs : Nat) (plan : PlannedPerformance)
    (item : ScheduledItem) : (cutFor requestAtMs plan item).effectiveEndMs ≤ item.effectiveEndMs := by
  rw [cutFor]
  split
  · exact item.effectiveEndMs_cutAt_le _
  · exact le_refl _

/-- A playing item in the way ends by its safe boundary. -/
theorem effectiveEndMs_cutFor_le_boundary {requestAtMs : Nat} {plan : PlannedPerformance}
    {item : ScheduledItem} (h : contends plan item) :
    (cutFor requestAtMs plan item).effectiveEndMs ≤ handoffBoundary item requestAtMs := by
  rw [cutFor, h, Bool.and_true]
  split
  · exact item.effectiveEndMs_cutAt_le_boundary _
  · rename_i hb
    rw [decide_eq_true_eq, not_lt] at hb
    exact item.effectiveEndMs_le_endAtMs.trans hb

theorem live_cutFor {item : ScheduledItem} (h : item.Live) (requestAtMs : Nat)
    (plan : PlannedPerformance) : (cutFor requestAtMs plan item).Live := by
  rw [cutFor]
  split
  · rename_i hc
    -- only playing items are cut
    simp only [contends, Bool.and_eq_true, decide_eq_true_eq] at hc
    exact Or.inl hc.2.1
  · exact h

/-- Revising every item in turn is a sequence of quiet mutations. -/
theorem map_items_steps {s : Scheduler} {f : ScheduledItem → ScheduledItem}
    (hplan : ∀ item ∈ s.items, (f item).plan = item.plan)
    (hlive : ∀ item ∈ s.items, (f item).Live)
    (hend : ∀ item ∈ s.items, (f item).effectiveEndMs ≤ item.effectiveEndMs) :
    Steps s { s with items := s.items.map f } := by
  suffices h : ∀ q p : List ScheduledItem, (∀ item ∈ q, item ∈ s.items) →
      Steps { s with items := p ++ q } { s with items := p ++ q.map f } by
    exact h s.items [] fun item hitem ↦ hitem
  intro q
  induction q with
  | nil => intro p _; exact Steps.refl _
  | cons item q ih =>
    intro p hq
    have hitem := hq item List.mem_cons_self
    have hquiet : Quiet { s with items := p ++ item :: q }
        (setItem { s with items := p ++ item :: q } p.length (f item)) :=
      .revise _ (List.getElem?_append_right (le_refl _) |>.trans (by simp)) (hplan item hitem)
        (hlive item hitem) (hend item hitem)
    refine Steps.cons hquiet ?_
    have hrest := ih (p ++ [f item]) fun x hx ↦ hq x (List.mem_cons_of_mem _ hx)
    rw [List.append_assoc, List.append_assoc] at hrest
    rw [setItem, List.set_append_cons]
    exact hrest

/-- What holds of the state `t` and the plan `q` with which a request enters the
queue loop. -/
structure Contended (s : Scheduler) (requestAtMs : Nat) (plan : PlannedPerformance)
    (t : Scheduler) (q : PlannedPerformance) : Prop where
  fresh : ∀ item ∈ s.items, item.plan.eventId ≠ plan.eventId
  cooled : s.cooldowns[plan.assetId]?.getD 0 ≤ q.startAtMs
  postponed : (s.requestedPlan requestAtMs plan).Postponed q
  state_eq : t = { s with
    items := s.items.map (cutFor requestAtMs (s.requestedPlan requestAtMs plan)) }
  clear : ∀ item ∈ t.items, contends q item → item.effectiveEndMs ≤ q.startAtMs

theorem le_foldl_max (l : List Nat) (a : Nat) : a ≤ l.foldl max a ∧ ∀ b ∈ l, b ≤ l.foldl max a := by
  induction l generalizing a with
  | nil => exact ⟨le_refl a, fun b hb ↦ absurd hb List.not_mem_nil⟩
  | cons c l ih =>
    obtain ⟨hle, hmem⟩ := ih (max a c)
    refine ⟨(le_max_left a c).trans hle, fun b hb ↦ ?_⟩
    rcases List.mem_cons.mp hb with rfl | hb
    · exact (le_max_right a b).trans hle
    · exact hmem b hb

theorem candidateStart_le_spacedStart (s : Scheduler) (plan : PlannedPerformance) (h : Handoff) :
    h.candidateStart ≤ s.spacedStart plan h := by
  rw [spacedStart]
  split
  · exact le_refl _
  · split
    · exact le_max_left _ _
    · exact le_max_left _ _
    · exact le_refl _

theorem contend_ok {s : Scheduler} {requestAtMs : Nat} {plan : PlannedPerformance}
    {state : Scheduler × PlannedPerformance} (h : s.contend requestAtMs plan = .ok state) :
    Contended s requestAtMs plan state.1 state.2 := by
  rw [contend_eq] at h
  dsimp only at h
  split at h
  · cases h
  rename_i hdup
  split at h
  · cases h
  rename_i hcool
  split at h
  · cases h
  cases h
  have hstart := candidateStart_le_spacedStart s (s.requestedPlan requestAtMs plan)
    (s.handoff requestAtMs (s.requestedPlan requestAtMs plan))
  obtain ⟨hle, hmem⟩ := le_foldl_max (s.boundaries requestAtMs (s.requestedPlan requestAtMs plan))
    (s.requestedPlan requestAtMs plan).startAtMs
  refine ⟨fun item hitem heq ↦ hdup ?_, (not_lt.mp hcool).trans (hle.trans hstart),
    ⟨rfl, hle.trans hstart⟩, rfl, fun item hitem hcon ↦ ?_⟩
  · exact List.any_eq_true.mpr ⟨item, hitem, decide_eq_true heq⟩
  · obtain ⟨item₀, hitem₀, rfl⟩ := List.mem_map.mp hitem
    have hcon' : contends (s.requestedPlan requestAtMs plan) item₀ := contends_of_cutFor hcon
    refine (effectiveEndMs_cutFor_le_boundary hcon').trans ((hmem _ ?_).trans hstart)
    exact List.mem_map_of_mem (List.mem_filter.mpr ⟨hitem₀, hcon'⟩)

theorem Contended.steps {s t : Scheduler} {requestAtMs : Nat} {plan q : PlannedPerformance}
    (h : Contended s requestAtMs plan t q) (hs : s.Tidy) : Steps s t := by
  rw [h.state_eq]
  exact map_items_steps (fun item _ ↦ plan_cutFor _ _ item)
    (fun item hitem ↦ live_cutFor (hs item hitem) _ _) fun item _ ↦ effectiveEndMs_cutFor_le _ _ item

end Scheduler

end Aivtuber
