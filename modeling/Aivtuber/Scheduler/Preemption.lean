import Aivtuber.Scheduler.Exclusive
import Aivtuber.Scheduler.Rejected

/-!
# What an accepted request does to the live items

A request is arbitrated in the state that logical time has reached (`advanceTo`).  From
there on it can do two things to the work that is live: cut a playing item at one of its
interrupt points, and cancel a queued one of lower priority.  `Revised` is the first, and
`resolveQueue_spares` says that the queue loop does no more than the second.
-/

open Saturating

namespace Aivtuber

namespace Scheduler

/-! ## Requests that are accepted -/

/-- What a request has passed when it enters the queue loop. -/
structure Admitted (s : Scheduler) (requestAtMs : Nat) (plan : PlannedPerformance)
    (state : Scheduler × PlannedPerformance) : Prop where
  unranked : ∀ item ∈ s.items, outranks (s.requestedPlan requestAtMs plan) item = false
  state_eq : state = ({ s with
      items := s.items.map (cutFor requestAtMs (s.requestedPlan requestAtMs plan)) },
    { s.requestedPlan requestAtMs plan with
      startAtMs := s.spacedStart (s.requestedPlan requestAtMs plan)
        (s.handoff requestAtMs (s.requestedPlan requestAtMs plan)) })

theorem contend_admitted {s : Scheduler} {requestAtMs : Nat} {plan : PlannedPerformance}
    {state : Scheduler × PlannedPerformance} (h : s.contend requestAtMs plan = .ok state) :
    s.Admitted requestAtMs plan state := by
  rw [contend_eq] at h
  dsimp only at h
  split at h
  · cases h
  split at h
  · cases h
  split at h
  · cases h
  case isFalse hranks =>
    cases h
    refine ⟨fun item hitem ↦ ?_, rfl⟩
    by_contra houtranks
    rw [Bool.not_eq_false] at houtranks
    exact hranks (List.any_eq_true.mpr ⟨item, hitem, houtranks⟩)

/-- **An accepted request** is admitted, resolved against the queue and made live. -/
theorem scheduleNow_ok {s : Scheduler} {requestAtMs : Nat} {plan accepted : PlannedPerformance}
    (h : (s.scheduleNow requestAtMs plan).2 = .ok accepted) :
    ∃ state, s.Admitted requestAtMs plan state ∧
      s.scheduleNow requestAtMs plan =
        (resolveQueue requestAtMs (state.1.items.length + 1) state).1.accept
          (resolveQueue requestAtMs (state.1.items.length + 1) state).2 := by
  rw [scheduleNow] at h ⊢
  cases hc : s.contend requestAtMs plan with
  | error rejection =>
    rw [hc] at h
    cases h
  | ok state => exact ⟨state, contend_admitted hc, rfl⟩

/-! ## Playing items -/

/-- A boundary before the natural end is an interrupt point. -/
theorem exists_interruptPoint {plan : PlannedPerformance} {requestAtMs : Nat}
    (h : nextSafeBoundary plan requestAtMs < plan.endAtMs) :
    ∃ offset ∈ plan.interruptPointsMs,
      nextSafeBoundary plan requestAtMs = plan.startAtMs + offset ∧
        requestAtMs ≤ plan.startAtMs + offset := by
  rw [nextSafeBoundary] at h ⊢
  cases hfind : ((plan.interruptPointsMs.filter (requestAtMs - plan.startAtMs ≤ ·)).map
      (satAdd plan.startAtMs)).find?
        (fun boundary ↦ requestAtMs ≤ boundary && boundary < plan.endAtMs) with
  | none =>
    rw [hfind, Option.getD_none] at h
    exact absurd h (lt_irrefl _)
  | some boundary =>
    obtain ⟨offset, hoffset, rfl⟩ := List.mem_map.mp (List.mem_of_find?_eq_some hfind)
    have hfound := List.find?_some hfind
    simp only [Bool.and_eq_true, decide_eq_true_eq] at hfound
    -- a sum that saturates is no boundary before the end
    have hsum : satAdd plan.startAtMs offset = plan.startAtMs + offset := by
      have hmax := hfound.2.trans_le plan.endAtMs_le_max
      rw [satAdd] at hmax ⊢
      omega
    rw [hsum] at hfound
    exact ⟨offset, (List.mem_filter.mp hoffset).1, by rw [Option.getD_some, hsum], hfound.1⟩

/-- What a request may make of an item that stays live: nothing, or it cuts an
interruptible one of no higher priority at an interrupt point before its end. -/
inductive Revised (requestAtMs rank : Nat) : ScheduledItem → ScheduledItem → Prop
  | kept (item : ScheduledItem) : Revised requestAtMs rank item item
  | cut {item : ScheduledItem} {offset : Nat} (hplaying : item.status = .playing)
      (hinterruptible : item.plan.interruptible = true)
      (hrank : rank ≤ item.plan.priority.rank)
      (hpoint : offset ∈ item.plan.interruptPointsMs)
      (hrequest : requestAtMs ≤ item.plan.startAtMs + offset)
      (hend : item.plan.startAtMs + offset < item.plan.endAtMs) :
      Revised requestAtMs rank item
        { item with cancelAtMs := some (item.plan.startAtMs + offset) }

/-- Cutting an item at a boundary that is not before its own changes nothing. -/
theorem cutAt_cases (boundary : Nat) (item : ScheduledItem) :
    cutAt boundary item = item ∨ cutAt boundary item = { item with cancelAtMs := some boundary } := by
  obtain ⟨plan, status, cancelAtMs⟩ := item
  cases cancelAtMs with
  | none => exact .inr rfl
  | some value =>
    rcases le_total value boundary with hle | hle
    · exact .inl (by simp [cutAt, min_eq_left hle])
    · exact .inr (by simp [cutAt, min_eq_right hle])

/-- **Arbitration** revises the items. -/
theorem cutFor_revised {requestAtMs : Nat} {plan : PlannedPerformance} {item : ScheduledItem}
    (h : outranks plan item = false) :
    Revised requestAtMs plan.priority.rank item (cutFor requestAtMs plan item) := by
  rw [cutFor]
  split
  case isFalse => exact .kept item
  case isTrue hcut =>
    simp only [Bool.and_eq_true, decide_eq_true_eq] at hcut
    obtain ⟨hboundary, hcontends⟩ := hcut
    have hrank : plan.priority.rank ≤ item.plan.priority.rank := by
      simpa [outranks, hcontends] using h
    simp only [contends, Bool.and_eq_true, decide_eq_true_eq] at hcontends
    rw [handoffBoundary] at hboundary
    split at hboundary
    case isFalse => exact absurd hboundary (lt_irrefl _)
    case isTrue hinterruptible =>
      obtain ⟨offset, hpoint, heq, hrequest⟩ := exists_interruptPoint hboundary
      rw [heq] at hboundary
      rw [handoffBoundary, if_pos hinterruptible, heq]
      rcases cutAt_cases (item.plan.startAtMs + offset) item with hsame | hnew
      · rw [hsame]
        exact .kept item
      · rw [hnew]
        exact .cut hcontends.1 hinterruptible hrank hpoint hrequest hboundary

/-! ## Queued items -/

/-- A queued item that a request of the rank may cancel. -/
def Supersedable (rank : Nat) (item : ScheduledItem) : Prop :=
  item.status = .queued ∧ rank < item.plan.priority.rank

/-- A pass cancels queued items of lower priority. -/
theorem supersedable_of_supersedes {plan plan' : PlannedPerformance} {item : ScheduledItem}
    (hpost : plan.Postponed plan') (h : supersedes plan' item = true) :
    Supersedable plan.priority.rank item := by
  simp only [supersedes, blocks, Bool.and_eq_true, decide_eq_true_eq] at h
  have hpriority : plan'.priority = plan.priority := by rw [hpost.plan_eq]
  exact ⟨h.1.1.1, hpriority ▸ h.2⟩

/-- **The queue loop** cancels nothing else. -/
theorem resolveQueue_spares (requestAtMs fuel : Nat) (t : Scheduler) (q : PlannedPerformance) :
    ∀ item ∈ t.items, item ∈ (resolveQueue requestAtMs fuel (t, q)).1.items ∨
      Supersedable q.priority.rank item := by
  refine (resolveQueue_invariant requestAtMs
    (P := fun state ↦ q.Postponed state.2 ∧ ∀ item ∈ t.items,
      item ∈ state.1.items ∨ Supersedable q.priority.rank item)
    (fun state ⟨hpost, hspared⟩ hslots ↦ ?_) fuel (t, q) ⟨.refl q, fun _ h ↦ .inl h⟩).2
  refine ⟨hpost.trans (postponed_resolvePass hslots), fun item hitem ↦ ?_⟩
  rcases hspared item hitem with hmem | hsuper
  · have hperm := (resolvePass_spec requestAtMs state.1 state.2).items
    cases hs : supersedes state.2 item with
    | true => exact .inr (supersedable_of_supersedes hpost hs)
    | false => exact .inl (hperm.mem_iff.mpr (List.mem_filter.mpr ⟨hmem, by simp [hs]⟩))
  · exact .inr hsuper

/-- The queue loop brings in nothing. -/
theorem resolveQueue_subset (requestAtMs : Nat) (t : Scheduler) (q : PlannedPerformance) :
    ∀ item ∈ (resolveQueue requestAtMs (t.items.length + 1) (t, q)).1.items, item ∈ t.items :=
  fun _ hitem ↦ (resolveQueue_spec requestAtMs t q).subset hitem

/-! ## The policy -/

/-- What an accepted request of a rank makes of the live items. -/
structure Arbitrated (s : Scheduler) (requestAtMs rank : Nat) (accepted : PlannedPerformance)
    (t : Scheduler) : Prop where
  stays : ∀ item ∈ s.items,
    (∃ item' ∈ t.items, Revised requestAtMs rank item item') ∨ Supersedable rank item
  comes : ∀ item' ∈ t.items,
    item'.plan = accepted ∨ ∃ item ∈ s.items, Revised requestAtMs rank item item'

theorem scheduleNow_arbitrated {s : Scheduler} {requestAtMs : Nat}
    {plan accepted : PlannedPerformance}
    (h : (s.scheduleNow requestAtMs plan).2 = .ok accepted) :
    s.Arbitrated requestAtMs plan.priority.rank accepted (s.scheduleNow requestAtMs plan).1 := by
  obtain ⟨⟨t, q⟩, hadmitted, heq⟩ := scheduleNow_ok h
  have hitems : t.items =
      s.items.map (cutFor requestAtMs (s.requestedPlan requestAtMs plan)) :=
    congrArg (fun state ↦ state.1.items) hadmitted.state_eq
  have hrank : q.priority.rank = plan.priority.rank :=
    congrArg (fun state ↦ state.2.priority.rank) hadmitted.state_eq
  have hrevised : ∀ item ∈ s.items, Revised requestAtMs plan.priority.rank item
      (cutFor requestAtMs (s.requestedPlan requestAtMs plan) item) :=
    fun item hitem ↦ cutFor_revised (hadmitted.unranked item hitem)
  rw [heq] at h ⊢
  constructor
  · intro item hitem
    have hcut : cutFor requestAtMs (s.requestedPlan requestAtMs plan) item ∈ t.items := by
      rw [hitems]
      exact List.mem_map_of_mem hitem
    rcases resolveQueue_spares requestAtMs (t.items.length + 1) t q _ hcut with hkept | hsuper
    · exact .inl ⟨_, List.mem_append_left _ hkept, hrevised item hitem⟩
    · rw [hrank, Supersedable, status_cutFor, plan_cutFor] at hsuper
      exact .inr hsuper
  · intro item' hitem'
    rcases List.mem_append.mp hitem' with hold | hnew
    · have hmem := resolveQueue_subset requestAtMs t q item' hold
      rw [hitems] at hmem
      obtain ⟨item, hitem, rfl⟩ := List.mem_map.mp hmem
      exact .inr ⟨item, hitem, hrevised item hitem⟩
    · rw [List.mem_singleton.mp hnew]
      exact .inl (Except.ok.inj h)

theorem scheduleAt_arbitrated {s : Scheduler} {requestAtMs : Nat}
    {plan accepted : PlannedPerformance}
    (h : (s.scheduleAt requestAtMs plan).2 = .ok accepted) :
    (s.advanceTo requestAtMs).Arbitrated requestAtMs plan.priority.rank accepted
      (s.scheduleAt requestAtMs plan).1 := by
  have hpolicy := scheduleNow_arbitrated h
  have hitems : ({ s with lastRejection := none }.advanceTo requestAtMs).items =
      (s.advanceTo requestAtMs).items := by rw [advanceTo_record]
  exact ⟨hitems ▸ hpolicy.stays, hitems ▸ hpolicy.comes⟩

/-- **The preemption policy.**  An accepted request leaves what is live when it is
arbitrated alone, but that it may cut an interruptible playing item, of no higher priority,
at one of its interrupt points before its natural end, and cancel a queued item of strictly
lower priority; and nothing else but its own plan is live afterwards. -/
theorem preemption_policy (config : SchedulerConfig) (ops : List Op) (requestAtMs : Nat)
    (plan accepted : PlannedPerformance)
    (h : ((machine.run (new config) ops).scheduleAt requestAtMs plan).2 = .ok accepted) :
    let before := (machine.run (new config) ops).advanceTo requestAtMs
    let after := ((machine.run (new config) ops).scheduleAt requestAtMs plan).1
    (∀ item ∈ before.items, item.plan.priority.rank < plan.priority.rank → item ∈ after.items) ∧
    (∀ item ∈ before.items, item.status = .playing → item.plan.interruptible = false →
      item ∈ after.items) ∧
    (∀ item ∈ before.items, item.status = .queued →
      item ∈ after.items ∨ plan.priority.rank < item.plan.priority.rank) ∧
    (∀ item ∈ before.items, item.status = .playing →
      item ∈ after.items ∨ ∃ offset ∈ item.plan.interruptPointsMs,
        item.plan.startAtMs + offset < item.plan.endAtMs ∧
        { item with cancelAtMs := some (item.plan.startAtMs + offset) } ∈ after.items) ∧
    ∀ item' ∈ after.items, item'.plan = accepted ∨ item' ∈ before.items ∨
      ∃ item ∈ before.items, item.status = .playing ∧
        ∃ offset ∈ item.plan.interruptPointsMs,
          item.plan.startAtMs + offset < item.plan.endAtMs ∧
          item' = { item with cancelAtMs := some (item.plan.startAtMs + offset) } := by
  intro before after
  have hpolicy : before.Arbitrated requestAtMs plan.priority.rank accepted after :=
    scheduleAt_arbitrated h
  refine ⟨fun item hitem hrank ↦ ?_, fun item hitem hplaying hfixed ↦ ?_,
    fun item hitem hqueued ↦ ?_, fun item hitem hplaying ↦ ?_, fun item' hitem' ↦ ?_⟩
  · rcases hpolicy.stays item hitem with ⟨item', hitem', hrevised⟩ | hsuper
    · cases hrevised with
      | kept => exact hitem'
      | cut _ _ hle => omega
    · exact absurd hsuper.2 (by omega)
  · rcases hpolicy.stays item hitem with ⟨item', hitem', hrevised⟩ | hsuper
    · cases hrevised with
      | kept => exact hitem'
      | cut _ hinterruptible =>
        rw [hfixed] at hinterruptible
        cases hinterruptible
    · exact absurd (hplaying.symm.trans hsuper.1) (by decide)
  · rcases hpolicy.stays item hitem with ⟨item', hitem', hrevised⟩ | hsuper
    · cases hrevised with
      | kept => exact .inl hitem'
      | cut hplaying =>
        rw [hqueued] at hplaying
        cases hplaying
    · exact .inr hsuper.2
  · rcases hpolicy.stays item hitem with ⟨item', hitem', hrevised⟩ | hsuper
    · cases hrevised with
      | kept => exact .inl hitem'
      | cut _ _ _ hpoint _ hend => exact .inr ⟨_, hpoint, hend, hitem'⟩
    · exact absurd (hplaying.symm.trans hsuper.1) (by decide)
  · rcases hpolicy.comes item' hitem' with hnew | ⟨item, hitem, hrevised⟩
    · exact .inl hnew
    · cases hrevised with
      | kept => exact .inr (.inl hitem)
      | cut hplaying _ _ hpoint _ hend =>
        exact .inr (.inr ⟨item, hitem, hplaying, _, hpoint, hend, rfl⟩)

/-- The speech that plays is cut at its only interrupt point, for the operator. -/
theorem preemption_policy_command :
    (⟨{ speech with generation := 1 }, .playing, none⟩ : ScheduledItem) ∈
        ((machine.run (new .default) [.schedule speech]).scheduleAt 5 command).1.items ∨
      ∃ offset ∈ speech.interruptPointsMs,
        speech.startAtMs + offset < PlannedPerformance.endAtMs { speech with generation := 1 } ∧
        ⟨{ speech with generation := 1 }, .playing, some (speech.startAtMs + offset)⟩ ∈
          ((machine.run (new .default) [.schedule speech]).scheduleAt 5 command).1.items :=
  (preemption_policy .default [.schedule speech] 5 command
    { command with startAtMs := 10, generation := 2 } (by decide +kernel)).2.2.2.1
    ⟨{ speech with generation := 1 }, .playing, none⟩ (by decide +kernel) rfl

end Scheduler

end Aivtuber
