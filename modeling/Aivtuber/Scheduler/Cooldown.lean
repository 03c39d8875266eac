import Aivtuber.Scheduler.Timeline

/-!
# Asset cooldowns

An accepted plan blocks its asset until its end plus the spacing.  The scheduler
keeps one deadline for each asset, that of the plan accepted last; deadlines of one
asset only grow, so the last one stands for all, as long as it is there.

It is taken away when the plan that set it is cancelled in the queue
(`releaseCooldown`), and then the deadlines of the earlier plans of that asset are
lost as well, even of one that is playing.  `KeepsCooldowns` is the condition on a
step that this does not happen.  A run all of whose steps meet it respects the
cooldown of every plan that has played or is live; one that breaks it need not
(`cooldown_lost`).
-/

open Saturating
open Std (ExtTreeMap)

namespace Aivtuber

namespace Scheduler

open ScheduledItem

/-! ## What takes a cooldown away -/

/-- Live items carry distinct event ids. -/
def Distinct (s : Scheduler) : Prop := (s.items.map (·.plan.eventId)).Nodup

theorem Quiet.distinct {s t : Scheduler} (h : Quiet s t) (hs : s.Distinct) : t.Distinct := by
  cases h with
  | retire item' atMs hget =>
    have hperm := (List.swapRemove_perm hget).map (·.plan.eventId)
    rw [Distinct, setItem_retire_items hget]
    exact (List.nodup_cons.mp (hperm.nodup_iff.mp hs)).2
  | @revise index item item' hget hplan _ _ =>
    obtain ⟨m, hperm, hperm'⟩ := List.set_perm hget item'
    have h₁ := hperm.map (·.plan.eventId)
    have h₂ := hperm'.map (·.plan.eventId)
    rw [List.map_cons, hplan] at h₂
    exact (h₂.trans h₁.symm).nodup_iff.mpr hs
  | book h =>
    rw [Distinct, h.items]
    exact hs

theorem Steps.distinct {s t : Scheduler} (h : Steps s t) (hs : s.Distinct) : t.Distinct :=
  h.invariant (fun _ _ hq ↦ hq.distinct) hs

theorem Effect.distinct {s t : Scheduler} {out : Outcome} (h : Effect s t out)
    (hs : s.Distinct) : t.Distinct := by
  cases h with
  | quiet h => exact h.distinct hs
  | drain => exact hs
  | accept h hfresh =>
    rw [Distinct, Scheduler.accept]
    dsimp only
    rw [List.map_append, List.nodup_append]
    refine ⟨h.distinct hs, List.nodup_singleton _, fun x hx y hy ↦ ?_⟩
    obtain ⟨item, hitem, rfl⟩ := List.mem_map.mp hx
    rw [List.mem_singleton.mp hy]
    exact hfresh item hitem

/-- Every cooldown of `s` is still there in `t`, but for those of queued items that
are gone. -/
def KeptOrReleased (s t : Scheduler) : Prop :=
  ∀ (assetId : String) (untilMs : Nat), s.cooldowns[assetId]? = some untilMs →
    t.cooldowns[assetId]? = some untilMs ∨
      ∃ item ∈ s.items, item.status = .queued ∧ item.plan.assetId = assetId ∧
        satAdd item.plan.endAtMs s.config.minReactionSpacingMs = untilMs ∧
        ∀ x ∈ t.items, x.plan.eventId ≠ item.plan.eventId

/-- A sequence of cancellations at one instant. -/
structure Releases (s t : Scheduler) : Prop where
  steps : Steps s t
  nowMs : t.nowMs = s.nowMs
  subset : t.items ⊆ s.items
  cooldowns : KeptOrReleased s t

theorem Releases.refl (s : Scheduler) : Releases s s :=
  ⟨Steps.refl s, rfl, fun _ h ↦ h, fun _ _ h ↦ Or.inl h⟩

theorem Releases.trans {s t u : Scheduler} (h : Releases s t) (h' : Releases t u) :
    Releases s u := by
  refine ⟨h.steps.trans h'.steps, h'.nowMs.trans h.nowMs, List.Subset.trans h'.subset h.subset, ?_⟩
  intro assetId untilMs hs
  rcases h.cooldowns assetId untilMs hs with ht | ⟨item, hitem, hq, ha, hc, hgone⟩
  · rcases h'.cooldowns assetId untilMs ht with hu | ⟨item, hitem, hq, ha, hc, hgone⟩
    · exact Or.inl hu
    · rw [h.steps.config_eq] at hc
      exact Or.inr ⟨item, h.subset hitem, hq, ha, hc, hgone⟩
  · exact Or.inr ⟨item, hitem, hq, ha, hc, fun x hx ↦ hgone x (h'.subset hx)⟩

/-- The item of a slot is gone once the slot is emptied. -/
theorem not_mem_swapRemove {s : Scheduler} (hs : s.Distinct) {index : Nat} {item : ScheduledItem}
    (hget : s.items[index]? = some item) :
    ∀ x ∈ s.items.swapRemove index, x.plan.eventId ≠ item.plan.eventId := by
  intro x hx heq
  have hperm := (List.swapRemove_perm hget).map (·.plan.eventId)
  refine (List.nodup_cons.mp (hperm.nodup_iff.mp hs)).1 ?_
  exact List.mem_map.mpr ⟨x, hx, heq⟩

theorem cancelQueued_releases {s : Scheduler} (hs : s.Distinct) {index : Nat}
    {item : ScheduledItem} (hget : s.items[index]? = some item) (hqueued : item.status = .queued)
    (atMs : Nat) : Releases s (s.cancelQueued index atMs) := by
  refine ⟨cancelQueued_steps s index atMs, cancelQueued_nowMs atMs, ?_, ?_⟩
  · rw [cancelQueued_items atMs hget]
    exact fun x hx ↦ List.mem_of_mem_swapRemove hget hx
  · intro assetId untilMs huntil
    rw [cancelQueued_cooldowns atMs hget, cancelQueued_items atMs hget, getElem?_releaseCooldown]
    split
    · rename_i h
      rw [huntil] at h
      exact Or.inr ⟨item, List.mem_of_getElem? hget, hqueued, h.1, (Option.some.inj h.2).symm,
        not_mem_swapRemove hs hget⟩
    · exact Or.inl huntil

theorem stopPlaying_releases {s : Scheduler} {index : Nat} {item : ScheduledItem}
    (hget : s.items[index]? = some item) (atMs : Nat) :
    Releases s (s.stopPlaying index atMs item) := by
  refine ⟨stopPlaying_steps atMs hget, retire_nowMs atMs, ?_, fun assetId untilMs h ↦ Or.inl ?_⟩
  · have hitems : (s.stopPlaying index atMs item).items = s.items.swapRemove index :=
      setItem_retire_items (s := { s with
        lastTerminalAt := latestTerminal s.lastTerminalAt atMs }) hget _ atMs
    rw [hitems]
    exact fun x hx ↦ List.mem_of_mem_swapRemove hget hx
  · rw [stopPlaying, retire_cooldowns]
    exact h

theorem stopLoop_releases (atMs : Nat) : ∀ (fuel index : Nat) (s : Scheduler)
    (stopped : List PlannedPerformance), s.Distinct →
      Releases s (stopLoop atMs fuel index s stopped).1 := by
  intro fuel
  induction fuel with
  | zero => intro index s stopped _; exact Releases.refl s
  | succ fuel ih =>
    intro index s stopped hs
    rw [stopLoop]
    cases hget : s.items[index]? with
    | none => exact Releases.refl s
    | some item =>
      dsimp only
      cases hstatus : item.status with
      | playing =>
        have h := stopPlaying_releases hget atMs
        exact h.trans (ih _ _ _ (h.steps.distinct hs))
      | queued =>
        have h := cancelQueued_releases hs hget hstatus atMs
        exact h.trans (ih _ _ _ (h.steps.distinct hs))
      | completed => exact ih _ _ _ hs
      | cancelled => exact ih _ _ _ hs

theorem foldl_releaseCooldown {spacingMs untilMs : Nat} {assetId : String}
    (l : List ScheduledItem) {cooldowns : ExtTreeMap String Nat}
    (h : cooldowns[assetId]? = some untilMs) :
    (l.foldl (releaseCooldown spacingMs) cooldowns)[assetId]? = some untilMs ∨
      ∃ item ∈ l, item.plan.assetId = assetId ∧ satAdd item.plan.endAtMs spacingMs = untilMs := by
  induction l generalizing cooldowns with
  | nil => exact Or.inl h
  | cons item l ih =>
    have hhead := getElem?_releaseCooldown spacingMs cooldowns item assetId
    split at hhead
    · rename_i hc
      rw [h] at hc
      exact Or.inr ⟨item, List.mem_cons_self, hc.1, (Option.some.inj hc.2).symm⟩
    · rcases ih (hhead.trans h) with hl | ⟨x, hx, hc⟩
      · exact Or.inl hl
      · exact Or.inr ⟨x, List.mem_cons_of_mem _ hx, hc⟩

theorem resolvePass_releases {s : Scheduler} (hs : s.Distinct) (requestAtMs : Nat)
    (q : PlannedPerformance) : Releases s (resolvePass requestAtMs (s, q)).1 := by
  have h := resolvePass_spec requestAtMs s q
  refine ⟨h.steps, h.nowMs, fun x hx ↦ (List.mem_filter.mp (h.items.mem_iff.mp hx)).1, ?_⟩
  intro assetId untilMs huntil
  rw [h.cooldowns]
  rcases foldl_releaseCooldown _ huntil with hkept | ⟨item, hitem, ha, hc⟩
  · exact Or.inl hkept
  · obtain ⟨hmem, hsup⟩ := List.mem_filter.mp (List.mem_reverse.mp hitem)
    have hblocks : blocks q item := (Bool.and_eq_true _ _ ▸ hsup).1
    have hqueued : item.status = .queued := by
      simp only [blocks, Bool.and_eq_true, decide_eq_true_eq] at hblocks
      exact hblocks.1.1
    refine Or.inr ⟨item, hmem, hqueued, ha, hc, fun x hx heq ↦ ?_⟩
    -- an item that was kept is not the superseded one
    obtain ⟨hx, hkept⟩ := List.mem_filter.mp (h.items.mem_iff.mp hx)
    obtain rfl := List.inj_on_of_nodup_map hs hx hmem heq
    rw [hsup] at hkept
    cases hkept

theorem resolveQueue_releases {s : Scheduler} (hs : s.Distinct) (requestAtMs fuel : Nat)
    (q : PlannedPerformance) : Releases s (resolveQueue requestAtMs fuel (s, q)).1 :=
  resolveQueue_invariant requestAtMs (P := fun state ↦ Releases s state.1)
    (fun _ h _ ↦ h.trans (resolvePass_releases (h.steps.distinct hs) requestAtMs _)) fuel (s, q)
    (Releases.refl s)

/-- An accepted request gives up cooldowns of queued items only. -/
theorem scheduleNow_releases {s : Scheduler} (hs : s.Tidy) (hd : s.Distinct) (requestAtMs : Nat)
    (plan : PlannedPerformance) :
    (∃ rejection, s.scheduleNow requestAtMs plan = s.reject rejection) ∨
      ∃ t q, s.scheduleNow requestAtMs plan = t.accept q ∧ s.Accepted requestAtMs plan t q ∧
        t.nowMs = s.nowMs ∧ KeptOrReleased s t := by
  rw [scheduleNow]
  cases hc : s.contend requestAtMs plan with
  | error rejection => exact Or.inl ⟨rejection, rfl⟩
  | ok state =>
    obtain ⟨t, q⟩ := state
    have hcon := contend_ok hc
    have hrel := resolveQueue_releases ((hcon.steps hs).distinct hd) requestAtMs
      (t.items.length + 1) q
    have hstate := hcon.state_eq
    dsimp only at hstate
    refine Or.inr ⟨_, _, rfl, hcon.accepted (resolveQueue_spec _ _ _) hs, ?_, ?_⟩
    · exact hrel.nowMs.trans (by rw [hstate])
    · intro assetId untilMs huntil
      rcases hrel.cooldowns assetId untilMs (by rw [hstate]; exact huntil) with
        hkept | ⟨item, hitem, hq, ha, hu, hgone⟩
      · exact Or.inl hkept
      · rw [hstate] at hitem hu
        obtain ⟨item₀, hitem₀, rfl⟩ := List.mem_map.mp hitem
        rw [status_cutFor] at hq
        rw [plan_cutFor] at ha hu hgone
        exact Or.inr ⟨item₀, hitem₀, hq, ha, hu, hgone⟩

/-! ## Cooldowns over one operation -/

/-- What is queued after an advance starts later. -/
theorem advanceTo_waiting {s : Scheduler} (hs : s.Tidy) (atMs : Nat) {item : ScheduledItem}
    (hitem : item ∈ (s.advanceTo atMs).items) (hqueued : item.status = .queued) :
    (s.advanceTo atMs).nowMs < item.plan.startAtMs := by
  have h := s.advanceTo_spec atMs
  obtain ⟨item₀, hitem₀, hcarry⟩ := List.mem_filterMap.mp (h.items.mem_iff.mp hitem)
  rw [h.nowMs]
  exact (hs item₀ hitem₀).lt_startAtMs_of_carry hcarry hqueued

/-- What an operation from `s` to `t` does to the cooldowns. -/
structure CooldownEffect (s t : Scheduler) (out : Outcome) : Prop where
  nowMs_le : s.nowMs ≤ t.nowMs
  /-- A cooldown ends, stays, is given up by an item cancelled in the queue, or is
  replaced by that of an accepted plan. -/
  kept : ∀ (assetId : String) (untilMs : Nat), s.cooldowns[assetId]? = some untilMs →
    untilMs ≤ t.nowMs ∨ t.cooldowns[assetId]? = some untilMs ∨
      (∃ item ∈ s.items, item.plan.assetId = assetId ∧
        satAdd item.plan.endAtMs s.config.minReactionSpacingMs = untilMs ∧
        (∀ x ∈ t.items, x.plan.eventId ≠ item.plan.eventId) ∧
        t.nowMs < item.plan.startAtMs) ∨
      ∃ q ∈ out.accepted?, q.assetId = assetId
  accepted : ∀ q ∈ out.accepted?, t.nowMs ≤ q.startAtMs ∧
    (∀ untilMs, s.cooldowns[q.assetId]? = some untilMs → untilMs ≤ q.startAtMs) ∧
    t.cooldowns[q.assetId]? = some (satAdd q.endAtMs s.config.minReactionSpacingMs)

/-- A cooldown outlives an advance, or ends by then. -/
theorem advanceTo_cooldowns {s : Scheduler} {assetId : String} {untilMs : Nat} (atMs : Nat)
    (h : s.cooldowns[assetId]? = some untilMs) :
    untilMs ≤ (s.advanceTo atMs).nowMs ∨ (s.advanceTo atMs).cooldowns[assetId]? = some untilMs := by
  have hspec := s.advanceTo_spec atMs
  rw [hspec.nowMs, hspec.cooldowns, ExtTreeMap.getElem?_filter', h]
  by_cases hle : untilMs ≤ max atMs s.nowMs
  · exact Or.inl hle
  · refine Or.inr ?_
    rw [Option.filter_some, if_pos (decide_eq_true (not_le.mp hle))]

/-- A cooldown over an advance and the cancellations after it. -/
theorem cooldown_of_releases {s t : Scheduler} (hs : s.Tidy) {atMs : Nat}
    (hnow : t.nowMs = (s.advanceTo atMs).nowMs) (hrel : KeptOrReleased (s.advanceTo atMs) t)
    {assetId : String} {untilMs : Nat} (huntil : s.cooldowns[assetId]? = some untilMs) :
    untilMs ≤ t.nowMs ∨ t.cooldowns[assetId]? = some untilMs ∨
      ∃ item ∈ (s.advanceTo atMs).items, item.plan.assetId = assetId ∧
        satAdd item.plan.endAtMs s.config.minReactionSpacingMs = untilMs ∧
        (∀ x ∈ t.items, x.plan.eventId ≠ item.plan.eventId) ∧ t.nowMs < item.plan.startAtMs := by
  rcases advanceTo_cooldowns atMs huntil with hend | hkept
  · exact Or.inl (hnow ▸ hend)
  · rcases hrel assetId untilMs hkept with hkept | ⟨item, hitem, hq, ha, hc, hgone⟩
    · exact Or.inr (Or.inl hkept)
    · rw [(s.advanceTo_spec atMs).config] at hc
      have hwait := advanceTo_waiting hs atMs hitem hq
      exact Or.inr (Or.inr ⟨item, hitem, ha, hc, hgone, hnow ▸ hwait⟩)

theorem nowMs_le_of_advance {s t : Scheduler} {atMs : Nat}
    (hnow : t.nowMs = (s.advanceTo atMs).nowMs) : s.nowMs ≤ t.nowMs := by
  rw [hnow, (s.advanceTo_spec atMs).nowMs]
  exact le_max_right _ _

/-- Cancellations after an advance, for an operation that accepts nothing. -/
theorem cooldownEffect_of_releases {s t : Scheduler} {out : Outcome} (hs : s.Tidy) {atMs : Nat}
    (hnow : t.nowMs = (s.advanceTo atMs).nowMs) (hrel : KeptOrReleased (s.advanceTo atMs) t)
    (hout : out.accepted? = none) : CooldownEffect s t out := by
  refine ⟨nowMs_le_of_advance hnow, fun assetId untilMs huntil ↦ ?_, fun q hq ↦ ?_⟩
  · rcases cooldown_of_releases hs hnow hrel huntil with
      hend | hkept | ⟨item, hitem, ha, hc, hgone, hlater⟩
    · exact Or.inl hend
    · exact Or.inr (Or.inl hkept)
    · obtain ⟨item₀, hitem₀, hplan⟩ := (advanceTo_steps hs atMs).plans_subset item hitem
      rw [← hplan] at ha hc hgone hlater
      exact Or.inr (Or.inr (Or.inl ⟨item₀, hitem₀, ha, hc, hgone, hlater⟩))
  · rw [hout] at hq
    cases hq

/-- Cancellations after an advance, then the acceptance of a plan that is fresh and
out of cooldown. -/
theorem cooldownEffect_of_accept {s t : Scheduler} {q : PlannedPerformance} (hs : s.Tidy)
    {atMs : Nat} (hnow : t.nowMs = (s.advanceTo atMs).nowMs)
    (hrel : KeptOrReleased (s.advanceTo atMs) t)
    (hconfig : t.config = s.config) (hstart : (s.advanceTo atMs).nowMs ≤ q.startAtMs)
    (hfresh : ∀ item ∈ (s.advanceTo atMs).items, item.plan.eventId ≠ q.eventId)
    (hcooled : (s.advanceTo atMs).cooldowns[q.assetId]?.getD 0 ≤ q.startAtMs) :
    CooldownEffect s (t.accept q).1 (.scheduled (t.accept q).2) := by
  refine ⟨nowMs_le_of_advance hnow, fun assetId untilMs huntil ↦ ?_, fun plan hplan ↦ ?_⟩
  · by_cases hasset : q.assetId = assetId
    · exact Or.inr (Or.inr (Or.inr ⟨_, rfl, hasset⟩))
    · rcases cooldown_of_releases hs hnow hrel huntil with
        hend | hkept | ⟨item, hitem, ha, hc, hgone, hlater⟩
      · exact Or.inl hend
      · refine Or.inr (Or.inl ?_)
        rw [accept, PositionIndex.getElem?_insert, if_neg hasset]
        exact hkept
      · obtain ⟨item₀, hitem₀, hplan⟩ := (advanceTo_steps hs atMs).plans_subset item hitem
        have hnew := hfresh item hitem
        rw [← hplan] at ha hc hgone hlater hnew
        refine Or.inr (Or.inr (Or.inl ⟨item₀, hitem₀, ha, hc, fun x hx ↦ ?_, hlater⟩))
        -- the accepted plan carries another event id
        rcases List.mem_append.mp hx with hx | hx
        · exact hgone x hx
        · rw [List.mem_singleton.mp hx]
          exact hnew.symm
  · cases hplan
    refine ⟨hnow ▸ hstart, fun untilMs huntil ↦ ?_, ?_⟩
    · rcases advanceTo_cooldowns atMs huntil with hend | hkept
      · exact hend.trans hstart
      · rw [hkept] at hcooled
        exact hcooled
    · rw [accept, PositionIndex.getElem?_insert, if_pos rfl, hconfig]

theorem scheduleAt_cooldowns {s : Scheduler} (hs : s.Tidy) (hd : s.Distinct) (requestAtMs : Nat)
    (plan : PlannedPerformance) :
    CooldownEffect s (s.scheduleAt requestAtMs plan).1
      (.scheduled (s.scheduleAt requestAtMs plan).2) := by
  have hs₀ : ({ s with lastRejection := none } : Scheduler).Tidy := hs
  have hsteps := advanceTo_steps hs₀ requestAtMs
  rw [scheduleAt]
  suffices h : CooldownEffect { s with lastRejection := none }
      ((({ s with lastRejection := none } : Scheduler).advanceTo requestAtMs).scheduleNow
        requestAtMs plan).1
      (.scheduled ((({ s with lastRejection := none } : Scheduler).advanceTo
        requestAtMs).scheduleNow requestAtMs plan).2) from ⟨h.nowMs_le, h.kept, h.accepted⟩
  rcases scheduleNow_releases (hsteps.tidy hs₀) (hsteps.distinct hd) requestAtMs plan with
    ⟨rejection, hr⟩ | ⟨t, q, hq, hacc, hnow, hrel⟩
  · rw [hr]
    exact cooldownEffect_of_releases hs₀ rfl (fun _ _ h ↦ Or.inl h) rfl
  · rw [hq]
    refine cooldownEffect_of_accept hs₀ hnow hrel ?_ ?_ hacc.fresh hacc.cooled
    · exact (hsteps.trans hacc.steps).config_eq
    · exact (le_max_right _ _).trans hacc.postponed.start_le

/-- **The cooldowns over one operation.** -/
theorem perform_cooldowns {s : Scheduler} (hs : s.Tidy) (hd : s.Distinct) (op : Op) :
    CooldownEffect s (s.perform op).1 (s.perform op).2 := by
  cases op with
  | schedule plan => exact scheduleAt_cooldowns hs hd plan.startAtMs plan
  | scheduleAt requestAtMs plan => exact scheduleAt_cooldowns hs hd requestAtMs plan
  | advanceTo atMs => exact cooldownEffect_of_releases hs rfl (fun _ _ h ↦ Or.inl h) rfl
  | stopAll atMs =>
    have hrel := stopLoop_releases atMs (s.advanceTo atMs).items.length 0 (s.advanceTo atMs) []
      ((advanceTo_steps hs atMs).distinct hd)
    exact cooldownEffect_of_releases hs hrel.nowMs hrel.cooldowns rfl
  | stopCurrent atMs =>
    have hrel : Releases (s.advanceTo atMs) (s.stopCurrent atMs).1 := by
      rw [stopCurrent]
      cases List.findIdx? (·.status = .playing) (s.advanceTo atMs).items with
      | none => exact Releases.refl _
      | some index =>
        dsimp only
        cases hget : (s.advanceTo atMs).items[index]? with
        | none => exact Releases.refl _
        | some item => exact stopPlaying_releases hget atMs
    exact cooldownEffect_of_releases hs hrel.nowMs hrel.cooldowns rfl
  | completeAll => exact cooldownEffect_of_releases hs rfl (fun _ _ h ↦ Or.inl h) rfl
  | drainHistory => exact ⟨le_refl _, fun _ _ h ↦ Or.inr (Or.inl h), fun _ h ↦ by cases h⟩

/-! ## Cooldowns over runs -/

/-- The ledger of standing plans: accepted, and played or live. -/
def recordStanding (standing : List PlannedPerformance)
    (e : Machine.Event Scheduler Op Outcome) : List PlannedPerformance :=
  (standing ++ e.output.accepted?.toList).filter fun plan ↦
    e.post.items.any (·.plan = plan) || decide (plan.startAtMs ≤ e.post.nowMs)

/-- The step cancels an item that was queued: it is gone before its start. -/
def CancelsInQueue (e : Machine.Event Scheduler Op Outcome) (item : ScheduledItem) : Prop :=
  (∀ x ∈ e.post.items, x.plan.eventId ≠ item.plan.eventId) ∧
    e.post.nowMs < item.plan.startAtMs

/-- A step that cancels the plan whose cooldown is the one of its asset leaves no
other standing plan of that asset within its cooldown. -/
def KeepsCooldowns (standing : List PlannedPerformance)
    (e : Machine.Event Scheduler Op Outcome) : Prop :=
  ∀ item ∈ e.pre.items, CancelsInQueue e item →
    e.pre.cooldowns[item.plan.assetId]? =
        some (satAdd item.plan.endAtMs e.pre.config.minReactionSpacingMs) →
      ∀ plan ∈ recordStanding standing e, plan.assetId = item.plan.assetId →
        satAdd plan.endAtMs e.pre.config.minReactionSpacingMs ≤ e.post.nowMs

/-- A plan the step accepts starts after the cooldown of every standing plan of its
asset. -/
def RespectsCooldowns (standing : List PlannedPerformance)
    (e : Machine.Event Scheduler Op Outcome) : Prop :=
  ∀ plan ∈ e.output.accepted?.toList, ∀ earlier ∈ standing, earlier.assetId = plan.assetId →
    satAdd earlier.endAtMs e.pre.config.minReactionSpacingMs ≤ plan.startAtMs

instance (e : Machine.Event Scheduler Op Outcome) (item : ScheduledItem) :
    Decidable (CancelsInQueue e item) := inferInstanceAs (Decidable (_ ∧ _))

instance (standing : List PlannedPerformance) (e : Machine.Event Scheduler Op Outcome) :
    Decidable (KeepsCooldowns standing e) := inferInstanceAs (Decidable (∀ item ∈ e.pre.items, _))

instance (standing : List PlannedPerformance) (e : Machine.Event Scheduler Op Outcome) :
    Decidable (RespectsCooldowns standing e) :=
  inferInstanceAs (Decidable (∀ plan ∈ e.output.accepted?.toList, _))

/-- Every standing plan is past its cooldown, or covered by that of its asset. -/
def Covered (s : Scheduler) (standing : List PlannedPerformance) : Prop :=
  ∀ plan ∈ standing, satAdd plan.endAtMs s.config.minReactionSpacingMs ≤ s.nowMs ∨
    ∃ untilMs, s.cooldowns[plan.assetId]? = some untilMs ∧
      satAdd plan.endAtMs s.config.minReactionSpacingMs ≤ untilMs

theorem CooldownEffect.respects {s t : Scheduler} {op : Op} {out : Outcome}
    {standing : List PlannedPerformance} (h : CooldownEffect s t out) (hs : s.Covered standing) :
    RespectsCooldowns standing ⟨s, op, t, out⟩ := by
  intro q hq earlier hearlier hasset
  obtain ⟨hnow, hcooled, -⟩ := h.accepted q (Option.mem_toList.mp hq)
  rcases hs earlier hearlier with hend | ⟨untilMs, huntil, hle⟩
  · exact hend.trans (h.nowMs_le.trans hnow)
  · rw [hasset] at huntil
    exact hle.trans (hcooled untilMs huntil)

theorem CooldownEffect.covered {s t : Scheduler} {op : Op} {out : Outcome}
    {standing : List PlannedPerformance} (h : CooldownEffect s t out)
    (hconfig : t.config = s.config) (hs : s.Covered standing)
    (hkeeps : KeepsCooldowns standing ⟨s, op, t, out⟩) :
    t.Covered (recordStanding standing ⟨s, op, t, out⟩) := by
  intro plan hplan
  rw [hconfig]
  obtain ⟨hmem, -⟩ := List.mem_filter.mp hplan
  rcases List.mem_append.mp hmem with hold | hnew
  · rcases hs plan hold with hend | ⟨untilMs, huntil, hle⟩
    · exact Or.inl (hend.trans h.nowMs_le)
    · rcases h.kept _ _ huntil with hend | hkept | ⟨item, hitem, ha, hc, hgone, hlater⟩ | ⟨q, hq, ha⟩
      · exact Or.inl (hle.trans hend)
      · exact Or.inr ⟨untilMs, hkept, hle⟩
      · refine Or.inl (hkeeps item hitem ⟨hgone, hlater⟩ ?_ plan hplan ha.symm)
        rw [ha, huntil, hc]
      · -- the asset got the later cooldown of the accepted plan
        obtain ⟨-, hcooled, hset⟩ := h.accepted q hq
        rw [ha] at hcooled hset
        refine Or.inr ⟨_, hset, ?_⟩
        have hstart := hle.trans (hcooled untilMs huntil)
        have hmax := satAdd_le_max plan.endAtMs s.config.minReactionSpacingMs
        simp only [PlannedPerformance.endAtMs, satAdd] at hstart hmax ⊢
        omega
  · obtain ⟨-, -, hset⟩ := h.accepted plan (Option.mem_toList.mp hnew)
    exact Or.inr ⟨_, hset, le_refl _⟩

/-- **Cooldowns are respected** in every run that keeps them: no accepted plan
starts within the cooldown of a plan of its asset that has played or is live. -/
theorem cooldowns_respected (config : SchedulerConfig) (ops : List Op)
    (hkeeps : machine.Meets recordStanding KeepsCooldowns (new config) [] ops) :
    machine.Meets recordStanding RespectsCooldowns (new config) [] ops := by
  refine machine.meets_of_invariant (P := fun s standing ↦ s.Tidy ∧ s.Distinct ∧ s.Covered standing)
    (fun s standing op ⟨hs, hd, hcov⟩ hstep ↦ ?_) (fun s standing op ⟨hs, hd, hcov⟩ _ ↦ ?_)
    ⟨new_tidy config, List.nodup_nil, fun _ h ↦ absurd h List.not_mem_nil⟩ hkeeps
  · have heffect := perform_effect hs op
    have h := perform_cooldowns hs hd op
    exact ⟨heffect.tidy hs, heffect.distinct hd, h.covered heffect.config_eq hcov hstep⟩
  · exact (perform_cooldowns hs hd op).respects hcov

section Encore

/-- A short cue and its encore, on one asset. -/
def jingle : PlannedPerformance := .cue "jingle" "chime" .conversation {.audio} 0 10

def encore : PlannedPerformance := .cue "encore" "chime" .conversation {.audio} 50 10

/-- An operator plays the asset again before the cooldown of the jingle is over. -/
def replay : PlannedPerformance := .cue "replay" "chime" .operator {.audio} 12 5

/-- A more urgent cue in the place of the encore. -/
def alarm : PlannedPerformance := .cue "alarm" "siren" .highPriorityInteraction {.audio} 50 10

/-- The encore queued, and left where it is: the replay is rejected. -/
theorem cooldowns_respected_encore :
    machine.Meets recordStanding RespectsCooldowns (new ⟨10, 16, .ring⟩) []
      [.scheduleAt 0 jingle, .scheduleAt 1 encore, .scheduleAt 12 replay] :=
  cooldowns_respected ⟨10, 16, .ring⟩ [.scheduleAt 0 jingle, .scheduleAt 1 encore,
    .scheduleAt 12 replay] (by decide +kernel)

/-- The alarm cancels the queued encore, and with it the cooldown of the jingle:
the replay is accepted 8 ms early. -/
theorem cooldown_lost :
    ¬ machine.Meets recordStanding RespectsCooldowns (new ⟨10, 16, .ring⟩) []
      [.scheduleAt 0 jingle, .scheduleAt 1 encore, .scheduleAt 2 alarm, .scheduleAt 12 replay] := by
  decide +kernel

end Encore

end Scheduler

end Aivtuber
