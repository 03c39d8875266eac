import Mathlib.Logic.Relation
import Aivtuber.Scheduler.Basic

/-!
# What an operation of the scheduler can do

Every operation is a sequence of three *quiet* mutations, followed at most once,
on an accepted schedule, by the admission of a new item:

* `Quiet.retire` moves one live item, made terminal, to the history;
* `Quiet.revise` changes the status or the cancellation boundary of a live item,
  never its plan, and never lets it end later;
* `Quiet.book` touches clocks, cooldowns and counters only.

The relation is proved of the operations once, here; an invariant of items,
indexes or history is then three small cases and an admission.  A queued item is
never cancelled in place, only retired, so the `drop` branch of `advanceTo` is
dead (`Tidy`).
-/

open Saturating PositionIndex Relation

namespace Aivtuber

namespace ScheduledItem

/-- A live item is playing, or queued with no cancellation pending. -/
def Live (item : ScheduledItem) : Prop :=
  item.status = .playing ∨ item.status = .queued ∧ item.cancelAtMs = none

/-- A coherent terminal record: cancelled work has a boundary, completed work
was not cut short. -/
def Terminal (item : ScheduledItem) : Prop :=
  item.status = .cancelled ∧ item.cancelAtMs.isSome = true ∨
    item.status = .completed ∧ item.cutShort = false

theorem Live.advance_ne_drop {item : ScheduledItem} (h : item.Live) (target : Nat) :
    item.advance target ≠ .drop := by
  rcases h with h | ⟨h, hc⟩
  · rw [advance, h]
    dsimp only
    split <;> simp
  · rw [advance, h, hc]
    dsimp only [Option.any_none]
    rw [if_neg (by simp)]
    split
    · split <;> simp
    · simp

theorem terminal_of_advance {item : ScheduledItem} {target : Nat} {status : Status} {atMs : Nat}
    (h : item.advance target = .finish status atMs) :
    { item with status }.Terminal ∧ atMs = item.effectiveEndMs ∧ atMs ≤ target := by
  have key : ∀ {x : SlotAction}, (if item.effectiveEndMs ≤ target then
      SlotAction.finish (if item.cutShort then .cancelled else .completed) item.effectiveEndMs
      else x) = .finish status atMs → x ≠ .finish status atMs →
      { item with status }.Terminal ∧ atMs = item.effectiveEndMs ∧ atMs ≤ target := by
    intro x hx hne
    split at hx
    · rename_i hle
      cases hx
      refine ⟨?_, rfl, hle⟩
      by_cases hcut : item.cutShort
      · rw [if_pos hcut]
        refine Or.inl ⟨rfl, ?_⟩
        rw [cutShort] at hcut
        cases hca : item.cancelAtMs with
        | none => rw [hca] at hcut; cases hcut
        | some c => rfl
      · rw [if_neg hcut]
        exact Or.inr ⟨rfl, by rw [Bool.not_eq_true] at hcut; exact hcut⟩
    · exact absurd hx hne
  rw [advance] at h
  cases hs : item.status with
  | playing => rw [hs] at h; exact key h (by simp)
  | queued =>
    rw [hs] at h
    dsimp only at h
    split at h
    · cases h
    · split at h
      · exact key h (by simp)
      · cases h
  | completed => rw [hs] at h; cases h
  | cancelled => rw [hs] at h; cases h

theorem effectiveEndMs_cutAt_le (boundary : Nat) (item : ScheduledItem) :
    (Scheduler.cutAt boundary item).effectiveEndMs ≤ item.effectiveEndMs := by
  cases hc : item.cancelAtMs with
  | none => simp [Scheduler.cutAt, effectiveEndMs, hc]
  | some c => simp only [Scheduler.cutAt, effectiveEndMs, hc, Option.elim_some, Option.getD_some]; omega

theorem effectiveEndMs_cutAt_le_boundary (boundary : Nat) (item : ScheduledItem) :
    (Scheduler.cutAt boundary item).effectiveEndMs ≤ boundary := by
  cases hc : item.cancelAtMs with
  | none => simp only [Scheduler.cutAt, effectiveEndMs, hc, Option.elim_none, Option.getD_some]; omega
  | some c => simp only [Scheduler.cutAt, effectiveEndMs, hc, Option.elim_some, Option.getD_some]; omega

end ScheduledItem

namespace Scheduler

/-! ## Retirement, field by field -/

@[simp] theorem trimHistory_items (s : Scheduler) : s.trimHistory.items = s.items := by
  rw [trimHistory]; split <;> rfl

@[simp] theorem trimHistory_liveByGeneration (s : Scheduler) :
    s.trimHistory.liveByGeneration = s.liveByGeneration := by rw [trimHistory]; split <;> rfl

@[simp] theorem trimHistory_liveByEvent (s : Scheduler) :
    s.trimHistory.liveByEvent = s.liveByEvent := by rw [trimHistory]; split <;> rfl

@[simp] theorem trimHistory_cooldowns (s : Scheduler) :
    s.trimHistory.cooldowns = s.cooldowns := by rw [trimHistory]; split <;> rfl

@[simp] theorem trimHistory_generation (s : Scheduler) :
    s.trimHistory.generation = s.generation := by rw [trimHistory]; split <;> rfl

@[simp] theorem trimHistory_config (s : Scheduler) : s.trimHistory.config = s.config := by
  rw [trimHistory]; split <;> rfl

@[simp] theorem trimHistory_nowMs (s : Scheduler) : s.trimHistory.nowMs = s.nowMs := by
  rw [trimHistory]; split <;> rfl

@[simp] theorem trimHistory_lastTerminalAt (s : Scheduler) :
    s.trimHistory.lastTerminalAt = s.lastTerminalAt := by rw [trimHistory]; split <;> rfl

section Retire

variable {s : Scheduler} {index : Nat} {item : ScheduledItem} (atMs : Nat)

theorem retire_items (h : s.items[index]? = some item) :
    (s.retire index atMs).items = s.items.swapRemove index := by simp [retire, h]

theorem retire_liveByGeneration (h : s.items[index]? = some item) :
    (s.retire index atMs).liveByGeneration =
      reindex (·.plan.generation) (s.items.swapRemove index)
        (s.liveByGeneration.erase item.plan.generation) index := by simp [retire, h]

theorem retire_liveByEvent (h : s.items[index]? = some item) :
    (s.retire index atMs).liveByEvent =
      reindex (·.plan.eventId) (s.items.swapRemove index)
        (s.liveByEvent.erase item.plan.eventId) index := by simp [retire, h]

/-- The history a retirement leaves, before and after trimming. -/
theorem retire_history (h : s.items[index]? = some item) :
    (s.retire index atMs).history =
      (trimHistory { s with
        history := s.history ++
          [{ terminalAtMs := atMs, scheduledAtMs := item.plan.startAtMs, item }] }).history ∧
    (s.retire index atMs).terminalEvicted =
      (trimHistory { s with
        history := s.history ++
          [{ terminalAtMs := atMs, scheduledAtMs := item.plan.startAtMs, item }] }).terminalEvicted := by
  simp only [retire, h, trimHistory]
  split <;> exact ⟨rfl, rfl⟩

@[simp] theorem retire_cooldowns : (s.retire index atMs).cooldowns = s.cooldowns := by
  rw [retire]; split <;> simp

@[simp] theorem retire_generation : (s.retire index atMs).generation = s.generation := by
  rw [retire]; split <;> simp

@[simp] theorem retire_config : (s.retire index atMs).config = s.config := by
  rw [retire]; split <;> simp

@[simp] theorem retire_nowMs : (s.retire index atMs).nowMs = s.nowMs := by
  rw [retire]; split <;> simp

@[simp] theorem retire_lastTerminalAt :
    (s.retire index atMs).lastTerminalAt = s.lastTerminalAt := by rw [retire]; split <;> simp

end Retire

theorem setItem_getElem? {s : Scheduler} {index : Nat} {item : ScheduledItem}
    (h : s.items[index]? = some item) (item' : ScheduledItem) :
    (s.setItem index item').items[index]? = some item' :=
  List.getElem?_set_self (List.getElem?_eq_some_iff.mp h).1

/-- Making an item terminal and retiring it empties its slot. -/
theorem setItem_retire_items {s : Scheduler} {index : Nat} {item : ScheduledItem}
    (h : s.items[index]? = some item) (item' : ScheduledItem) (atMs : Nat) :
    ((s.setItem index item').retire index atMs).items = s.items.swapRemove index := by
  rw [retire_items atMs (setItem_getElem? h item'), setItem]
  exact List.swapRemove_set h item'

/-! ## Quiet mutations -/

/-- The two states agree on items, indexes, history and what counts them. -/
structure SameRecords (s t : Scheduler) : Prop where
  items : t.items = s.items
  liveByGeneration : t.liveByGeneration = s.liveByGeneration
  liveByEvent : t.liveByEvent = s.liveByEvent
  history : t.history = s.history
  generation : t.generation = s.generation
  config : t.config = s.config
  terminalEvicted : t.terminalEvicted = s.terminalEvicted

/-- One mutation that accepts no plan. -/
inductive Quiet : Scheduler → Scheduler → Prop
  | retire {s : Scheduler} {index : Nat} {item : ScheduledItem} (item' : ScheduledItem) (atMs : Nat)
      (hget : s.items[index]? = some item) (hplan : item'.plan = item.plan)
      (hterm : item'.Terminal) : Quiet s ((s.setItem index item').retire index atMs)
  | revise {s : Scheduler} {index : Nat} {item : ScheduledItem} (item' : ScheduledItem)
      (hget : s.items[index]? = some item) (hplan : item'.plan = item.plan) (hlive : item'.Live)
      (hend : item'.effectiveEndMs ≤ item.effectiveEndMs) : Quiet s (s.setItem index item')
  | book {s t : Scheduler} (h : s.SameRecords t) : Quiet s t

/-- A sequence of quiet mutations. -/
def Steps : Scheduler → Scheduler → Prop := ReflTransGen Quiet

/-- Every item of the vector is live. -/
def Tidy (s : Scheduler) : Prop := ∀ item ∈ s.items, item.Live

theorem Quiet.tidy {s t : Scheduler} (h : Quiet s t) (hs : s.Tidy) : t.Tidy := by
  cases h with
  | retire item' atMs hget hplan hterm =>
    intro item hitem
    rw [setItem_retire_items hget] at hitem
    exact hs item (List.mem_of_mem_swapRemove hget hitem)
  | revise item' hget hplan hlive hend =>
    intro item hitem
    rcases List.mem_or_eq_of_mem_set hitem with hitem | rfl
    · exact hs item hitem
    · exact hlive
  | book h => intro item hitem; exact hs item (h.items ▸ hitem)

theorem Steps.tidy {s t : Scheduler} (h : Steps s t) (hs : s.Tidy) : t.Tidy := by
  induction h with
  | refl => exact hs
  | tail _ hq ih => exact hq.tidy ih

theorem Steps.refl (s : Scheduler) : Steps s s := ReflTransGen.refl

theorem Steps.trans {s t u : Scheduler} (h : Steps s t) (h' : Steps t u) : Steps s u :=
  ReflTransGen.trans h h'

theorem Steps.book {s t : Scheduler} (h : s.SameRecords t) : Steps s t :=
  ReflTransGen.single (.book h)

theorem Steps.cons {s t u : Scheduler} (h : Quiet s t) (h' : Steps t u) : Steps s u :=
  ReflTransGen.head h h'

/-- **Quiet invariants.**  What each quiet mutation preserves, a sequence of them
preserves. -/
theorem Steps.invariant {P : Scheduler → Prop} (hP : ∀ s t, Quiet s t → P s → P t)
    {s t : Scheduler} (h : Steps s t) (hs : P s) : P t := by
  induction h with
  | refl => exact hs
  | tail _ hq ih => exact hP _ _ hq ih

/-- Quiet mutations bring no new plan. -/
theorem Steps.plans_subset {s t : Scheduler} (h : Steps s t) :
    ∀ item ∈ t.items, ∃ item₀ ∈ s.items, item₀.plan = item.plan := by
  refine Steps.invariant (P := fun t ↦ ∀ item ∈ t.items, ∃ item₀ ∈ s.items, item₀.plan = item.plan)
    ?_ h fun item hitem ↦ ⟨item, hitem, rfl⟩
  intro t u hq ih item hitem
  cases hq with
  | retire item' atMs hget hplan hterm =>
    rw [setItem_retire_items hget] at hitem
    exact ih item (List.mem_of_mem_swapRemove hget hitem)
  | @revise _ old item' hget hplan hlive hend =>
    rcases List.mem_or_eq_of_mem_set hitem with hitem | rfl
    · exact ih item hitem
    · rw [hplan]
      exact ih old (List.mem_of_getElem? hget)
  | book h => exact ih item (h.items ▸ hitem)

theorem Steps.generation_eq {s t : Scheduler} (h : Steps s t) : t.generation = s.generation := by
  refine Steps.invariant (P := fun t ↦ t.generation = s.generation) ?_ h rfl
  intro t u hq ih
  cases hq with
  | retire => rw [retire_generation]; exact ih
  | revise => exact ih
  | book h => rw [h.generation, ih]

theorem Steps.config_eq {s t : Scheduler} (h : Steps s t) : t.config = s.config := by
  refine Steps.invariant (P := fun t ↦ t.config = s.config) ?_ h rfl
  intro t u hq ih
  cases hq with
  | retire => rw [retire_config]; exact ih
  | revise => exact ih
  | book h => rw [h.config, ih]

/-! ## The operations that accept no plan -/

theorem advanceLoop_steps (target : Nat) : ∀ (fuel index : Nat) (s : Scheduler), s.Tidy →
    Steps s (advanceLoop target fuel index s) := by
  intro fuel
  induction fuel with
  | zero => intro index s _; exact Steps.refl s
  | succ fuel ih =>
    intro index s hs
    rw [advanceLoop]
    cases hget : s.items[index]? with
    | none => exact Steps.refl s
    | some item =>
      have hlive := hs item (List.mem_of_getElem? hget)
      dsimp only
      cases hact : item.advance target with
      | keep => exact ih (index + 1) s hs
      | play =>
        have hq : Quiet s (s.setItem index { item with status := .playing }) :=
          .revise _ hget rfl (Or.inl rfl) (le_refl _)
        exact Steps.cons hq (ih _ _ (hq.tidy hs))
      | drop => exact absurd hact (hlive.advance_ne_drop target)
      | finish status atMs =>
        -- the terminal instant is booked first, then the item is retired
        have hb : Quiet s { s with lastTerminalAt := latestTerminal s.lastTerminalAt atMs } :=
          .book ⟨rfl, rfl, rfl, rfl, rfl, rfl, rfl⟩
        have hq := Quiet.retire (s := { s with
          lastTerminalAt := latestTerminal s.lastTerminalAt atMs }) { item with status } atMs
          hget rfl (ScheduledItem.terminal_of_advance hact).1
        exact Steps.cons hb (Steps.cons hq (ih _ _ (hq.tidy (hb.tidy hs))))

theorem expireCooldowns_sameRecords (s : Scheduler) (target : Nat) :
    s.SameRecords (s.expireCooldowns target) := ⟨rfl, rfl, rfl, rfl, rfl, rfl, rfl⟩

theorem advanceTo_steps {s : Scheduler} (hs : s.Tidy) (atMs : Nat) : Steps s (s.advanceTo atMs) := by
  have hloop := advanceLoop_steps (max atMs s.nowMs) s.items.length 0
    (s.expireCooldowns (max atMs s.nowMs)) hs
  refine Steps.trans (Steps.book (s.expireCooldowns_sameRecords (max atMs s.nowMs))) ?_
  exact Steps.trans hloop (Steps.book ⟨rfl, rfl, rfl, rfl, rfl, rfl, rfl⟩)

theorem cancelQueued_steps (s : Scheduler) (index atMs : Nat) :
    Steps s (s.cancelQueued index atMs) := by
  rw [cancelQueued]
  cases hget : s.items[index]? with
  | none => exact Steps.refl s
  | some item =>
    -- the cooldown is given up first, then the item is retired
    refine Steps.cons (t := { s with
      cooldowns := releaseCooldown s.config.minReactionSpacingMs s.cooldowns item })
      (.book ⟨rfl, rfl, rfl, rfl, rfl, rfl, rfl⟩) ?_
    exact ReflTransGen.single (Quiet.retire (s := { s with
      cooldowns := releaseCooldown s.config.minReactionSpacingMs s.cooldowns item }) _ atMs hget
      rfl (Or.inl ⟨rfl, rfl⟩))

theorem stopPlaying_steps {s : Scheduler} {index : Nat} {item : ScheduledItem} (atMs : Nat)
    (hget : s.items[index]? = some item) : Steps s (s.stopPlaying index atMs item) := by
  refine Steps.cons (t := { s with lastTerminalAt := latestTerminal s.lastTerminalAt atMs })
    (.book ⟨rfl, rfl, rfl, rfl, rfl, rfl, rfl⟩) ?_
  exact ReflTransGen.single (Quiet.retire (s := { s with
    lastTerminalAt := latestTerminal s.lastTerminalAt atMs }) _ atMs hget rfl (Or.inl ⟨rfl, rfl⟩))

theorem stopLoop_steps (atMs : Nat) : ∀ (fuel index : Nat) (s : Scheduler)
    (stopped : List PlannedPerformance), Steps s (stopLoop atMs fuel index s stopped).1 := by
  intro fuel
  induction fuel with
  | zero => intro index s stopped; exact Steps.refl s
  | succ fuel ih =>
    intro index s stopped
    rw [stopLoop]
    cases hget : s.items[index]? with
    | none => exact Steps.refl s
    | some item =>
      dsimp only
      cases item.status with
      | playing => exact Steps.trans (stopPlaying_steps atMs hget) (ih _ _ _)
      | queued => exact Steps.trans (cancelQueued_steps s index atMs) (ih _ _ _)
      | completed => exact ih _ _ _
      | cancelled => exact ih _ _ _

theorem stopAll_steps {s : Scheduler} (hs : s.Tidy) (atMs : Nat) : Steps s (s.stopAll atMs).1 :=
  Steps.trans (advanceTo_steps hs atMs) (stopLoop_steps atMs _ 0 _ [])

theorem stopPlaying_items {s : Scheduler} {index : Nat} {item : ScheduledItem} (atMs : Nat)
    (hget : s.items[index]? = some item) :
    (s.stopPlaying index atMs item).items = s.items.swapRemove index :=
  setItem_retire_items (s := { s with lastTerminalAt := latestTerminal s.lastTerminalAt atMs })
    hget _ atMs

theorem cancelQueued_items {s : Scheduler} {index : Nat} {item : ScheduledItem} (atMs : Nat)
    (hget : s.items[index]? = some item) :
    (s.cancelQueued index atMs).items = s.items.swapRemove index := by
  rw [cancelQueued, hget]
  dsimp only
  exact setItem_retire_items (s := { s with
    cooldowns := releaseCooldown s.config.minReactionSpacingMs s.cooldowns item }) hget _ atMs

/-- Every live item the loop meets is retired, and the next one takes its slot. -/
theorem stopLoop_items (atMs : Nat) : ∀ (fuel : Nat) (s : Scheduler)
    (stopped : List PlannedPerformance), s.Tidy → s.items.length ≤ fuel →
      (stopLoop atMs fuel 0 s stopped).1.items = [] := by
  intro fuel
  induction fuel with
  | zero => intro s stopped _ hfuel; exact List.eq_nil_of_length_eq_zero (Nat.le_zero.mp hfuel)
  | succ fuel ih =>
    intro s stopped hs hfuel
    rw [stopLoop]
    cases hget : s.items[0]? with
    | none =>
      have hempty := List.getElem?_eq_none_iff.mp hget
      exact List.eq_nil_of_length_eq_zero (Nat.le_zero.mp hempty)
    | some item =>
      have hlen := List.length_swapRemove hget
      have hnext : ∀ t : Scheduler, t.items = s.items.swapRemove 0 →
          ∀ stopped, (stopLoop atMs fuel 0 t stopped).1.items = [] := by
        intro t ht stopped
        refine ih t stopped (fun other hother ↦ ?_) (by rw [ht]; omega)
        exact hs other (List.mem_of_mem_swapRemove hget (ht ▸ hother))
      dsimp only
      rcases hs item (List.mem_of_getElem? hget) with hplaying | ⟨hqueued, -⟩
      · rw [hplaying]
        exact hnext _ (stopPlaying_items atMs hget) _
      · rw [hqueued]
        exact hnext _ (cancelQueued_items atMs hget) _

/-- A stop leaves nothing on the timeline. -/
theorem stopAll_items {s : Scheduler} (hs : s.Tidy) (atMs : Nat) : (s.stopAll atMs).1.items = [] :=
  stopLoop_items atMs _ _ _ ((advanceTo_steps hs atMs).tidy hs) le_rfl

theorem stopCurrent_steps {s : Scheduler} (hs : s.Tidy) (atMs : Nat) :
    Steps s (s.stopCurrent atMs).1 := by
  refine Steps.trans (advanceTo_steps hs atMs) ?_
  rw [stopCurrent]
  cases List.findIdx? (·.status = .playing) (s.advanceTo atMs).items with
  | none => exact Steps.refl _
  | some index =>
    dsimp only
    cases hget : (s.advanceTo atMs).items[index]? with
    | none => exact Steps.refl _
    | some item => exact stopPlaying_steps atMs hget

theorem completeAll_steps {s : Scheduler} (hs : s.Tidy) : Steps s s.completeAll :=
  advanceTo_steps hs _

theorem reject_steps (s : Scheduler) (rejection : Rejection) : Steps s (s.reject rejection).1 :=
  Steps.book ⟨rfl, rfl, rfl, rfl, rfl, rfl, rfl⟩

end Scheduler

end Aivtuber
