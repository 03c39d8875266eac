import Aivtuber.Scheduler.Steps

/-!
# Advancing logical time

The loop of `advanceTo` retires items while it walks over them, so the slots it
leaves are in an order that depends on what ended.  Up to that order it is a
`filterMap` over the items (`advanceTo_spec`): each item is carried to the target
or ends, whatever its slot.

Carrying an item to one instant and then to a later one is carrying it to the
later one, and so is what the two advances record of the items that ended (`carry_carry`).
-/

open Saturating

namespace Aivtuber

namespace ScheduledItem

/-- What is left of an item when logical time reaches `target`. -/
def carry (target : Nat) (item : ScheduledItem) : Option ScheduledItem :=
  match item.advance target with
  | .keep => some item
  | .play => some { item with status := .playing }
  | .drop | .finish _ _ => none

/-- When an item ended, if it has by `target`. -/
def terminal (target : Nat) (item : ScheduledItem) : Option Nat :=
  match item.advance target with
  | .finish _ atMs => some atMs
  | _ => none

/-- The fate of a playing item. -/
theorem advance_playing {item : ScheduledItem} (h : item.status = .playing) (target : Nat) :
    item.advance target =
      if item.effectiveEndMs ≤ target then
        .finish (if item.cutShort then .cancelled else .completed) item.effectiveEndMs
      else .keep := by
  rw [advance, h]

/-- The fate of a queued item that nothing has cut. -/
theorem advance_queued {item : ScheduledItem} (h : item.status = .queued)
    (hc : item.cancelAtMs = none) (target : Nat) :
    item.advance target =
      if item.plan.startAtMs ≤ target then
        if item.effectiveEndMs ≤ target then
          .finish (if item.cutShort then .cancelled else .completed) item.effectiveEndMs
        else .play
      else .keep := by
  rw [advance, h, hc]
  rfl

theorem carry_playing {item : ScheduledItem} (h : item.status = .playing) (target : Nat) :
    item.carry target = if item.effectiveEndMs ≤ target then none else some item := by
  rw [carry, advance_playing h]
  by_cases hend : item.effectiveEndMs ≤ target
  · rw [if_pos hend, if_pos hend]
  · rw [if_neg hend, if_neg hend]

theorem carry_queued {item : ScheduledItem} (h : item.status = .queued)
    (hc : item.cancelAtMs = none) (target : Nat) :
    item.carry target =
      if item.plan.startAtMs ≤ target then
        if item.effectiveEndMs ≤ target then none else some { item with status := .playing }
      else some item := by
  rw [carry, advance_queued h hc]
  by_cases hstart : item.plan.startAtMs ≤ target
  · rw [if_pos hstart, if_pos hstart]
    by_cases hend : item.effectiveEndMs ≤ target
    · rw [if_pos hend, if_pos hend]
    · rw [if_neg hend, if_neg hend]
  · rw [if_neg hstart, if_neg hstart]

/-- An item that is still queued starts later. -/
theorem Live.lt_startAtMs_of_carry {item item' : ScheduledItem} {target : Nat} (h : item.Live)
    (hcarry : item.carry target = some item') (hqueued : item'.status = .queued) :
    target < item'.plan.startAtMs := by
  rcases h with hplaying | ⟨hq, hc⟩
  · rw [carry_playing hplaying] at hcarry
    split at hcarry
    · cases hcarry
    · cases hcarry
      rw [hplaying] at hqueued
      cases hqueued
  · rw [carry_queued hq hc] at hcarry
    split at hcarry
    · split at hcarry
      · cases hcarry
      · cases hcarry
        cases hqueued
    · rename_i hstart
      cases hcarry
      exact not_le.mp hstart

/-- **Carrying composes**: stopping on the way makes no difference to where an item comes, nor to
when it has ended: by `u` it has ended if it had by `t`, or was carried to `t` and ended then. -/
theorem carry_carry {item : ScheduledItem} (h : item.Live) {t u : Nat} (htu : t ≤ u) :
    (item.carry t).bind (carry u) = item.carry u ∧
      (item.terminal t).toList ++ ((item.carry t).bind (terminal u)).toList =
        (item.terminal u).toList := by
  rcases h with hstatus | ⟨hstatus, hc⟩
  · by_cases ht : item.effectiveEndMs ≤ t
    · have hu := ht.trans htu
      simp [carry, terminal, advance_playing hstatus, ht, hu]
    · simp [carry, terminal, advance_playing hstatus, ht]
  · by_cases hs : item.plan.startAtMs ≤ t
    · have hs' := hs.trans htu
      by_cases ht : item.effectiveEndMs ≤ t
      · have hu := ht.trans htu
        simp [carry, terminal, advance_queued hstatus hc, hs, hs', ht, hu]
      · -- it plays in between, and ends by `u` under the same condition
        have hplay : ({ item with status := .playing } : ScheduledItem).advance u =
            if item.effectiveEndMs ≤ u then
              .finish (if item.cutShort then .cancelled else .completed) item.effectiveEndMs
            else .keep := advance_playing rfl u
        by_cases hu : item.effectiveEndMs ≤ u
        · simp [carry, terminal, advance_queued hstatus hc, hs, hs', ht, hplay, hu]
        · simp [carry, terminal, advance_queued hstatus hc, hs, hs', ht, hplay, hu]
    · simp [carry, terminal, advance_queued hstatus hc, hs]

end ScheduledItem

namespace Scheduler

open ScheduledItem

/-- The order in which terminal instants are recorded does not matter. -/
instance : RightCommutative latestTerminal where
  right_comm last a b := by
    cases last with
    | none => simp [latestTerminal, max_comm]
    | some last => simp [latestTerminal, max_comm, max_left_comm]

/-- What walking over the items `q` behind the slots `p` does. -/
structure Carried (target : Nat) (s s' : Scheduler) (p q : List ScheduledItem) : Prop where
  items : s'.items.Perm (p ++ q.filterMap (carry target))
  lastTerminalAt : s'.lastTerminalAt =
    (q.filterMap (terminal target)).foldl latestTerminal s.lastTerminalAt
  cooldowns : s'.cooldowns = s.cooldowns
  generation : s'.generation = s.generation
  config : s'.config = s.config

/-- The loop, by induction on the number of slots left.  A retirement rotates the
items behind its slot, which a `filterMap` does not see. -/
theorem advanceLoop_carried (target : Nat) : ∀ (fuel : Nat) (p q : List ScheduledItem)
    (s : Scheduler), q.length = fuel → s.items = p ++ q →
      Carried target s (advanceLoop target fuel p.length s) p q := by
  intro fuel
  induction fuel with
  | zero =>
    intro p q s hfuel hs
    obtain rfl := List.eq_nil_of_length_eq_zero hfuel
    exact ⟨List.Perm.of_eq hs, rfl, rfl, rfl, rfl⟩
  | succ fuel ih =>
    intro p q s hfuel hs
    obtain ⟨item, q, rfl⟩ := List.exists_cons_of_length_eq_add_one hfuel
    have hlen : q.length = fuel := Nat.succ.inj hfuel
    have hrot : q.rotateLast.length = fuel := q.length_rotateLast.trans hlen
    have hget : s.items[p.length]? = some item := by
      rw [hs, List.getElem?_append_right (le_refl _), Nat.sub_self]; rfl
    have hpos : ∀ item' : ScheduledItem, (p ++ [item']).length = p.length + 1 := by simp
    rw [advanceLoop, hget]
    dsimp only
    cases hact : item.advance target with
    | keep =>
      have h := ih (p ++ [item]) q s hlen (by rw [hs, List.append_cons])
      rw [hpos] at h
      refine ⟨h.items.trans (List.Perm.of_eq ?_), h.lastTerminalAt.trans ?_, h.cooldowns,
        h.generation, h.config⟩
      · simp [carry, hact]
      · simp [terminal, hact]
    | play =>
      have h := ih (p ++ [{ item with status := .playing }]) q
        (s.setItem p.length { item with status := .playing }) hlen
        (by rw [setItem, hs, List.set_append_cons, List.append_cons])
      rw [hpos] at h
      refine ⟨h.items.trans (List.Perm.of_eq ?_), h.lastTerminalAt.trans ?_, h.cooldowns,
        h.generation, h.config⟩
      · simp [carry, hact]
      · simp [terminal, hact, setItem]
    | drop =>
      have h := ih p q.rotateLast (s.retire p.length target) hrot
        (by rw [retire_items target hget, hs, List.swapRemove_append_cons])
      refine ⟨h.items.trans ?_, h.lastTerminalAt.trans ?_, h.cooldowns.trans ?_,
        h.generation.trans ?_, h.config.trans ?_⟩
      · have hperm := (q.rotateLast_perm.filterMap (carry target)).append_left p
        simpa [carry, hact] using hperm
      · rw [retire_lastTerminalAt, (q.rotateLast_perm.filterMap (terminal target)).foldl_eq]
        simp [terminal, hact]
      · exact retire_cooldowns target
      · exact retire_generation target
      · exact retire_config target
    | finish status atMs =>
      dsimp only
      have h := ih p q.rotateLast (({ s.setItem p.length { item with status } with
          lastTerminalAt := latestTerminal s.lastTerminalAt atMs } : Scheduler).retire p.length
          atMs) hrot (by
        rw [← List.swapRemove_append_cons p q item, ← hs]
        exact setItem_retire_items (s := { s with
          lastTerminalAt := latestTerminal s.lastTerminalAt atMs }) hget _ atMs)
      refine ⟨h.items.trans ?_, h.lastTerminalAt.trans ?_, h.cooldowns.trans ?_,
        h.generation.trans ?_, h.config.trans ?_⟩
      · have hperm := (q.rotateLast_perm.filterMap (carry target)).append_left p
        simpa [carry, hact] using hperm
      · rw [retire_lastTerminalAt, (q.rotateLast_perm.filterMap (terminal target)).foldl_eq]
        simp [terminal, hact]
      · exact retire_cooldowns atMs
      · exact retire_generation atMs
      · exact retire_config atMs

/-- What `advanceTo` makes of a state, up to the order of its slots. -/
structure Advanced (target : Nat) (s s' : Scheduler) : Prop where
  items : s'.items.Perm (s.items.filterMap (carry target))
  lastTerminalAt : s'.lastTerminalAt =
    (s.items.filterMap (terminal target)).foldl latestTerminal s.lastTerminalAt
  cooldowns : s'.cooldowns = s.cooldowns.filter fun _ untilMs ↦ target < untilMs
  nowMs : s'.nowMs = target
  generation : s'.generation = s.generation
  config : s'.config = s.config

/-- **Advancing logical time**, item by item. -/
theorem advanceTo_spec (s : Scheduler) (atMs : Nat) :
    Advanced (max atMs s.nowMs) s (s.advanceTo atMs) := by
  have h := advanceLoop_carried (max atMs s.nowMs) s.items.length [] s.items
    (s.expireCooldowns (max atMs s.nowMs)) rfl rfl
  exact ⟨h.items, h.lastTerminalAt, h.cooldowns, rfl, h.generation, h.config⟩

end Scheduler

end Aivtuber
