import Aivtuber.Scheduler.Conservation

/-!
# The live indexes

`liveByGeneration` and `liveByEvent` stay exact indexes of the items: they map the
generation and the event id of each item to its slot, and hold no other key
(`Indexed`).  A retirement moves one item into the hole it leaves, which is a
swap-removal of the index; an accepted plan is appended under an event id that no
live item carries and a generation above all of theirs.

The last point is where the generation counter must not have saturated, so the
result is about runs with fewer than `2 ^ 64` accepted plans.
-/

open Saturating PositionIndex

namespace Aivtuber

namespace Scheduler

/-- The live indexes are exact, and no live generation is ahead of the counter. -/
structure Indexed (s : Scheduler) : Prop where
  generations : Indexes (·.plan.generation) s.items s.liveByGeneration
  events : Indexes (·.plan.eventId) s.items s.liveByEvent
  issued : ∀ item ∈ s.items, item.plan.generation ≤ s.generation

theorem new_indexed (config : SchedulerConfig) : (new config).Indexed :=
  ⟨Indexes.empty, Indexes.empty, fun _ hitem ↦ absurd hitem List.not_mem_nil⟩

theorem Quiet.indexed {s t : Scheduler} (h : Quiet s t) (hs : s.Indexed) : t.Indexed := by
  cases h with
  | @retire index item item' atMs hget hplan _ =>
    have hgen : item'.plan.generation = item.plan.generation := by rw [hplan]
    have hevent : item'.plan.eventId = item.plan.eventId := by rw [hplan]
    have hget' := setItem_getElem? hget item'
    refine ⟨?_, ?_, fun x hx ↦ ?_⟩
    · rw [retire_items atMs hget', retire_liveByGeneration atMs hget']
      exact (hs.generations.set hget hgen).swapRemove hget'
    · rw [retire_items atMs hget', retire_liveByEvent atMs hget']
      exact (hs.events.set hget hevent).swapRemove hget'
    · rw [setItem_retire_items hget] at hx
      rw [retire_generation]
      exact hs.issued x (List.mem_of_mem_swapRemove hget hx)
  | @revise index item item' hget hplan _ _ =>
    have hgen : item'.plan.generation = item.plan.generation := by rw [hplan]
    have hevent : item'.plan.eventId = item.plan.eventId := by rw [hplan]
    refine ⟨hs.generations.set hget hgen, hs.events.set hget hevent, fun x hx ↦ ?_⟩
    rcases List.mem_or_eq_of_mem_set hx with hx | rfl
    · exact hs.issued x hx
    · rw [hgen]
      exact hs.issued item (List.mem_of_getElem? hget)
  | book h =>
    refine ⟨?_, ?_, ?_⟩
    · rw [h.items, h.liveByGeneration]; exact hs.generations
    · rw [h.items, h.liveByEvent]; exact hs.events
    · rw [h.items, h.generation]; exact hs.issued

/-- Accepting a fresh plan while the counter can still grow. -/
theorem accept_indexed {t : Scheduler} {q : PlannedPerformance} (ht : t.Indexed)
    (hfresh : ∀ item ∈ t.items, item.plan.eventId ≠ q.eventId) (hgen : t.generation < u64Max) :
    (t.accept q).1.Indexed := by
  have hnext : satAdd t.generation 1 = t.generation + 1 := min_eq_left hgen
  refine ⟨?_, ht.events.concat (a := ⟨{ q with generation := satAdd t.generation 1 }, _, none⟩)
    hfresh, fun x hx ↦ ?_⟩
  · refine ht.generations.concat (a := ⟨{ q with generation := satAdd t.generation 1 }, _, none⟩)
      fun x hx ↦ Nat.ne_of_lt ?_
    change x.plan.generation < satAdd t.generation 1
    rw [hnext]
    exact Nat.lt_succ_of_le (ht.issued x hx)
  · change x.plan.generation ≤ satAdd t.generation 1
    rw [hnext]
    rcases List.mem_append.mp hx with hx | hx
    · exact (ht.issued x hx).trans (Nat.le_succ _)
    · rw [List.mem_singleton.mp hx]
      exact hnext.le

theorem Effect.indexed {s t : Scheduler} {out : Outcome} (h : Effect s t out) (hs : s.Indexed)
    (hgen : out.accepted?.isSome → s.generation < u64Max) : t.Indexed := by
  cases h with
  | quiet h => exact h.invariant (fun _ _ hq ↦ hq.indexed) hs
  | drain => exact ⟨hs.generations, hs.events, hs.issued⟩
  | accept h hfresh =>
    refine accept_indexed (h.invariant (fun _ _ hq ↦ hq.indexed) hs) hfresh ?_
    rw [h.generation_eq]
    exact hgen rfl

/-- The indexes are exact after a run that has not exhausted the generations. -/
theorem reachable_indexed (config : SchedulerConfig) (ops : List Op)
    (hfew : (ledger config ops).accepted.length < 2 ^ 64) :
    (machine.run (new config) ops).Indexed := by
  refine (machine.watch_invariant (u := Ledger.record)
    (P := fun s ledger ↦ s.Tidy ∧ (∃ evicted, s.Conserved ledger evicted) ∧
      (ledger.accepted.length < 2 ^ 64 → s.Indexed))
    (fun s ledger op ⟨hs, hcon, hind⟩ ↦ ?_)
    ⟨new_tidy config, (reachable_conserved config []), fun _ ↦ new_indexed config⟩ ops).2.2 hfew
  have h := perform_effect hs op
  refine ⟨h.tidy hs, h.conserved hcon, fun hlen ↦ ?_⟩
  obtain ⟨evicted, hcon⟩ := hcon
  rw [Ledger.record, List.length_append] at hlen
  refine h.indexed (hind (Nat.lt_of_le_of_lt (Nat.le_add_right _ _) hlen)) fun hsome ↦ ?_
  -- the plan accepted by this step is counted in the ledger after it
  rw [hcon.generation]
  refine lt_of_le_of_lt (min_le_left _ _) ?_
  have hone : (machine.event s op).output.accepted?.toList.length = 1 := by
    obtain ⟨plan, hplan⟩ := Option.isSome_iff_exists.mp hsome
    rw [show (machine.event s op).output.accepted? = some plan from hplan]
    rfl
  rw [hone] at hlen
  simp only [u64Max]
  omega

/-- A generation that has been retired is not live. -/
theorem Accounted.not_live {s : Scheduler} {ledger : Ledger} {evicted : List HistoryEntry}
    (h : s.Accounted ledger evicted) {entry : HistoryEntry}
    (hentry : entry ∈ s.history ++ ledger.drained) :
    entry.item.plan.generation ∉ s.liveGenerations := by
  have hnodup := h.nodup
  rw [places, List.append_assoc, List.append_assoc, List.nodup_append] at hnodup
  intro hlive
  refine hnodup.2.2 _ hlive entry.item.plan.generation ?_ rfl
  have hmem : ∀ entries : List HistoryEntry, entry ∈ entries →
      entry.item.plan.generation ∈ Scheduler.generations entries :=
    fun entries he ↦ List.mem_map_of_mem he
  rcases List.mem_append.mp hentry with he | he
  · exact List.mem_append_left _ (hmem _ he)
  · exact List.mem_append_right _ (List.mem_append_right _ (hmem _ he))

/-- What a host can rely on when it looks up a live item, where `retired` are the
history entries it can still hold or has drained. -/
structure LookupsExact (s : Scheduler) (retired : List HistoryEntry) : Prop where
  generation_index : ∀ generation index : Nat, s.liveByGeneration[generation]? = some index ↔
    ∃ item, s.items[index]? = some item ∧ item.plan.generation = generation
  event_index : ∀ (eventId : String) (index : Nat), s.liveByEvent[eventId]? = some index ↔
    ∃ item, s.items[index]? = some item ∧ item.plan.eventId = eventId
  generations_nodup : (s.items.map (·.plan.generation)).Nodup
  events_nodup : (s.items.map (·.plan.eventId)).Nodup
  by_generation : ∀ generation item, s.liveItemByGeneration generation = some item ↔
    item ∈ s.items ∧ item.plan.generation = generation
  by_event : ∀ eventId item, s.liveItemByEvent eventId = some item ↔
    item ∈ s.items ∧ item.plan.eventId = eventId
  retired_not_live : ∀ entry ∈ retired, s.isGenerationLive entry.item.plan.generation = false ∧
    s.liveItemByGeneration entry.item.plan.generation = none

/-- **The live indexes are exact** in every run with fewer than `2 ^ 64` accepted
plans: they hold the slot of each item under its generation and its event id and
nothing else, both are unique among the items, a lookup returns the item of its
key, and it finds nothing for a generation that has been retired. -/
theorem live_lookups_exact (config : SchedulerConfig) (ops : List Op)
    (hfew : (ledger config ops).accepted.length < 2 ^ 64) :
    (machine.run (new config) ops).LookupsExact
      ((machine.run (new config) ops).history ++ (ledger config ops).drained) := by
  have h := reachable_indexed config ops hfew
  obtain ⟨evicted, hcon⟩ := reachable_conserved config ops
  refine ⟨h.generations, h.events, h.generations.nodup_map, h.events.nodup_map,
    fun _ _ ↦ h.generations.bind_getElem?_eq_some_iff, fun _ _ ↦ h.events.bind_getElem?_eq_some_iff,
    fun entry hentry ↦ ?_⟩
  have hnone : (machine.run (new config) ops).liveByGeneration[entry.item.plan.generation]? =
      none := by
    rw [h.generations.getElem?_eq_none_iff]
    intro item hitem heq
    refine (hcon.accounted hfew).not_live hentry ?_
    rw [← heq]
    exact List.mem_map_of_mem hitem
  refine ⟨?_, ?_⟩
  · rw [isGenerationLive, Std.ExtTreeMap.contains_eq_isSome_getElem?, hnone]; rfl
  · rw [liveItemByGeneration, hnone]; rfl

/-- The same after three beats, of which the last is live. -/
theorem live_lookups_exact_beats :
    (machine.run (new shortRing)
        [.schedule beat, .schedule beat, .schedule beat]).LookupsExact
      ((machine.run (new shortRing) [.schedule beat, .schedule beat, .schedule beat]).history ++
        (ledger shortRing [.schedule beat, .schedule beat, .schedule beat]).drained) :=
  live_lookups_exact shortRing [.schedule beat, .schedule beat, .schedule beat] (by decide +kernel)

end Scheduler

end Aivtuber
