import Mathlib.Algebra.Order.Group.Multiset
import Mathlib.Tactic.Abel
import Aivtuber.Scheduler.Advance
import Aivtuber.Scheduler.Run

/-!
# Conservation of scheduled performances

A host that keeps a `Ledger` of the plans it was granted and of the history it
drained can account for all of them: an accepted plan is live, in the retained
history, evicted from it, or drained.  The account is an equation of multisets of
plans (`Conserved.plans`), since items move between the four places in any order;
a retirement moves one plan from the items to the history and the trimming of the
history moves some from there to the evicted ones.

Generations are issued in order, but the counter saturates: the account is one of
generations as long as fewer than `2 ^ 64` plans have been accepted, and one plan
later a generation is both live and in the history.
-/

open Saturating

namespace Aivtuber

namespace Scheduler

/-- What a host has been handed in a run. -/
structure Ledger where
  accepted : List PlannedPerformance
  drained : List HistoryEntry

/-- The ledger after one more step. -/
def Ledger.record (ledger : Ledger) (e : Machine.Event Scheduler Op Outcome) : Ledger where
  accepted := ledger.accepted ++ e.output.accepted?.toList
  drained := ledger.drained ++ e.output.entries

/-- The ledger of a run. -/
def ledger (config : SchedulerConfig) (ops : List Op) : Ledger :=
  machine.watch Ledger.record (new config) ⟨[], []⟩ ops

/-- The plans of a list of history entries. -/
def recorded (entries : List HistoryEntry) : Multiset PlannedPerformance :=
  (entries.map (·.item.plan) : List PlannedPerformance)

/-- The live plans. -/
def live (s : Scheduler) : Multiset PlannedPerformance :=
  (s.items.map (·.plan) : List PlannedPerformance)

@[simp] theorem recorded_nil : recorded [] = 0 := rfl

@[simp] theorem recorded_append (l l' : List HistoryEntry) :
    recorded (l ++ l') = recorded l + recorded l' := by
  rw [recorded, List.map_append, ← Multiset.coe_add]; rfl

/-- The account of a run: every accepted plan is live, retained, evicted or
drained. -/
structure Conserved (s : Scheduler) (ledger : Ledger) (evicted : List HistoryEntry) : Prop where
  plans : (ledger.accepted : Multiset PlannedPerformance) =
    s.live + recorded s.history + recorded evicted + recorded ledger.drained
  issued : ledger.accepted.map (·.generation) =
    (List.range ledger.accepted.length).map fun n ↦ min (n + 1) u64Max
  generation : s.generation = min ledger.accepted.length u64Max
  evictions : s.terminalEvicted = min evicted.length u64Max
  terminal : ∀ entry ∈ s.history ++ evicted ++ ledger.drained, entry.item.Terminal
  retained : s.config.historyPolicy = .retainAll → evicted = []
  bounded : s.config.historyPolicy = .ring → s.history.length ≤ s.config.historyCapacity

/-! ## Trimming -/

theorem trimLoop_spec (capacity n : Nat) (history : List HistoryEntry) :
    ∃ gone, history = gone ++ (trimLoop capacity history (min n u64Max)).1 ∧
      (trimLoop capacity history (min n u64Max)).2 = min (n + gone.length) u64Max ∧
      (trimLoop capacity history (min n u64Max)).1.length ≤ capacity := by
  induction history generalizing n with
  | nil => exact ⟨[], rfl, rfl, Nat.zero_le _⟩
  | cons entry history ih =>
    rw [trimLoop]
    split
    · obtain ⟨gone, hsplit, hcount, hlen⟩ := ih (n + 1)
      rw [satAdd_min]
      refine ⟨entry :: gone, ?_, ?_, hlen⟩
      · rw [List.cons_append, ← hsplit]
      · rw [hcount, List.length_cons, Nat.add_assoc, Nat.add_comm 1]
    · rename_i hlen
      exact ⟨[], rfl, rfl, not_lt.mp hlen⟩

theorem trimHistory_spec {s : Scheduler} {n : Nat} (hcount : s.terminalEvicted = min n u64Max) :
    ∃ gone, s.history = gone ++ s.trimHistory.history ∧
      s.trimHistory.terminalEvicted = min (n + gone.length) u64Max ∧
      (s.config.historyPolicy = .retainAll → gone = []) ∧
      (s.config.historyPolicy = .ring → s.trimHistory.history.length ≤ s.config.historyCapacity) := by
  rw [trimHistory]
  split
  · rename_i hpolicy
    refine ⟨[], rfl, hcount, fun _ ↦ rfl, fun hring ↦ ?_⟩
    rw [hpolicy] at hring
    cases hring
  · rename_i hpolicy
    dsimp only
    rw [hcount]
    obtain ⟨gone, hsplit, hevicted, hlen⟩ := trimLoop_spec s.config.historyCapacity n s.history
    exact ⟨gone, hsplit, hevicted, fun h ↦ absurd h hpolicy, fun _ ↦ hlen⟩

/-! ## The account is kept -/

/-- A retirement moves one plan from the items to the history. -/
theorem Conserved.retire {s : Scheduler} {ledger : Ledger} {evicted : List HistoryEntry}
    (h : s.Conserved ledger evicted) {index : Nat} {item item' : ScheduledItem} (atMs : Nat)
    (hget : s.items[index]? = some item) (hplan : item'.plan = item.plan)
    (hterm : item'.Terminal) :
    ∃ evicted', ((s.setItem index item').retire index atMs).Conserved ledger evicted' := by
  let entry : HistoryEntry :=
    { terminalAtMs := atMs, scheduledAtMs := item'.plan.startAtMs, item := item' }
  obtain ⟨hhist, hevicted⟩ := retire_history atMs (setItem_getElem? hget item')
  obtain ⟨gone, hsplit, hcount, hretain, hring⟩ := trimHistory_spec
    (s := { s.setItem index item' with history := s.history ++ [entry] }) h.evictions
  have hitems : s.live = item.plan ::ₘ ((s.setItem index item').retire index atMs).live := by
    rw [live, live, setItem_retire_items hget, Multiset.cons_coe, Multiset.coe_eq_coe,
      ← List.map_cons (f := ScheduledItem.plan)]
    exact (List.swapRemove_perm hget).map _
  refine ⟨evicted ++ gone, ?_, h.issued, ?_, ?_, ?_, ?_, ?_⟩
  · have hmoved : recorded s.history + {item.plan} = recorded gone +
        recorded ((s.setItem index item').retire index atMs).history := by
      rw [hhist, ← recorded_append]
      refine Eq.trans ?_ (congrArg recorded hsplit)
      rw [recorded_append, ← hplan]
      rfl
    calc (ledger.accepted : Multiset PlannedPerformance)
        = s.live + recorded s.history + recorded evicted + recorded ledger.drained := h.plans
      _ = ((s.setItem index item').retire index atMs).live + (recorded s.history + {item.plan}) +
            recorded evicted + recorded ledger.drained := by
          rw [hitems, ← Multiset.singleton_add]; abel
      _ = _ := by rw [hmoved, recorded_append]; abel
  · rw [retire_generation]; exact h.generation
  · rw [hevicted, List.length_append]; exact hcount
  · intro e he
    rw [hhist] at he
    have hmem : e ∈ gone ++ (trimHistory { s.setItem index item' with
        history := s.history ++ [entry] }).history → e.item.Terminal := by
      intro he
      rw [← hsplit] at he
      rcases List.mem_append.mp he with he | he
      · exact h.terminal e (List.mem_append_left _ (List.mem_append_left _ he))
      · rw [List.mem_singleton.mp he]; exact hterm
    simp only [List.mem_append] at he hmem
    rcases he with (he | he | he) | he
    · exact hmem (Or.inr he)
    · exact h.terminal e (by simp [he])
    · exact hmem (Or.inl he)
    · exact h.terminal e (by simp [he])
  · intro hpolicy
    rw [retire_config] at hpolicy
    rw [h.retained hpolicy, hretain hpolicy]
    rfl
  · intro hpolicy
    rw [retire_config] at hpolicy ⊢
    rw [hhist]
    exact hring hpolicy

theorem Quiet.conserved {s t : Scheduler} {ledger : Ledger} (h : Quiet s t)
    (hs : ∃ evicted, s.Conserved ledger evicted) : ∃ evicted, t.Conserved ledger evicted := by
  obtain ⟨evicted, hs⟩ := hs
  cases h with
  | retire item' atMs hget hplan hterm => exact hs.retire atMs hget hplan hterm
  | @revise index _ item' hget hplan _ _ =>
    refine ⟨evicted, ?_, hs.issued, hs.generation, hs.evictions, hs.terminal, hs.retained,
      hs.bounded⟩
    have hlive : (s.setItem index item').live = s.live := by
      obtain ⟨m, hperm, hperm'⟩ := List.set_perm hget item'
      have h₁ := hperm.map ScheduledItem.plan
      have h₂ := hperm'.map ScheduledItem.plan
      rw [List.map_cons, hplan] at h₂
      rw [List.map_cons] at h₁
      exact Multiset.coe_eq_coe.mpr (h₂.trans h₁.symm)
    rw [hlive]
    exact hs.plans
  | book h =>
    refine ⟨evicted, ?_, hs.issued, ?_, ?_, ?_, ?_, ?_⟩
    · rw [live, h.items, h.history]; exact hs.plans
    · rw [h.generation]; exact hs.generation
    · rw [h.terminalEvicted]; exact hs.evictions
    · rw [h.history]; exact hs.terminal
    · rw [h.config]; exact hs.retained
    · rw [h.config, h.history]; exact hs.bounded

/-- An accepted plan gets the next generation. -/
theorem Conserved.accept {t : Scheduler} {ledger : Ledger} {evicted : List HistoryEntry}
    (h : t.Conserved ledger evicted) (q : PlannedPerformance) :
    (t.accept q).1.Conserved
      ⟨ledger.accepted ++ [{ q with generation := satAdd t.generation 1 }], ledger.drained⟩
      evicted := by
  have hgen : satAdd t.generation 1 = min (ledger.accepted.length + 1) u64Max := by
    rw [h.generation, satAdd_min]
  refine ⟨?_, ?_, ?_, h.evictions, h.terminal, h.retained, h.bounded⟩
  · have hlive : (t.accept q).1.live = t.live + {{ q with generation := satAdd t.generation 1 }} := by
      rw [live, live]
      exact (congrArg _ List.map_append).trans (Multiset.coe_add _ _).symm
    rw [← Multiset.coe_add, h.plans, hlive]
    change _ = t.live + _ + recorded t.history + _ + _
    abel
  · dsimp only
    rw [List.length_append, List.length_singleton, List.range_succ, List.map_append, List.map_append,
      h.issued, List.map_singleton, List.map_singleton, ← hgen]
  · dsimp only
    rw [List.length_append, List.length_singleton]
    exact hgen

theorem Effect.conserved {s t : Scheduler} {out : Outcome} {ledger : Ledger} (h : Effect s t out)
    (hs : ∃ evicted, s.Conserved ledger evicted) :
    ∃ evicted, t.Conserved
      ⟨ledger.accepted ++ out.accepted?.toList, ledger.drained ++ out.entries⟩ evicted := by
  cases h with
  | quiet h haccepted hentries =>
    rw [haccepted, hentries, Option.toList_none, List.append_nil, List.append_nil]
    exact h.invariant (fun _ _ hq ↦ hq.conserved) hs
  | drain =>
    obtain ⟨evicted, hs⟩ := hs
    refine ⟨evicted, ?_, ?_, ?_, hs.evictions, ?_, hs.retained, fun _ ↦ Nat.zero_le _⟩
    · refine (congrArg _ (List.append_nil _)).trans (hs.plans.trans ?_)
      change _ = s.live + recorded [] + _ + recorded (ledger.drained ++ s.history)
      rw [recorded_append, recorded_nil]
      abel
    · simpa [Outcome.accepted?] using hs.issued
    · simpa [Outcome.accepted?] using hs.generation
    · intro e he
      refine hs.terminal e ?_
      simp only [Outcome.entries, List.mem_append] at he ⊢
      tauto
  | accept h =>
    obtain ⟨evicted, ht⟩ := h.invariant (fun _ _ hq ↦ hq.conserved) hs
    have hentries : ∀ result, ledger.drained ++ (Outcome.scheduled result).entries =
      ledger.drained := fun _ ↦ List.append_nil _
    rw [hentries]
    exact ⟨evicted, ht.accept _⟩

/-- **Conservation** along whole runs, saturated counters included. -/
theorem reachable_conserved (config : SchedulerConfig) (ops : List Op) :
    ∃ evicted, (machine.run (new config) ops).Conserved (ledger config ops) evicted := by
  refine (machine.watch_invariant (u := Ledger.record)
    (P := fun s ledger ↦ s.Tidy ∧ ∃ evicted, s.Conserved ledger evicted)
    (fun s ledger op ⟨hs, hcon⟩ ↦ ?_) ⟨new_tidy config, [], ?_⟩ ops).2
  · have h := perform_effect hs op
    exact ⟨h.tidy hs, h.conserved hcon⟩
  · exact ⟨rfl, rfl, rfl, rfl, fun _ h ↦ absurd h List.not_mem_nil, fun _ ↦ rfl,
      fun _ ↦ Nat.zero_le _⟩

/-! ## Accounts of generations -/

/-- The generations of a list of history entries. -/
def generations (entries : List HistoryEntry) : List Nat :=
  entries.map (·.item.plan.generation)

/-- The generations of the live items. -/
def liveGenerations (s : Scheduler) : List Nat := s.items.map (·.plan.generation)

/-- The places a generation can be in, one after the other. -/
def places (s : Scheduler) (ledger : Ledger) (evicted : List HistoryEntry) : List Nat :=
  s.liveGenerations ++ generations s.history ++ generations evicted ++ generations ledger.drained

/-- The account of a run by generations. -/
structure Accounted (s : Scheduler) (ledger : Ledger) (evicted : List HistoryEntry) : Prop where
  /-- The accepted generations are those in the four places. -/
  complete : (s.places ledger evicted).Perm (ledger.accepted.map (·.generation))
  /-- None of them is in a place twice, or in two places. -/
  nodup : (s.places ledger evicted).Nodup
  evictions : s.terminalEvicted = evicted.length
  count : s.terminalEvicted = ledger.accepted.length - s.items.length - s.history.length -
    ledger.drained.length
  retained : s.config.historyPolicy = .retainAll → evicted = []
  bounded : s.config.historyPolicy = .ring → s.history.length ≤ s.config.historyCapacity
  terminal : ∀ entry ∈ s.history ++ evicted ++ ledger.drained, entry.item.Terminal

theorem Conserved.places_perm {s : Scheduler} {ledger : Ledger} {evicted : List HistoryEntry}
    (h : s.Conserved ledger evicted) :
    (s.places ledger evicted).Perm (ledger.accepted.map (·.generation)) := by
  have hplans := h.plans
  rw [live, recorded, recorded, recorded, Multiset.coe_add, Multiset.coe_add, Multiset.coe_add,
    Multiset.coe_eq_coe] at hplans
  have hmap := (hplans.map PlannedPerformance.generation).symm
  rw [List.map_append, List.map_append, List.map_append, List.map_map, List.map_map, List.map_map,
    List.map_map] at hmap
  exact hmap

/-- Generations are distinct while the counter has not saturated. -/
theorem Conserved.nodup {s : Scheduler} {ledger : Ledger} {evicted : List HistoryEntry}
    (h : s.Conserved ledger evicted) (hfew : ledger.accepted.length < 2 ^ 64) :
    (ledger.accepted.map (·.generation)).Nodup := by
  rw [h.issued]
  refine List.Nodup.map_on (fun m hm n hn heq ↦ ?_) List.nodup_range
  rw [List.mem_range] at hm hn
  simp only [u64Max] at heq
  omega

theorem Conserved.accounted {s : Scheduler} {ledger : Ledger} {evicted : List HistoryEntry}
    (h : s.Conserved ledger evicted) (hfew : ledger.accepted.length < 2 ^ 64) :
    s.Accounted ledger evicted := by
  have hperm := h.places_perm
  have hlen := hperm.length_eq
  simp only [places, liveGenerations, generations, List.length_append, List.length_map] at hlen
  have hevictions : s.terminalEvicted = evicted.length := by
    rw [h.evictions]
    simp only [u64Max]
    omega
  exact ⟨hperm, hperm.nodup_iff.mpr (h.nodup hfew), hevictions, by omega, h.retained, h.bounded,
    h.terminal⟩

section Beats

/-- An operator cue that lasts no time. -/
def beat : PlannedPerformance := .cue "beat" "tick" .operator {.audio} 0 0

/-- A ring that keeps one entry, and no spacing. -/
def shortRing : SchedulerConfig := ⟨0, 1, .ring⟩

/-- No spacing, and a complete history. -/
def keepAll : SchedulerConfig := ⟨0, 0, .retainAll⟩

/-- The state after some beats: every item has ended, every cooldown is over. -/
private structure Beating (s : Scheduler) (ledger : Ledger) : Prop where
  config : s.config = keepAll
  nowMs : s.nowMs = 0
  ended : ∀ item ∈ s.items, item.status = .playing ∧ item.effectiveEndMs = 0
  cooled : ∀ (assetId : String) (untilMs : Nat), s.cooldowns[assetId]? = some untilMs → untilMs = 0
  last : s.items.map (·.plan) = ledger.accepted.getLast?.toList
  drained : ledger.drained = []

private theorem Beating.advanceTo {s : Scheduler} {ledger : Ledger} (h : s.Beating ledger) :
    (({ s with lastRejection := none } : Scheduler).advanceTo 0).items = [] ∧
      (({ s with lastRejection := none } : Scheduler).advanceTo 0).nowMs = 0 ∧
      ∀ assetId : String,
        (({ s with lastRejection := none } : Scheduler).advanceTo 0).cooldowns[assetId]? = none := by
  have hspec := advanceTo_spec { s with lastRejection := none } 0
  rw [show max 0 ({ s with lastRejection := none } : Scheduler).nowMs = 0 from by rw [h.nowMs]; rfl]
    at hspec
  refine ⟨?_, hspec.nowMs, fun assetId ↦ ?_⟩
  · have hnil : s.items.filterMap (ScheduledItem.carry 0) = [] := by
      rw [List.filterMap_eq_nil_iff]
      intro item hitem
      obtain ⟨hstatus, hend⟩ := h.ended item hitem
      rw [ScheduledItem.carry, ScheduledItem.advance_playing hstatus, hend]
      rfl
    have hperm := hspec.items
    rw [hnil] at hperm
    exact hperm.eq_nil
  · rw [hspec.cooldowns]
    cases hc : s.cooldowns[assetId]? with
    | none => simp [Std.ExtTreeMap.getElem?_filter, hc]
    | some untilMs => simp [Std.ExtTreeMap.getElem?_filter, hc, h.cooled assetId untilMs hc]

private theorem Beating.step {s : Scheduler} {ledger : Ledger} (h : s.Beating ledger) :
    Beating (machine.next s (.schedule beat)) (ledger.record (machine.event s (.schedule beat))) ∧
      (ledger.record (machine.event s (.schedule beat))).accepted.length =
        ledger.accepted.length + 1 := by
  obtain ⟨hitems, hnow, hcool⟩ := h.advanceTo
  obtain ⟨q, hq, hstart, hduration, hasset⟩ : ∃ q : PlannedPerformance,
      s.schedule beat = (({ s with lastRejection := none } : Scheduler).advanceTo 0).accept q ∧
        q.startAtMs = 0 ∧ q.durationMs = 0 ∧ q.assetId = "tick" := by
    refine ⟨_, scheduleNow_idle hitems (by rw [hcool]; exact Nat.zero_le _), ?_, rfl, rfl⟩
    simp [spacedStart, beat, PlannedPerformance.cue, requestedPlan, normalizeInterruptPoints,
      handoff, boundaries, hitems, hnow]
  have hend : q.endAtMs = 0 := by rw [PlannedPerformance.endAtMs, hstart, hduration]; rfl
  have hconfig := (advanceTo_spec { s with lastRejection := none } 0).config
  have hnext : machine.next s (.schedule beat) =
      ((({ s with lastRejection := none } : Scheduler).advanceTo 0).accept q).1 := by
    rw [← hq]; rfl
  have hledger : ledger.record (machine.event s (.schedule beat)) =
      ⟨ledger.accepted ++ [{ q with
          generation := satAdd (({ s with lastRejection := none } : Scheduler).advanceTo 0).generation
            1 }], ledger.drained⟩ := by
    have hout : (machine.event s (.schedule beat)).output =
        .scheduled ((({ s with lastRejection := none } : Scheduler).advanceTo 0).accept q).2 := by
      rw [← hq]; rfl
    rw [Ledger.record, hout]
    simp [Outcome.accepted?, Outcome.entries, accept]
  rw [hnext, hledger]
  refine ⟨⟨?_, hnow, ?_, ?_, ?_, h.drained⟩, by simp⟩
  · exact hconfig.trans h.config
  · intro item hitem
    simp only [accept, hitems, List.nil_append, List.mem_singleton] at hitem
    rw [hitem]
    refine ⟨if_pos (by rw [hstart]; exact Nat.zero_le _), ?_⟩
    exact (min_self _).trans hend
  · intro assetId untilMs hget
    simp only [accept, Std.ExtTreeMap.getElem?_insert] at hget
    split at hget
    · have hgen : ∀ g, ({ q with generation := g } : PlannedPerformance).endAtMs = 0 := fun _ ↦ hend
      rw [hgen, hconfig, h.config] at hget
      exact (Option.some.inj hget).symm
    · rw [hcool] at hget
      cases hget
  · simp [accept, hitems]

end Beats

end Scheduler

end Aivtuber
