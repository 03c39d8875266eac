import Mathlib.Data.List.Forall2
import Aivtuber.Scheduler.Clock

/-!
# The records of a scheduler that keeps its history

A scheduler under `HistoryPolicy.retainAll` has a record of every plan it ever accepted: the
items of its history and its live ones.  An operation makes records shorter, and adds one
with the next number.  So the records are exclusive in a stronger sense than the timeline
is: a plan was accepted clear of every record before it *as planned*, not only as it was
cut later (`Clear`).
-/

open Saturating

namespace Aivtuber

namespace Scheduler

/-- Every plan that was accepted, ended or live. -/
def records (s : Scheduler) : List ScheduledItem := s.history.map (·.item) ++ s.items

/-- A record is clear of the plan of a later one that conflicts with it. -/
def Clear (a b : ScheduledItem) : Prop :=
  a.plan.generation < b.plan.generation → plansConflict a.plan b.plan →
    ¬ intervalsOverlap a.plan.startAtMs a.effectiveEndMs b.plan.startAtMs b.plan.endAtMs

/-- The same plan, over no later. -/
structure Shortens (a b : ScheduledItem) : Prop where
  plan : b.plan = a.plan
  effectiveEndMs : b.effectiveEndMs ≤ a.effectiveEndMs

theorem Shortens.refl (a : ScheduledItem) : Shortens a a := ⟨rfl, le_refl _⟩

/-- Records with their numbers up to the last one issued. -/
structure Consistent (generation : Nat) (records : List ScheduledItem) : Prop where
  clear : ∀ a ∈ records, ∀ b ∈ records, Clear a b
  numbers : (records.map (·.plan.generation)).Nodup
  issued : ∀ a ∈ records, a.plan.generation ≤ generation
  started : ∀ a ∈ records, a.plan.startAtMs ≤ u64Max

namespace Consistent

variable {generation : Nat} {l l' : List ScheduledItem}

theorem perm (h : Consistent generation l) (hperm : l.Perm l') : Consistent generation l' where
  clear a ha b hb := h.clear a (hperm.mem_iff.mpr ha) b (hperm.mem_iff.mpr hb)
  numbers := (hperm.map _).nodup_iff.mp h.numbers
  issued a ha := h.issued a (hperm.mem_iff.mpr ha)
  started a ha := h.started a (hperm.mem_iff.mpr ha)

theorem exists_of_forall₂ (h : List.Forall₂ Shortens l l') {b : ScheduledItem} (hb : b ∈ l') :
    ∃ a ∈ l, Shortens a b := by
  induction h with
  | nil => cases hb
  | cons hab _ ih =>
    rcases List.mem_cons.mp hb with rfl | hb
    · exact ⟨_, List.mem_cons_self, hab⟩
    · obtain ⟨a, ha, hshort⟩ := ih hb
      exact ⟨a, List.mem_cons_of_mem _ ha, hshort⟩

theorem generations_eq (h : List.Forall₂ Shortens l l') :
    l'.map (·.plan.generation) = l.map (·.plan.generation) := by
  induction h with
  | nil => rfl
  | cons hab _ ih => rw [List.map_cons, List.map_cons, ih, hab.plan]

/-- Records may be made shorter. -/
theorem shorten (h : Consistent generation l) (hshort : List.Forall₂ Shortens l l') :
    Consistent generation l' where
  clear a' ha' b' hb' hgen hconf hover := by
    obtain ⟨a, ha, hplan, hend⟩ := exists_of_forall₂ hshort ha'
    obtain ⟨b, hb, hplan', -⟩ := exists_of_forall₂ hshort hb'
    rw [hplan, hplan'] at hgen hconf hover
    refine h.clear a ha b hb hgen hconf ?_
    simp only [intervalsOverlap, Bool.and_eq_true, decide_eq_true_eq] at hover ⊢
    exact ⟨hover.1, hover.2.trans_le hend⟩
  numbers := generations_eq hshort ▸ h.numbers
  issued a' ha' := by
    obtain ⟨a, ha, hplan, -⟩ := exists_of_forall₂ hshort ha'
    rw [hplan]
    exact h.issued a ha
  started a' ha' := by
    obtain ⟨a, ha, hplan, -⟩ := exists_of_forall₂ hshort ha'
    rw [hplan]
    exact h.started a ha

/-- One record, among others, may be made shorter. -/
theorem replace (h : Consistent generation l) {a a' : ScheduledItem} (rest : List ScheduledItem)
    (hl : l.Perm (a :: rest)) (hshort : Shortens a a')
    (hl' : l'.Perm (a' :: rest)) : Consistent generation l' := by
  refine ((h.perm hl).shorten ?_).perm hl'.symm
  exact List.Forall₂.cons hshort (List.forall₂_same.mpr fun x _ ↦ .refl x)

/-- A plan with the next number, clear of the records, may be added. -/
theorem append (h : Consistent generation l) (new : ScheduledItem)
    (hnew : new.plan.generation = generation + 1) (hstart : new.plan.startAtMs ≤ u64Max)
    (hclear : ∀ a ∈ l, plansConflict a.plan new.plan →
      ¬ intervalsOverlap a.plan.startAtMs a.effectiveEndMs new.plan.startAtMs new.plan.endAtMs) :
    Consistent (generation + 1) (l ++ [new]) where
  clear a ha b hb hgen hconf := by
    rcases List.mem_append.mp hb with hb | hb
    · rcases List.mem_append.mp ha with ha | ha
      · exact h.clear a ha b hb hgen hconf
      · -- the new number is the largest
        rw [List.mem_singleton.mp ha, hnew] at hgen
        exact absurd (h.issued b hb) (by omega)
    · obtain rfl := List.mem_singleton.mp hb
      rcases List.mem_append.mp ha with ha | ha
      · exact hclear a ha hconf
      · rw [List.mem_singleton.mp ha] at hgen
        exact absurd hgen (Nat.lt_irrefl _)
  numbers := by
    rw [List.map_append, List.map_singleton, List.nodup_append]
    refine ⟨h.numbers, List.nodup_singleton _, fun number hnumber other hother ↦ ?_⟩
    obtain ⟨a, ha, rfl⟩ := List.mem_map.mp hnumber
    rw [List.mem_singleton.mp hother, hnew]
    have := h.issued a ha
    omega
  issued a ha := by
    rcases List.mem_append.mp ha with ha | ha
    · exact (h.issued a ha).trans (Nat.le_succ _)
    · rw [List.mem_singleton.mp ha, hnew]
  started a ha := by
    rcases List.mem_append.mp ha with ha | ha
    · exact h.started a ha
    · rw [List.mem_singleton.mp ha]
      exact hstart

end Consistent

/-- The records by `bound`, when every ended one is over. -/
structure Recorded (bound : Nat) (s : Scheduler) : Prop where
  tidy : s.Tidy
  retained : s.config.historyPolicy = .retainAll
  consistent : Consistent s.generation s.records
  terminal : ∀ entry ∈ s.history, entry.item.Terminal
  past : ∀ entry ∈ s.history, entry.item.effectiveEndMs ≤ bound

/-- No live item was over before `atMs`. -/
def Current (atMs : Nat) (s : Scheduler) : Prop := ∀ item ∈ s.items, atMs ≤ item.effectiveEndMs

namespace Recorded

variable {bound atMs index : Nat} {s t : Scheduler} {item item' : ScheduledItem}

theorem mono (h : s.Recorded bound) {bound' : Nat} (hle : bound ≤ bound') : s.Recorded bound' where
  tidy := h.tidy
  retained := h.retained
  consistent := h.consistent
  terminal := h.terminal
  past entry hentry := (h.past entry hentry).trans hle

theorem book (h : s.Recorded bound) (hsame : s.SameRecords t) : t.Recorded bound where
  tidy := (Quiet.book hsame).tidy h.tidy
  retained := hsame.config ▸ h.retained
  consistent := by
    rw [records, hsame.generation, hsame.history, hsame.items]
    exact h.consistent
  terminal := hsame.history ▸ h.terminal
  past := hsame.history ▸ h.past

/-- A live item is revised in its slot. -/
theorem revise (h : s.Recorded bound) (hget : s.items[index]? = some item) (hlive : item'.Live)
    (hshort : Shortens item item') : (s.setItem index item').Recorded bound where
  tidy := (Quiet.revise item' hget hshort.plan hlive hshort.effectiveEndMs).tidy h.tidy
  retained := h.retained
  consistent := by
    obtain ⟨rest, hperm, hperm'⟩ := List.set_perm hget item'
    refine h.consistent.replace (s.history.map (·.item) ++ rest) ?_ hshort ?_
    · exact (hperm.append_left _).trans List.perm_middle
    · exact (hperm'.append_left _).trans List.perm_middle
  terminal := h.terminal
  past := h.past

/-- A live item ends and goes to the history. -/
theorem retire (h : s.Recorded bound) (hget : s.items[index]? = some item)
    (hterm : item'.Terminal) (hshort : Shortens item item') (hover : item'.effectiveEndMs ≤ bound) :
    ((s.setItem index item').retire index atMs).Recorded bound := by
  have hitems := setItem_retire_items hget item' atMs
  have hhistory : ((s.setItem index item').retire index atMs).history =
      s.history ++ [⟨atMs, item'.plan.startAtMs, item'⟩] := by
    rw [(retire_history atMs (setItem_getElem? hget item')).1, trimHistory]
    exact congrArg Scheduler.history (if_pos h.retained)
  have hmem : ∀ {P : HistoryEntry → Prop}, (∀ entry ∈ s.history, P entry) →
      P ⟨atMs, item'.plan.startAtMs, item'⟩ →
      ∀ entry ∈ ((s.setItem index item').retire index atMs).history, P entry := by
    intro P hold hnew entry hentry
    rw [hhistory] at hentry
    rcases List.mem_append.mp hentry with hentry | hentry
    · exact hold entry hentry
    · rw [List.mem_singleton.mp hentry]
      exact hnew
  exact
    { tidy := (Quiet.retire item' atMs hget hshort.plan hterm).tidy h.tidy
      retained := by
        rw [retire_config]
        exact h.retained
      consistent := by
        rw [retire_generation]
        refine h.consistent.replace (s.history.map (·.item) ++ s.items.swapRemove index) ?_ hshort
          ?_
        · exact ((List.swapRemove_perm hget).append_left _).trans List.perm_middle
        · rw [records, hitems, hhistory, List.map_append, List.append_assoc]
          exact List.perm_middle
      terminal := hmem h.terminal hterm
      past := hmem h.past hover }

/-! ## Logical time -/

theorem advanceLoop {target : Nat} (htarget : target ≤ bound) : ∀ (fuel index : Nat)
    (s : Scheduler), s.Recorded bound → (advanceLoop target fuel index s).Recorded bound := by
  intro fuel
  induction fuel with
  | zero => exact fun _ _ h ↦ h
  | succ fuel ih =>
    intro index s h
    rw [Scheduler.advanceLoop]
    cases hget : s.items[index]? with
    | none => exact h
    | some item =>
      have hlive := h.tidy item (List.mem_of_getElem? hget)
      dsimp only
      cases hact : item.advance target with
      | keep => exact ih (index + 1) s h
      | play =>
        refine ih (index + 1) _ (h.revise hget (Or.inl rfl) ?_)
        exact ⟨rfl, le_refl _⟩
      | drop => exact absurd hact (hlive.advance_ne_drop target)
      | finish status atMs =>
        obtain ⟨hterm, hatMs, hle⟩ := ScheduledItem.terminal_of_advance hact
        have hbook : Recorded bound
            { s with lastTerminalAt := latestTerminal s.lastTerminalAt atMs } :=
          h.book ⟨rfl, rfl, rfl, rfl, rfl, rfl, rfl⟩
        refine ih index _ (hbook.retire hget hterm ?_ ?_)
        · exact ⟨rfl, le_refl _⟩
        · exact (hatMs ▸ hle).trans htarget

theorem advanceTo (h : s.Recorded s.nowMs) (atMs : Nat) :
    (s.advanceTo atMs).Recorded (s.advanceTo atMs).nowMs := by
  have hexpired := (h.mono (le_max_right atMs s.nowMs)).book
    (s.expireCooldowns_sameRecords (max atMs s.nowMs))
  exact (advanceLoop (le_refl _) s.items.length 0 _ hexpired).book ⟨rfl, rfl, rfl, rfl, rfl, rfl, rfl⟩

/-- What is left after an advance is not over. -/
theorem lt_effectiveEndMs (h : s.Recorded bound) (atMs : Nat) :
    ∀ item ∈ (s.advanceTo atMs).items, (s.advanceTo atMs).nowMs < item.effectiveEndMs := by
  intro item hitem
  have hspec := s.advanceTo_spec atMs
  obtain ⟨item₀, hitem₀, hcarry⟩ := List.mem_filterMap.mp (hspec.items.mem_iff.mp hitem)
  have hstart := h.consistent.started item₀ (List.mem_append_right _ hitem₀)
  rw [hspec.nowMs]
  rcases h.tidy item₀ hitem₀ with hplaying | ⟨hqueued, hcancel⟩
  · rw [ScheduledItem.carry_playing hplaying] at hcarry
    split at hcarry
    case isTrue => cases hcarry
    case isFalse hend =>
      cases hcarry
      exact Nat.lt_of_not_le hend
  · have hwhole : item₀.effectiveEndMs = item₀.plan.endAtMs := by
      rw [ScheduledItem.effectiveEndMs, hcancel]
      exact min_self _
    rw [ScheduledItem.carry_queued hqueued hcancel] at hcarry
    split at hcarry
    case isTrue =>
      split at hcarry
      case isTrue => cases hcarry
      case isFalse hend =>
        cases hcarry
        exact Nat.lt_of_not_le hend
    case isFalse hwaits =>
      cases hcarry
      exact hwhole ▸ (Nat.lt_of_not_le hwaits).trans_le (le_satAdd hstart)

theorem current_advanceTo (h : s.Recorded bound) (atMs : Nat) :
    (s.advanceTo atMs).Current atMs := by
  intro item hitem
  refine le_trans ?_ (h.lt_effectiveEndMs atMs item hitem).le
  rw [(s.advanceTo_spec atMs).nowMs]
  exact le_max_left _ _

/-! ## Cancelling -/

/-- A live item that is cancelled ends there. -/
theorem cancel (h : s.Recorded bound) (hcurrent : s.Current atMs) (hle : atMs ≤ bound)
    (hget : s.items[index]? = some item) (terminalAtMs : Nat) :
    ((s.setItem index { item with status := .cancelled, cancelAtMs := some atMs }).retire index
      terminalAtMs).Recorded bound ∧
    ((s.setItem index { item with status := .cancelled, cancelAtMs := some atMs }).retire index
      terminalAtMs).Current atMs := by
  have hend : ScheduledItem.effectiveEndMs
      { item with status := .cancelled, cancelAtMs := some atMs } ≤ atMs := min_le_left _ _
  constructor
  · refine h.retire hget (Or.inl ⟨rfl, rfl⟩) ?_ (hend.trans hle)
    exact ⟨rfl, hend.trans (hcurrent item (List.mem_of_getElem? hget))⟩
  · intro other hother
    rw [setItem_retire_items hget] at hother
    exact hcurrent other (List.mem_of_mem_swapRemove hget hother)

theorem cancelQueued (h : s.Recorded bound) (hcurrent : s.Current atMs) (hle : atMs ≤ bound)
    (index : Nat) :
    (s.cancelQueued index atMs).Recorded bound ∧ (s.cancelQueued index atMs).Current atMs := by
  rw [Scheduler.cancelQueued]
  cases hget : s.items[index]? with
  | none => exact ⟨h, hcurrent⟩
  | some item =>
    -- the cooldown is given up first, then the item is cancelled
    have hbook : Recorded bound { s with
        cooldowns := releaseCooldown s.config.minReactionSpacingMs s.cooldowns item } :=
      h.book ⟨rfl, rfl, rfl, rfl, rfl, rfl, rfl⟩
    exact hbook.cancel hcurrent hle hget atMs

theorem stopLoop (hle : atMs ≤ bound) : ∀ (fuel index : Nat) (s : Scheduler)
    (stopped : List PlannedPerformance), s.Recorded bound → s.Current atMs →
      (stopLoop atMs fuel index s stopped).1.Recorded bound := by
  intro fuel
  induction fuel with
  | zero => exact fun _ _ _ h _ ↦ h
  | succ fuel ih =>
    intro index s stopped h hcurrent
    rw [Scheduler.stopLoop]
    cases hget : s.items[index]? with
    | none => exact h
    | some item =>
      dsimp only
      cases item.status with
      | playing =>
        have hbook : Recorded bound
            { s with lastTerminalAt := latestTerminal s.lastTerminalAt atMs } :=
          h.book ⟨rfl, rfl, rfl, rfl, rfl, rfl, rfl⟩
        obtain ⟨hrecorded, hcurrent'⟩ := hbook.cancel hcurrent hle hget atMs
        exact ih index _ _ hrecorded hcurrent'
      | queued =>
        obtain ⟨hrecorded, hcurrent'⟩ := h.cancelQueued hcurrent hle index
        exact ih index _ _ hrecorded hcurrent'
      | completed | cancelled => exact ih (index + 1) s stopped h hcurrent

theorem stopAll (h : s.Recorded s.nowMs) (atMs : Nat) :
    (s.stopAll atMs).1.Recorded (s.stopAll atMs).1.nowMs := by
  have hnow : (s.stopAll atMs).1.nowMs = (s.advanceTo atMs).nowMs :=
    (s.stopAll_nowMs atMs).trans (s.advanceTo_spec atMs).nowMs.symm
  rw [hnow]
  refine stopLoop ?_ _ _ _ _ (h.advanceTo atMs) (h.current_advanceTo atMs)
  rw [(s.advanceTo_spec atMs).nowMs]
  exact le_max_left _ _

/-! ## Scheduling -/

variable {plan q : PlannedPerformance} {requestAtMs : Nat}

theorem le_handoffBoundary (h : requestAtMs ≤ item.plan.endAtMs) :
    requestAtMs ≤ handoffBoundary item requestAtMs := by
  rw [handoffBoundary]
  split
  case isFalse => exact h
  case isTrue =>
    rw [nextSafeBoundary]
    cases hfound : List.find? _ _ with
    | none => exact h
    | some boundary =>
      have hboundary := List.find?_some hfound
      simp only [Bool.and_eq_true, decide_eq_true_eq] at hboundary
      exact hboundary.1

/-- An item is not cut before the request. -/
theorem le_effectiveEndMs_cutFor (h : requestAtMs ≤ item.effectiveEndMs) :
    requestAtMs ≤ (cutFor requestAtMs plan item).effectiveEndMs := by
  have hend := h.trans item.effectiveEndMs_le_endAtMs
  have hboundary := le_handoffBoundary hend
  rw [cutFor]
  split
  case isFalse => exact h
  case isTrue =>
    rw [ScheduledItem.effectiveEndMs] at h ⊢
    cases hcancel : item.cancelAtMs with
    | none => simpa [cutAt, hcancel] using ⟨hboundary, hend⟩
    | some cancel =>
      rw [hcancel] at h
      simpa [cutAt, hcancel] using ⟨(le_min_iff.mp h).1, hboundary, hend⟩

/-- Arbitration against the playing work only cuts it. -/
theorem contended (h : s.Recorded bound) (hcurrent : s.Current requestAtMs)
    (hcon : s.Contended requestAtMs plan t q) :
    t.Recorded bound ∧ t.Current requestAtMs := by
  have hsteps := hcon.steps h.tidy
  rw [hcon.state_eq]
  constructor
  · exact
      { tidy := hcon.state_eq ▸ hsteps.tidy h.tidy
        retained := h.retained
        consistent := by
          refine h.consistent.shorten (List.rel_append ?_ ?_)
          · exact List.forall₂_same.mpr fun x _ ↦ .refl x
          · rw [List.forall₂_map_right_iff]
            refine List.forall₂_same.mpr fun x _ ↦ ⟨plan_cutFor _ _ x, ?_⟩
            exact effectiveEndMs_cutFor_le _ _ x
        terminal := h.terminal
        past := h.past }
  · intro item hitem
    obtain ⟨item₀, hitem₀, rfl⟩ := List.mem_map.mp hitem
    exact le_effectiveEndMs_cutFor (hcurrent item₀ hitem₀)

/-- What the queue loop keeps, slot by slot. -/
structure Resolving (bound requestAtMs : Nat) (state : Scheduler × PlannedPerformance) : Prop where
  recorded : state.1.Recorded bound
  current : state.1.Current requestAtMs
  started : state.2.startAtMs ≤ u64Max

theorem Resolving.resolveSlot {state : Scheduler × PlannedPerformance}
    (h : Resolving bound requestAtMs state) (hle : requestAtMs ≤ bound) (index : Nat) :
    Resolving bound requestAtMs (resolveSlot requestAtMs state index) := by
  rw [Scheduler.resolveSlot]
  cases hget : state.1.items[index]? with
  | none => exact h
  | some queued =>
    dsimp only
    split
    case isTrue =>
      obtain ⟨hrecorded, hcurrent⟩ := h.recorded.cancelQueued h.current hle index
      exact ⟨hrecorded, hcurrent, h.started⟩
    case isFalse =>
      refine ⟨h.recorded, h.current, ?_⟩
      exact (waitBehind_bounds _ h.started queued.effectiveEndMs_le_max).2.2

theorem Resolving.resolveQueue {state : Scheduler × PlannedPerformance}
    (h : Resolving bound requestAtMs state) (hle : requestAtMs ≤ bound) (fuel : Nat) :
    Resolving bound requestAtMs (resolveQueue requestAtMs fuel state) := by
  refine resolveQueue_invariant requestAtMs (fun state h _ ↦ ?_) fuel state h
  exact List.foldlRecOn _ _ h fun state h index _ ↦ h.resolveSlot hle index

theorem foldl_max_le {l : List Nat} {a m : Nat} (ha : a ≤ m) (hl : ∀ b ∈ l, b ≤ m) :
    l.foldl max a ≤ m := by
  induction l generalizing a with
  | nil => exact ha
  | cons b l ih =>
    exact ih (max_le ha (hl b List.mem_cons_self)) fun c hc ↦ hl c (List.mem_cons_of_mem _ hc)

/-- The start that arbitration leaves is in range. -/
theorem startAtMs_le_of_contend {state : Scheduler × PlannedPerformance}
    (hstate : s.contend requestAtMs plan = .ok state) (hplan : plan.startAtMs ≤ u64Max)
    (hrequest : requestAtMs ≤ u64Max) (hnow : s.nowMs ≤ u64Max) :
    state.2.startAtMs ≤ u64Max := by
  rw [contend_eq] at hstate
  dsimp only at hstate
  split_ifs at hstate
  cases hstate
  have hcandidate : (s.handoff requestAtMs (s.requestedPlan requestAtMs plan)).candidateStart ≤
      u64Max := by
    refine foldl_max_le (max_le (max_le hplan hrequest) hnow) fun boundary hboundary ↦ ?_
    obtain ⟨item, -, rfl⟩ := List.mem_map.mp hboundary
    rw [handoffBoundary]
    split
    · exact (nextSafeBoundary_le_endAtMs _ _).trans item.plan.endAtMs_le_max
    · exact item.plan.endAtMs_le_max
  change s.spacedStart _ _ ≤ u64Max
  rw [spacedStart]
  split
  · exact hcandidate
  · split
    · exact max_le hcandidate (satAdd_le_max _ _)
    · exact max_le hcandidate (satAdd_le_max _ _)
    · exact hcandidate

/-- An accepted plan starts when everything in the history is over. -/
theorem accept (h : t.Recorded bound) (hstart : q.startAtMs ≤ u64Max) (hbound : bound ≤ q.startAtMs)
    (hroom : t.generation < u64Max)
    (hclear : ∀ item ∈ t.items, plansConflict item.plan q →
      ¬ intervalsOverlap q.startAtMs q.endAtMs item.plan.startAtMs item.effectiveEndMs) :
    (t.accept q).1.Recorded bound where
  tidy := accept_tidy h.tidy q
  retained := h.retained
  consistent := by
    have hnext : satAdd t.generation 1 = t.generation + 1 := min_eq_left hroom
    have happend := h.consistent.append ⟨{ q with generation := satAdd t.generation 1 },
      if q.startAtMs ≤ t.nowMs then .playing else .queued, none⟩ hnext hstart ?_
    · rw [records, List.append_assoc, ← hnext] at happend
      exact happend
    · intro a ha hconf hover
      simp only [intervalsOverlap, Bool.and_eq_true, decide_eq_true_eq] at hover
      rcases List.mem_append.mp ha with ha | ha
      · obtain ⟨entry, hentry, rfl⟩ := List.mem_map.mp ha
        exact absurd ((h.past entry hentry).trans hbound) (not_le.mpr hover.2)
      · refine hclear a ha hconf ?_
        simp only [intervalsOverlap, Bool.and_eq_true, decide_eq_true_eq]
        exact ⟨hover.2, hover.1⟩
  terminal := h.terminal
  past := h.past

/-- **A request** keeps the records, as long as there are numbers left. -/
theorem scheduleAt (h : s.Recorded s.nowMs) (hplan : plan.startAtMs ≤ u64Max)
    (hrequest : requestAtMs ≤ u64Max) (hnow : s.nowMs ≤ u64Max) (hroom : s.generation < u64Max) :
    (s.scheduleAt requestAtMs plan).1.Recorded (s.scheduleAt requestAtMs plan).1.nowMs := by
  have hcleared : Recorded s.nowMs { s with lastRejection := none } :=
    h.book ⟨rfl, rfl, rfl, rfl, rfl, rfl, rfl⟩
  have hadvanced := Recorded.advanceTo (s := { s with lastRejection := none }) hcleared requestAtMs
  have hcurrent := hcleared.current_advanceTo requestAtMs
  have hspec := ({ s with lastRejection := none } : Scheduler).advanceTo_spec requestAtMs
  have hnow' : (({ s with lastRejection := none } : Scheduler).advanceTo requestAtMs).nowMs ≤
      u64Max := by
    rw [hspec.nowMs]
    exact max_le hrequest hnow
  have hrequest' : requestAtMs ≤
      (({ s with lastRejection := none } : Scheduler).advanceTo requestAtMs).nowMs := by
    rw [hspec.nowMs]
    exact le_max_left _ _
  have hroom' : (({ s with lastRejection := none } : Scheduler).advanceTo
      requestAtMs).generation < u64Max := hspec.generation.trans_lt hroom
  rw [Scheduler.scheduleAt]
  generalize ({ s with lastRejection := none } : Scheduler).advanceTo requestAtMs = advanced
    at hadvanced hcurrent hnow' hrequest' hroom'
  rw [scheduleNow]
  split
  case h_1 => exact hadvanced.book ⟨rfl, rfl, rfl, rfl, rfl, rfl, rfl⟩
  case h_2 state hstate =>
    obtain ⟨t, q⟩ := state
    have hcon : advanced.Contended requestAtMs plan t q := contend_ok hstate
    have hres := resolveQueue_spec requestAtMs t q
    have haccepted := hcon.accepted hres hadvanced.tidy
    obtain ⟨hrecorded, hcurrent'⟩ := hadvanced.contended hcurrent hcon
    have hstart := startAtMs_le_of_contend hstate hplan hrequest hnow'
    have hresolved := Resolving.resolveQueue ⟨hrecorded, hcurrent', hstart⟩ hrequest'
      (t.items.length + 1)
    have hclock : (Scheduler.resolveQueue requestAtMs (t.items.length + 1) (t, q)).1.nowMs =
        advanced.nowMs := hres.nowMs.trans (by rw [hcon.state_eq])
    dsimp only
    change Recorded (Scheduler.resolveQueue requestAtMs (t.items.length + 1) (t, q)).1.nowMs _
    rw [hclock]
    refine hresolved.recorded.accept hresolved.started ?_ ?_ haccepted.clear
    · exact (le_max_right _ _).trans haccepted.postponed.start_le
    · exact haccepted.steps.generation_eq.trans_lt hroom'

end Recorded

/-! ## The end of a run -/

variable {s : Scheduler}

/-- Everything is over when every reservation is finished. -/
theorem Recorded.completeAll_items (h : s.Recorded s.nowMs) : s.completeAll.items = [] := by
  apply List.eq_nil_iff_forall_not_mem.mpr
  intro item hitem
  rw [completeAll] at hitem
  have hrunning := h.lt_effectiveEndMs _ item hitem
  -- an item that is left was live before, and the advance went past its end
  obtain ⟨item₀, hitem₀, hcarry⟩ :=
    List.mem_filterMap.mp (((s.advanceTo_spec _).items.mem_iff).mp hitem)
  have hend : item.effectiveEndMs = item₀.effectiveEndMs := by
    rw [ScheduledItem.carry] at hcarry
    split at hcarry
    · cases hcarry; rfl
    · cases hcarry; rfl
    · cases hcarry
    · cases hcarry
  have hmem : item₀.effectiveEndMs ∈
      (s.items.filter (·.occupiesTimeline)).map (·.effectiveEndMs) := by
    refine List.mem_map_of_mem (List.mem_filter.mpr ⟨hitem₀, ?_⟩)
    rcases h.tidy item₀ hitem₀ with hstatus | ⟨hstatus, -⟩
    · simp [ScheduledItem.occupiesTimeline, hstatus]
    · simp [ScheduledItem.occupiesTimeline, hstatus]
  obtain ⟨last, hlast⟩ := Option.isSome_iff_exists.mp (List.isSome_max?_of_mem hmem)
  have hle : item₀.effectiveEndMs ≤ last := (List.max?_eq_some_iff.mp hlast).2 _ hmem
  rw [(s.advanceTo_spec _).nowMs, hend, hlast, Option.getD_some] at hrunning
  exact absurd (hle.trans (le_max_left last s.nowMs)) (not_le.mpr hrunning)

theorem Recorded.completeAll (h : s.Recorded s.nowMs) :
    s.completeAll.Recorded s.completeAll.nowMs := h.advanceTo _

end Scheduler

end Aivtuber
