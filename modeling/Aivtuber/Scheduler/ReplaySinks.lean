import Aivtuber.Base.KeyedSort
import Aivtuber.Scheduler.Records
import Aivtuber.Scheduler.Replay

/-!
# The actions of a replay

What the actions of a sink do when they are executed in their order: a start makes the
plan of its generation active, a stop ends it, and otherwise it ends by itself.  The
actions of a replay are sound (`run_sound`).  The point is an instant at which one
performance stops and another starts: the actions are sorted by generation there, and a
plan was accepted clear of the ones before it as planned (`Scheduler.Clear`), so that the
stop comes first.
-/

open Aivtuber.Check Saturating

namespace Aivtuber

namespace SinkAction

/-- A start, or what stands in its place. -/
def isStart (action : SinkAction) : Bool := action.action ≠ .stop

theorem sortKey_le_iff {a b : SinkAction} : a.sortKey ≤ b.sortKey ↔
    a.atMs < b.atMs ∨ a.atMs = b.atMs ∧ (a.generation < b.generation ∨
      a.generation = b.generation ∧ sinkActionRank a.action ≤ sinkActionRank b.action) := by
  rw [sortKey, sortKey, Prod.Lex.toLex_le_toLex, Prod.Lex.toLex_le_toLex]

end SinkAction

/-! ## Executing actions -/

/-- Execute an action, when some plans are active: those that are over end first.  A degraded
start plays nothing, since its sink is not there. -/
def performAction (items : List ScheduledItem) (active : List PlannedPerformance)
    (action : SinkAction) : List PlannedPerformance :=
  let running := active.filter fun plan ↦ action.atMs < plan.endAtMs
  match action.action with
  | .start => running ++ (items.map (·.plan)).filter fun plan ↦
      plan.generation = action.generation && action.atMs < plan.endAtMs
  | .stop => running.filter fun plan ↦ plan.generation ≠ action.generation
  | .degradedStart => running

/-- The plans that are active after some actions. -/
def executeActions (items : List ScheduledItem) (actions : List SinkAction) :
    List PlannedPerformance := actions.foldl (performAction items) []

/-- Starts and stops are in order. -/
structure Ordered (actions : List SinkAction) : Prop where
  /-- A generation is started at most once. -/
  startedOnce : ∀ generation,
    (actions.countP fun action ↦ action.isStart && action.generation = generation) ≤ 1
  /-- A stop comes after the start of its generation. -/
  stopsStarted : ∀ before stop after, actions = before ++ stop :: after → stop.action = .stop →
    ∃ start ∈ before, start.action = .start ∧ start.generation = stop.generation

/-- The actions of some items are sound. -/
structure SinkSound (items : List ScheduledItem) (actions : List SinkAction) : Prop
    extends Ordered actions where
  /-- What was cancelled before its start is not started. -/
  cancelledUnstarted : ∀ item ∈ items, item.cancelledBeforeStart = true →
    ∀ action ∈ actions, action.isStart = true → action.generation ≠ item.plan.generation
  /-- At no point of the execution do two active plans conflict. -/
  exclusive : ∀ before after, actions = before ++ after →
    (executeActions items before).Pairwise fun a b ↦ plansConflict a b = false

variable {items : List ScheduledItem} {before after actions : List SinkAction}
variable {plan : PlannedPerformance}

theorem Ordered.prefix_left (h : Ordered (before ++ after)) : Ordered before where
  startedOnce generation := by
    refine le_trans ?_ (h.startedOnce generation)
    rw [List.countP_append]
    exact Nat.le_add_right _ _
  stopsStarted front stop back hsplit := by
    refine h.stopsStarted front stop (back ++ after) ?_
    rw [hsplit, List.append_assoc, List.cons_append]

/-- What is known of an active plan. -/
structure Active (items : List ScheduledItem) (before : List SinkAction)
    (plan : PlannedPerformance) : Prop where
  mem : ∃ item ∈ items, item.plan = plan
  started : ∃ start ∈ before, start.action = .start ∧ start.generation = plan.generation
  notStopped : ∀ stop ∈ before, stop.action = .stop → stop.generation ≠ plan.generation
  running : ∀ last ∈ before.getLast?, last.atMs < plan.endAtMs

/-- Two starts of one generation are too many. -/
theorem Ordered.fresh {action : SinkAction} (h : Ordered (before ++ [action]))
    (haction : action.action = .start) :
    ∀ other ∈ before, other.generation ≠ action.generation := by
  have hfirst : ∀ start ∈ before, start.isStart = true → start.generation ≠ action.generation := by
    intro start hstart hisStart hgen
    have htwo := h.startedOnce action.generation
    rw [List.countP_append] at htwo
    have hone : 0 < before.countP fun other ↦
        other.isStart && other.generation = action.generation :=
      List.countP_pos_iff.mpr ⟨start, hstart, by simp [hisStart, hgen]⟩
    have hlast : [action].countP (fun other ↦
        other.isStart && other.generation = action.generation) = 1 := by
      simp [SinkAction.isStart, haction]
    omega
  intro other hother hgen
  by_cases hstop : other.action = .stop
  · -- a stop would have come after a start of its own
    obtain ⟨front, back, rfl⟩ := List.append_of_mem hother
    obtain ⟨start, hstart, hkind, hsame⟩ := h.prefix_left.stopsStarted front other back rfl hstop
    refine hfirst start (List.mem_append_left _ hstart) ?_ (hsame.trans hgen)
    simp [SinkAction.isStart, hkind]
  · exact hfirst other hother (by simpa [SinkAction.isStart] using hstop) hgen

/-- An active plan that is not over, and that an action does not stop, stays active. -/
theorem Active.snoc {action : SinkAction} (h : Active items before plan)
    (hrunning : action.atMs < plan.endAtMs)
    (hother : action.action = .stop → action.generation ≠ plan.generation) :
    Active items (before ++ [action]) plan where
  mem := h.mem
  started := by
    obtain ⟨start, hstart, hkind, hgen⟩ := h.started
    exact ⟨start, List.mem_append_left _ hstart, hkind, hgen⟩
  notStopped := by
    intro stop hstop hkind
    rcases List.mem_append.mp hstop with hstop | hstop
    · exact h.notStopped stop hstop hkind
    · obtain rfl := List.mem_singleton.mp hstop
      exact hother hkind
  running := by
    intro last hlast
    rw [List.getLast?_concat] at hlast
    cases hlast
    exact hrunning

/-- A plan that is started. -/
theorem Active.start {action : SinkAction} (h : Ordered (before ++ [action]))
    (haction : action.action = .start) (hmem : ∃ item ∈ items, item.plan = plan)
    (hgen : plan.generation = action.generation) (hrunning : action.atMs < plan.endAtMs) :
    Active items (before ++ [action]) plan where
  mem := hmem
  started := ⟨action, List.mem_append_right _ List.mem_cons_self, haction, hgen.symm⟩
  notStopped := by
    intro stop hstop hkind
    rw [hgen]
    rcases List.mem_append.mp hstop with hstop | hstop
    · exact h.fresh haction stop hstop
    · obtain rfl := List.mem_singleton.mp hstop
      rw [haction] at hkind
      cases hkind
  running := by
    intro last hlast
    rw [List.getLast?_concat] at hlast
    cases hlast
    exact hrunning

/-- **Executing ordered actions**: each active plan was started and not stopped, and no
generation is active twice. -/
theorem executeActions_active (hnumbers : (items.map (·.plan.generation)).Nodup)
    (before : List SinkAction) (h : Ordered before) :
    (∀ plan ∈ executeActions items before, Active items before plan) ∧
      ((executeActions items before).map (·.generation)).Nodup := by
  induction before using List.reverseRecOn with
  | nil => exact ⟨fun _ hplan ↦ absurd hplan List.not_mem_nil, List.nodup_nil⟩
  | append_singleton before action ih =>
    obtain ⟨hactive, hnodup⟩ := ih h.prefix_left
    have hstep : executeActions items (before ++ [action]) =
        performAction items (executeActions items before) action := List.foldl_append
    rw [hstep]
    generalize executeActions items before = active at hactive hnodup
    have hrunning : ∀ plan ∈ active.filter fun plan ↦ action.atMs < plan.endAtMs,
        Active items before plan ∧ action.atMs < plan.endAtMs := by
      intro plan hplan
      obtain ⟨hmem, hlt⟩ := List.mem_filter.mp hplan
      exact ⟨hactive plan hmem, of_decide_eq_true hlt⟩
    have hsublist : ((active.filter fun plan ↦ action.atMs < plan.endAtMs).map
        (·.generation)).Nodup := hnodup.sublist (List.filter_sublist.map _)
    rw [performAction]
    generalize active.filter (fun plan ↦ action.atMs < plan.endAtMs) = running
      at hrunning hsublist
    cases hkind : action.action with
    | start =>
      constructor
      · intro plan hplan
        rcases List.mem_append.mp hplan with hplan | hplan
        · obtain ⟨hplaying, hlt⟩ := hrunning plan hplan
          refine hplaying.snoc hlt fun hstop ↦ ?_
          rw [hkind] at hstop
          cases hstop
        · obtain ⟨hmem, hnew⟩ := List.mem_filter.mp hplan
          obtain ⟨item, hitem, rfl⟩ := List.mem_map.mp hmem
          rw [Bool.and_eq_true, decide_eq_true_eq, decide_eq_true_eq] at hnew
          exact .start h hkind ⟨item, hitem, rfl⟩ hnew.1 hnew.2
      · dsimp only
        rw [List.map_append, List.nodup_append]
        refine ⟨hsublist, ?_, ?_⟩
        · rw [← Function.comp_def, ← List.map_map] at hnumbers
          exact hnumbers.sublist (List.filter_sublist.map _)
        · intro number hnumber other hother
          obtain ⟨plan, hplan, rfl⟩ := List.mem_map.mp hnumber
          obtain ⟨new, hnew, rfl⟩ := List.mem_map.mp hother
          obtain ⟨start, hstart, -, hgen⟩ := (hrunning plan hplan).1.started
          have hnew := (List.mem_filter.mp hnew).2
          rw [Bool.and_eq_true, decide_eq_true_eq] at hnew
          rw [← hgen, hnew.1]
          exact h.fresh hkind start hstart
    | stop =>
      constructor
      · intro plan hplan
        obtain ⟨hmem, hother⟩ := List.mem_filter.mp hplan
        obtain ⟨hplaying, hlt⟩ := hrunning plan hmem
        exact hplaying.snoc hlt fun _ ↦ (of_decide_eq_true hother).symm
      · exact hsublist.sublist (List.filter_sublist.map _)
    | degradedStart =>
      refine ⟨fun plan hplan ↦ ?_, hsublist⟩
      obtain ⟨hplaying, hlt⟩ := hrunning plan hplan
      refine hplaying.snoc hlt fun hstop ↦ ?_
      rw [hkind] at hstop
      cases hstop

/-! ## The actions of some items -/

variable {available : Bool} {target : SinkTarget} {item : ScheduledItem} {action : SinkAction}

/-- The items that a sink is sent. -/
def Emitted (target : SinkTarget) (item : ScheduledItem) : Prop :=
  relevantToSink item target = true ∧ item.cancelledBeforeStart = false

theorem mem_itemActions : action ∈ itemActions available target item ↔ Emitted target item ∧
    (action = startAction available item ∨ stopAction available item = some action) := by
  rw [itemActions, Emitted]
  cases relevantToSink item target <;> cases item.cancelledBeforeStart <;>
    simp [Option.mem_toList, eq_comm]

theorem mem_buildSinkActions : action ∈ buildSinkActions items available target ↔
    ∃ item ∈ items, Emitted target item ∧
      (action = startAction available item ∨ stopAction available item = some action) := by
  rw [buildSinkActions, List.mem_insertionSort, List.mem_flatMap]
  simp only [mem_itemActions]

theorem pairwise_buildSinkActions (items : List ScheduledItem) (available : Bool)
    (target : SinkTarget) :
    (buildSinkActions items available target).Pairwise fun a b ↦ a.sortKey ≤ b.sortKey :=
  KeyedSort.pairwise_insertionSort _ _

/-- What a stop says of its item. -/
theorem stopAction_eq_some : stopAction available item = some action ↔
    available = true ∧ item.status = .cancelled ∧ ∃ cancelAtMs, item.cancelAtMs = some cancelAtMs ∧
      item.plan.startAtMs ≤ cancelAtMs ∧ sinkAction item cancelAtMs .stop = action := by
  rw [stopAction]
  cases item.cancelAtMs with
  | none => simp
  | some cancelAtMs => simp [and_assoc]

theorem isStart_startAction (available : Bool) (item : ScheduledItem) :
    (startAction available item).isStart = true := by
  cases available <;> rfl

theorem eq_startAction_of_isStart (haction : action = startAction available item ∨
    stopAction available item = some action) (hstart : action.isStart = true) :
    action = startAction available item := by
  rcases haction with haction | haction
  · exact haction
  · obtain ⟨-, -, cancelAtMs, -, -, rfl⟩ := stopAction_eq_some.mp haction
    cases hstart

/-- An item starts once. -/
theorem countP_itemActions_le (generation : Nat) (item : ScheduledItem) :
    (itemActions available target item).countP
        (fun action ↦ action.isStart && action.generation = generation) ≤
      if item.plan.generation = generation then 1 else 0 := by
  have hstop : (stopAction available item).toList.countP
      (fun action ↦ action.isStart && action.generation = generation) = 0 := by
    rw [List.countP_eq_zero]
    intro action haction
    obtain ⟨-, -, cancelAtMs, -, -, rfl⟩ := stopAction_eq_some.mp (Option.mem_toList.mp haction)
    exact Bool.false_ne_true
  rw [itemActions]
  split
  · exact Nat.zero_le _
  · split
    · exact Nat.zero_le _
    · rw [List.countP_cons, hstop, isStart_startAction, Bool.true_and, Nat.zero_add]
      refine le_of_eq (if_congr ?_ rfl rfl)
      exact decide_eq_true_iff

theorem countP_flatMap_itemActions_le (generation : Nat) (items : List ScheduledItem) :
    (items.flatMap (itemActions available target)).countP
        (fun action ↦ action.isStart && action.generation = generation) ≤
      (items.map (·.plan.generation)).count generation := by
  induction items with
  | nil => exact le_refl _
  | cons item items ih =>
    rw [List.flatMap_cons, List.countP_append, List.map_cons, List.count_cons, Nat.add_comm]
    refine Nat.add_le_add ih ((countP_itemActions_le generation item).trans (le_of_eq ?_))
    exact if_congr beq_iff_eq.symm rfl rfl

theorem ordered_buildSinkActions (hnumbers : (items.map (·.plan.generation)).Nodup)
    (available : Bool) (target : SinkTarget) :
    Ordered (buildSinkActions items available target) where
  startedOnce generation := by
    rw [buildSinkActions, (List.perm_insertionSort _ _).countP_eq]
    exact (countP_flatMap_itemActions_le generation items).trans
      (List.nodup_iff_count_le_one.mp hnumbers generation)
  stopsStarted before stop after hsplit hkind := by
    have hstop : stop ∈ buildSinkActions items available target := by
      rw [hsplit]
      exact List.mem_append_right _ List.mem_cons_self
    obtain ⟨item, hitem, hemitted, haction⟩ := mem_buildSinkActions.mp hstop
    rcases haction with rfl | haction
    · exact absurd (isStart_startAction available item) (by simp [SinkAction.isStart, hkind])
    · obtain ⟨havailable, -, cancelAtMs, -, hle, rfl⟩ := stopAction_eq_some.mp haction
      have hstart : startAction available item ∈ buildSinkActions items available target :=
        mem_buildSinkActions.mpr ⟨item, hitem, hemitted, Or.inl rfl⟩
      have hsorted := pairwise_buildSinkActions items available target
      subst havailable
      refine ⟨startAction true item, ?_, rfl, rfl⟩
      rw [hsplit] at hstart hsorted
      rcases List.mem_append.mp hstart with hstart | hstart
      · exact hstart
      · -- the start is not behind the stop, whose key is larger
        rcases List.mem_cons.mp hstart with hstart | hstart
        · cases congrArg SinkAction.action hstart
        · have hkey := List.rel_of_pairwise_cons (List.pairwise_append.mp hsorted).2.1 hstart
          rw [SinkAction.sortKey_le_iff] at hkey
          rcases hkey with hlt | ⟨-, hlt | ⟨-, hrank⟩⟩
          · exact absurd hle (not_le.mpr hlt)
          · exact absurd hlt (lt_irrefl _)
          · exact absurd hrank (Nat.not_succ_le_zero 0)

/-! ## Exclusivity -/

/-- The records that a run leaves. -/
structure Records (items : List ScheduledItem) : Prop where
  numbers : (items.map (·.plan.generation)).Nodup
  clear : ∀ a ∈ items, ∀ b ∈ items, Scheduler.Clear a b
  terminal : ∀ item ∈ items, item.Terminal

theorem Records.eq_of_generation (h : Records items) {a b : ScheduledItem} (ha : a ∈ items)
    (hb : b ∈ items) (hgen : a.plan.generation = b.plan.generation) : a = b :=
  List.inj_on_of_nodup_map h.numbers ha hb hgen

theorem cancelledUnstarted_buildSinkActions (h : Records items) (hitem : item ∈ items)
    (hcancelled : item.cancelledBeforeStart = true)
    (haction : action ∈ buildSinkActions items available target)
    (hstart : action.isStart = true) : action.generation ≠ item.plan.generation := by
  intro hgen
  obtain ⟨started, hstarted, hemitted, hkind⟩ := mem_buildSinkActions.mp haction
  obtain rfl := eq_startAction_of_isStart hkind hstart
  obtain rfl := h.eq_of_generation hstarted hitem hgen
  rw [hemitted.2] at hcancelled
  cases hcancelled

/-- An item that is over before its natural end is stopped there. -/
theorem stop_mem_of_lt (h : Records items) (hitem : item ∈ items) (hemitted : Emitted target item)
    (hcut : item.effectiveEndMs < item.plan.endAtMs) :
    sinkAction item item.effectiveEndMs .stop ∈ buildSinkActions items true target := by
  refine mem_buildSinkActions.mpr ⟨item, hitem, hemitted, Or.inr ?_⟩
  have hearly := hemitted.2
  rw [ScheduledItem.cancelledBeforeStart] at hearly
  cases hcancel : item.cancelAtMs with
  | none =>
    rw [ScheduledItem.effectiveEndMs, hcancel] at hcut
    exact absurd hcut (by simp)
  | some cancelAtMs =>
    have hend : item.effectiveEndMs = min cancelAtMs item.plan.endAtMs := by
      rw [ScheduledItem.effectiveEndMs, hcancel]
      rfl
    have hlt : cancelAtMs < item.plan.endAtMs := by
      rw [hend] at hcut
      omega
    rw [hend, min_eq_left hlt.le]
    have hstatus : item.status = .cancelled := by
      rcases h.terminal item hitem with ⟨hstatus, -⟩ | ⟨-, hwhole⟩
      · exact hstatus
      · rw [ScheduledItem.cutShort, hcancel] at hwhole
        exact absurd hlt (by simpa using hwhole)
    refine stopAction_eq_some.mpr ⟨rfl, hstatus, cancelAtMs, hcancel, ?_, rfl⟩
    rw [hcancel] at hearly
    simpa using hearly

/-- What an active plan of a sink is: an item that was sent, not stopped, and not over. -/
structure Playing (items : List ScheduledItem) (target : SinkTarget) (before : List SinkAction)
    (item : ScheduledItem) : Prop where
  mem : item ∈ items
  emitted : Emitted target item
  started : startAction true item ∈ before
  notStopped : ∀ atMs, sinkAction item atMs .stop ∉ before
  running : ∀ last ∈ before.getLast?, last.atMs < item.plan.endAtMs

theorem Active.playing (h : Records items)
    (hsplit : buildSinkActions items available target = before ++ after)
    (hactive : Active items before plan) :
    available = true ∧ ∃ item, item.plan = plan ∧ Playing items target before item := by
  obtain ⟨start, hstart, hkind, hgen⟩ := hactive.started
  have hmem : start ∈ buildSinkActions items available target := by
    rw [hsplit]
    exact List.mem_append_left _ hstart
  obtain ⟨item, hitem, hemitted, haction⟩ := mem_buildSinkActions.mp hmem
  obtain rfl := eq_startAction_of_isStart haction (by simp [SinkAction.isStart, hkind])
  have havailable : available = true := by
    cases available with
    | true => rfl
    | false => cases hkind
  subst havailable
  obtain ⟨planned, hplanned, rfl⟩ := hactive.mem
  obtain rfl := h.eq_of_generation hitem hplanned hgen
  refine ⟨rfl, item, rfl, hitem, hemitted, hstart, ?_, hactive.running⟩
  intro atMs hstop
  exact hactive.notStopped _ hstop rfl rfl

/-- What has not been done yet is not before what has been done. -/
theorem le_of_not_mem (hsplit : buildSinkActions items available target = before ++ after)
    {done pending : SinkAction} (hdone : done ∈ before)
    (hpending : pending ∈ buildSinkActions items available target) (hnot : pending ∉ before) :
    done.sortKey ≤ pending.sortKey := by
  have hsorted := pairwise_buildSinkActions items available target
  rw [hsplit] at hsorted hpending
  refine (List.pairwise_append.mp hsorted).2.2 done hdone pending ?_
  exact (List.mem_append.mp hpending).resolve_left hnot

theorem atMs_le_last (hsplit : buildSinkActions items available target = before ++ after)
    {done last : SinkAction} (hdone : done ∈ before) (hlast : last ∈ before.getLast?) :
    done.atMs ≤ last.atMs := by
  have hsorted := pairwise_buildSinkActions items available target
  rw [hsplit] at hsorted
  have hbefore := (List.pairwise_append.mp hsorted).1
  obtain ⟨front, rfl⟩ := List.getLast?_eq_some_iff.mp hlast
  rcases List.mem_append.mp hdone with hdone | hdone
  · have hkey := (List.pairwise_append.mp hbefore).2.2 done hdone last List.mem_cons_self
    rcases SinkAction.sortKey_le_iff.mp hkey with hlt | ⟨heq, -⟩
    · exact hlt.le
    · exact heq.le
  · rw [List.mem_singleton.mp hdone]

/-- Of two items that play at once, the later one is clear of the earlier one. -/
theorem Playing.not_conflict (h : Records items)
    (hsplit : buildSinkActions items true target = before ++ after) {a b : ScheduledItem}
    (ha : Playing items target before a) (hb : Playing items target before b)
    (hgen : a.plan.generation < b.plan.generation) : plansConflict a.plan b.plan = false := by
  rw [← Bool.not_eq_true]
  intro hconf
  obtain ⟨last, hlast⟩ : ∃ last, last ∈ before.getLast? := by
    cases hempty : before.getLast? with
    | none =>
      rw [List.getLast?_eq_none_iff.mp hempty] at ha
      exact absurd ha.started List.not_mem_nil
    | some last => exact ⟨last, rfl⟩
  have hstartA : a.plan.startAtMs ≤ last.atMs := atMs_le_last hsplit ha.started hlast
  have hstartB : b.plan.startAtMs ≤ last.atMs := atMs_le_last hsplit hb.started hlast
  have hendA := ha.running last hlast
  have hendB := hb.running last hlast
  -- the plan of `b` was clear of `a`, so `a` is over when `b` starts
  have hover : a.effectiveEndMs ≤ b.plan.startAtMs := by
    have hclear := h.clear a ha.mem b hb.mem hgen hconf
    simp only [intervalsOverlap, Bool.and_eq_true, decide_eq_true_eq, not_and, not_lt] at hclear
    exact hclear (hstartA.trans_lt hendB)
  -- but its natural end is later, so that it was stopped then: before the start of `b`
  have hcut : a.effectiveEndMs < a.plan.endAtMs := (hover.trans hstartB).trans_lt hendA
  have hkey := le_of_not_mem hsplit hb.started (stop_mem_of_lt h ha.mem ha.emitted hcut)
    (ha.notStopped _)
  rcases SinkAction.sortKey_le_iff.mp hkey with hlt | ⟨-, hlt | ⟨heq, -⟩⟩
  · exact absurd hover (not_le.mpr hlt)
  · exact absurd hgen (Nat.lt_asymm hlt)
  · exact absurd hgen (Nat.not_lt_of_le (le_of_eq heq))

theorem exclusive_buildSinkActions (h : Records items)
    (hsplit : buildSinkActions items available target = before ++ after) :
    (executeActions items before).Pairwise fun a b ↦ plansConflict a b = false := by
  have hordered : Ordered before :=
    Ordered.prefix_left (hsplit ▸ ordered_buildSinkActions h.numbers available target)
  obtain ⟨hactive, hnodup⟩ := executeActions_active h.numbers before hordered
  rw [List.Nodup, List.pairwise_map] at hnodup
  refine hnodup.imp_of_mem fun {p q} hp hq hne ↦ ?_
  obtain ⟨rfl, a, rfl, ha⟩ := (hactive p hp).playing h hsplit
  obtain ⟨-, b, rfl, hb⟩ := (hactive q hq).playing h hsplit
  rcases Nat.lt_or_gt_of_ne hne with hlt | hgt
  · exact ha.not_conflict h hsplit hb hlt
  · rw [plansConflict_comm]
    exact hb.not_conflict h hsplit ha hgt

theorem sinkSound_buildSinkActions (h : Records items) (available : Bool) (target : SinkTarget) :
    SinkSound items (buildSinkActions items available target) where
  toOrdered := ordered_buildSinkActions h.numbers available target
  cancelledUnstarted _ hitem hcancelled _ haction hstart :=
    cancelledUnstarted_buildSinkActions h hitem hcancelled haction hstart
  exclusive _ _ hsplit := exclusive_buildSinkActions h hsplit

/-! ## Runs -/

namespace ReplayHarnessConfig

/-- What the scheduler of a replay is after some inputs. -/
structure Replayed (s : Scheduler) (inputs : Nat) : Prop where
  recorded : s.Recorded s.nowMs
  nowMs_le : s.nowMs ≤ u64Max
  generation_le : s.generation ≤ inputs

variable {rounding : ℚ → ℚ} {config : ReplayHarnessConfig} {s t : Scheduler} {n : Nat}
variable {input : ReplayEvent} {step : ReplayStep}

theorem replayed_new (config : ReplayHarnessConfig) : Replayed config.replayScheduler 0 where
  recorded :=
    { tidy := Scheduler.new_tidy _
      retained := rfl
      consistent :=
        { clear := fun _ ha ↦ absurd ha List.not_mem_nil
          numbers := List.nodup_nil
          issued := fun _ ha ↦ absurd ha List.not_mem_nil
          started := fun _ ha ↦ absurd ha List.not_mem_nil }
      terminal := fun _ hentry ↦ absurd hentry List.not_mem_nil
      past := fun _ hentry ↦ absurd hentry List.not_mem_nil }
  nowMs_le := Nat.zero_le _
  generation_le := le_refl 0

theorem Replayed.advanceTo (h : Replayed s n) {atMs : Nat} (hatMs : atMs ≤ u64Max) :
    Replayed (s.advanceTo atMs) n where
  recorded := h.recorded.advanceTo atMs
  nowMs_le := by
    rw [(s.advanceTo_spec atMs).nowMs]
    exact max_le hatMs h.nowMs_le
  generation_le := (s.advanceTo_spec atMs).generation.trans_le h.generation_le

theorem Replayed.stopAll (h : Replayed s n) {atMs : Nat} (hatMs : atMs ≤ u64Max) :
    Replayed (s.stopAll atMs).1 n where
  recorded := h.recorded.stopAll atMs
  nowMs_le := by
    rw [s.stopAll_nowMs atMs]
    exact max_le hatMs h.nowMs_le
  generation_le := by
    rw [(Scheduler.stopAll_steps h.recorded.tidy atMs).generation_eq]
    exact h.generation_le

theorem Replayed.scheduleAt (h : Replayed s n) (hroom : n < u64Max) {requestAtMs : Nat}
    (hrequest : requestAtMs ≤ u64Max) {plan : PlannedPerformance}
    (hplan : plan.startAtMs ≤ u64Max) : Replayed (s.scheduleAt requestAtMs plan).1 (n + 1) := by
  have hrequests := Scheduler.scheduleAt_requests h.recorded.tidy requestAtMs plan
  constructor
  · exact h.recorded.scheduleAt hplan hrequest h.nowMs_le (h.generation_le.trans_lt hroom)
  · rw [hrequests.nowMs]
    exact max_le hrequest h.nowMs_le
  · cases haccepted : (s.scheduleAt requestAtMs plan).2.toOption with
    | none =>
      rw [hrequests.rejected haccepted]
      exact h.generation_le.trans (Nat.le_succ n)
    | some accepted =>
      obtain ⟨hnumber, hgeneration, -⟩ := hrequests.accepted accepted haccepted
      rw [hgeneration, hnumber]
      exact (satAdd_le_add _ _).trans (Nat.succ_le_succ h.generation_le)

/-- One input keeps the records. -/
theorem Replayed.next (h : Replayed s n) (hroom : n < u64Max)
    (hstep : config.replayInput rounding s input = .ok (t, step)) : Replayed t (n + 1) := by
  have hadvanced := h.advanceTo input.atMs_le
  have hlater : ∀ {s : Scheduler}, Replayed s n → Replayed s (n + 1) := fun hs ↦
    ⟨hs.recorded, hs.nowMs_le, hs.generation_le.trans (Nat.le_succ n)⟩
  rw [replayInput] at hstep
  dsimp only at hstep
  cases hdirective : input.directive with
  | operatorStop =>
    rw [hdirective] at hstep
    cases hstep
    exact hlater (hadvanced.stopAll input.atMs_le)
  | fallback reason =>
    rw [hdirective] at hstep
    cases hstep
    exact hlater hadvanced
  | performance asset =>
    rw [hdirective] at hstep
    obtain ⟨-, hstep⟩ := unit_bind_eq_ok.mp hstep
    have hscheduled : Replayed ((s.advanceTo input.atMs).scheduleAt input.atMs
        (replayPlan input asset (config.drawVariation rounding input asset))).1 (n + 1) :=
      hadvanced.scheduleAt hroom input.atMs_le (satAdd_le_max _ _)
    split at hstep
    case h_1 heq =>
      cases hstep
      rw [heq] at hscheduled
      exact hscheduled
    case h_2 heq =>
      cases hstep
      rw [heq] at hscheduled
      exact hscheduled

/-- **A run keeps the records**, by induction on its inputs. -/
theorem Replayed.run {inputs : List ReplayEvent} (h : Replayed s n)
    (hroom : n + inputs.length ≤ u64Max) {steps : List ReplayStep}
    (hrun : config.replayInputs rounding s inputs = .ok (t, steps)) :
    Replayed t (n + inputs.length) := by
  induction inputs generalizing s n steps with
  | nil =>
    cases hrun
    exact h
  | cons input inputs ih =>
    rw [List.length_cons] at hroom ⊢
    obtain ⟨⟨next, step⟩, hstep, hrun⟩ := bind_eq_ok.mp hrun
    obtain ⟨⟨last, rest⟩, hrest, hrun⟩ := bind_eq_ok.mp hrun
    cases hrun
    have hnext := ih (h.next (by omega) hstep) (by omega) hrest
    rwa [Nat.add_assoc, Nat.add_comm 1] at hnext

theorem records_scheduledItems (h : s.Recorded s.nowMs) (hitems : s.items = []) :
    Records (scheduledItems s) := by
  have hperm : (scheduledItems s).Perm s.records := by
    rw [scheduledItems, Scheduler.records]
    exact (List.perm_insertionSort _ _).append_right _
  have hconsistent := h.consistent.perm hperm.symm
  refine ⟨hconsistent.numbers, hconsistent.clear, fun item hitem ↦ ?_⟩
  have hmem := hperm.mem_iff.mp hitem
  rw [Scheduler.records, hitems, List.append_nil] at hmem
  obtain ⟨entry, hentry, rfl⟩ := List.mem_map.mp hmem
  exact h.terminal entry hentry

/-- **The actions of a replay are sound**, for both sinks. -/
theorem run_sound {trace : ReplayTrace} {result : ReplayResult}
    (h : config.run rounding trace = .ok result) :
    SinkSound result.scheduledItems result.audioActions ∧
      SinkSound result.scheduledItems result.avatarActions := by
  obtain ⟨-, h⟩ := unit_bind_eq_ok.mp h
  obtain ⟨⟨last, steps⟩, hrun, h⟩ := bind_eq_ok.mp h
  cases h
  have hreplayed := (replayed_new config).run
    (by rw [Nat.zero_add, List.length_insertionSort]; exact trace.property) hrun
  have hrecords := records_scheduledItems hreplayed.recorded.completeAll
    hreplayed.recorded.completeAll_items
  exact ⟨sinkSound_buildSinkActions hrecords _ _, sinkSound_buildSinkActions hrecords _ _⟩

/-- Reactions without a spacing between them. -/
def unspaced : ReplayHarnessConfig := ⟨0, ⟨0, 1024, .ring⟩, true, true⟩

/-- Speech, and speech that takes over from it. -/
def takeover : ReplayTrace := ⟨[answered 0 "chat-1" 1, answered 5 "chat-2" 2], by decide⟩

/-- The second speech starts at the instant at which the first one stops. -/
theorem takeover_sound : ∃ result, unspaced.run id takeover = .ok result ∧
    result.audioActions.map (fun action ↦ (action.atMs, action.generation, action.action)) =
      [(0, 1, .start), (10, 1, .stop), (10, 2, .start)] ∧
    SinkSound result.scheduledItems result.audioActions ∧
    SinkSound result.scheduledItems result.avatarActions := by
  have hactions : (unspaced.run id takeover).toOption.map (fun result ↦
      result.audioActions.map fun action ↦ (action.atMs, action.generation, action.action)) =
        some [(0, 1, .start), (10, 1, .stop), (10, 2, .start)] := by decide +kernel
  cases hrun : unspaced.run id takeover with
  | error error =>
    rw [hrun] at hactions
    cases hactions
  | ok result =>
    rw [hrun] at hactions
    exact ⟨result, rfl, Option.some.inj hactions, run_sound hrun⟩

end ReplayHarnessConfig

end Aivtuber
