import Aivtuber.App.Incarnation
import Aivtuber.Base.Newest

/-!
# The partition of the tasks

A task plane keeps its tasks in two places: what is active is not terminal, and what is
retained is.  An operation that ends a task moves it at once, also in a sweep that fails
half-way, so that the two never share an id.  What is retained are the newest of all
tasks that ended (`partition_kept`).
-/

open Std (ExtTreeMap)

namespace Aivtuber

namespace AgentTask

/-- What the reply of an operation tells about its task: a transition bears its id, and
leads to its state; without a transition, the task still runs. -/
structure Told (task task' : AgentTask) (r : Reply) : Prop where
  id : task'.id = task.id
  transition : ∀ transition, r.transition? = some transition →
    transition.taskId = task.id ∧ transition.target.isTerminal = task'.isTerminal
  running : r.transition? = none → task'.isTerminal = false

section Told

variable {task task' : AgentTask} {nowMs : Nat} {op : Op} {r : Reply}

/-- A change of state tells of itself. -/
theorem Told.of_transition {transition : TaskTransition} (hid : task'.id = task.id)
    (htask : transition.taskId = task.id) (htarget : transition.target = task'.state.kind)
    (hr : r.transition? = some transition) : Told task task' r where
  id := hid
  transition other hother := by
    obtain rfl : transition = other := Option.some.inj (hr.symm.trans hother)
    exact ⟨htask, congrArg TaskStateKind.isTerminal htarget⟩
  running hnone := by
    rw [hr] at hnone
    cases hnone

theorem Expires.told {transition : TaskTransition} (h : task.Expires nowMs task' transition)
    (hr : r.transition? = some transition) : Told task task' r := by
  cases h <;> exact .of_transition rfl rfl rfl hr

theorem Effect.told (h : Effect task nowMs op task' r) (hactive : task.isTerminal = false) :
    Told task task' r := by
  cases h with
  | addStep | recordObservation => exact ⟨rfl, fun _ hr ↦ (by cases hr), fun _ ↦ hactive⟩
  | idle => exact ⟨rfl, fun _ hr ↦ (by cases hr), fun _ ↦ hactive⟩
  | resumeExpired _ hexpires | expire hexpires => exact hexpires.told rfl
  | _ => exact .of_transition rfl rfl rfl rfl

end Told

end AgentTask

namespace TaskPlane

/-! ## The history of a plane -/

/-- The ids that a step ended, in the order of the map. -/
def left (pre post : TaskPlane) : List TaskId :=
  pre.active.keys.filter fun id ↦ !post.active.contains id

/-- The ids of the tasks that ended, oldest first. -/
def observeEnded (ended : List TaskId) (e : PlaneEvent) : List TaskId :=
  ended ++ left e.pre e.post

/-- Every task is in its place. -/
structure Partition (plane : TaskPlane) (ended : List TaskId) : Prop where
  active : ∀ (id : TaskId) (task : AgentTask), plane.active[id]? = some task →
    task.id = id ∧ task.isTerminal = false
  retained : ∀ task ∈ plane.retained, task.isTerminal = true
  /-- No id is in both places. -/
  apart : ∀ task ∈ plane.retained, plane.active[task.id]? = none
  once : (plane.retained.map AgentTask.id).Nodup
  activeBound : plane.active.size ≤ plane.config.maxActiveTasks
  retainedBound : plane.retained.length ≤ plane.config.maxRetainedTasks
  /-- Only the oldest are forgotten. -/
  newest : plane.retained.map AgentTask.id = ended.rtake plane.config.maxRetainedTasks

section Partition

variable {plane : TaskPlane} {ended : List TaskId} {id : TaskId} {task : AgentTask}

theorem new_partition {config : TaskPlaneConfig} (h : new config = .ok plane) :
    plane.Partition [] := by
  obtain ⟨config', -, h⟩ := Check.bind_eq_ok.mp h
  cases h
  exact {
    active := fun id task htask ↦ by simp at htask
    retained := fun task htask ↦ by cases htask
    apart := fun task htask ↦ by cases htask
    once := List.nodup_nil
    activeBound := by simp
    retainedBound := Nat.zero_le _
    newest := (List.rtake_nil _).symm }

/-- A step that leaves the tasks alone. -/
theorem Partition.keep (h : plane.Partition ended) (transitions : TaskTransitionCollector) :
    Partition { plane with transitions } ended :=
  ⟨h.active, h.retained, h.apart, h.once, h.activeBound, h.retainedBound, h.newest⟩

/-- A running task under an id that is not retained. -/
theorem Partition.insert (h : plane.Partition ended) (hfree : ∀ other ∈ plane.retained, other.id ≠ id)
    (hroom : (plane.active.insert id task).size ≤ plane.config.maxActiveTasks) (hid : task.id = id)
    (hactive : task.isTerminal = false) :
    Partition { plane with active := plane.active.insert id task } ended where
  active other found hother := by
    rw [ExtTreeMap.getElem?_insert] at hother
    split at hother
    case isTrue heq =>
      cases hother
      exact ⟨hid.trans (Std.LawfulEqCmp.compare_eq_iff_eq.mp heq), hactive⟩
    case isFalse => exact h.active other found hother
  retained := h.retained
  apart other hother := by
    rw [ExtTreeMap.getElem?_insert, if_neg]
    · exact h.apart other hother
    · exact fun heq ↦ hfree other hother (Std.LawfulEqCmp.compare_eq_iff_eq.mp heq).symm
  once := h.once
  activeBound := hroom
  retainedBound := h.retainedBound
  newest := h.newest

/-- An active task goes on. -/
theorem Partition.update (h : plane.Partition ended) (hfound : plane.active[id]?.isSome)
    (hid : task.id = id) (hactive : task.isTerminal = false) :
    Partition { plane with active := plane.active.insert id task } ended := by
  refine h.insert (fun other hother heq ↦ ?_) ?_ hid hactive
  · rw [← heq, h.apart other hother] at hfound
    cases hfound
  · rw [ExtTreeMap.size_insert,
      if_pos (ExtTreeMap.contains_iff_mem.mpr (ExtTreeMap.isSome_getElem?_iff_mem.mp hfound))]
    exact h.activeBound

/-- A new task under an id that is not known. -/
theorem Partition.create (h : plane.Partition ended) (hunknown : plane.task id = none)
    (hroom : plane.active.size < plane.config.maxActiveTasks) (hid : task.id = id)
    (hactive : task.isTerminal = false) :
    Partition { plane with active := plane.active.insert id task } ended := by
  refine h.insert (fun other hother heq ↦ ?_) ?_ hid hactive
  · have hretained := (Option.or_eq_none_iff.mp hunknown).2
    rw [retainedTask, List.find?_eq_none] at hretained
    exact hretained other (List.mem_reverse.mpr hother) (decide_eq_true heq)
  · rw [ExtTreeMap.size_insert]
    split
    · exact h.activeBound
    · exact hroom

/-- An active task ends. -/
theorem Partition.finish (h : plane.Partition ended) (hfound : plane.active[id]?.isSome)
    (hid : task.id = id) (hterminal : task.isTerminal = true)
    (transitions : TaskTransitionCollector) :
    Partition { plane with
      active := (plane.active.insert id task).erase id
      retained := (plane.retained ++ [task]).rtake plane.config.maxRetainedTasks
      transitions } (ended ++ [id]) where
  active other found hother := by
    rw [ExtTreeMap.getElem?_erase] at hother
    split at hother
    case isTrue => cases hother
    case isFalse hne =>
      rw [ExtTreeMap.getElem?_insert, if_neg hne] at hother
      exact h.active other found hother
  retained other hother := by
    rcases List.mem_append.mp ((List.rtake_sublist _ _).mem hother) with hold | hnew
    · exact h.retained other hold
    · rw [List.mem_singleton.mp hnew]
      exact hterminal
  apart other hother := by
    rw [ExtTreeMap.getElem?_erase]
    split
    case isTrue => rfl
    case isFalse hne =>
      rw [ExtTreeMap.getElem?_insert, if_neg hne]
      rcases List.mem_append.mp ((List.rtake_sublist _ _).mem hother) with hold | hnew
      · exact h.apart other hold
      · rw [List.mem_singleton.mp hnew, hid] at hne
        exact absurd Std.ReflCmp.compare_self hne
  once := by
    refine List.Nodup.sublist ((List.rtake_sublist _ _).map _) ?_
    rw [List.map_append, List.nodup_append]
    refine ⟨h.once, List.nodup_singleton _, fun other hother last hlast heq ↦ ?_⟩
    obtain ⟨known, hknown, rfl⟩ := List.mem_map.mp hother
    rw [List.mem_singleton.mp hlast, hid] at heq
    rw [← heq, h.apart known hknown] at hfound
    cases hfound
  activeBound := by
    refine le_trans ?_ h.activeBound
    rw [ExtTreeMap.size_erase, if_pos ExtTreeMap.contains_insert_self, ExtTreeMap.size_insert,
      if_pos]
    · exact Nat.sub_le _ _
    · exact ExtTreeMap.isSome_getElem?_iff_mem.mp hfound
  retainedBound := List.length_rtake_le _ _
  newest := by
    rw [List.map_rtake, List.map_append, h.newest, List.rtake_rtake_append, List.map_singleton, hid]

/-! ## What leaves the map -/

variable {post : TaskPlane}

theorem left_eq_nil (h : ∀ id ∈ plane.active, id ∈ post.active) : left plane post = [] := by
  rw [left, List.filter_eq_nil_iff]
  intro id hid
  rw [ExtTreeMap.contains_iff_mem.mpr (h id (ExtTreeMap.mem_keys.mp hid))]
  exact Bool.false_ne_true

theorem left_eq_singleton (hfound : id ∈ plane.active)
    (h : ∀ other, other ∈ post.active ↔ other ≠ id ∧ other ∈ plane.active) :
    left plane post = [id] := by
  have hkeys : left plane post = plane.active.keys.filter (· = id) := by
    apply List.filter_congr
    intro other hother
    have hactive := ExtTreeMap.mem_keys.mp hother
    by_cases heq : other = id
    · have hgone : other ∉ post.active := fun hmem ↦ ((h other).mp hmem).1 heq
      rw [Bool.eq_false_of_not_eq_true (mt ExtTreeMap.contains_iff_mem.mp hgone)]
      exact (decide_eq_true heq).symm
    · rw [ExtTreeMap.contains_iff_mem.mpr ((h other).mpr ⟨heq, hactive⟩)]
      exact (decide_eq_false heq).symm
  have hnodup : plane.active.keys.Nodup := ExtTreeMap.nodup_keys
  rw [hkeys, List.filter_eq, hnodup.count, if_pos (ExtTreeMap.mem_keys.mpr hfound),
    List.replicate_one]

/-- The state that a call leaves: as it was, with a task that goes on, or with one that
ended. -/
inductive Acted (plane : TaskPlane) (id : TaskId) : TaskPlane → Prop
  | refused : Acted plane id plane
  | running (task : AgentTask) (transitions : TaskTransitionCollector)
      (hfound : plane.active[id]?.isSome) (hid : task.id = id) (hactive : task.isTerminal = false) :
      Acted plane id { plane with active := plane.active.insert id task, transitions }
  | ended (task : AgentTask) (transitions : TaskTransitionCollector)
      (hfound : plane.active[id]?.isSome) (hid : task.id = id)
      (hterminal : task.isTerminal = true) :
      Acted plane id { plane with
        active := (plane.active.insert id task).erase id
        retained := (plane.retained ++ [task]).rtake plane.config.maxRetainedTasks
        transitions }

theorem Partition.act (h : plane.Partition ended) (id : TaskId) (nowMs : Nat) (op : AgentTask.Op) :
    Acted plane id (plane.act id nowMs op).1 := by
  rw [TaskPlane.act]
  cases htask : plane.activeTask id with
  | error error => exact .refused
  | ok task =>
    have hfound := activeTask_eq_ok.mp htask
    have hsome : plane.active[id]?.isSome := by rw [hfound]; rfl
    obtain ⟨hid, hactive⟩ := h.active id task hfound
    have houtcome := AgentTask.perform_outcome task nowMs op
    dsimp only
    generalize task.perform nowMs op = result at houtcome
    cases houtcome with
    | refused error => exact .running task _ hsome hid hactive
    | exhausted retries replans => exact .running _ _ hsome hid hactive
    | @done task' r heffect =>
      have htold := heffect.told hactive
      dsimp only
      cases htransition : r.transition? with
      | none => exact .running task' _ hsome (htold.id.trans hid) (htold.running htransition)
      | some transition =>
        obtain ⟨htaskId, htarget⟩ := htold.transition transition htransition
        rw [Option.elim_some, acceptTransition]
        dsimp only
        rw [htarget, htaskId, hid, ExtTreeMap.getElem?_insert_self]
        cases hterminal : task'.isTerminal with
        | false => exact .running task' _ hsome (htold.id.trans hid) hterminal
        | true => exact .ended task' _ hsome (htold.id.trans hid) hterminal

theorem Acted.mem_iff (hacted : Acted plane id post) {other : TaskId} (hne : other ≠ id) :
    other ∈ post.active ↔ other ∈ plane.active := by
  have hcompare : compare id other ≠ .eq :=
    fun heq ↦ hne (Std.LawfulEqCmp.compare_eq_iff_eq.mp heq).symm
  cases hacted with
  | refused => exact Iff.rfl
  | running => exact ExtTreeMap.mem_insert.trans (or_iff_right hcompare)
  | ended =>
    refine ExtTreeMap.mem_erase.trans ((and_iff_right hcompare).trans ?_)
    exact ExtTreeMap.mem_insert.trans (or_iff_right hcompare)

theorem mem_erase_insert {other : TaskId} : other ∈ (plane.active.insert id task).erase id ↔
    other ≠ id ∧ other ∈ plane.active := by
  rw [ExtTreeMap.mem_erase, ExtTreeMap.mem_insert, Ne, Std.LawfulEqCmp.compare_eq_iff_eq, eq_comm]
  exact and_congr_right fun hne ↦ or_iff_right hne

/-- A call takes nothing but its own task from the map. -/
theorem Acted.left_eq (hacted : Acted plane id post) (hfound : id ∈ plane.active) :
    left plane post = [id].filter fun id ↦ !post.active.contains id := by
  cases hacted with
  | refused =>
    rw [left_eq_nil fun _ hid ↦ hid, List.filter_singleton, ExtTreeMap.contains_iff_mem.mpr hfound]
    rfl
  | running =>
    rw [left_eq_nil fun _ hid ↦ ExtTreeMap.mem_insert.mpr (Or.inr hid), List.filter_singleton,
      ExtTreeMap.contains_insert_self]
    rfl
  | ended =>
    rw [left_eq_singleton hfound fun other ↦ mem_erase_insert, List.filter_singleton,
      Bool.eq_false_of_not_eq_true fun hmem ↦
        (mem_erase_insert.mp (ExtTreeMap.contains_iff_mem.mp hmem)).1 rfl]
    rfl

/-- A call keeps the partition. -/
theorem Acted.partition (hacted : Acted plane id post) (h : plane.Partition ended) :
    post.Partition (ended ++ left plane post) := by
  cases hacted with
  | refused =>
    rw [left_eq_nil fun _ hid ↦ hid, List.append_nil]
    exact h
  | running task transitions hfound hid hactive =>
    rw [left_eq_nil fun _ hid ↦ ExtTreeMap.mem_insert.mpr (Or.inr hid), List.append_nil]
    exact (h.update hfound hid hactive).keep transitions
  | ended task transitions hfound hid hterminal =>
    rw [left_eq_singleton (ExtTreeMap.isSome_getElem?_iff_mem.mp hfound)
      fun other ↦ mem_erase_insert]
    exact h.finish hfound hid hterminal transitions

/-! ## Steps -/

theorem Partition.createTask (h : plane.Partition ended) (id : TaskId) (requestedOutcome : String)
    (createdAtMs : Nat) (limits : TaskLimits) :
    (plane.createTask id requestedOutcome createdAtMs limits).1.Partition (ended ++
      left plane (plane.createTask id requestedOutcome createdAtMs limits).1) := by
  have hrefused : plane.Partition (ended ++ left plane plane) := by
    rw [left_eq_nil fun _ hid ↦ hid, List.append_nil]
    exact h
  rw [TaskPlane.createTask]
  split
  case isTrue => exact hrefused
  case isFalse hunknown =>
    split
    case isTrue => exact hrefused
    case isFalse hroom =>
      cases hnew : AgentTask.new id requestedOutcome createdAtMs limits with
      | error error => exact hrefused
      | ok task =>
        rw [left_eq_nil fun _ hid ↦ ExtTreeMap.mem_insert.mpr (Or.inr hid), List.append_nil]
        refine h.create ?_ (not_le.mp hroom) (AgentTask.new_id hnew) ?_
        · rw [Bool.not_eq_true, Option.isSome_eq_false_iff, Option.isNone_iff_eq_none] at hunknown
          exact hunknown
        · rw [AgentTask.isTerminal, AgentTask.new_state hnew]
          rfl

theorem Partition.acts (h : plane.Partition ended) (id : TaskId) (nowMs : Nat)
    (op : AgentTask.Op) : (plane.act id nowMs op).1.Partition
      (ended ++ left plane (plane.act id nowMs op).1) := (h.act id nowMs op).partition h

theorem Partition.commitVerification (h : plane.Partition ended) (id : TaskId)
    (expectedGeneration : Nat) (result : VerificationResult) (nowMs : Nat) :
    (plane.commitVerification id expectedGeneration result nowMs).1.Partition (ended ++
      left plane (plane.commitVerification id expectedGeneration result nowMs).1) := by
  have hrefused : plane.Partition (ended ++ left plane plane) := by
    rw [left_eq_nil fun _ hid ↦ hid, List.append_nil]
    exact h
  rw [TaskPlane.commitVerification]
  cases plane.activeTask id with
  | error error => exact hrefused
  | ok task =>
    dsimp only
    split
    · exact hrefused
    · exact h.acts id nowMs _

/-- A sweep over some active ids takes from the map those that it ended. -/
theorem Partition.expireLoop (nowMs : Nat) {ids : List TaskId} (hnodup : ids.Nodup)
    (h : plane.Partition ended) (hids : ∀ id ∈ ids, id ∈ plane.active) (expired : Nat) :
    (TaskPlane.expireLoop nowMs ids plane expired).1.Partition (ended ++ ids.filter fun id ↦
      !(TaskPlane.expireLoop nowMs ids plane expired).1.active.contains id) ∧
    ∀ other ∉ ids, other ∈ (TaskPlane.expireLoop nowMs ids plane expired).1.active ↔
      other ∈ plane.active := by
  induction ids generalizing plane ended expired with
  | nil =>
    refine ⟨?_, fun _ _ ↦ Iff.rfl⟩
    rw [List.filter_nil, List.append_nil]
    exact h
  | cons id ids ih =>
    obtain ⟨hfresh, hnodup⟩ := List.nodup_cons.mp hnodup
    have hacted := h.act id nowMs .expireIfNeeded
    have hpartition := hacted.partition h
    rw [hacted.left_eq (hids id List.mem_cons_self)] at hpartition
    -- the other ids stay where they were
    have hothers : ∀ other ∈ ids, other ∈ (plane.act id nowMs .expireIfNeeded).1.active := by
      intro other hother
      have hne : other ≠ id := fun heq ↦ hfresh (heq ▸ hother)
      exact (hacted.mem_iff hne).mpr (hids other (List.mem_cons_of_mem _ hother))
    rw [TaskPlane.expireLoop]
    split
    case h_1 plane' error hstep =>
      rw [hstep] at hacted hpartition hothers
      refine ⟨?_, fun other hother ↦ ?_⟩
      · have hkept : (ids.filter fun id ↦ !plane'.active.contains id) = [] := by
          rw [List.filter_eq_nil_iff]
          intro other hother
          rw [ExtTreeMap.contains_iff_mem.mpr (hothers other hother)]
          exact Bool.false_ne_true
        rw [← List.singleton_append, List.filter_append, hkept, List.append_nil]
        exact hpartition
      · exact hacted.mem_iff (List.ne_of_not_mem_cons hother)
    case h_2 plane' reply hstep =>
      rw [hstep] at hacted hpartition hothers
      obtain ⟨hrest, hframe⟩ := ih hnodup hpartition hothers
        (expired + reply.transition?.elim 0 fun _ ↦ 1)
      refine ⟨?_, fun other hother ↦ ?_⟩
      · have hid : ([id].filter fun id ↦ !(TaskPlane.expireLoop nowMs ids plane'
            (expired + reply.transition?.elim 0 fun _ ↦ 1)).1.active.contains id) =
              [id].filter fun id ↦ !plane'.active.contains id := by
          refine List.filter_congr fun other hother ↦ congrArg not ?_
          rw [List.mem_singleton.mp hother, Bool.eq_iff_iff, ExtTreeMap.contains_iff_mem,
            ExtTreeMap.contains_iff_mem]
          exact hframe id hfresh
        rw [← List.singleton_append, List.filter_append, hid, ← List.append_assoc]
        exact hrest
      · exact (hframe other fun hmem ↦ hother (List.mem_cons_of_mem _ hmem)).trans
          (hacted.mem_iff (List.ne_of_not_mem_cons hother))

/-- Every step keeps the partition. -/
theorem Partition.next (h : plane.Partition ended) (op : Op) :
    (machine.next plane op).Partition (observeEnded ended (machine.event plane op)) := by
  have hread : plane.Partition (ended ++ left plane plane) := by
    rw [left_eq_nil fun _ hid ↦ hid, List.append_nil]
    exact h
  cases op with
  | createTask id requestedOutcome createdAtMs limits =>
    exact h.createTask id requestedOutcome createdAtMs limits
  | executionSnapshot id => exact hread
  | executeTool id expectedGeneration => exact hread
  | commitVerification id expectedGeneration result nowMs =>
    exact h.commitVerification id expectedGeneration result nowMs
  | expire nowMs =>
    exact (Partition.expireLoop nowMs ExtTreeMap.nodup_keys h
      (fun _ hid ↦ ExtTreeMap.mem_keys.mp hid) 0).1
  | _ => exact h.acts _ _ _

end Partition

/-! ## Runs -/

/-- **The partition of the tasks.**  In every state that a new plane reaches, the active
tasks run and the retained ones are terminal, no id is in both places or retained twice,
both keep their bounds, and what is retained are the newest of all tasks that ended. -/
theorem partition_kept {config : TaskPlaneConfig} {plane : TaskPlane} (h : new config = .ok plane)
    (ops : List Op) :
    (machine.run plane ops).Partition (machine.watch observeEnded plane [] ops) := by
  refine machine.watch_invariant (P := Partition) ?_ (new_partition h) ops
  exact fun plane ended op hpartition ↦ hpartition.next op

/-- Two tasks end in a plane that retains one. -/
theorem partition_kept_narrow :
    (machine.run narrowPlane [.createTask first "work" 0 .default, .cancel first "stop" 1,
      .createTask second "other" 2 .default, .expire 900002]).Partition
        (machine.watch observeEnded narrowPlane [] [.createTask first "work" 0 .default,
          .cancel first "stop" 1, .createTask second "other" 2 .default, .expire 900002]) :=
  partition_kept narrowPlane_new _

end TaskPlane

end Aivtuber
