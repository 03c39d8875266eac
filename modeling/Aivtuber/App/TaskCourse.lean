import Aivtuber.App.TaskPartition

/-!
# The course of a task

What one operation of a task plane does to the tasks that the plane knows, active or retained.
It creates a task, finishes a step, or lets the tasks go on (`Course`): a task that goes on takes
another generation, or neither starts nor ends an execution (`Steady`).
-/

open Std (ExtTreeMap)

namespace Aivtuber

/-! ## Steady tasks -/

namespace AgentTask

/-- A task goes on without the end or the start of an execution, or takes another generation. -/
structure Steady (task task' : AgentTask) : Prop where
  le : task.generation ≤ task'.generation
  executing : task'.generation = task.generation → ∀ stepIndex generation,
    task'.state = .executing stepIndex generation ↔ task.state = .executing stepIndex generation

theorem Steady.refl (task : AgentTask) : Steady task task := ⟨le_rfl, fun _ _ _ ↦ Iff.rfl⟩

section Steady

variable {task task' : AgentTask} {nowMs : Nat} {op : Op} {r : Reply}

theorem Steady.trans {task'' : AgentTask} (h : Steady task task') (h' : Steady task' task'') :
    Steady task task'' := by
  refine ⟨h.le.trans h'.le, fun heq stepIndex generation ↦ ?_⟩
  have hleft : task'.generation = task.generation := le_antisymm (h'.le.trans heq.le) h.le
  have hright : task''.generation = task'.generation := heq.trans hleft.symm
  exact (h'.executing hright stepIndex generation).trans (h.executing hleft stepIndex generation)

/-- Between two states that are no executions. -/
theorem Steady.of_idle (hle : task.generation ≤ task'.generation)
    (hbefore : ∀ stepIndex generation, task.state ≠ .executing stepIndex generation)
    (hafter : ∀ stepIndex generation, task'.state ≠ .executing stepIndex generation) :
    Steady task task' :=
  ⟨hle, fun _ i g ↦ iff_of_false (hafter i g) (hbefore i g)⟩

theorem Steady.of_lt (h : task.generation < task'.generation) : Steady task task' :=
  ⟨h.le, fun heq ↦ absurd heq h.ne'⟩

theorem Effect.steady (h : Effect task nowMs op task' r) (hop : op ≠ .finishStep) :
    Steady task task' := by
  cases h with
  | beginPlanning hstate | markReady hstate | resume _ hstate | waitFor _ _ _ _ _ hstate =>
    refine Steady.of_idle le_rfl ?_ ?_
    · simp [hstate]
    · simp [move]
  | verify generation result hstate =>
    refine Steady.of_idle le_rfl ?_ ?_
    · simp [hstate]
    · cases houtcome : result.outcome <;> simp [move, verdict, houtcome]
  | addStep | recordObservation => exact ⟨le_rfl, fun _ _ _ ↦ Iff.rfl⟩
  | idle => exact .refl task
  | beginExecution | retryCurrentStep | replan | cancel => exact .of_lt (Nat.lt_succ_self _)
  | resumeExpired _ hexpires | expire hexpires =>
    apply Steady.of_lt
    rw [hexpires.generation_eq]
    exact Nat.lt_succ_self _
  | finishStep => exact absurd rfl hop

theorem Outcome.steady {result : AgentTask × Except TaskError Reply}
    (h : Outcome task nowMs op result) (hop : op ≠ .finishStep ∨ ∃ error, result.2 = .error error) :
    Steady task result.1 := by
  cases h with
  | refused error => exact .refl task
  | exhausted => exact ⟨le_rfl, fun _ _ _ ↦ Iff.rfl⟩
  | done heffect =>
    refine heffect.steady (hop.resolve_right ?_)
    rintro ⟨error, ⟨⟩⟩

/-- The end of an execution keeps the generation. -/
theorem Effect.finished (h : Effect task nowMs .finishStep task' r) :
    task'.generation = task.generation ∧
      ∀ stepIndex generation, task'.state ≠ .executing stepIndex generation := by
  cases h with
  | finishStep _ _ next _ _ hnext =>
    subst hnext
    refine ⟨rfl, ?_⟩
    simp only [move]
    split_ifs <;> rintro _ _ ⟨⟩

/-- Nothing gives a task another id. -/
theorem Outcome.id_eq {result : AgentTask × Except TaskError Reply}
    (h : Outcome task nowMs op result) (hactive : task.isTerminal = false) :
    result.1.id = task.id := by
  cases h with
  | refused | exhausted => rfl
  | done heffect => exact (heffect.told hactive).id

end Steady

end AgentTask

/-! ## The tasks that a plane knows -/

namespace TaskPlane

/-- The task is known under an id, active or retained. -/
def Known (plane : TaskPlane) (id : TaskId) (task : AgentTask) : Prop :=
  plane.active[id]? = some task ∨ task ∈ plane.retained ∧ task.id = id

section Known

variable {plane : TaskPlane} {ended : List TaskId} {id other : TaskId} {task : AgentTask}

theorem known_of_task (h : plane.task id = some task) : plane.Known id task := by
  rw [TaskPlane.task, Option.or_eq_some_iff] at h
  rcases h with h | ⟨-, h⟩
  · exact .inl h
  · rw [retainedTask] at h
    have hid := List.find?_some h
    exact .inr ⟨List.mem_reverse.mp (List.mem_of_find?_eq_some h), of_decide_eq_true hid⟩

/-- Of one id at most one task is known. -/
theorem Partition.known_unique (h : plane.Partition ended) {task' : AgentTask}
    (hknown : plane.Known id task) (hknown' : plane.Known id task') : task = task' := by
  rcases hknown with hactive | ⟨hretained, rfl⟩
  · rcases hknown' with hactive' | ⟨hretained', rfl⟩
    · exact Option.some_inj.mp (hactive.symm.trans hactive')
    · cases hactive.symm.trans (h.apart task' hretained')
  · rcases hknown' with hactive' | ⟨hretained', hid⟩
    · cases hactive'.symm.trans (h.apart task hretained)
    · exact List.inj_on_of_nodup_map h.once hretained hretained' hid.symm

theorem Partition.task_of_known (h : plane.Partition ended) (hknown : plane.Known id task) :
    plane.task id = some task := by
  cases htask : plane.task id with
  | some found => exact congrArg some (h.known_unique (known_of_task htask) hknown)
  | none =>
    rw [TaskPlane.task, Option.or_eq_none_iff, retainedTask, List.find?_eq_none] at htask
    rcases hknown with hactive | ⟨hretained, hid⟩
    · cases htask.1.symm.trans hactive
    · exact absurd (decide_eq_true hid) (htask.2 task (List.mem_reverse.mpr hretained))

/-- The active tasks bear their ids. -/
def Labelled (plane : TaskPlane) : Prop :=
  ∀ (id : TaskId) (task : AgentTask), plane.active[id]? = some task → task.id = id

/-- Accepting a transition brings no task up. -/
theorem acceptTransition_known {transition : TaskTransition} (h : plane.Labelled)
    (hknown : (plane.acceptTransition transition).Known id task) : plane.Known id task := by
  rw [acceptTransition] at hknown
  dsimp only at hknown
  split at hknown
  case isTrue =>
    split at hknown
    case h_1 => exact hknown
    case h_2 found hfound =>
      rcases hknown with hactive | ⟨hretained, hid⟩
      · rw [ExtTreeMap.getElem?_erase] at hactive
        split at hactive
        case isTrue => cases hactive
        case isFalse => exact .inl hactive
      · rcases List.mem_append.mp ((List.drop_sublist _ _).mem hretained) with hold | hnew
        · exact .inr ⟨hold, hid⟩
        · rw [List.mem_singleton] at hnew
          subst hnew
          rw [← hid, h _ _ hfound]
          exact .inl hfound
  case isFalse => exact hknown

/-- A call changes at most the task it is made on. -/
theorem Partition.act_known (h : plane.Partition ended) {nowMs : Nat} {op : AgentTask.Op}
    (hknown : (plane.act id nowMs op).1.Known other task) :
    (plane.Known other task ∧ (other = id → plane.active[id]? = none)) ∨
      other = id ∧ ∃ before, plane.active[id]? = some before ∧
        task = (before.perform nowMs op).1 := by
  rw [TaskPlane.act] at hknown
  cases hactive : plane.activeTask id with
  | error error =>
    rw [hactive] at hknown
    refine .inl ⟨hknown, fun _ ↦ ?_⟩
    cases hfound : plane.active[id]? with
    | none => rfl
    | some found => cases hactive.symm.trans (activeTask_eq_ok.mpr hfound)
  | ok before =>
    have hfound := activeTask_eq_ok.mp hactive
    obtain ⟨hid, hrunning⟩ := h.active id before hfound
    have houtcome := AgentTask.perform_outcome before nowMs op
    have hid' : (before.perform nowMs op).1.id = id := (houtcome.id_eq hrunning).trans hid
    rw [hactive] at hknown
    dsimp only at hknown
    -- the call on the task itself, before its transition is accepted
    let called : TaskPlane :=
      { plane with active := plane.active.insert id (before.perform nowMs op).1 }
    have hlabelled : called.Labelled := by
      intro label found hlabel
      rw [ExtTreeMap.getElem?_insert] at hlabel
      split at hlabel
      case isTrue heq =>
        cases hlabel
        exact hid'.trans (Std.LawfulEqCmp.eq_of_compare heq)
      case isFalse => exact (h.active label found hlabel).1
    have hcalled : called.Known other task := by
      cases hreply : (before.perform nowMs op).2 with
      | error error =>
        rw [hreply] at hknown
        exact hknown
      | ok reply =>
        rw [hreply] at hknown
        dsimp only at hknown
        cases htransition : reply.transition? with
        | none =>
          rw [htransition] at hknown
          exact hknown
        | some transition =>
          rw [htransition] at hknown
          exact acceptTransition_known hlabelled hknown
    rcases hcalled with hold | hold
    · rw [ExtTreeMap.getElem?_insert] at hold
      split at hold
      case isTrue heq =>
        right
        exact ⟨(Std.LawfulEqCmp.eq_of_compare heq).symm, before, hfound,
          (Option.some_inj.mp hold).symm⟩
      case isFalse hne =>
        refine .inl ⟨.inl hold, fun heq ↦ absurd ?_ hne⟩
        rw [heq]
        exact Std.ReflCmp.compare_self
    · refine .inl ⟨.inr hold, fun heq ↦ ?_⟩
      rw [← heq, ← hold.2]
      exact h.apart task hold.1

/-- Creating a task changes no other. -/
theorem createTask_known {requestedOutcome : String} {createdAtMs : Nat} {limits : TaskLimits}
    (hne : other ≠ id)
    (hknown : (plane.createTask id requestedOutcome createdAtMs limits).1.Known other task) :
    plane.Known other task := by
  rw [TaskPlane.createTask] at hknown
  split_ifs at hknown
  · exact hknown
  · exact hknown
  · cases hnew : AgentTask.new id requestedOutcome createdAtMs limits with
    | error error =>
      rw [hnew] at hknown
      exact hknown
    | ok created =>
      rw [hnew] at hknown
      refine hknown.imp_left fun hactive ↦ ?_
      rwa [ExtTreeMap.getElem?_insert, if_neg] at hactive
      exact fun heq ↦ hne (Std.LawfulEqCmp.eq_of_compare heq).symm

/-- A step that creates no task and finishes no step. -/
def Goes (plane post : TaskPlane) : Prop :=
  ∀ id task', post.Known id task' → ∃ task, plane.Known id task ∧ task.Steady task'

theorem Goes.refl (plane : TaskPlane) : plane.Goes plane :=
  fun _ task h ↦ ⟨task, h, .refl task⟩

theorem Goes.trans {mid post : TaskPlane} (h : plane.Goes mid) (h' : mid.Goes post) :
    plane.Goes post := by
  intro id task'' hknown
  obtain ⟨task', hmid, hsteady'⟩ := h' id task'' hknown
  obtain ⟨task, hplane, hsteady⟩ := h id task' hmid
  exact ⟨task, hplane, hsteady.trans hsteady'⟩

theorem perform_error_of_act {nowMs : Nat} {op : AgentTask.Op} {error : TaskPlaneError}
    (hfound : plane.active[id]? = some task) (h : (plane.act id nowMs op).2 = .error error) :
    ∃ error, (task.perform nowMs op).2 = .error error := by
  rw [act, activeTask_eq_ok.mpr hfound] at h
  dsimp only at h
  cases hreply : (task.perform nowMs op).2 with
  | error error => exact ⟨error, rfl⟩
  | ok reply =>
    rw [hreply] at h
    cases h

theorem Partition.act_goes (h : plane.Partition ended) {nowMs : Nat} {op : AgentTask.Op}
    (hop : op ≠ .finishStep ∨ ∃ error, (plane.act id nowMs op).2 = .error error) :
    plane.Goes (plane.act id nowMs op).1 := by
  intro other task' hknown
  rcases h.act_known hknown with ⟨hknown, -⟩ | ⟨rfl, task, hfound, rfl⟩
  · exact ⟨task', hknown, .refl task'⟩
  · refine ⟨task, .inl hfound, (AgentTask.perform_outcome task nowMs op).steady ?_⟩
    exact hop.imp_right fun ⟨_, herror⟩ ↦ perform_error_of_act hfound herror

theorem Partition.expireLoop_goes (nowMs : Nat) (ids : List TaskId) (h : plane.Partition ended)
    (expired : Nat) : plane.Goes (TaskPlane.expireLoop nowMs ids plane expired).1 := by
  induction ids generalizing plane ended expired with
  | nil => exact .refl plane
  | cons id ids ih =>
    have hgoes : plane.Goes (plane.act id nowMs .expireIfNeeded).1 :=
      h.act_goes (.inl (by rintro ⟨⟩))
    have hpost := h.acts id nowMs .expireIfNeeded
    rw [TaskPlane.expireLoop]
    split
    case h_1 plane' error hstep => rwa [hstep] at hgoes
    case h_2 plane' reply hstep =>
      rw [hstep] at hgoes hpost
      exact hgoes.trans (ih hpost _)

theorem Partition.commitVerification_goes (h : plane.Partition ended) (id : TaskId)
    (expectedGeneration : Nat) (result : VerificationResult) (nowMs : Nat) :
    plane.Goes (plane.commitVerification id expectedGeneration result nowMs).1 := by
  rw [TaskPlane.commitVerification]
  cases plane.activeTask id with
  | error error => exact .refl plane
  | ok task =>
    dsimp only
    split
    · exact .refl plane
    · exact h.act_goes (.inl (by rintro ⟨⟩))

/-- What an operation does: it creates a task, finishes a step, or lets the tasks go on. -/
inductive Course (plane : TaskPlane) : Op → TaskPlane × Except TaskPlaneError Answer → Prop
  | created (id : TaskId) (requestedOutcome : String) (createdAtMs : Nat) (limits : TaskLimits)
      (post : TaskPlane) (reply : Answer)
      (hothers : ∀ other task, other ≠ id → post.Known other task → plane.Known other task) :
      Course plane (.createTask id requestedOutcome createdAtMs limits) (post, .ok reply)
  | finished (id : TaskId) (nowMs : Nat) (post : TaskPlane) (reply : Answer)
      (hothers : ∀ other task, other ≠ id → post.Known other task → plane.Known other task)
      (hfinished : ∀ task', post.Known id task' → ∃ task, plane.Known id task ∧
        task'.generation = task.generation ∧
          ∀ stepIndex generation, task'.state ≠ .executing stepIndex generation) :
      Course plane (.finishStep id nowMs) (post, .ok reply)
  | goes (op : Op) (post : TaskPlane) (result : Except TaskPlaneError Answer)
      (hgoes : plane.Goes post)
      (hother : (∀ id requestedOutcome createdAtMs limits,
          op ≠ .createTask id requestedOutcome createdAtMs limits) ∧
        (∀ id nowMs, op ≠ .finishStep id nowMs) ∨ ∃ error, result = .error error) :
      Course plane op (post, result)

theorem createTask_eq_error {requestedOutcome : String} {createdAtMs : Nat} {limits : TaskLimits}
    {error : TaskPlaneError}
    (h : (plane.createTask id requestedOutcome createdAtMs limits).2 = .error error) :
    (plane.createTask id requestedOutcome createdAtMs limits).1 = plane := by
  rw [TaskPlane.createTask] at h ⊢
  split_ifs at h ⊢
  · rfl
  · rfl
  · cases hnew : AgentTask.new id requestedOutcome createdAtMs limits with
    | error error => rfl
    | ok created =>
      rw [hnew] at h
      cases h

theorem Partition.finishStep_course (h : plane.Partition ended) (id : TaskId) (nowMs : Nat) :
    Course plane (.finishStep id nowMs) (plane.perform (.finishStep id nowMs)) := by
  have hperform : plane.perform (.finishStep id nowMs) =
      ((plane.act id nowMs .finishStep).1, (plane.act id nowMs .finishStep).2.map .task) := rfl
  rw [hperform]
  cases hreply : (plane.act id nowMs .finishStep).2 with
  | error error =>
    exact .goes _ _ _ (h.act_goes (.inr ⟨error, hreply⟩)) (.inr ⟨error, rfl⟩)
  | ok reply =>
    refine .finished id nowMs _ _ (fun other task hne hknown ↦ ?_) fun task' hknown ↦ ?_
    · exact ((h.act_known hknown).resolve_right fun hsame ↦ hne hsame.1).1
    · obtain ⟨task, hfound, heffect⟩ := act_effect hreply
      refine ⟨task, .inl hfound, ?_⟩
      rcases h.act_known hknown with ⟨-, hnone⟩ | ⟨-, before, hbefore, rfl⟩
      · rw [hnone rfl] at hfound
        cases hfound
      · rw [hfound] at hbefore
        cases hbefore
        exact heffect.finished

theorem Partition.course (h : plane.Partition ended) (op : Op) :
    Course plane op (plane.perform op) := by
  cases op with
  | createTask id requestedOutcome createdAtMs limits =>
    have hperform : plane.perform (.createTask id requestedOutcome createdAtMs limits) =
        ((plane.createTask id requestedOutcome createdAtMs limits).1,
          (plane.createTask id requestedOutcome createdAtMs limits).2.map fun _ ↦ .created) := rfl
    rw [hperform]
    cases hreply : (plane.createTask id requestedOutcome createdAtMs limits).2 with
    | error error =>
      rw [createTask_eq_error hreply]
      exact .goes _ _ _ (.refl plane) (.inr ⟨error, rfl⟩)
    | ok created =>
      exact .created id requestedOutcome createdAtMs limits _ _
        fun other task hne hknown ↦ createTask_known hne hknown
  | finishStep id nowMs => exact h.finishStep_course id nowMs
  | executionSnapshot id =>
    exact .goes _ _ _ (.refl plane) (.inl ⟨by rintro _ _ _ _ ⟨⟩, by rintro _ _ ⟨⟩⟩)
  | executeTool id expectedGeneration =>
    exact .goes _ _ _ (.refl plane) (.inl ⟨by rintro _ _ _ _ ⟨⟩, by rintro _ _ ⟨⟩⟩)
  | commitVerification id expectedGeneration result nowMs =>
    exact .goes _ _ _ (h.commitVerification_goes id expectedGeneration result nowMs)
      (.inl ⟨by rintro _ _ _ _ ⟨⟩, by rintro _ _ ⟨⟩⟩)
  | expire nowMs =>
    exact .goes _ _ _ (h.expireLoop_goes nowMs _ 0)
      (.inl ⟨by rintro _ _ _ _ ⟨⟩, by rintro _ _ ⟨⟩⟩)
  | _ =>
    exact .goes _ _ _ (h.act_goes (.inl (by rintro ⟨⟩)))
      (.inl ⟨by rintro _ _ _ _ ⟨⟩, by rintro _ _ ⟨⟩⟩)

end Known

end TaskPlane

end Aivtuber
