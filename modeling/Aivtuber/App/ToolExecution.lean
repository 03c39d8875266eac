import Aivtuber.App.TaskCourse
import Aivtuber.Domain.Control
import Aivtuber.Domain.Interfaces

/-!
# Verified tool execution

`execute_verified_tool` of `crates/app/src/tool_execution.rs` runs an authorized tool for a task
and verifies the result against a snapshot of the task that is taken once the tool has returned
(`verify_tool_result` of `crates/domain/src/interfaces.rs`).  In between, the host goes on with
its task plane.

The fence compares the generation and looks for a cancellation.  `finish_step` ends an attempt
and keeps its generation, so a result that arrives after it is let through until the task takes
another generation.  This, and the reuse of an id, are all that goes wrong
(`verified_belongs_iff`).
-/

open Std (ExtTreeMap)

namespace Aivtuber

/-! ## Verification -/

structure ToolAction where
  tool : String
  operation : String
  arguments : ExtTreeMap String JsonValue

structure AuthorizedToolAction where
  action : ToolAction
  principal : String
  capability : Capability

def authorizeToolAction (authority : AuthenticatedControl) (action : ToolAction) :
    Except EngineError AuthorizedToolAction :=
  if Capability.toolGrant ∈ authority.capabilities then
    .ok ⟨action, authority.principal, .toolGrant⟩
  else .error ⟨.unauthorized, "missing authenticated capability: ToolGrant"⟩

inductive ToolVerificationRule where
  | jsonEquals (pointer : String) (expected : JsonValue)

structure ToolExecutionEvidence where
  result : ToolExecutionResult
  verification : ToolVerificationOutcome

section Verification

-- whether the value that a pointer leads to in some content is the expected one
variable (holdsAt : JsonValue → String → JsonValue → Bool)

def verifyToolResult (result : ToolExecutionResult) (expectedTool expectedOperation : String)
    (fence : ToolCommitFence) (rule : ToolVerificationRule) : ToolVerificationOutcome :=
  match fence.refusal with
  | some outcome => outcome
  | none =>
    if result.tool ≠ expectedTool || result.operation ≠ expectedOperation then .failed
    else if result.resultClass ≠ .success then .failed
    else
      match result.content, rule with
      | none, _ => .notProven
      | some content, .jsonEquals pointer expected =>
        if holdsAt content pointer expected then .verified else .notProven

/-- An answer of the adapter, verified against the task as it is by then. -/
def executeVerifiedTool (authority : AuthenticatedControl) (action : ToolAction)
    (expectedGeneration : Nat) (adapter : AuthorizedToolAction → Except EngineError ToolExecutionResult)
    (postExecutionState : ToolCommitStateSnapshot) (rule : ToolVerificationRule) :
    Except EngineError ToolExecutionEvidence := do
  let authorized ← authorizeToolAction authority action
  let result ← adapter authorized
  let fence : ToolCommitFence :=
    { expectedGeneration
      observedGeneration := postExecutionState.observedGeneration
      cancelled := postExecutionState.cancelled }
  return ⟨result, verifyToolResult holdsAt result action.tool action.operation fence rule⟩

/-- The result is what the rule asks for: of the tool, a success, with the expected content. -/
def ToolExecutionResult.satisfies (result : ToolExecutionResult) (action : ToolAction)
    (rule : ToolVerificationRule) : Bool :=
  result.tool = action.tool && result.operation = action.operation &&
    result.resultClass = .success &&
      match result.content, rule with
      | none, _ => false
      | some content, .jsonEquals pointer expected => holdsAt content pointer expected

theorem refusal_eq_none {fence : ToolCommitFence} :
    fence.refusal = none ↔
      fence.cancelled = false ∧ fence.expectedGeneration = fence.observedGeneration := by
  rw [ToolCommitFence.refusal]
  cases fence.cancelled with
  | true => simp
  | false =>
    by_cases hgeneration : fence.expectedGeneration = fence.observedGeneration
    · simp [hgeneration]
    · simp [hgeneration]

theorem refusal_ne_verified {fence : ToolCommitFence} : fence.refusal ≠ some .verified := by
  rw [ToolCommitFence.refusal]
  split_ifs <;> rintro ⟨⟩

/-- A result is verified when the fence lets it pass and it is what the rule asks for. -/
theorem verifyToolResult_eq_verified {result : ToolExecutionResult} {action : ToolAction}
    {fence : ToolCommitFence} {rule : ToolVerificationRule} :
    verifyToolResult holdsAt result action.tool action.operation fence rule = .verified ↔
      fence.refusal = none ∧ result.satisfies holdsAt action rule = true := by
  unfold verifyToolResult ToolExecutionResult.satisfies
  cases hrefusal : fence.refusal with
  | some outcome =>
    refine iff_of_false (fun h ↦ refusal_ne_verified (hrefusal.trans (congrArg some h))) ?_
    rintro ⟨⟨⟩, -⟩
  | none =>
    obtain ⟨pointer, expected⟩ := rule
    rw [eq_self, true_and]
    by_cases htool : result.tool = action.tool
    · by_cases hoperation : result.operation = action.operation
      · by_cases hclass : result.resultClass = .success
        · cases hcontent : result.content with
          | none => simp [htool, hoperation, hclass]
          | some content => simp [htool, hoperation, hclass]
        · simp [htool, hoperation, hclass]
      · simp [htool, hoperation]
    · simp [htool]

end Verification

/-! ## The host -/

/-- A task plane, and the attempts that tools are executed for: the id of a task that was seen
executing, with its generation. -/
structure ToolHost where
  plane : TaskPlane
  attempts : List (TaskId × Nat)

namespace ToolHost

inductive Op where
  | plane (op : TaskPlane.Op)
  /-- Take the generation of a task that is executing. -/
  | attempt (id : TaskId)
  /-- The end of a tool execution for an attempt, with the answer of the adapter. -/
  | execute (attempt : Nat) (authority : AuthenticatedControl) (action : ToolAction)
      (rule : ToolVerificationRule) (answer : Except EngineError ToolExecutionResult)

inductive Answer where
  | plane (result : Except TaskPlaneError TaskPlane.Answer)
  | attempt (generation : Option Nat)
  | tool (evidence : Except EngineError ToolExecutionEvidence)
  /-- The task of the attempt is not known. -/
  | unknown

/-- The generation of an execution. -/
def executingGeneration : TaskState → Option Nat
  | .executing _ generation => some generation
  | _ => none

variable (holdsAt : JsonValue → String → JsonValue → Bool)

def step (host : ToolHost) : Op → ToolHost × Answer
  | .plane op => ({ host with plane := (host.plane.perform op).1 }, .plane (host.plane.perform op).2)
  | .attempt id =>
    match (host.plane.task id).bind (executingGeneration ·.state) with
    | some generation =>
      ({ host with attempts := host.attempts ++ [(id, generation)] }, .attempt (some generation))
    | none => (host, .attempt none)
  | .execute attempt authority action rule answer =>
    match host.attempts[attempt]? with
    | none => (host, .unknown)
    | some (id, expectedGeneration) =>
      match host.plane.executionSnapshot id with
      | .error _ => (host, .unknown)
      | .ok snapshot =>
        (host, .tool (executeVerifiedTool holdsAt authority action expectedGeneration
          (fun _ ↦ answer) snapshot rule))

def machine : Machine ToolHost Op Answer := ⟨step holdsAt⟩

def new (plane : TaskPlane) : ToolHost := ⟨plane, []⟩

/-! ## The history of the attempts -/

structure AttemptHistory where
  /-- How many objects of an id have been created. -/
  births : TaskId → Nat
  /-- Which object of its id each attempt was taken from. -/
  incarnations : List Nat
  /-- The generation of the execution that `finish_step` ended, until the task takes another. -/
  finished : TaskId → Option Nat

def AttemptHistory.empty : AttemptHistory := ⟨fun _ ↦ 0, [], fun _ ↦ none⟩

abbrev HostEvent := Machine.Event ToolHost Op Answer

def generationOf (host : ToolHost) (id : TaskId) : Option Nat :=
  (host.plane.task id).map AgentTask.generation

/-- The history after one more step. -/
def AttemptHistory.observe (history : AttemptHistory) (e : HostEvent) : AttemptHistory :=
  match e.input, e.output with
  | .plane (.createTask id _ _ _), .plane (.ok _) =>
    { history with
      births := Function.update history.births id (history.births id + 1)
      finished := Function.update history.finished id none }
  | .plane (.finishStep id _), .plane (.ok _) =>
    { history with finished := Function.update history.finished id (generationOf e.pre id) }
  | .plane _, _ =>
    { history with
      finished := fun id ↦
        if generationOf e.pre id = generationOf e.post id then history.finished id else none }
  | .attempt id, .attempt (some _) =>
    { history with incarnations := history.incarnations ++ [history.births id] }
  | _, _ => history

/-- The task that an attempt was taken from is still executing under the same generation. -/
def running (host : ToolHost) (history : AttemptHistory) (attempt : Nat) : Bool :=
  match host.attempts[attempt]?, history.incarnations[attempt]? with
  | some (id, generation), some incarnation =>
    incarnation = history.births id &&
      (host.plane.task id).bind (executingGeneration ·.state) = some generation
  | _, _ => false

/-- The attempt was ended by `finish_step` and its task has taken no other generation and is not
cancelled, or its id was given to another object that is under the same generation. -/
def overdue (host : ToolHost) (history : AttemptHistory) (attempt : Nat) : Bool :=
  match host.attempts[attempt]?, history.incarnations[attempt]? with
  | some (id, generation), some incarnation =>
    match host.plane.task id with
    | none => false
    | some task =>
      task.state.kind ≠ .cancelled &&
        if incarnation = history.births id then history.finished id = some generation
        else task.generation = generation
  | _, _ => false

/-- A verified result belongs to the attempt that is running. -/
def belongs (history : AttemptHistory) (e : HostEvent) : Bool :=
  match e.input, e.output with
  | .execute attempt _ _ _ _, .tool (.ok evidence) =>
    evidence.verification ≠ .verified || running e.pre history attempt
  | _, _ => true

/-- No result that the rule asks for arrives for an attempt that is overdue. -/
def timely (history : AttemptHistory) (e : HostEvent) : Bool :=
  match e.input with
  | .execute attempt authority action rule (.ok result) =>
    !(Capability.toolGrant ∈ authority.capabilities && result.satisfies holdsAt action rule &&
      overdue e.pre history attempt)
  | _ => true

/-! ## What is followed -/

/-- What the history says of the tasks. -/
structure Followed (host : ToolHost) (history : AttemptHistory) : Prop where
  partition : ∃ ended, host.plane.Partition ended
  sound : host.plane.Sound
  aligned : history.incarnations.length = host.attempts.length
  born : ∀ (n : Nat) (id : TaskId) (generation incarnation : Nat),
    host.attempts[n]? = some (id, generation) → history.incarnations[n]? = some incarnation →
      incarnation ≤ history.births id
  current : ∀ (n : Nat) (id : TaskId) (generation : Nat) (task : AgentTask),
    host.attempts[n]? = some (id, generation) →
      history.incarnations[n]? = some (history.births id) → host.plane.Known id task →
        generation ≤ task.generation ∧ (generation = task.generation →
          (∃ stepIndex, task.state = .executing stepIndex generation) ∨
            history.finished id = some generation)
  finished : ∀ (id : TaskId) (generation : Nat) (task : AgentTask),
    history.finished id = some generation → host.plane.Known id task →
      task.generation = generation ∧
        ∀ stepIndex generation, task.state ≠ .executing stepIndex generation

section Followed

variable {holdsAt : JsonValue → String → JsonValue → Bool} {host : ToolHost}
  {history : AttemptHistory}

theorem generationOf_of_known {ended : List TaskId} (h : host.plane.Partition ended) {id : TaskId}
    {task : AgentTask} (hknown : host.plane.Known id task) :
    generationOf host id = some task.generation := by
  rw [generationOf, h.task_of_known hknown]
  rfl

theorem getElem?_concat {α : Type} {l : List α} {a b : α} {n : Nat}
    (h : (l ++ [a])[n]? = some b) : l[n]? = some b ∨ n = l.length ∧ a = b := by
  by_cases hlt : n < l.length
  · rw [List.getElem?_append_left hlt] at h
    exact .inl h
  · have hlast := (List.getElem?_eq_some_iff.mp h).1
    rw [List.length_append, List.length_singleton] at hlast
    obtain rfl : n = l.length := by omega
    rw [List.getElem?_concat_length] at h
    exact .inr ⟨rfl, Option.some_inj.mp h⟩

theorem event_plane (op : TaskPlane.Op) :
    (machine holdsAt).event host (.plane op) =
      ⟨host, .plane op, { host with plane := (host.plane.perform op).1 },
        .plane (host.plane.perform op).2⟩ := rfl

/-- A step on the plane that creates no task and finishes no step. -/
theorem observe_goes {op : TaskPlane.Op} {post : ToolHost}
    {result : Except TaskPlaneError TaskPlane.Answer}
    (h : (∀ id requestedOutcome createdAtMs limits,
        op ≠ .createTask id requestedOutcome createdAtMs limits) ∧
      (∀ id nowMs, op ≠ .finishStep id nowMs) ∨ ∃ error, result = .error error) :
    history.observe ⟨host, .plane op, post, .plane result⟩ =
      { history with
        finished := fun id ↦
          if generationOf host id = generationOf post id then history.finished id else none } := by
  rcases h with ⟨hcreate, hfinish⟩ | ⟨error, rfl⟩
  · cases op with
    | createTask id requestedOutcome createdAtMs limits => exact absurd rfl (hcreate _ _ _ _)
    | finishStep id nowMs => exact absurd rfl (hfinish _ _)
    | _ => rfl
  · cases op <;> rfl

/-- Tasks that go on keep their attempts. -/
theorem Followed.goes (h : Followed host history) {post : TaskPlane} {ended : List TaskId}
    (hpartition : post.Partition ended) (hsound : post.Sound) (hgoes : host.plane.Goes post) :
    Followed { host with plane := post }
      { history with
        finished := fun id ↦
          if generationOf host id = generationOf { host with plane := post } id then
            history.finished id
          else none } := by
  obtain ⟨before, hbefore⟩ := h.partition
  have hafter : ∀ {id : TaskId} {task : AgentTask}, post.Known id task →
      generationOf { host with plane := post } id = some task.generation :=
    fun hknown ↦ generationOf_of_known hpartition hknown
  refine ⟨⟨ended, hpartition⟩, hsound, h.aligned, h.born, ?_, ?_⟩
  · intro n id generation task' hattempt hincarnation hknown
    obtain ⟨task, hold, hsteady⟩ := hgoes id task' hknown
    obtain ⟨hle, hcurrent⟩ := h.current n id generation task hattempt hincarnation hold
    refine ⟨hle.trans hsteady.le, fun heq ↦ ?_⟩
    have hgeneration : task'.generation = task.generation :=
      le_antisymm (heq.ge.trans hle) hsteady.le
    rcases hcurrent (heq.trans hgeneration) with ⟨stepIndex, hstate⟩ | hfinished
    · exact .inl ⟨stepIndex, (hsteady.executing hgeneration stepIndex generation).mpr hstate⟩
    · right
      dsimp only
      rw [if_pos, hfinished]
      rw [generationOf_of_known hbefore hold, hafter hknown, hgeneration]
  · intro id generation task' hfinished hknown
    dsimp only at hfinished
    obtain ⟨task, hold, hsteady⟩ := hgoes id task' hknown
    split at hfinished
    case isTrue hsame =>
      rw [generationOf_of_known hbefore hold, hafter hknown, Option.some_inj] at hsame
      obtain ⟨hgeneration, hidle⟩ := h.finished id generation task hfinished hold
      refine ⟨hsame.symm.trans hgeneration, fun stepIndex generation hstate ↦ ?_⟩
      exact hidle stepIndex generation
        ((hsteady.executing hsame.symm stepIndex generation).mp hstate)
    case isFalse => cases hfinished

/-- A new object of an id has no attempts yet. -/
theorem Followed.created (h : Followed host history) {post : TaskPlane} {ended : List TaskId}
    (hpartition : post.Partition ended) (hsound : post.Sound) {id : TaskId}
    (hothers : ∀ other task, other ≠ id → post.Known other task → host.plane.Known other task) :
    Followed { host with plane := post }
      { history with
        births := Function.update history.births id (history.births id + 1)
        finished := Function.update history.finished id none } := by
  refine ⟨⟨ended, hpartition⟩, hsound, h.aligned, ?_, ?_, ?_⟩
  · intro n other generation incarnation hattempt hincarnation
    have hle := h.born n other generation incarnation hattempt hincarnation
    by_cases heq : other = id
    · subst heq
      dsimp only
      rw [Function.update_self]
      exact Nat.le_succ_of_le hle
    · dsimp only
      rwa [Function.update_of_ne heq]
  · intro n other generation task hattempt hincarnation hknown
    by_cases heq : other = id
    · subst heq
      dsimp only at hincarnation
      rw [Function.update_self] at hincarnation
      exact absurd (h.born n other generation _ hattempt hincarnation) (Nat.not_succ_le_self _)
    · dsimp only at hincarnation ⊢
      rw [Function.update_of_ne heq] at hincarnation ⊢
      exact h.current n other generation task hattempt hincarnation (hothers other task heq hknown)
  · intro other generation task hfinished hknown
    dsimp only at hfinished
    by_cases heq : other = id
    · subst heq
      rw [Function.update_self] at hfinished
      cases hfinished
    · rw [Function.update_of_ne heq] at hfinished
      exact h.finished other generation task hfinished (hothers other task heq hknown)

/-- The end of a step closes the attempt of its generation. -/
theorem Followed.finishStep (h : Followed host history) {post : TaskPlane} {ended : List TaskId}
    (hpartition : post.Partition ended) (hsound : post.Sound) {id : TaskId}
    (hothers : ∀ other task, other ≠ id → post.Known other task → host.plane.Known other task)
    (hfinished : ∀ task', post.Known id task' → ∃ task, host.plane.Known id task ∧
      task'.generation = task.generation ∧
        ∀ stepIndex generation, task'.state ≠ .executing stepIndex generation) :
    Followed { host with plane := post }
      { history with
        finished := Function.update history.finished id (generationOf host id) } := by
  obtain ⟨before, hbefore⟩ := h.partition
  refine ⟨⟨ended, hpartition⟩, hsound, h.aligned, h.born, ?_, ?_⟩
  · intro n other generation task' hattempt hincarnation hknown
    dsimp only
    by_cases heq : other = id
    · subst heq
      obtain ⟨task, hold, hgeneration, -⟩ := hfinished task' hknown
      rw [Function.update_self, generationOf_of_known hbefore hold, ← hgeneration]
      refine ⟨?_, fun hsame ↦ .inr (congrArg some hsame.symm)⟩
      rw [hgeneration]
      exact (h.current n other generation task hattempt hincarnation hold).1
    · rw [Function.update_of_ne heq]
      exact h.current n other generation task' hattempt hincarnation (hothers other task' heq hknown)
  · intro other generation task' hother hknown
    dsimp only at hother
    by_cases heq : other = id
    · subst heq
      obtain ⟨task, hold, hgeneration, hidle⟩ := hfinished task' hknown
      rw [Function.update_self, generationOf_of_known hbefore hold, Option.some_inj] at hother
      exact ⟨hgeneration.trans hother, hidle⟩
    · rw [Function.update_of_ne heq] at hother
      exact h.finished other generation task' hother (hothers other task' heq hknown)

theorem executingGeneration_eq_some {state : TaskState} {generation : Nat} :
    executingGeneration state = some generation ↔
      ∃ stepIndex, state = .executing stepIndex generation := by
  cases state <;> simp [executingGeneration]

/-- An attempt is taken under the current generation of its task. -/
theorem Followed.generation_eq (h : Followed host history) {id : TaskId} {task : AgentTask}
    {stepIndex generation : Nat} (hknown : host.plane.Known id task)
    (hstate : task.state = .executing stepIndex generation) : generation = task.generation := by
  rcases hknown with hactive | ⟨hretained, -⟩
  · exact ((h.sound id task hactive).executing stepIndex generation hstate).1
  · obtain ⟨ended, hpartition⟩ := h.partition
    have hterminal := hpartition.retained task hretained
    rw [AgentTask.isTerminal, hstate] at hterminal
    cases hterminal

theorem Followed.attempt (h : Followed host history) {id : TaskId} {generation : Nat}
    (hexecuting : (host.plane.task id).bind (executingGeneration ·.state) = some generation) :
    Followed { host with attempts := host.attempts ++ [(id, generation)] }
      { history with incarnations := history.incarnations ++ [history.births id] } := by
  obtain ⟨task, htask, hstate⟩ := Option.bind_eq_some_iff.mp hexecuting
  obtain ⟨stepIndex, hstate⟩ := executingGeneration_eq_some.mp hstate
  have hknown := TaskPlane.known_of_task htask
  obtain ⟨ended, hpartition⟩ := h.partition
  refine ⟨h.partition, h.sound, ?_, ?_, ?_, h.finished⟩
  · rw [List.length_append, List.length_append, h.aligned]
    rfl
  · intro n other generation' incarnation hattempt hincarnation
    rcases getElem?_concat hattempt with hold | ⟨rfl, hnew⟩
    · have hlt := (List.getElem?_eq_some_iff.mp hold).1
      rw [List.getElem?_append_left (h.aligned.symm ▸ hlt)] at hincarnation
      exact h.born n other generation' incarnation hold hincarnation
    · cases hnew
      rw [← h.aligned, List.getElem?_concat_length] at hincarnation
      exact (Option.some_inj.mp hincarnation).ge
  · intro n other generation' task' hattempt hincarnation hknown'
    rcases getElem?_concat hattempt with hold | ⟨rfl, hnew⟩
    · have hlt := (List.getElem?_eq_some_iff.mp hold).1
      rw [List.getElem?_append_left (h.aligned.symm ▸ hlt)] at hincarnation
      exact h.current n other generation' task' hold hincarnation hknown'
    · cases hnew
      cases hpartition.known_unique hknown hknown'
      exact ⟨(h.generation_eq hknown hstate).le, fun _ ↦ .inl ⟨stepIndex, hstate⟩⟩

/-- **Every step keeps what the history says.** -/
theorem Followed.next (h : Followed host history) (op : Op) :
    Followed ((machine holdsAt).next host op)
      (history.observe ((machine holdsAt).event host op)) := by
  cases op with
  | plane op =>
    obtain ⟨ended, hbefore⟩ := h.partition
    have hpartition := hbefore.next op
    have hsound := h.sound.next op
    have hcourse := hbefore.course op
    change (host.plane.perform op).1.Partition _ at hpartition
    change (host.plane.perform op).1.Sound at hsound
    rw [event_plane]
    change Followed { host with plane := (host.plane.perform op).1 } _
    generalize host.plane.perform op = result at hpartition hsound hcourse
    cases hcourse with
    | created id _ _ _ post reply hothers => exact h.created hpartition hsound hothers
    | finished id nowMs post reply hothers hfinished =>
      exact h.finishStep hpartition hsound hothers hfinished
    | goes op post result hgoes hother =>
      rw [observe_goes hother]
      exact h.goes hpartition hsound hgoes
  | attempt id =>
    rw [Machine.next, Machine.event]
    cases hexecuting : (host.plane.task id).bind (executingGeneration ·.state) with
    | some generation =>
      have hstep : (machine holdsAt).step host (.attempt id) =
          ({ host with attempts := host.attempts ++ [(id, generation)] },
            .attempt (some generation)) := by
        change step holdsAt host (.attempt id) = _
        rw [step, hexecuting]
      rw [hstep]
      exact h.attempt hexecuting
    | none =>
      have hstep : (machine holdsAt).step host (.attempt id) = (host, .attempt none) := by
        change step holdsAt host (.attempt id) = _
        rw [step, hexecuting]
      rw [hstep]
      exact h
  | execute attempt authority action rule answer =>
    have hstep : (step holdsAt host (.execute attempt authority action rule answer)).1 = host := by
      rw [step]
      split
      · rfl
      · split <;> rfl
    change Followed (step holdsAt host (.execute attempt authority action rule answer)).1 history
    rw [hstep]
    exact h

/-! ## Verified results -/

theorem Followed.incarnation (h : Followed host history) {n : Nat} {id : TaskId} {generation : Nat}
    (hattempt : host.attempts[n]? = some (id, generation)) :
    ∃ incarnation, history.incarnations[n]? = some incarnation := by
  have hlt := (List.getElem?_eq_some_iff.mp hattempt).1
  rw [← h.aligned] at hlt
  exact ⟨_, List.getElem?_eq_getElem hlt⟩

/-- When the fence lets a result pass, its attempt is running unless it is overdue. -/
theorem Followed.running_iff (h : Followed host history) {n : Nat} {id : TaskId}
    {generation : Nat} {task : AgentTask} (hattempt : host.attempts[n]? = some (id, generation))
    (htask : host.plane.task id = some task) (hcancelled : task.state.kind ≠ .cancelled)
    (hgeneration : generation = task.generation) :
    running host history n = true ↔ overdue host history n = false := by
  have hknown := TaskPlane.known_of_task htask
  obtain ⟨incarnation, hincarnation⟩ := h.incarnation hattempt
  rw [running, overdue, hattempt, hincarnation]
  dsimp only
  rw [htask]
  dsimp only
  rw [decide_eq_true hcancelled, Bool.true_and, Option.bind_some]
  by_cases hcurrent : incarnation = history.births id
  · rw [decide_eq_true hcurrent, Bool.true_and, decide_eq_true_iff, if_pos hcurrent,
      decide_eq_false_iff_not, executingGeneration_eq_some]
    rw [hcurrent] at hincarnation
    constructor
    · rintro ⟨stepIndex, hstate⟩ hfinished
      exact (h.finished id generation task hfinished hknown).2 stepIndex generation hstate
    · intro hopen
      obtain ⟨-, hsame⟩ := h.current n id generation task hattempt hincarnation hknown
      exact (hsame hgeneration).resolve_right hopen
  · rw [decide_eq_false hcurrent, Bool.false_and, if_neg hcurrent, decide_eq_false_iff_not]
    exact iff_of_false Bool.false_ne_true (not_not.mpr hgeneration.symm)

/-- An attempt that is overdue passes the fence. -/
theorem Followed.fence_of_overdue (h : Followed host history) {n : Nat} {id : TaskId}
    {generation : Nat} {task : AgentTask} (hattempt : host.attempts[n]? = some (id, generation))
    (htask : host.plane.task id = some task) (hoverdue : overdue host history n = true) :
    task.state.kind ≠ .cancelled ∧ generation = task.generation := by
  obtain ⟨incarnation, hincarnation⟩ := h.incarnation hattempt
  rw [overdue, hattempt, hincarnation] at hoverdue
  dsimp only at hoverdue
  rw [htask] at hoverdue
  dsimp only at hoverdue
  rw [Bool.and_eq_true, decide_eq_true_iff] at hoverdue
  obtain ⟨hcancelled, hoverdue⟩ := hoverdue
  refine ⟨hcancelled, ?_⟩
  split at hoverdue
  case isTrue =>
    exact (h.finished id generation task (of_decide_eq_true hoverdue)
      (TaskPlane.known_of_task htask)).1.symm
  case isFalse => exact (of_decide_eq_true hoverdue).symm

/-- A tool execution for a task that is not known gives no evidence. -/
theorem step_execute_unknown {attempt : Nat} {authority : AuthenticatedControl}
    {action : ToolAction} {rule : ToolVerificationRule}
    {answer : Except EngineError ToolExecutionResult}
    (h : ∀ id generation, host.attempts[attempt]? = some (id, generation) →
      host.plane.task id = none) :
    step holdsAt host (.execute attempt authority action rule answer) = (host, .unknown) := by
  rw [step]
  cases hattempt : host.attempts[attempt]? with
  | none => rfl
  | some expected =>
    dsimp only
    rw [TaskPlane.executionSnapshot, h expected.1 expected.2 hattempt]

theorem step_execute_known {attempt : Nat} {authority : AuthenticatedControl}
    {action : ToolAction} {rule : ToolVerificationRule}
    {answer : Except EngineError ToolExecutionResult} {id : TaskId} {generation : Nat}
    {task : AgentTask} (hattempt : host.attempts[attempt]? = some (id, generation))
    (htask : host.plane.task id = some task) :
    step holdsAt host (.execute attempt authority action rule answer) =
      (host, .tool (executeVerifiedTool holdsAt authority action generation (fun _ ↦ answer)
        ⟨task.generation, task.state.kind = .cancelled⟩ rule)) := by
  rw [step, hattempt]
  dsimp only
  rw [TaskPlane.executionSnapshot, htask]

/-- When the evidence of a tool execution is verified. -/
theorem executeVerifiedTool_verified {authority : AuthenticatedControl} {action : ToolAction}
    {expectedGeneration : Nat} {answer : Except EngineError ToolExecutionResult}
    {snapshot : ToolCommitStateSnapshot} {rule : ToolVerificationRule} :
    (∃ evidence, executeVerifiedTool holdsAt authority action expectedGeneration (fun _ ↦ answer)
        snapshot rule = .ok evidence ∧ evidence.verification = .verified) ↔
      Capability.toolGrant ∈ authority.capabilities ∧ ∃ result, answer = .ok result ∧
        result.satisfies holdsAt action rule = true ∧ snapshot.cancelled = false ∧
          expectedGeneration = snapshot.observedGeneration := by
  rw [executeVerifiedTool, authorizeToolAction]
  by_cases hgrant : Capability.toolGrant ∈ authority.capabilities
  · rw [if_pos hgrant]
    cases answer with
    | error error =>
      refine iff_of_false ?_ ?_
      · rintro ⟨evidence, ⟨⟩, -⟩
      · rintro ⟨-, result, ⟨⟩, -⟩
    | ok result =>
      constructor
      · rintro ⟨evidence, hevidence, hverified⟩
        cases hevidence
        obtain ⟨hfence, hsatisfies⟩ := (verifyToolResult_eq_verified holdsAt).mp hverified
        exact ⟨hgrant, result, rfl, hsatisfies, refusal_eq_none.mp hfence⟩
      · rintro ⟨-, _, ⟨⟩, hsatisfies, hfence⟩
        exact ⟨_, rfl, (verifyToolResult_eq_verified holdsAt).mpr
          ⟨refusal_eq_none.mpr hfence, hsatisfies⟩⟩
  · rw [if_neg hgrant]
    refine iff_of_false ?_ fun h ↦ hgrant h.1
    rintro ⟨evidence, ⟨⟩, -⟩

/-- The two conditions on the end of a tool execution, spelt out. -/
theorem belongs_execute {attempt : Nat} {authority : AuthenticatedControl} {action : ToolAction}
    {rule : ToolVerificationRule} {answer : Except EngineError ToolExecutionResult}
    {post : ToolHost} {evidence : Except EngineError ToolExecutionEvidence} :
    belongs history ⟨host, .execute attempt authority action rule answer, post, .tool evidence⟩ =
        true ↔
      ((∃ found, evidence = .ok found ∧ found.verification = .verified) →
        running host history attempt = true) := by
  cases evidence with
  | error error => simp [belongs]
  | ok found => simp [belongs, imp_iff_not_or]

theorem timely_execute {attempt : Nat} {authority : AuthenticatedControl} {action : ToolAction}
    {rule : ToolVerificationRule} {answer : Except EngineError ToolExecutionResult}
    {post : ToolHost} {output : Answer} :
    timely holdsAt history ⟨host, .execute attempt authority action rule answer, post, output⟩ =
        true ↔
      (Capability.toolGrant ∈ authority.capabilities → ∀ result, answer = .ok result →
        result.satisfies holdsAt action rule = true → overdue host history attempt = false) := by
  cases answer with
  | error error => simp [timely]
  | ok result =>
    simp only [Except.ok.injEq, forall_eq']
    by_cases hgrant : Capability.toolGrant ∈ authority.capabilities
    · simp [timely, hgrant, imp_iff_not_or]
    · simp [timely, hgrant]

/-- A task that is not known is not overdue. -/
theorem overdue_eq_false {attempt : Nat}
    (h : ∀ id generation, host.attempts[attempt]? = some (id, generation) →
      host.plane.task id = none) : overdue host history attempt = false := by
  rw [overdue]
  split
  case h_1 id generation incarnation hattempt _ => rw [h id generation hattempt]
  case h_2 => rfl

theorem Followed.belongs_iff (h : Followed host history) (op : Op) :
    belongs history ((machine holdsAt).event host op) = true ↔
      timely holdsAt history ((machine holdsAt).event host op) = true := by
  cases op with
  | plane op => exact Iff.rfl
  | attempt id => exact Iff.rfl
  | execute attempt authority action rule answer =>
    rw [Machine.event]
    by_cases hknown : ∀ id generation, host.attempts[attempt]? = some (id, generation) →
        host.plane.task id = none
    · have hstep : (machine holdsAt).step host (.execute attempt authority action rule answer) =
          (host, .unknown) := step_execute_unknown hknown
      rw [hstep, timely_execute]
      exact iff_of_true rfl fun _ _ _ _ ↦ overdue_eq_false hknown
    · push Not at hknown
      obtain ⟨id, generation, hattempt, hknown⟩ := hknown
      obtain ⟨task, htask⟩ := Option.ne_none_iff_exists'.mp hknown
      have hstep : (machine holdsAt).step host (.execute attempt authority action rule answer) =
          _ := step_execute_known hattempt htask
      rw [hstep, belongs_execute, timely_execute, executeVerifiedTool_verified]
      dsimp only
      rw [decide_eq_false_iff_not]
      constructor
      · intro hbelongs hgrant result hanswer hsatisfies
        by_contra hoverdue
        rw [Bool.not_eq_false] at hoverdue
        obtain ⟨hcancelled, hgeneration⟩ := h.fence_of_overdue hattempt htask hoverdue
        have hrunning := hbelongs ⟨hgrant, result, hanswer, hsatisfies, hcancelled, hgeneration⟩
        rw [(h.running_iff hattempt htask hcancelled hgeneration).mp hrunning] at hoverdue
        cases hoverdue
      · rintro htimely ⟨hgrant, result, hanswer, hsatisfies, hcancelled, hgeneration⟩
        exact (h.running_iff hattempt htask hcancelled hgeneration).mpr
          (htimely hgrant result hanswer hsatisfies)

/-- **Verified results belong to the running attempt** exactly in the runs where none arrives for
an attempt that is overdue. -/
theorem verified_belongs_iff {config : TaskPlaneConfig} {plane : TaskPlane}
    (h : TaskPlane.new config = .ok plane) (ops : List Op) :
    (machine holdsAt).Meets AttemptHistory.observe (fun history e ↦ belongs history e = true)
        (new plane) .empty ops ↔
      (machine holdsAt).Meets AttemptHistory.observe
        (fun history e ↦ timely holdsAt history e = true) (new plane) .empty ops := by
  refine (machine holdsAt).meets_congr_of_watch (P := Followed) (fun _ _ op hf _ ↦ hf.next op)
    (fun _ _ op hf ↦ hf.belongs_iff op) ?_ ops
  refine ⟨⟨[], TaskPlane.new_partition h⟩, TaskPlane.new_sound h, rfl, ?_, ?_, ?_⟩
  · rintro n id generation incarnation ⟨⟩
  · rintro n id generation task ⟨⟩
  · rintro id generation task ⟨⟩

end Followed

/-- Equality of whole flags, which is what the empty pointer leads to. -/
def wholeFlag : JsonValue → String → JsonValue → Bool
  | .bool value, pointer, .bool expected => pointer = "" && value = expected
  | _, _, _ => false

/-- The end of a successful read for the first attempt. -/
def flagRead : Op :=
  .execute 0 ⟨"operator", .operatorUi, {.toolGrant}⟩ ⟨"fixture", "read", ∅⟩
    (.jsonEquals "" (.bool true))
    (.ok ⟨"local", "fixture", "read", .success, some (.bool true), none, 1⟩)

/-- The read returns while its step is executing. -/
def timelyRead : List Op :=
  (TaskPlane.started TaskPlane.first 0).map .plane ++
    [.attempt TaskPlane.first, flagRead, .plane (.finishStep TaskPlane.first 1)]

theorem verified_belongs_timely :
    (machine wholeFlag).Meets AttemptHistory.observe (fun history e ↦ belongs history e = true)
      (new TaskPlane.narrowPlane) .empty timelyRead :=
  (verified_belongs_iff TaskPlane.narrowPlane_new timelyRead).mpr (by decide +kernel)

/-- The read returns once its step has been finished, and the task is under verification. -/
def lateRead : List Op :=
  (TaskPlane.started TaskPlane.first 0).map .plane ++
    [.attempt TaskPlane.first, .plane (.finishStep TaskPlane.first 1), flagRead]

theorem late_read_verified :
    ∃ plane, TaskPlane.new ⟨4, 1, 16⟩ = .ok plane ∧
      ¬(machine wholeFlag).Meets AttemptHistory.observe (fun history e ↦ belongs history e = true)
        (new plane) .empty lateRead :=
  ⟨TaskPlane.narrowPlane, TaskPlane.narrowPlane_new, by decide +kernel⟩

end ToolHost

end Aivtuber
