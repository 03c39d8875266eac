import Aivtuber.Domain.TaskFence

/-!
# The task plane

`TaskPlane` of `crates/app/src/task_plane.rs`: the active tasks by id, and a bounded
queue of terminal ones.  A task operation runs on the active task and, when its
transition ends the task, moves it to the queue, whose oldest entries are forgotten.
-/

open Aivtuber.Check Saturating
open Std (ExtTreeMap)

namespace Aivtuber

namespace TaskId

instance : Ord TaskId := ⟨fun a b ↦ compare a.value b.value⟩

theorem compare_eq (a b : TaskId) : compare a b = compare a.value b.value := rfl

instance : Std.TransOrd TaskId where
  eq_swap {a b} := by
    rw [compare_eq, compare_eq]
    exact Std.OrientedOrd.eq_swap
  isLE_trans {a b c} := by
    rw [compare_eq, compare_eq, compare_eq]
    exact Std.TransOrd.isLE_trans

instance : Std.LawfulEqOrd TaskId where
  compare_self {a} := by
    rw [compare_eq]
    exact Std.ReflOrd.compare_self
  eq_of_compare {a b} h := by
    obtain ⟨a, ha⟩ := a
    obtain ⟨b, hb⟩ := b
    obtain rfl : a = b := Std.LawfulEqOrd.eq_of_compare h
    rfl

end TaskId

def maxActiveTasksHard : Nat := 256
def maxRetainedTasksHard : Nat := 512
def maxTaskTransitionRecordsHard : Nat := 16384

inductive TaskPlaneError where
  | invalidConfiguration (field : String)
  | duplicateTask (id : TaskId)
  | activeCapacityExceeded
  | unknownTask (id : TaskId)
  | taskNotActive (id : TaskId) (state : TaskStateKind)
  | staleCommit (expected observed : Nat)
  | task (error : TaskError)
deriving DecidableEq

structure TaskPlaneConfig where
  maxActiveTasks : Nat
  maxRetainedTasks : Nat
  maxTransitionRecords : Nat
deriving DecidableEq, Repr

namespace TaskPlaneConfig

def default : TaskPlaneConfig where
  maxActiveTasks := 32
  maxRetainedTasks := 64
  maxTransitionRecords := 1024

def validate (config : TaskPlaneConfig) : Except TaskPlaneError TaskPlaneConfig := do
  ensure (.invalidConfiguration "max_active_tasks")
    (0 < config.maxActiveTasks && config.maxActiveTasks ≤ maxActiveTasksHard)
  ensure (.invalidConfiguration "max_retained_tasks")
    (0 < config.maxRetainedTasks && config.maxRetainedTasks ≤ maxRetainedTasksHard)
  ensure (.invalidConfiguration "max_transition_records")
    (0 < config.maxTransitionRecords && config.maxTransitionRecords ≤ maxTaskTransitionRecordsHard)
  .ok config

example : default.validate = .ok default := by decide

end TaskPlaneConfig

/-- A bounded record of transitions. -/
structure TaskTransitionCollector where
  records : List TaskTransition
  maxRecords : Nat
  highWater : Nat
  evicted : Nat

def TaskTransitionCollector.record (collector : TaskTransitionCollector)
    (transition : TaskTransition) : TaskTransitionCollector :=
  let records := collector.records ++ [transition]
  let excess := records.length - collector.maxRecords
  { collector with
    records := records.drop excess
    evicted := satAdd collector.evicted excess
    highWater := max collector.highWater (records.drop excess).length }

/-- What a task shows to an asynchronous execution. -/
structure ToolCommitStateSnapshot where
  observedGeneration : Nat
  cancelled : Bool
deriving DecidableEq, Repr

/-- The expectation of a tool execution, against the state of its task once it returned. -/
structure ToolCommitFence where
  expectedGeneration : Nat
  observedGeneration : Nat
  cancelled : Bool
deriving DecidableEq, Repr

/-- The checks of the fence in `verify_tool_result`: what it makes of the result, if it
does not let it pass. -/
def ToolCommitFence.refusal (fence : ToolCommitFence) : Option ToolVerificationOutcome :=
  if fence.cancelled then some .cancelled
  else if fence.expectedGeneration ≠ fence.observedGeneration then some .stale
  else none

structure TaskPlane where
  active : ExtTreeMap TaskId AgentTask
  /-- Terminal tasks, oldest first. -/
  retained : List AgentTask
  transitions : TaskTransitionCollector
  config : TaskPlaneConfig

namespace TaskPlane

def new (config : TaskPlaneConfig) : Except TaskPlaneError TaskPlane := do
  let config ← config.validate
  .ok {
    active := ∅
    retained := []
    transitions :=
      { records := [], maxRecords := config.maxTransitionRecords, highWater := 0, evicted := 0 }
    config }

/-- The newest retained task of an id. -/
def retainedTask (plane : TaskPlane) (id : TaskId) : Option AgentTask :=
  plane.retained.reverse.find? (·.id = id)

def task (plane : TaskPlane) (id : TaskId) : Option AgentTask :=
  plane.active[id]?.or (plane.retainedTask id)

/-- The active task of an id. -/
def activeTask (plane : TaskPlane) (id : TaskId) : Except TaskPlaneError AgentTask :=
  match plane.active[id]? with
  | some task => .ok task
  | none =>
    match plane.retainedTask id with
    | some task => .error (.taskNotActive id task.state.kind)
    | none => .error (.unknownTask id)

def createTask (plane : TaskPlane) (id : TaskId) (requestedOutcome : String) (createdAtMs : Nat)
    (limits : TaskLimits) : TaskPlane × Except TaskPlaneError Unit :=
  if (plane.task id).isSome then (plane, .error (.duplicateTask id))
  else if plane.config.maxActiveTasks ≤ plane.active.size then
    (plane, .error .activeCapacityExceeded)
  else
    match AgentTask.new id requestedOutcome createdAtMs limits with
    | .error error => (plane, .error (.task error))
    | .ok task => ({ plane with active := plane.active.insert id task }, .ok ())

/-- Record a transition; a task that it ends leaves the active map. -/
def acceptTransition (plane : TaskPlane) (transition : TaskTransition) : TaskPlane :=
  let plane := { plane with transitions := plane.transitions.record transition }
  if transition.target.isTerminal then
    match plane.active[transition.taskId]? with
    | none => plane
    | some task =>
      let retained := plane.retained ++ [task]
      { plane with
        active := plane.active.erase transition.taskId
        retained := retained.drop (retained.length - plane.config.maxRetainedTasks) }
  else plane

/-- Run an operation of the active task, and accept its transition. -/
def act (plane : TaskPlane) (id : TaskId) (nowMs : Nat) (op : AgentTask.Op) :
    TaskPlane × Except TaskPlaneError AgentTask.Reply :=
  match plane.activeTask id with
  | .error error => (plane, .error error)
  | .ok task =>
    let (task, result) := task.perform nowMs op
    let plane := { plane with active := plane.active.insert id task }
    match result with
    | .error error => (plane, .error (.task error))
    | .ok reply => (reply.transition?.elim plane plane.acceptTransition, .ok reply)

/-! ## Operations -/

def beginPlanning (plane : TaskPlane) (id : TaskId) (nowMs : Nat) := plane.act id nowMs .beginPlanning

/-- The clock is not read. -/
def addStep (plane : TaskPlane) (id : TaskId) (description : String) :=
  plane.act id 0 (.addStep description)

def markReady (plane : TaskPlane) (id : TaskId) (nowMs : Nat) := plane.act id nowMs .markReady

def waitFor (plane : TaskPlane) (id : TaskId) (kind : PendingCommitmentKind) (summary : String)
    (ttlMs nowMs : Nat) := plane.act id nowMs (.waitFor kind summary ttlMs)

def resume (plane : TaskPlane) (id : TaskId) (nowMs : Nat) := plane.act id nowMs .resume

def beginExecution (plane : TaskPlane) (id : TaskId) (stepIndex nowMs : Nat) :=
  plane.act id nowMs (.beginExecution stepIndex)

/-- The clock is not read. -/
def recordToolEvidence (plane : TaskPlane) (id : TaskId) (observedGeneration : Nat)
    (result : ToolExecutionResult) (verification : ToolVerificationOutcome) :=
  plane.act id 0 (.recordObservation observedGeneration result verification)

def finishStep (plane : TaskPlane) (id : TaskId) (nowMs : Nat) := plane.act id nowMs .finishStep

def retryCurrentStep (plane : TaskPlane) (id : TaskId) (nowMs : Nat) :=
  plane.act id nowMs .retryCurrentStep

def replan (plane : TaskPlane) (id : TaskId) (nowMs : Nat) := plane.act id nowMs .replan

def cancel (plane : TaskPlane) (id : TaskId) (reason : String) (nowMs : Nat) :=
  plane.act id nowMs (.cancel reason)

def executionSnapshot (plane : TaskPlane) (id : TaskId) :
    Except TaskPlaneError ToolCommitStateSnapshot :=
  match plane.task id with
  | none => .error (.unknownTask id)
  | some task =>
    .ok { observedGeneration := task.generation, cancelled := task.state.kind = .cancelled }

def commitVerification (plane : TaskPlane) (id : TaskId) (expectedGeneration : Nat)
    (result : VerificationResult) (nowMs : Nat) :
    TaskPlane × Except TaskPlaneError AgentTask.Reply :=
  match plane.activeTask id with
  | .error error => (plane, .error error)
  | .ok task =>
    if task.generation ≠ expectedGeneration then
      (plane, .error (.staleCommit expectedGeneration task.generation))
    else plane.act id nowMs (.verify expectedGeneration result)

/-- The sweep over the ids that were active when it began. -/
def expireLoop (nowMs : Nat) : List TaskId → TaskPlane → Nat →
    TaskPlane × Except TaskPlaneError Nat
  | [], plane, expired => (plane, .ok expired)
  | id :: ids, plane, expired =>
    match plane.act id nowMs .expireIfNeeded with
    | (plane, .error error) => (plane, .error error)
    | (plane, .ok reply) =>
      expireLoop nowMs ids plane (expired + reply.transition?.elim 0 fun _ ↦ 1)

def expire (plane : TaskPlane) (nowMs : Nat) : TaskPlane × Except TaskPlaneError Nat :=
  expireLoop nowMs plane.active.keys plane 0

end TaskPlane

end Aivtuber
