import Aivtuber.Base.Machine
import Aivtuber.Domain.Event

/-!
# Agent tasks

`AgentTask` of `crates/domain/src/task.rs`.  Operations take the task and return it
with their result.  Most leave it alone when they fail (`attempt`); a retry or a
replan whose generation counter is exhausted has by then counted itself.
-/

open Aivtuber.Check Aivtuber.Text Saturating

namespace Aivtuber

def maxTaskIdBytes : Nat := 128
def maxTaskRequestBytes : Nat := 4 * 1024
def maxTaskStepBytes : Nat := 1024
def maxTaskReasonBytes : Nat := 1024
def maxTaskStepsHard : Nat := 64
def maxTaskObservationsHard : Nat := 64
def maxTaskRetriesHard : Nat := 16
def maxTaskReplansHard : Nat := 16
def maxTaskLifetimeMsHard : Nat := 24 * 60 * 60 * 1000
def maxTaskPendingTtlMsHard : Nat := 60 * 60 * 1000

inductive TaskStepState where
  | pending | executing | executed
deriving DecidableEq, Repr

structure TaskStep where
  index : Nat
  description : String
  state : TaskStepState
deriving DecidableEq, Repr

inductive PendingCommitmentKind where
  | approval | dependency
deriving DecidableEq, Repr

structure PendingCommitment where
  kind : PendingCommitmentKind
  summary : String
  expiresAtMs : Nat
deriving DecidableEq, Repr

inductive TaskVerificationOutcome where
  | verified | failed | notVerified | cancelled | stale
deriving DecidableEq, Repr

structure VerificationResult where
  outcome : TaskVerificationOutcome
  reason : Option String
deriving DecidableEq, Repr

inductive TaskOutcome where
  | completed
  | failed (reason : String)
  | cancelled (reason : String)
  | notVerified (reason : String)
  | expired
deriving DecidableEq, Repr

inductive TaskState where
  | accepted
  | planning
  | ready
  | waiting (commitment : PendingCommitment)
  | executing (stepIndex generation : Nat)
  | verifying (generation : Nat)
  | completed
  | failed
  | cancelled
  | notVerified
  | expired
deriving DecidableEq, Repr

inductive TaskStateKind where
  | accepted | planning | ready | waitingApproval | waitingDependency | executing | verifying
  | completed | failed | cancelled | notVerified | expired
deriving DecidableEq, Repr

def TaskState.kind : TaskState → TaskStateKind
  | .accepted => .accepted
  | .planning => .planning
  | .ready => .ready
  | .waiting commitment =>
    match commitment.kind with
    | .approval => .waitingApproval
    | .dependency => .waitingDependency
  | .executing _ _ => .executing
  | .verifying _ => .verifying
  | .completed => .completed
  | .failed => .failed
  | .cancelled => .cancelled
  | .notVerified => .notVerified
  | .expired => .expired

def TaskStateKind.isTerminal : TaskStateKind → Bool
  | .completed | .failed | .cancelled | .notVerified | .expired => true
  | _ => false

inductive TaskTransitionReason where
  | planningStarted | planReady | approvalPending | dependencyPending | commitmentSatisfied
  | stepStarted | stepFinished | retryScheduled | replanStarted | verificationPassed
  | verificationFailed | verificationNotProven | verificationCancelled | verificationStale
  | cancelled | taskExpired | commitmentExpired
deriving DecidableEq, Repr

inductive TaskError where
  | invalidConfiguration (field : String)
  | invalidText (field : String) (limit : Nat)
  | invalidTransition (source : TaskStateKind) (action : String)
  | planHasNoSteps
  | stepLimitExceeded
  | stepOutOfRange (index : Nat)
  | stepNotPending (index : Nat)
  | retryLimitExceeded
  | replanLimitExceeded
  | invalidPendingTtl
  | staleGeneration (expected observed : Nat)
  | generationExhausted
  | nonMonotonicTime (previous observed : Nat)
deriving DecidableEq, Repr

/-- A text that is not blank and fits. -/
def validateText (field value : String) (maxBytes : Nat) : Except TaskError Unit :=
  ensure (.invalidText field maxBytes) (!(isBlank value) && (utf8 value).length ≤ maxBytes)

/-- A task identity: never blank, and bounded. -/
structure TaskId where
  value : String
  valid : validateText "task_id" value maxTaskIdBytes = .ok ()
deriving DecidableEq

structure TaskLimits where
  maxSteps : Nat
  maxObservations : Nat
  maxRetries : Nat
  maxReplans : Nat
  maxLifetimeMs : Nat
  maxPendingTtlMs : Nat
deriving DecidableEq, Repr

namespace TaskLimits

def default : TaskLimits where
  maxSteps := 16
  maxObservations := 8
  maxRetries := 2
  maxReplans := 2
  maxLifetimeMs := 15 * 60 * 1000
  maxPendingTtlMs := 5 * 60 * 1000

def validate (limits : TaskLimits) : Except TaskError TaskLimits := do
  ensure (.invalidConfiguration "max_steps")
    (0 < limits.maxSteps && limits.maxSteps ≤ maxTaskStepsHard)
  ensure (.invalidConfiguration "max_observations")
    (0 < limits.maxObservations && limits.maxObservations ≤ maxTaskObservationsHard)
  ensure (.invalidConfiguration "max_retries") (limits.maxRetries ≤ maxTaskRetriesHard)
  ensure (.invalidConfiguration "max_replans") (limits.maxReplans ≤ maxTaskReplansHard)
  ensure (.invalidConfiguration "max_lifetime_ms")
    (0 < limits.maxLifetimeMs && limits.maxLifetimeMs ≤ maxTaskLifetimeMsHard)
  ensure (.invalidConfiguration "max_pending_ttl_ms")
    (0 < limits.maxPendingTtlMs && limits.maxPendingTtlMs ≤ maxTaskPendingTtlMsHard &&
      limits.maxPendingTtlMs ≤ limits.maxLifetimeMs)
  .ok limits

example : default.validate = .ok default := by decide

end TaskLimits

structure TaskTransition where
  taskId : TaskId
  source : TaskStateKind
  target : TaskStateKind
  reason : TaskTransitionReason
  atMs : Nat
  generation : Nat
  retries : Nat
  replans : Nat
deriving DecidableEq

inductive ToolResultClass where
  | success | toolError | malformed
deriving DecidableEq, Repr

structure ToolExecutionResult where
  server : String
  tool : String
  operation : String
  resultClass : ToolResultClass
  content : Option JsonValue
  schemaFingerprint : Option String
  latencyMs : Nat

inductive ToolVerificationOutcome where
  | verified | failed | notProven | cancelled | stale
deriving DecidableEq, Repr

structure TaskObservation where
  stepIndex : Nat
  generation : Nat
  result : ToolExecutionResult
  verification : ToolVerificationOutcome

structure AgentTask where
  id : TaskId
  requestedOutcome : String
  state : TaskState
  steps : List TaskStep
  observations : List TaskObservation
  limits : TaskLimits
  createdAtMs : Nat
  updatedAtMs : Nat
  expiresAtMs : Nat
  generation : Nat
  retries : Nat
  replans : Nat
  outcome : Option TaskOutcome

namespace AgentTask

def new (id : TaskId) (requestedOutcome : String) (createdAtMs : Nat) (limits : TaskLimits) :
    Except TaskError AgentTask := do
  let limits ← limits.validate
  validateText "requested_outcome" requestedOutcome maxTaskRequestBytes
  .ok {
    id, requestedOutcome
    state := .accepted
    steps := []
    observations := []
    limits, createdAtMs
    updatedAtMs := createdAtMs
    expiresAtMs := satAdd createdAtMs limits.maxLifetimeMs
    generation := 0
    retries := 0
    replans := 0
    outcome := none }

def isTerminal (task : AgentTask) : Bool := task.state.kind.isTerminal

/-! ## Guards -/

def invalidTransition (task : AgentTask) (action : String) : TaskError :=
  .invalidTransition task.state.kind action

def requireState (task : AgentTask) (expected : TaskStateKind) (action : String) :
    Except TaskError Unit :=
  ensure (task.invalidTransition action) (task.state.kind = expected)

def ensureMonotonicTime (task : AgentTask) (nowMs : Nat) : Except TaskError Unit :=
  ensure (.nonMonotonicTime task.updatedAtMs nowMs) (task.updatedAtMs ≤ nowMs)

/-- The next generation, unless the 64-bit counter is exhausted. -/
def bumpGeneration (task : AgentTask) : Except TaskError AgentTask :=
  if task.generation + 1 < 2 ^ 64 then .ok { task with generation := task.generation + 1 }
  else .error .generationExhausted

/-- The record of a change of state. -/
def note (task : AgentTask) (next : TaskState) (reason : TaskTransitionReason) (nowMs : Nat) :
    TaskTransition where
  taskId := task.id
  source := task.state.kind
  target := next.kind
  reason := reason
  atMs := nowMs
  generation := task.generation
  retries := task.retries
  replans := task.replans

def transition (task : AgentTask) (next : TaskState) (reason : TaskTransitionReason)
    (nowMs : Nat) : Except TaskError (AgentTask × TaskTransition) := do
  task.ensureMonotonicTime nowMs
  .ok ({ task with state := next, updatedAtMs := nowMs }, task.note next reason nowMs)

/-- Set the state of one step. -/
def setStep (task : AgentTask) (stepIndex : Nat) (state : TaskStepState) : AgentTask :=
  { task with steps := task.steps.modify stepIndex fun step ↦ { step with state } }

/-- The result of an operation that leaves the task alone when it fails. -/
def attempt {α : Type} (task : AgentTask) :
    Except TaskError (AgentTask × α) → AgentTask × Except TaskError α
  | .ok (task', a) => (task', .ok a)
  | .error error => (task, .error error)

/-! ## Planning and waiting -/

def beginPlanning (task : AgentTask) (nowMs : Nat) : AgentTask × Except TaskError TaskTransition :=
  task.attempt do
    task.requireState .accepted "begin_planning"
    task.transition .planning .planningStarted nowMs

def addStep (task : AgentTask) (description : String) : AgentTask × Except TaskError Nat :=
  task.attempt do
    task.requireState .planning "add_step"
    ensure .stepLimitExceeded (task.steps.length < task.limits.maxSteps)
    validateText "step_description" description maxTaskStepBytes
    let index := task.steps.length
    .ok ({ task with steps := task.steps ++ [{ index, description, state := .pending }] }, index)

def markReady (task : AgentTask) (nowMs : Nat) : AgentTask × Except TaskError TaskTransition :=
  task.attempt do
    task.requireState .planning "mark_ready"
    ensure .planHasNoSteps (!task.steps.isEmpty)
    task.transition .ready .planReady nowMs

def waitFor (task : AgentTask) (kind : PendingCommitmentKind) (summary : String) (ttlMs nowMs : Nat) :
    AgentTask × Except TaskError TaskTransition :=
  task.attempt do
    task.requireState .ready "wait_for"
    ensure .invalidPendingTtl (ttlMs ≠ 0 && ttlMs ≤ task.limits.maxPendingTtlMs)
    validateText "pending_summary" summary maxTaskReasonBytes
    let expiresAtMs := min (satAdd nowMs ttlMs) task.expiresAtMs
    let reason := match kind with
      | .approval => TaskTransitionReason.approvalPending
      | .dependency => .dependencyPending
    task.transition (.waiting { kind, summary, expiresAtMs }) reason nowMs

/-- The commitment that has run out at `nowMs`. -/
def expiredCommitment (task : AgentTask) (nowMs : Nat) : Option PendingCommitmentKind :=
  match task.state with
  | .waiting commitment => if commitment.expiresAtMs ≤ nowMs then some commitment.kind else none
  | _ => none

/-- The body of `expireIfNeeded`. -/
def expiry (task : AgentTask) (nowMs : Nat) :
    Except TaskError (AgentTask × Option TaskTransition) := do
  if task.isTerminal then .ok (task, none)
  else
    task.ensureMonotonicTime nowMs
    if task.expiresAtMs ≤ nowMs then
      let task ← task.bumpGeneration
      let (task, transition) ←
        { task with outcome := some .expired }.transition .expired .taskExpired nowMs
      .ok (task, some transition)
    else
      match task.expiredCommitment nowMs with
      | some kind =>
        let task ← task.bumpGeneration
        let reason := match kind with
          | .approval => "pending approval expired"
          | .dependency => "pending dependency expired"
        let (task, transition) ←
          { task with outcome := some (.notVerified reason) }.transition .notVerified
            .commitmentExpired nowMs
        .ok (task, some transition)
      | none => .ok (task, none)

def expireIfNeeded (task : AgentTask) (nowMs : Nat) :
    AgentTask × Except TaskError (Option TaskTransition) := task.attempt (task.expiry nowMs)

def resume (task : AgentTask) (nowMs : Nat) : AgentTask × Except TaskError TaskTransition :=
  task.attempt do
    match task.state with
    | .waiting _ =>
      match ← task.expiry nowMs with
      | (task, some transition) => .ok (task, transition)
      | (task, none) => task.transition .ready .commitmentSatisfied nowMs
    | _ => .error (task.invalidTransition "resume")

/-! ## Execution -/

def beginExecution (task : AgentTask) (stepIndex nowMs : Nat) :
    AgentTask × Except TaskError TaskTransition :=
  task.attempt do
    task.requireState .ready "begin_execution"
    task.ensureMonotonicTime nowMs
    let step ← expect (.stepOutOfRange stepIndex) task.steps[stepIndex]?
    ensure (.stepNotPending stepIndex) (step.state = .pending)
    let task ← task.bumpGeneration
    (task.setStep stepIndex .executing).transition (.executing stepIndex task.generation)
      .stepStarted nowMs

/-- The step in execution and its generation. -/
def execution (task : AgentTask) (action : String) : Except TaskError (Nat × Nat) :=
  match task.state with
  | .executing stepIndex generation => .ok (stepIndex, generation)
  | _ => .error (task.invalidTransition action)

def recordObservation (task : AgentTask) (observedGeneration : Nat) (result : ToolExecutionResult)
    (verification : ToolVerificationOutcome) : AgentTask × Except TaskError Unit :=
  task.attempt do
    let (stepIndex, generation) ← task.execution "record_observation"
    ensure (.staleGeneration generation observedGeneration) (observedGeneration = generation)
    let observations :=
      if task.observations.length = task.limits.maxObservations then task.observations.tail
      else task.observations
    .ok ({ task with
      observations := observations ++
        [{ stepIndex, generation := observedGeneration, result, verification }] }, ())

def finishStep (task : AgentTask) (nowMs : Nat) : AgentTask × Except TaskError TaskTransition :=
  task.attempt do
    let (stepIndex, generation) ← task.execution "finish_step"
    task.ensureMonotonicTime nowMs
    let task := task.setStep stepIndex .executed
    if task.steps.all (·.state = .executed) then
      task.transition (.verifying generation) .stepFinished nowMs
    else task.transition .ready .stepFinished nowMs

/-- The checks of a retry. -/
def retryStep (task : AgentTask) (nowMs : Nat) : Except TaskError Nat := do
  let (stepIndex, _) ← task.execution "retry_current_step"
  ensure .retryLimitExceeded (task.retries < task.limits.maxRetries)
  task.ensureMonotonicTime nowMs
  .ok stepIndex

def retryCurrentStep (task : AgentTask) (nowMs : Nat) :
    AgentTask × Except TaskError TaskTransition :=
  match task.retryStep nowMs with
  | .error error => (task, .error error)
  | .ok stepIndex =>
    let task := { task with retries := task.retries + 1 }
    task.attempt do
      let task ← task.bumpGeneration
      (task.setStep stepIndex .pending).transition .ready .retryScheduled nowMs

/-- The checks of a replan. -/
def replanCheck (task : AgentTask) (nowMs : Nat) : Except TaskError Unit := do
  ensure (task.invalidTransition "replan")
    (task.state.kind = .ready || task.state.kind = .verifying)
  ensure .replanLimitExceeded (task.replans < task.limits.maxReplans)
  task.ensureMonotonicTime nowMs

def replan (task : AgentTask) (nowMs : Nat) : AgentTask × Except TaskError TaskTransition :=
  match task.replanCheck nowMs with
  | .error error => (task, .error error)
  | .ok () =>
    let task := { task with replans := task.replans + 1 }
    task.attempt do
      let task ← task.bumpGeneration
      { task with steps := [], observations := [] }.transition .planning .replanStarted nowMs

/-! ## Completion -/

/-- What a verdict makes of a task. -/
def verdict (result : VerificationResult) : TaskOutcome × TaskState × TaskTransitionReason :=
  let reason := result.reason.getD "task verification did not establish completion"
  match result.outcome with
  | .verified => (.completed, .completed, .verificationPassed)
  | .failed => (.failed reason, .failed, .verificationFailed)
  | .notVerified => (.notVerified reason, .notVerified, .verificationNotProven)
  | .cancelled => (.cancelled reason, .cancelled, .verificationCancelled)
  | .stale => (.notVerified reason, .notVerified, .verificationStale)

def verify (task : AgentTask) (observedGeneration : Nat) (result : VerificationResult)
    (nowMs : Nat) : AgentTask × Except TaskError TaskTransition :=
  task.attempt do
    match task.state with
    | .verifying generation =>
      ensure (.staleGeneration generation observedGeneration) (observedGeneration = generation)
      task.ensureMonotonicTime nowMs
      let (outcome, next, reason) := verdict result
      { task with outcome := some outcome }.transition next reason nowMs
    | _ => .error (task.invalidTransition "verify")

def cancel (task : AgentTask) (reason : String) (nowMs : Nat) :
    AgentTask × Except TaskError TaskTransition :=
  task.attempt do
    ensure (task.invalidTransition "cancel") (!task.isTerminal)
    validateText "cancel_reason" reason maxTaskReasonBytes
    task.ensureMonotonicTime nowMs
    let task ← task.bumpGeneration
    { task with outcome := some (.cancelled reason) }.transition .cancelled .cancelled nowMs

end AgentTask

end Aivtuber
