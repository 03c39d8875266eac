import Aivtuber.Base.Method
import Aivtuber.Domain.TaskRun

/-!
# The operations of a task, statement by statement

`AgentTask` states most operations as computations that are undone when they fail.  The
source has nothing that undoes a write: an operation is atomic because its body makes
every check before its first write.  Here are the bodies themselves, each with its checks
and writes in the order of the source, and for each the proof that it runs as the
operation does (`machine_eq`).
-/

open Aivtuber.Check Method

namespace Aivtuber

namespace AgentTask

/-- A body over a task. -/
abbrev Body (α : Type) := Method AgentTask TaskError α

namespace Body

/-! ## The helpers -/

def requireState (expected : TaskStateKind) (action : String) : Body Unit :=
  check fun task ↦ task.requireState expected action

def ensureMonotonicTime (nowMs : Nat) : Body Unit := check fun task ↦ task.ensureMonotonicTime nowMs

/-- `self.generation = self.generation.checked_add(1)?` -/
def bumpGeneration : Body Unit := do
  let task ← check fun task ↦ task.bumpGeneration
  write fun self ↦ { self with generation := task.generation }

def transition (next : TaskState) (reason : TaskTransitionReason) (nowMs : Nat) :
    Body TaskTransition := do
  ensureMonotonicTime nowMs
  let noted ← read fun task ↦ task.note next reason nowMs
  write fun task ↦ { task with state := next }
  write fun task ↦ { task with updatedAtMs := nowMs }
  pure noted

/-! ## Planning and waiting -/

def beginPlanning (nowMs : Nat) : Body TaskTransition := do
  requireState .accepted "begin_planning"
  transition .planning .planningStarted nowMs

def addStep (description : String) : Body Nat := do
  requireState .planning "add_step"
  check fun task ↦ ensure .stepLimitExceeded (task.steps.length < task.limits.maxSteps)
  check fun _ ↦ validateText "step_description" description maxTaskStepBytes
  let index ← read fun task ↦ task.steps.length
  write fun task ↦ { task with steps := task.steps ++ [{ index, description, state := .pending }] }
  pure index

def markReady (nowMs : Nat) : Body TaskTransition := do
  requireState .planning "mark_ready"
  check fun task ↦ ensure .planHasNoSteps (!task.steps.isEmpty)
  transition .ready .planReady nowMs

def waitFor (kind : PendingCommitmentKind) (summary : String) (ttlMs nowMs : Nat) :
    Body TaskTransition := do
  requireState .ready "wait_for"
  check fun task ↦ ensure .invalidPendingTtl (ttlMs ≠ 0 && ttlMs ≤ task.limits.maxPendingTtlMs)
  check fun _ ↦ validateText "pending_summary" summary maxTaskReasonBytes
  let expiresAtMs ← read fun task ↦ min (Saturating.satAdd nowMs ttlMs) task.expiresAtMs
  let reason := match kind with
    | .approval => TaskTransitionReason.approvalPending
    | .dependency => .dependencyPending
  transition (.waiting { kind, summary, expiresAtMs }) reason nowMs

/-- The end of a task that has run out of time, or whose commitment has. -/
def expireAs (outcome : TaskOutcome) (next : TaskState) (reason : TaskTransitionReason)
    (nowMs : Nat) : Body (Option TaskTransition) := do
  bumpGeneration
  write fun task ↦ { task with outcome := some outcome }
  let noted ← transition next reason nowMs
  pure (some noted)

def expireIfNeeded (nowMs : Nat) : Body (Option TaskTransition) := do
  if ← read (·.isTerminal) then pure none
  else
    ensureMonotonicTime nowMs
    if ← read fun task ↦ decide (task.expiresAtMs ≤ nowMs) then
      expireAs .expired .expired .taskExpired nowMs
    else
      match ← read (·.expiredCommitment nowMs) with
      | some kind =>
        let reason := match kind with
          | .approval => "pending approval expired"
          | .dependency => "pending dependency expired"
        expireAs (.notVerified reason) .notVerified .commitmentExpired nowMs
      | none => pure none

/-- `resume` goes on from a commitment only. -/
def requireWaiting (task : AgentTask) : Except TaskError Unit :=
  match task.state with
  | .waiting _ => .ok ()
  | _ => .error (task.invalidTransition "resume")

def resume (nowMs : Nat) : Body TaskTransition := do
  check requireWaiting
  match ← expireIfNeeded nowMs with
  | some noted => pure noted
  | none => transition .ready .commitmentSatisfied nowMs

/-! ## Execution -/

def beginExecution (stepIndex nowMs : Nat) : Body TaskTransition := do
  requireState .ready "begin_execution"
  ensureMonotonicTime nowMs
  let step ← check fun task ↦ expect (.stepOutOfRange stepIndex) task.steps[stepIndex]?
  check fun _ ↦ ensure (.stepNotPending stepIndex) (step.state = .pending)
  bumpGeneration
  write fun task ↦ task.setStep stepIndex .executing
  let generation ← read (·.generation)
  transition (.executing stepIndex generation) .stepStarted nowMs

def recordObservation (observedGeneration : Nat) (result : ToolExecutionResult)
    (verification : ToolVerificationOutcome) : Body Unit := do
  let execution ← check fun task ↦ task.execution "record_observation"
  check fun _ ↦ ensure (.staleGeneration execution.2 observedGeneration)
    (observedGeneration = execution.2)
  write fun task ↦ { task with
    observations :=
      if task.observations.length = task.limits.maxObservations then task.observations.tail
      else task.observations }
  write fun task ↦ { task with
    observations := task.observations ++
      [{ stepIndex := execution.1, generation := observedGeneration, result, verification }] }

def finishStep (nowMs : Nat) : Body TaskTransition := do
  let execution ← check fun task ↦ task.execution "finish_step"
  ensureMonotonicTime nowMs
  write fun task ↦ task.setStep execution.1 .executed
  if ← read fun task ↦ task.steps.all (·.state = .executed) then
    transition (.verifying execution.2) .stepFinished nowMs
  else transition .ready .stepFinished nowMs

def retryCurrentStep (nowMs : Nat) : Body TaskTransition := do
  let execution ← check fun task ↦ task.execution "retry_current_step"
  check fun task ↦ ensure .retryLimitExceeded (task.retries < task.limits.maxRetries)
  ensureMonotonicTime nowMs
  write fun task ↦ { task with retries := task.retries + 1 }
  bumpGeneration
  write fun task ↦ task.setStep execution.1 .pending
  transition .ready .retryScheduled nowMs

def replan (nowMs : Nat) : Body TaskTransition := do
  check fun task ↦ ensure (task.invalidTransition "replan")
    (task.state.kind = .ready || task.state.kind = .verifying)
  check fun task ↦ ensure .replanLimitExceeded (task.replans < task.limits.maxReplans)
  ensureMonotonicTime nowMs
  write fun task ↦ { task with replans := task.replans + 1 }
  bumpGeneration
  write fun task ↦ { task with steps := [] }
  write fun task ↦ { task with observations := [] }
  transition .planning .replanStarted nowMs

/-! ## Completion -/

/-- The generation whose plan is under verification. -/
def verification (task : AgentTask) : Except TaskError Nat :=
  match task.state with
  | .verifying generation => .ok generation
  | _ => .error (task.invalidTransition "verify")

def verify (observedGeneration : Nat) (result : VerificationResult) (nowMs : Nat) :
    Body TaskTransition := do
  let generation ← check verification
  check fun _ ↦ ensure (.staleGeneration generation observedGeneration)
    (observedGeneration = generation)
  ensureMonotonicTime nowMs
  write fun task ↦ { task with outcome := some (verdict result).1 }
  transition (verdict result).2.1 (verdict result).2.2 nowMs

def cancel (reason : String) (nowMs : Nat) : Body TaskTransition := do
  check fun task ↦ ensure (task.invalidTransition "cancel") (!task.isTerminal)
  check fun _ ↦ validateText "cancel_reason" reason maxTaskReasonBytes
  ensureMonotonicTime nowMs
  bumpGeneration
  write fun task ↦ { task with outcome := some (.cancelled reason) }
  transition .cancelled .cancelled nowMs

/-- One call at `nowMs`, statement by statement. -/
def perform (nowMs : Nat) : Op → Body Reply
  | .beginPlanning => Reply.transition <$> beginPlanning nowMs
  | .addStep description => Reply.step <$> addStep description
  | .markReady => Reply.transition <$> markReady nowMs
  | .waitFor kind summary ttlMs => Reply.transition <$> waitFor kind summary ttlMs nowMs
  | .resume => Reply.transition <$> resume nowMs
  | .beginExecution stepIndex => Reply.transition <$> beginExecution stepIndex nowMs
  | .recordObservation observedGeneration result verification =>
    (fun _ ↦ Reply.recorded) <$> recordObservation observedGeneration result verification
  | .finishStep => Reply.transition <$> finishStep nowMs
  | .retryCurrentStep => Reply.transition <$> retryCurrentStep nowMs
  | .replan => Reply.transition <$> replan nowMs
  | .verify observedGeneration result =>
    Reply.transition <$> verify observedGeneration result nowMs
  | .cancel reason => Reply.transition <$> cancel reason nowMs
  | .expireIfNeeded => Reply.swept <$> expireIfNeeded nowMs

/-- A task driven by timed calls, each run statement by statement. -/
def machine : Machine AgentTask (Nat × Op) (Except TaskError Reply) :=
  ⟨fun task call ↦ (perform call.1 call.2).run task⟩

/-! ## The bodies run as the operations -/

section Run

variable {task : AgentTask} {nowMs : Nat}

theorem attempt_eq {α : Type} (r : Except TaskError (AgentTask × α)) :
    task.attempt r = Method.attempt task r := by
  cases r <;> rfl

theorem bumpGeneration_run :
    bumpGeneration.run task =
      if task.generation + 1 < 2 ^ 64 then (task.bumped, .ok ())
      else (task, .error .generationExhausted) := by
  rw [bumpGeneration]
  split
  case isTrue h => exact check_bind_of_ok (bumpGeneration_eq_ok.mpr ⟨h, rfl⟩)
  case isFalse h =>
    have herror : task.bumpGeneration = .error .generationExhausted := if_neg h
    exact bind_of_error (congrArg (Prod.mk task) herror)

/-- A change of state fails for the time alone, and before it writes. -/
theorem transition_run (next : TaskState) (reason : TaskTransitionReason) :
    (transition next reason nowMs).run task =
      Method.attempt task (task.transition next reason nowMs) :=
  check_unit_bind fun _ ↦ rfl

/-- Once time has been checked, a change of state does not fail. -/
theorem transition_run_of_le (task : AgentTask) (next : TaskState) (reason : TaskTransitionReason)
    (h : task.updatedAtMs ≤ nowMs) :
    (transition next reason nowMs).run task =
      (task.move next nowMs, .ok (task.note next reason nowMs)) := by
  rw [transition_run, transition_eq_ok.mpr ⟨h, rfl, rfl⟩]
  rfl

/-- A body that goes on under a new generation and does not fail any more: the computation
that is undone when the counter is exhausted has nothing to undo. -/
theorem bump_run {α : Type} {k : Unit → Body α} {r : AgentTask → Except TaskError (AgentTask × α)}
    {task' : AgentTask} {a : α} (hr : r task.bumped = .ok (task', a))
    (hk : (k ()).run task.bumped = (task', .ok a)) :
    (bumpGeneration >>= k).run task = Method.attempt task (task.bumpGeneration >>= r) := by
  by_cases h : task.generation + 1 < 2 ^ 64
  · rw [bind_of_ok (bumpGeneration_run.trans (if_pos h)), hk, AgentTask.bumpGeneration, if_pos h]
    change _ = Method.attempt task (r task.bumped)
    rw [hr]
    rfl
  · rw [bind_of_error (bumpGeneration_run.trans (if_neg h)), AgentTask.bumpGeneration, if_neg h]
    rfl

theorem beginPlanning_run : (beginPlanning nowMs).run task = task.beginPlanning nowMs := by
  rw [AgentTask.beginPlanning, attempt_eq]
  exact check_unit_bind fun _ ↦ transition_run _ _

theorem addStep_run (description : String) :
    (addStep description).run task = task.addStep description := by
  rw [AgentTask.addStep, attempt_eq]
  exact check_unit_bind fun _ ↦ check_unit_bind fun _ ↦
    check_unit_bind fun _ ↦ rfl

theorem markReady_run : (markReady nowMs).run task = task.markReady nowMs := by
  rw [AgentTask.markReady, attempt_eq]
  exact check_unit_bind fun _ ↦ check_unit_bind fun _ ↦ transition_run _ _

theorem waitFor_run (kind : PendingCommitmentKind) (summary : String) (ttlMs : Nat) :
    (waitFor kind summary ttlMs nowMs).run task = task.waitFor kind summary ttlMs nowMs := by
  unfold AgentTask.waitFor
  rw [attempt_eq]
  exact check_unit_bind fun _ ↦ check_unit_bind fun _ ↦
    check_unit_bind fun _ ↦ transition_run _ _

theorem beginExecution_run (stepIndex : Nat) :
    (beginExecution stepIndex nowMs).run task = task.beginExecution stepIndex nowMs := by
  rw [AgentTask.beginExecution, attempt_eq]
  refine check_unit_bind fun _ ↦ check_unit_bind fun hmono ↦
    check_bind fun step _ ↦ check_unit_bind fun _ ↦ ?_
  rw [ensureMonotonicTime_eq_ok] at hmono
  exact bump_run (transition_eq_ok.mpr ⟨hmono, rfl, rfl⟩) (transition_run_of_le _ _ _ hmono)

theorem recordObservation_run (observedGeneration : Nat) (result : ToolExecutionResult)
    (verification : ToolVerificationOutcome) :
    (recordObservation observedGeneration result verification).run task =
      task.recordObservation observedGeneration result verification := by
  rw [AgentTask.recordObservation, attempt_eq]
  exact check_bind fun _ _ ↦ check_unit_bind fun _ ↦ rfl

theorem finishStep_run : (finishStep nowMs).run task = task.finishStep nowMs := by
  rw [AgentTask.finishStep, attempt_eq]
  refine check_bind fun execution _ ↦ check_unit_bind fun hmono ↦ ?_
  rw [ensureMonotonicTime_eq_ok] at hmono
  have hmove : ∀ next, (task.setStep execution.1 .executed).transition next .stepFinished nowMs =
      .ok ((task.setStep execution.1 .executed).move next nowMs,
        (task.setStep execution.1 .executed).note next .stepFinished nowMs) :=
    fun next ↦ transition_eq_ok.mpr ⟨hmono, rfl, rfl⟩
  rw [write_bind, read_bind]
  dsimp only
  rw [hmove, hmove]
  split
  case isTrue => exact transition_run_of_le _ _ _ hmono
  case isFalse => exact transition_run_of_le _ _ _ hmono

theorem retryCurrentStep_run :
    (retryCurrentStep nowMs).run task = task.retryCurrentStep nowMs := by
  have hchecks : task.retryCurrentStep nowMs =
      afterChecks task (task.retryStep nowMs) fun stepIndex ↦
        { task with retries := task.retries + 1 }.attempt (do
          let task ← { task with retries := task.retries + 1 }.bumpGeneration
          (task.setStep stepIndex .pending).transition .ready .retryScheduled nowMs) := by
    rw [AgentTask.retryCurrentStep]
    cases task.retryStep nowMs <;> rfl
  rw [hchecks, retryStep]
  refine check_bind fun execution _ ↦ check_unit_bind fun _ ↦ check_unit_bind fun hmono ↦ ?_
  rw [ensureMonotonicTime_eq_ok] at hmono
  rw [write_bind, afterChecks, attempt_eq]
  exact bump_run (transition_eq_ok.mpr ⟨hmono, rfl, rfl⟩) (transition_run_of_le _ _ _ hmono)

theorem replan_run : (replan nowMs).run task = task.replan nowMs := by
  have hchecks : task.replan nowMs =
      afterChecks task (task.replanCheck nowMs) fun _ ↦
        { task with replans := task.replans + 1 }.attempt (do
          let task ← { task with replans := task.replans + 1 }.bumpGeneration
          { task with steps := [], observations := [] }.transition .planning .replanStarted
            nowMs) := by
    rw [AgentTask.replan]
    cases task.replanCheck nowMs <;> rfl
  rw [hchecks, replanCheck]
  refine check_unit_bind fun _ ↦ check_unit_bind fun _ ↦ ?_
  cases htime : task.ensureMonotonicTime nowMs with
  | error error => exact bind_of_error (congrArg (Prod.mk task) htime)
  | ok _ =>
    have hmono := ensureMonotonicTime_eq_ok.mp htime
    refine (bind_of_ok (congrArg (Prod.mk task) htime)).trans ?_
    rw [write_bind, afterChecks, attempt_eq]
    exact bump_run (transition_eq_ok.mpr ⟨hmono, rfl, rfl⟩) (transition_run_of_le _ _ _ hmono)

theorem verify_run (observedGeneration : Nat) (result : VerificationResult) :
    (verify observedGeneration result nowMs).run task =
      task.verify observedGeneration result nowMs := by
  have hchecks : task.verify observedGeneration result nowMs = Method.attempt task (do
      let generation ← verification task
      ensure (.staleGeneration generation observedGeneration) (observedGeneration = generation)
      task.ensureMonotonicTime nowMs
      { task with outcome := some (verdict result).1 }.transition (verdict result).2.1
        (verdict result).2.2 nowMs) := by
    rw [AgentTask.verify, attempt_eq, verification]
    cases task.state <;> rfl
  rw [hchecks]
  refine check_bind fun generation _ ↦ check_unit_bind fun _ ↦ check_unit_bind fun hmono ↦ ?_
  rw [ensureMonotonicTime_eq_ok] at hmono
  have hmove : { task with outcome := some (verdict result).1 }.transition (verdict result).2.1
      (verdict result).2.2 nowMs =
      .ok ({ task with outcome := some (verdict result).1 }.move (verdict result).2.1 nowMs,
        task.note (verdict result).2.1 (verdict result).2.2 nowMs) :=
    transition_eq_ok.mpr ⟨hmono, rfl, rfl⟩
  rw [write_bind, hmove]
  exact transition_run_of_le _ _ _ hmono

theorem cancel_run (reason : String) :
    (cancel reason nowMs).run task = task.cancel reason nowMs := by
  rw [AgentTask.cancel, attempt_eq]
  refine check_unit_bind fun _ ↦ check_unit_bind fun _ ↦
    check_unit_bind fun hmono ↦ ?_
  rw [ensureMonotonicTime_eq_ok] at hmono
  exact bump_run (transition_eq_ok.mpr ⟨hmono, rfl, rfl⟩) (transition_run_of_le _ _ _ hmono)

theorem expireAs_run (outcome : TaskOutcome) (next : TaskState) (reason : TaskTransitionReason)
    (hmono : task.updatedAtMs ≤ nowMs) :
    (expireAs outcome next reason nowMs).run task = Method.attempt task (do
      let task ← task.bumpGeneration
      let (task, noted) ← { task with outcome := some outcome }.transition next reason nowMs
      .ok (task, some noted)) := by
  have hmove : { task.bumped with outcome := some outcome }.transition next reason nowMs =
      .ok ({ task.bumped with outcome := some outcome }.move next nowMs,
        task.bumped.note next reason nowMs) := transition_eq_ok.mpr ⟨hmono, rfl, rfl⟩
  refine bump_run (bind_eq_ok.mpr ⟨_, hmove, rfl⟩) ?_
  rw [write_bind]
  exact bind_of_ok (transition_run_of_le _ _ _ hmono)

theorem expireIfNeeded_run : (expireIfNeeded nowMs).run task = task.expireIfNeeded nowMs := by
  rw [AgentTask.expireIfNeeded, attempt_eq, expiry, expireIfNeeded, read_bind]
  split
  case isTrue => rfl
  case isFalse =>
    refine check_unit_bind fun hmono ↦ ?_
    rw [ensureMonotonicTime_eq_ok] at hmono
    rw [read_bind]
    by_cases hdue : task.expiresAtMs ≤ nowMs
    · rw [if_pos hdue, if_pos (decide_eq_true hdue)]
      exact expireAs_run _ _ _ hmono
    · rw [if_neg hdue, if_neg (by simpa using hdue), read_bind]
      cases task.expiredCommitment nowMs with
      | none => rfl
      | some kind => exact expireAs_run _ _ _ hmono

theorem resume_run : (resume nowMs).run task = task.resume nowMs := by
  have hexpire : (expireIfNeeded nowMs).run task = task.expireIfNeeded nowMs := expireIfNeeded_run
  rw [AgentTask.expireIfNeeded, attempt_eq] at hexpire
  rw [AgentTask.resume, attempt_eq, resume]
  cases hstate : task.state with
  | waiting commitment =>
    have hwaiting : requireWaiting task = .ok () := by rw [requireWaiting, hstate]
    rw [check_bind_of_ok hwaiting]
    cases hexpiry : task.expiry nowMs with
    | error error =>
      rw [hexpiry] at hexpire
      exact bind_of_error hexpire
    | ok swept =>
      rw [hexpiry] at hexpire
      refine (bind_of_ok hexpire).trans ?_
      obtain ⟨task', noted⟩ := swept
      rcases expiry_eq_ok task nowMs hexpiry with ⟨rfl, rfl, -⟩ | ⟨noted', rfl, -⟩
      · exact transition_run _ _
      · rfl
  | accepted | planning | ready | executing | verifying | completed | failed | cancelled
  | notVerified | expired =>
    have hrefused : requireWaiting task = .error (task.invalidTransition "resume") := by
      rw [requireWaiting, hstate]
    exact bind_of_error (congrArg (Prod.mk task) hrefused)

/-- **Every operation runs as its body does.** -/
theorem perform_run (task : AgentTask) (nowMs : Nat) (op : Op) :
    (perform nowMs op).run task = task.perform nowMs op := by
  cases op with
  | beginPlanning => rw [perform, run_map, beginPlanning_run]; rfl
  | addStep description => rw [perform, run_map, addStep_run]; rfl
  | markReady => rw [perform, run_map, markReady_run]; rfl
  | waitFor kind summary ttlMs => rw [perform, run_map, waitFor_run]; rfl
  | resume => rw [perform, run_map, resume_run]; rfl
  | beginExecution stepIndex => rw [perform, run_map, beginExecution_run]; rfl
  | recordObservation observedGeneration result verification =>
    rw [perform, run_map, recordObservation_run]; rfl
  | finishStep => rw [perform, run_map, finishStep_run]; rfl
  | retryCurrentStep => rw [perform, run_map, retryCurrentStep_run]; rfl
  | replan => rw [perform, run_map, replan_run]; rfl
  | verify observedGeneration result => rw [perform, run_map, verify_run]; rfl
  | cancel reason => rw [perform, run_map, cancel_run]; rfl
  | expireIfNeeded => rw [perform, run_map, expireIfNeeded_run]; rfl

theorem machine_eq : machine = AgentTask.machine :=
  congrArg Machine.mk (funext fun task ↦ funext fun call ↦ perform_run task call.1 call.2)

end Run

end Body

end AgentTask

end Aivtuber
