import Aivtuber.Domain.Task

/-!
# Runs of a task

Every operation of a task either fails, and then leaves it as it was unless the
generation counter was exhausted, or has one `Effect`.  `perform_outcome` says so once
for the thirteen operations; every property of runs is read off the effects.
-/

open Aivtuber.Check Saturating

namespace Aivtuber

namespace AgentTask

/-- The operations of a task; the time of a call is given apart. -/
inductive Op where
  | beginPlanning
  | addStep (description : String)
  | markReady
  | waitFor (kind : PendingCommitmentKind) (summary : String) (ttlMs : Nat)
  | resume
  | beginExecution (stepIndex : Nat)
  | recordObservation (observedGeneration : Nat) (result : ToolExecutionResult)
      (verification : ToolVerificationOutcome)
  | finishStep
  | retryCurrentStep
  | replan
  | verify (observedGeneration : Nat) (result : VerificationResult)
  | cancel (reason : String)
  | expireIfNeeded

/-- What an operation returns when it succeeds. -/
inductive Reply where
  | transition (transition : TaskTransition)
  | step (index : Nat)
  | recorded
  | swept (transition : Option TaskTransition)

/-- The same result, as a reply. -/
def reply {α : Type} (f : α → Reply) (result : AgentTask × Except TaskError α) :
    AgentTask × Except TaskError Reply := (result.1, result.2.map f)

/-- One call at `nowMs`. -/
def perform (task : AgentTask) (nowMs : Nat) : Op → AgentTask × Except TaskError Reply
  | .beginPlanning => reply .transition (task.beginPlanning nowMs)
  | .addStep description => reply .step (task.addStep description)
  | .markReady => reply .transition (task.markReady nowMs)
  | .waitFor kind summary ttlMs => reply .transition (task.waitFor kind summary ttlMs nowMs)
  | .resume => reply .transition (task.resume nowMs)
  | .beginExecution stepIndex => reply .transition (task.beginExecution stepIndex nowMs)
  | .recordObservation observedGeneration result verification =>
    reply (fun _ ↦ .recorded) (task.recordObservation observedGeneration result verification)
  | .finishStep => reply .transition (task.finishStep nowMs)
  | .retryCurrentStep => reply .transition (task.retryCurrentStep nowMs)
  | .replan => reply .transition (task.replan nowMs)
  | .verify observedGeneration result =>
    reply .transition (task.verify observedGeneration result nowMs)
  | .cancel reason => reply .transition (task.cancel reason nowMs)
  | .expireIfNeeded => reply .swept (task.expireIfNeeded nowMs)

/-- A task, driven by timed calls. -/
def machine : Machine AgentTask (Nat × Op) (Except TaskError Reply) :=
  ⟨fun task call ↦ task.perform call.1 call.2⟩

/-! ## Effects -/

/-- A change of state at `nowMs`. -/
def move (task : AgentTask) (next : TaskState) (nowMs : Nat) : AgentTask :=
  { task with state := next, updatedAtMs := nowMs }

/-- The task under its next generation. -/
def bumped (task : AgentTask) : AgentTask := { task with generation := task.generation + 1 }

/-- The time and the generation counter allow another generation. -/
structure CanBump (task : AgentTask) (nowMs : Nat) : Prop where
  monotonic : task.updatedAtMs ≤ nowMs
  generation : task.generation + 1 < 2 ^ 64

/-- The end of a task that ran out of time, or whose commitment did. -/
inductive Expires (task : AgentTask) (nowMs : Nat) : AgentTask → TaskTransition → Prop
  | lifetime (hactive : task.isTerminal = false) (hbump : task.CanBump nowMs)
      (hdue : task.expiresAtMs ≤ nowMs) :
      Expires task nowMs ({ task.bumped with outcome := some .expired }.move .expired nowMs)
        (task.bumped.note .expired .taskExpired nowMs)
  | commitment (reason : String) (hwaiting : ∃ commitment, task.state = .waiting commitment)
      (hbump : task.CanBump nowMs) (hdue : nowMs < task.expiresAtMs) :
      Expires task nowMs
        ({ task.bumped with outcome := some (.notVerified reason) }.move .notVerified nowMs)
        (task.bumped.note .notVerified .commitmentExpired nowMs)

/-- What an operation that succeeds does, and what it needs. -/
inductive Effect (task : AgentTask) (nowMs : Nat) : Op → AgentTask → Reply → Prop
  | beginPlanning (hstate : task.state = .accepted) (hmono : task.updatedAtMs ≤ nowMs) :
      Effect task nowMs .beginPlanning (task.move .planning nowMs)
        (.transition (task.note .planning .planningStarted nowMs))
  | addStep (description : String) (hstate : task.state = .planning)
      (hsteps : task.steps.length < task.limits.maxSteps)
      (htext : validateText "step_description" description maxTaskStepBytes = .ok ()) :
      Effect task nowMs (.addStep description)
        { task with steps := task.steps ++
            [{ index := task.steps.length, description, state := .pending }] }
        (.step task.steps.length)
  | markReady (hstate : task.state = .planning) (hmono : task.updatedAtMs ≤ nowMs)
      (hsteps : task.steps ≠ []) :
      Effect task nowMs .markReady (task.move .ready nowMs)
        (.transition (task.note .ready .planReady nowMs))
  | waitFor (kind : PendingCommitmentKind) (summary : String) (ttlMs : Nat)
      (commitment : PendingCommitment) (reason : TaskTransitionReason)
      (hstate : task.state = .ready) (hmono : task.updatedAtMs ≤ nowMs)
      (httl : ttlMs ≠ 0 ∧ ttlMs ≤ task.limits.maxPendingTtlMs)
      (htext : validateText "pending_summary" summary maxTaskReasonBytes = .ok ())
      (hreason : reason = .approvalPending ∨ reason = .dependencyPending) :
      Effect task nowMs (.waitFor kind summary ttlMs) (task.move (.waiting commitment) nowMs)
        (.transition (task.note (.waiting commitment) reason nowMs))
  | resume (commitment : PendingCommitment) (hstate : task.state = .waiting commitment)
      (hmono : task.updatedAtMs ≤ nowMs) (hdue : nowMs < task.expiresAtMs) :
      Effect task nowMs .resume (task.move .ready nowMs)
        (.transition (task.note .ready .commitmentSatisfied nowMs))
  | resumeExpired {task' : AgentTask} {transition : TaskTransition}
      (hwaiting : ∃ commitment, task.state = .waiting commitment)
      (hexpires : task.Expires nowMs task' transition) :
      Effect task nowMs .resume task' (.transition transition)
  | beginExecution (stepIndex : Nat) (step : TaskStep) (hstate : task.state = .ready)
      (hbump : task.CanBump nowMs) (hstep : task.steps[stepIndex]? = some step)
      (hpending : step.state = .pending) :
      Effect task nowMs (.beginExecution stepIndex)
        ((task.bumped.setStep stepIndex .executing).move
          (.executing stepIndex (task.generation + 1)) nowMs)
        (.transition (task.bumped.note (.executing stepIndex (task.generation + 1)) .stepStarted
          nowMs))
  | recordObservation (stepIndex generation : Nat) (result : ToolExecutionResult)
      (verification : ToolVerificationOutcome) (observations : List TaskObservation)
      (hstate : task.state = .executing stepIndex generation) :
      Effect task nowMs (.recordObservation generation result verification)
        { task with observations } .recorded
  | finishStep (stepIndex generation : Nat) (next : TaskState)
      (hstate : task.state = .executing stepIndex generation) (hmono : task.updatedAtMs ≤ nowMs)
      (hnext : next = if (task.setStep stepIndex .executed).steps.all (·.state = .executed) then
        .verifying generation else .ready) :
      Effect task nowMs .finishStep ((task.setStep stepIndex .executed).move next nowMs)
        (.transition (task.note next .stepFinished nowMs))
  | retryCurrentStep (stepIndex generation : Nat)
      (hstate : task.state = .executing stepIndex generation) (hbump : task.CanBump nowMs)
      (hretries : task.retries < task.limits.maxRetries) :
      Effect task nowMs .retryCurrentStep
        (({ task.bumped with retries := task.retries + 1 }.setStep stepIndex .pending).move
          .ready nowMs)
        (.transition ({ task.bumped with retries := task.retries + 1 }.note .ready .retryScheduled
          nowMs))
  | replan (hstate : task.state = .ready ∨ ∃ generation, task.state = .verifying generation)
      (hbump : task.CanBump nowMs) (hreplans : task.replans < task.limits.maxReplans) :
      Effect task nowMs .replan
        ({ task.bumped with replans := task.replans + 1, steps := [], observations := [] }.move
          .planning nowMs)
        (.transition ({ task.bumped with replans := task.replans + 1 }.note .planning
          .replanStarted nowMs))
  | verify (generation : Nat) (result : VerificationResult)
      (hstate : task.state = .verifying generation) (hmono : task.updatedAtMs ≤ nowMs) :
      Effect task nowMs (.verify generation result)
        ({ task with outcome := some (verdict result).1 }.move (verdict result).2.1 nowMs)
        (.transition (task.note (verdict result).2.1 (verdict result).2.2 nowMs))
  | cancel (reason : String) (hactive : task.isTerminal = false) (hbump : task.CanBump nowMs) :
      Effect task nowMs (.cancel reason)
        ({ task.bumped with outcome := some (.cancelled reason) }.move .cancelled nowMs)
        (.transition (task.bumped.note .cancelled .cancelled nowMs))
  | idle (hidle : task.isTerminal = true ∨ nowMs < task.expiresAtMs) :
      Effect task nowMs .expireIfNeeded task (.swept none)
  | expire {task' : AgentTask} {transition : TaskTransition}
      (hexpires : task.Expires nowMs task' transition) :
      Effect task nowMs .expireIfNeeded task' (.swept (some transition))

/-- A call fails, or it has its effect. -/
inductive Outcome (task : AgentTask) (nowMs : Nat) (op : Op) :
    AgentTask × Except TaskError Reply → Prop
  | refused (error : TaskError) : Outcome task nowMs op (task, .error error)
  | exhausted (retries replans : Nat) (hactive : task.isTerminal = false)
      (hgeneration : 2 ^ 64 ≤ task.generation + 1) :
      Outcome task nowMs op ({ task with retries, replans }, .error .generationExhausted)
  | done {task' : AgentTask} {r : Reply} (h : Effect task nowMs op task' r) :
      Outcome task nowMs op (task', .ok r)

section Guards

variable {task task' : AgentTask} {nowMs : Nat}

theorem kind_eq_accepted {state : TaskState} : state.kind = .accepted ↔ state = .accepted := by
  cases state with
  | waiting commitment => cases h : commitment.kind <;> simp [TaskState.kind, h]
  | _ => simp [TaskState.kind]

theorem kind_eq_planning {state : TaskState} : state.kind = .planning ↔ state = .planning := by
  cases state with
  | waiting commitment => cases h : commitment.kind <;> simp [TaskState.kind, h]
  | _ => simp [TaskState.kind]

theorem kind_eq_ready {state : TaskState} : state.kind = .ready ↔ state = .ready := by
  cases state with
  | waiting commitment => cases h : commitment.kind <;> simp [TaskState.kind, h]
  | _ => simp [TaskState.kind]

theorem kind_eq_verifying {state : TaskState} :
    state.kind = .verifying ↔ ∃ generation, state = .verifying generation := by
  cases state with
  | waiting commitment => cases h : commitment.kind <;> simp [TaskState.kind, h]
  | _ => simp [TaskState.kind]

theorem requireState_eq_ok {expected : TaskStateKind} {action : String} :
    task.requireState expected action = .ok () ↔ task.state.kind = expected := by
  rw [requireState, ensure_eq_ok, decide_eq_true_eq]

theorem ensureMonotonicTime_eq_ok :
    task.ensureMonotonicTime nowMs = .ok () ↔ task.updatedAtMs ≤ nowMs := by
  rw [ensureMonotonicTime, ensure_eq_ok, decide_eq_true_eq]

theorem bumpGeneration_eq_ok :
    task.bumpGeneration = .ok task' ↔ task.generation + 1 < 2 ^ 64 ∧ task' = task.bumped := by
  rw [bumpGeneration]
  split
  case isTrue h =>
    exact ⟨fun hok ↦ ⟨h, (Except.ok.inj hok).symm⟩, fun hok ↦ congrArg Except.ok hok.2.symm⟩
  case isFalse h => exact ⟨fun hok ↦ (by cases hok), fun hok ↦ absurd hok.1 h⟩

theorem transition_eq_ok {next : TaskState} {reason : TaskTransitionReason} {t : TaskTransition} :
    task.transition next reason nowMs = .ok (task', t) ↔
      task.updatedAtMs ≤ nowMs ∧ task' = task.move next nowMs ∧ t = task.note next reason nowMs := by
  rw [transition, unit_bind_eq_ok, ensureMonotonicTime_eq_ok]
  simp [move, eq_comm]

theorem execution_eq_ok {action : String} {execution : Nat × Nat} :
    task.execution action = .ok execution ↔ task.state = .executing execution.1 execution.2 := by
  rw [AgentTask.execution]
  split
  case h_1 stepIndex generation h => simp [h, Prod.ext_iff]
  case h_2 h => simpa using h execution.1 execution.2

/-- An operation that leaves the task alone when it fails. -/
theorem attempt_outcome {α : Type} {op : Op} {f : α → Reply} {r : Except TaskError (AgentTask × α)}
    (h : ∀ task' a, r = .ok (task', a) → Effect task nowMs op task' (f a)) :
    Outcome task nowMs op (reply f (task.attempt r)) := by
  cases r with
  | error error => exact .refused error
  | ok result => exact .done (h result.1 result.2 rfl)

/-- A change of state under a new generation, once time has been checked. -/
theorem attempt_bump (task : AgentTask) (f : AgentTask → AgentTask) (next : TaskState)
    (reason : TaskTransitionReason) (hmono : (f task.bumped).updatedAtMs ≤ nowMs) :
    (task.attempt do
      let task ← task.bumpGeneration
      (f task).transition next reason nowMs) =
      if task.generation + 1 < 2 ^ 64 then
        ((f task.bumped).move next nowMs, .ok ((f task.bumped).note next reason nowMs))
      else (task, .error .generationExhausted) := by
  split
  case isTrue h =>
    rw [bind_eq_ok.mpr ⟨_, bumpGeneration_eq_ok.mpr ⟨h, rfl⟩,
      transition_eq_ok.mpr ⟨hmono, rfl, rfl⟩⟩]
    rfl
  case isFalse h =>
    rw [bumpGeneration, if_neg h]
    rfl

end Guards

/-! ## Every operation has an effect -/

section Operations

variable (task : AgentTask) (nowMs : Nat)

theorem beginPlanning_outcome :
    Outcome task nowMs .beginPlanning (task.perform nowMs .beginPlanning) := by
  refine attempt_outcome fun task' t h ↦ ?_
  rw [unit_bind_eq_ok, requireState_eq_ok, kind_eq_accepted, transition_eq_ok] at h
  obtain ⟨hstate, hmono, rfl, rfl⟩ := h
  exact .beginPlanning hstate hmono

theorem addStep_outcome (description : String) :
    Outcome task nowMs (.addStep description) (task.perform nowMs (.addStep description)) := by
  refine attempt_outcome fun task' t h ↦ ?_
  rw [unit_bind_eq_ok, requireState_eq_ok, kind_eq_planning, unit_bind_eq_ok, ensure_eq_ok,
    decide_eq_true_eq, unit_bind_eq_ok] at h
  obtain ⟨hstate, hsteps, htext, h⟩ := h
  cases h
  exact .addStep description hstate hsteps htext

theorem markReady_outcome : Outcome task nowMs .markReady (task.perform nowMs .markReady) := by
  refine attempt_outcome fun task' t h ↦ ?_
  rw [unit_bind_eq_ok, requireState_eq_ok, kind_eq_planning, unit_bind_eq_ok, ensure_eq_ok,
    transition_eq_ok] at h
  obtain ⟨hstate, hsteps, hmono, rfl, rfl⟩ := h
  exact .markReady hstate hmono (by simpa using hsteps)

theorem waitFor_outcome (kind : PendingCommitmentKind) (summary : String) (ttlMs : Nat) :
    Outcome task nowMs (.waitFor kind summary ttlMs)
      (task.perform nowMs (.waitFor kind summary ttlMs)) := by
  refine attempt_outcome fun task' t h ↦ ?_
  rw [unit_bind_eq_ok, requireState_eq_ok, kind_eq_ready, unit_bind_eq_ok, ensure_eq_ok,
    unit_bind_eq_ok] at h
  obtain ⟨hstate, httl, htext, h⟩ := h
  obtain ⟨hmono, rfl, rfl⟩ := transition_eq_ok.mp h
  refine .waitFor kind summary ttlMs _ _ hstate hmono (by simpa using httl) htext ?_
  cases kind with
  | approval => exact Or.inl rfl
  | dependency => exact Or.inr rfl

/-- The expiry of a task: nothing is due, or it ends. -/
theorem expiry_eq_ok {task' : AgentTask} {swept : Option TaskTransition}
    (h : task.expiry nowMs = .ok (task', swept)) :
    (swept = none ∧ task' = task ∧
      (task.isTerminal = true ∨ task.updatedAtMs ≤ nowMs ∧ nowMs < task.expiresAtMs)) ∨
      ∃ transition, swept = some transition ∧ task.Expires nowMs task' transition := by
  rw [expiry] at h
  split at h
  case isTrue hterminal =>
    cases h
    exact Or.inl ⟨rfl, rfl, Or.inl hterminal⟩
  case isFalse hactive =>
    rw [unit_bind_eq_ok, ensureMonotonicTime_eq_ok] at h
    obtain ⟨hmono, h⟩ := h
    split at h
    case isTrue hdue =>
      obtain ⟨bumped, hbump, h⟩ := bind_eq_ok.mp h
      obtain ⟨hgeneration, rfl⟩ := bumpGeneration_eq_ok.mp hbump
      obtain ⟨⟨moved, transition⟩, hmove, h⟩ := bind_eq_ok.mp h
      obtain ⟨-, rfl, rfl⟩ := transition_eq_ok.mp hmove
      cases h
      exact Or.inr ⟨_, rfl, .lifetime (by simpa using hactive) ⟨hmono, hgeneration⟩ hdue⟩
    case isFalse hdue =>
      split at h
      case h_1 kind hcommitment =>
        obtain ⟨bumped, hbump, h⟩ := bind_eq_ok.mp h
        obtain ⟨hgeneration, rfl⟩ := bumpGeneration_eq_ok.mp hbump
        obtain ⟨⟨moved, transition⟩, hmove, h⟩ := bind_eq_ok.mp h
        obtain ⟨-, rfl, rfl⟩ := transition_eq_ok.mp hmove
        cases h
        refine Or.inr ⟨_, rfl, .commitment _ ?_ ⟨hmono, hgeneration⟩ (Nat.lt_of_not_le hdue)⟩
        rw [expiredCommitment] at hcommitment
        split at hcommitment
        case h_1 commitment hstate => exact ⟨commitment, hstate⟩
        case h_2 => cases hcommitment
      case h_2 =>
        cases h
        exact Or.inl ⟨rfl, rfl, Or.inr ⟨hmono, Nat.lt_of_not_le hdue⟩⟩

theorem resume_outcome : Outcome task nowMs .resume (task.perform nowMs .resume) := by
  refine attempt_outcome fun task' t h ↦ ?_
  split at h
  case h_1 commitment hstate =>
    obtain ⟨⟨swept, transition⟩, hexpiry, hresume⟩ := bind_eq_ok.mp h
    rcases expiry_eq_ok task nowMs hexpiry with ⟨rfl, rfl, hidle⟩ | ⟨transition', rfl, hexpires⟩
    · obtain ⟨hmono, rfl, rfl⟩ := transition_eq_ok.mp hresume
      rcases hidle with hterminal | ⟨-, hdue⟩
      · cases hkind : commitment.kind <;>
          simp [isTerminal, hstate, TaskState.kind, hkind, TaskStateKind.isTerminal] at hterminal
      · exact .resume commitment hstate hmono hdue
    · cases hresume
      exact .resumeExpired ⟨commitment, hstate⟩ hexpires
  case h_2 => cases h

theorem beginExecution_outcome (stepIndex : Nat) :
    Outcome task nowMs (.beginExecution stepIndex) (task.perform nowMs (.beginExecution stepIndex)) := by
  refine attempt_outcome fun task' t h ↦ ?_
  rw [unit_bind_eq_ok, requireState_eq_ok, kind_eq_ready, unit_bind_eq_ok,
    ensureMonotonicTime_eq_ok, expect_bind_eq_ok] at h
  obtain ⟨hstate, hmono, step, hstep, h⟩ := h
  rw [unit_bind_eq_ok, ensure_eq_ok, decide_eq_true_eq] at h
  obtain ⟨hpending, h⟩ := h
  obtain ⟨bumped, hbump, h⟩ := bind_eq_ok.mp h
  obtain ⟨hgeneration, rfl⟩ := bumpGeneration_eq_ok.mp hbump
  obtain ⟨-, rfl, rfl⟩ := transition_eq_ok.mp h
  exact .beginExecution stepIndex step hstate ⟨hmono, hgeneration⟩ hstep hpending

theorem recordObservation_outcome (observedGeneration : Nat) (result : ToolExecutionResult)
    (verification : ToolVerificationOutcome) :
    Outcome task nowMs (.recordObservation observedGeneration result verification)
      (task.perform nowMs (.recordObservation observedGeneration result verification)) := by
  refine attempt_outcome fun task' t h ↦ ?_
  obtain ⟨⟨stepIndex, generation⟩, hexecution, h⟩ := bind_eq_ok.mp h
  rw [unit_bind_eq_ok, ensure_eq_ok, decide_eq_true_eq] at h
  obtain ⟨rfl, h⟩ := h
  cases h
  exact .recordObservation stepIndex _ result verification _ (execution_eq_ok.mp hexecution)

theorem finishStep_outcome : Outcome task nowMs .finishStep (task.perform nowMs .finishStep) := by
  refine attempt_outcome fun task' t h ↦ ?_
  obtain ⟨⟨stepIndex, generation⟩, hexecution, h⟩ := bind_eq_ok.mp h
  rw [unit_bind_eq_ok, ensureMonotonicTime_eq_ok] at h
  obtain ⟨hmono, h⟩ := h
  have hstate := execution_eq_ok.mp hexecution
  dsimp only at h
  split at h
  case isTrue hall =>
    obtain ⟨-, rfl, rfl⟩ := transition_eq_ok.mp h
    exact .finishStep stepIndex generation _ hstate hmono (if_pos hall).symm
  case isFalse hall =>
    obtain ⟨-, rfl, rfl⟩ := transition_eq_ok.mp h
    exact .finishStep stepIndex generation _ hstate hmono (if_neg hall).symm

theorem retryCurrentStep_outcome :
    Outcome task nowMs .retryCurrentStep (task.perform nowMs .retryCurrentStep) := by
  rw [perform, retryCurrentStep]
  cases hretry : task.retryStep nowMs with
  | error error => exact .refused error
  | ok stepIndex =>
    obtain ⟨⟨stepIndex', generation⟩, hexecution, h⟩ := bind_eq_ok.mp hretry
    rw [unit_bind_eq_ok, ensure_eq_ok, decide_eq_true_eq, unit_bind_eq_ok,
      ensureMonotonicTime_eq_ok] at h
    obtain ⟨hretries, hmono, h⟩ := h
    cases h
    have hstate := execution_eq_ok.mp hexecution
    dsimp only
    rw [attempt_bump { task with retries := task.retries + 1 } (·.setStep stepIndex .pending)
      .ready .retryScheduled hmono]
    split
    case isTrue hgeneration =>
      exact .done (.retryCurrentStep _ _ hstate ⟨hmono, hgeneration⟩ hretries)
    case isFalse hgeneration =>
      refine .exhausted _ _ ?_ (Nat.le_of_not_lt hgeneration)
      rw [isTerminal, hstate]
      rfl

theorem replan_outcome : Outcome task nowMs .replan (task.perform nowMs .replan) := by
  rw [perform, replan]
  cases hreplan : task.replanCheck nowMs with
  | error error => exact .refused error
  | ok checked =>
    rw [replanCheck, unit_bind_eq_ok, ensure_eq_ok, unit_bind_eq_ok, ensure_eq_ok,
      ensureMonotonicTime_eq_ok] at hreplan
    obtain ⟨hstate, hreplans, hmono⟩ := hreplan
    simp only [Bool.or_eq_true, decide_eq_true_eq, kind_eq_ready, kind_eq_verifying] at hstate
    dsimp only
    rw [attempt_bump { task with replans := task.replans + 1 }
      (fun t ↦ { t with steps := [], observations := [] }) .planning .replanStarted hmono]
    split
    case isTrue hgeneration =>
      exact .done (.replan hstate ⟨hmono, hgeneration⟩ (of_decide_eq_true hreplans))
    case isFalse hgeneration =>
      refine .exhausted _ _ ?_ (Nat.le_of_not_lt hgeneration)
      rcases hstate with hstate | ⟨generation, hstate⟩ <;> rw [isTerminal, hstate] <;> rfl

theorem verify_outcome (observedGeneration : Nat) (result : VerificationResult) :
    Outcome task nowMs (.verify observedGeneration result)
      (task.perform nowMs (.verify observedGeneration result)) := by
  refine attempt_outcome fun task' t h ↦ ?_
  split at h
  case h_1 generation hstate =>
    rw [unit_bind_eq_ok, ensure_eq_ok, decide_eq_true_eq, unit_bind_eq_ok,
      ensureMonotonicTime_eq_ok] at h
    obtain ⟨rfl, hmono, h⟩ := h
    obtain ⟨-, rfl, rfl⟩ := transition_eq_ok.mp h
    exact .verify _ result hstate hmono
  case h_2 => cases h

theorem cancel_outcome (reason : String) :
    Outcome task nowMs (.cancel reason) (task.perform nowMs (.cancel reason)) := by
  refine attempt_outcome fun task' t h ↦ ?_
  rw [unit_bind_eq_ok, ensure_eq_ok, unit_bind_eq_ok, unit_bind_eq_ok,
    ensureMonotonicTime_eq_ok] at h
  obtain ⟨hactive, -, hmono, h⟩ := h
  obtain ⟨bumped, hbump, h⟩ := bind_eq_ok.mp h
  obtain ⟨hgeneration, rfl⟩ := bumpGeneration_eq_ok.mp hbump
  obtain ⟨-, rfl, rfl⟩ := transition_eq_ok.mp h
  exact .cancel reason (by simpa using hactive) ⟨hmono, hgeneration⟩

theorem expireIfNeeded_outcome :
    Outcome task nowMs .expireIfNeeded (task.perform nowMs .expireIfNeeded) := by
  refine attempt_outcome fun task' swept h ↦ ?_
  rcases expiry_eq_ok task nowMs h with ⟨rfl, rfl, hidle⟩ | ⟨transition, rfl, hexpires⟩
  · exact .idle (hidle.imp_right And.right)
  · exact .expire hexpires

/-- **Every call fails or has its effect.** -/
theorem perform_outcome (op : Op) : Outcome task nowMs op (task.perform nowMs op) := by
  cases op with
  | beginPlanning => exact beginPlanning_outcome task nowMs
  | addStep description => exact addStep_outcome task nowMs description
  | markReady => exact markReady_outcome task nowMs
  | waitFor kind summary ttlMs => exact waitFor_outcome task nowMs kind summary ttlMs
  | resume => exact resume_outcome task nowMs
  | beginExecution stepIndex => exact beginExecution_outcome task nowMs stepIndex
  | recordObservation observedGeneration result verification =>
    exact recordObservation_outcome task nowMs observedGeneration result verification
  | finishStep => exact finishStep_outcome task nowMs
  | retryCurrentStep => exact retryCurrentStep_outcome task nowMs
  | replan => exact replan_outcome task nowMs
  | verify observedGeneration result => exact verify_outcome task nowMs observedGeneration result
  | cancel reason => exact cancel_outcome task nowMs reason
  | expireIfNeeded => exact expireIfNeeded_outcome task nowMs

end Operations

/-! ## What calls preserve -/

section Preserve

variable {task task' : AgentTask} {nowMs : Nat} {op : Op} {r : Reply}

theorem Expires.generation_eq {transition : TaskTransition}
    (h : task.Expires nowMs task' transition) : task'.generation = task.generation + 1 := by
  cases h <;> rfl

/-- Generations never decrease. -/
theorem Effect.generation_le (h : Effect task nowMs op task' r) :
    task.generation ≤ task'.generation := by
  cases h with
  | beginExecution | retryCurrentStep | replan | cancel => exact Nat.le_succ _
  | resumeExpired _ hexpires | expire hexpires =>
    rw [hexpires.generation_eq]
    exact Nat.le_succ _
  | _ => exact le_rfl

theorem Outcome.generation_le {result : AgentTask × Except TaskError Reply}
    (h : Outcome task nowMs op result) : task.generation ≤ result.1.generation := by
  cases h with
  | refused | exhausted => exact le_rfl
  | done h => exact h.generation_le

theorem run_generation_le (task : AgentTask) (calls : List (Nat × Op)) :
    task.generation ≤ (machine.run task calls).generation :=
  machine.run_invariant (P := fun t ↦ task.generation ≤ t.generation)
    (fun t call h ↦ h.trans (perform_outcome t call.1 call.2).generation_le) le_rfl calls

theorem waiting_not_terminal {commitment : PendingCommitment}
    (h : task.state = .waiting commitment) : task.isTerminal = false := by
  rw [isTerminal, h]
  cases hkind : commitment.kind <;> simp [TaskState.kind, hkind, TaskStateKind.isTerminal]

theorem Expires.active {transition : TaskTransition} (h : task.Expires nowMs task' transition) :
    task.isTerminal = false := by
  cases h with
  | lifetime hactive => exact hactive
  | commitment _ hwaiting =>
    obtain ⟨commitment, hstate⟩ := hwaiting
    exact waiting_not_terminal hstate

/-- Nothing but an idle sweep happens to a terminal task. -/
theorem Effect.active (h : Effect task nowMs op task' r) :
    task.isTerminal = false ∨ op = .expireIfNeeded ∧ task' = task ∧ r = .swept none := by
  cases h with
  | beginPlanning hstate | addStep _ hstate | markReady hstate | waitFor _ _ _ _ _ hstate
  | beginExecution _ _ hstate | recordObservation _ _ _ _ _ hstate | finishStep _ _ _ hstate
  | retryCurrentStep _ _ hstate | verify _ _ hstate =>
    left
    rw [isTerminal, hstate]
    rfl
  | resume commitment hstate => exact Or.inl (waiting_not_terminal hstate)
  | replan hstate =>
    left
    rcases hstate with hstate | ⟨generation, hstate⟩ <;> rw [isTerminal, hstate] <;> rfl
  | cancel _ hactive => exact Or.inl hactive
  | resumeExpired _ hexpires | expire hexpires => exact Or.inl hexpires.active
  | idle => exact Or.inr ⟨rfl, rfl, rfl⟩

end Preserve

/-! ## The invariant -/

/-- The outcome that belongs to a state. -/
def OutcomeMatches : TaskState → Option TaskOutcome → Prop
  | .completed, some .completed => True
  | .failed, some (.failed _) => True
  | .cancelled, some (.cancelled _) => True
  | .notVerified, some (.notVerified _) => True
  | .expired, some .expired => True
  | state, none => state.kind.isTerminal = false
  | _, some _ => False

/-- A step in execution, and a plan under verification, belong to the current
generation. -/
structure Consistent (task : AgentTask) : Prop where
  executing : ∀ stepIndex generation, task.state = .executing stepIndex generation →
    generation = task.generation ∧ stepIndex < task.steps.length
  verifying : ∀ generation, task.state = .verifying generation →
    generation = task.generation ∧ task.steps ≠ [] ∧ ∀ step ∈ task.steps, step.state = .executed
  /-- Work has a generation of its own, above the first. -/
  started : ∀ generation, (∃ stepIndex, task.state = .executing stepIndex generation) ∨
    task.state = .verifying generation → 0 < task.generation
  outcome : OutcomeMatches task.state task.outcome

section Invariant

variable {task task' : AgentTask} {nowMs : Nat} {op : Op} {r : Reply}

theorem new_consistent {id : TaskId} {requestedOutcome : String} {createdAtMs : Nat}
    {limits : TaskLimits} (h : new id requestedOutcome createdAtMs limits = .ok task) :
    task.Consistent := by
  obtain ⟨limits', -, h⟩ := bind_eq_ok.mp h
  obtain ⟨-, h⟩ := unit_bind_eq_ok.mp h
  cases h
  refine ⟨by rintro _ _ ⟨⟩, by rintro _ ⟨⟩, ?_, rfl⟩
  rintro _ (⟨_, h⟩ | h)
  · cases h
  · cases h

theorem new_state {id : TaskId} {requestedOutcome : String} {createdAtMs : Nat}
    {limits : TaskLimits} (h : new id requestedOutcome createdAtMs limits = .ok task) :
    task.state = .accepted := by
  obtain ⟨limits', -, h⟩ := bind_eq_ok.mp h
  obtain ⟨-, h⟩ := unit_bind_eq_ok.mp h
  cases h
  rfl

theorem new_id {id : TaskId} {requestedOutcome : String} {createdAtMs : Nat}
    {limits : TaskLimits} (h : new id requestedOutcome createdAtMs limits = .ok task) :
    task.id = id := by
  obtain ⟨limits', -, h⟩ := bind_eq_ok.mp h
  obtain ⟨-, h⟩ := unit_bind_eq_ok.mp h
  cases h
  rfl

/-- A task still running has no outcome. -/
theorem Consistent.outcome_none (h : task.Consistent) (hactive : task.isTerminal = false) :
    task.outcome = none := by
  have hmatches := h.outcome
  rw [isTerminal] at hactive
  cases houtcome : task.outcome with
  | none => rfl
  | some outcome =>
    rw [houtcome] at hmatches
    cases hstate : task.state <;> rw [hstate] at hmatches hactive <;> cases outcome <;>
      first
        | exact hmatches.elim
        | cases hactive

/-- A state that carries no generation only has to match the outcome. -/
theorem Consistent.of_outcome (hexecuting : ∀ i g, task.state ≠ .executing i g)
    (hverifying : ∀ g, task.state ≠ .verifying g)
    (houtcome : OutcomeMatches task.state task.outcome) : task.Consistent :=
  ⟨fun i g h ↦ absurd h (hexecuting i g), fun g h ↦ absurd h (hverifying g),
    fun g h ↦ (h.elim (fun ⟨i, h⟩ ↦ hexecuting i g h) (hverifying g)).elim, houtcome⟩

theorem Expires.consistent {transition : TaskTransition}
    (h : task.Expires nowMs task' transition) : task'.Consistent := by
  cases h <;> exact .of_outcome (by rintro _ _ ⟨⟩) (by rintro _ ⟨⟩) trivial

theorem verdict_matches (result : VerificationResult) :
    OutcomeMatches (verdict result).2.1 (some (verdict result).1) := by
  rw [verdict]
  cases result.outcome <;> trivial

theorem verdict_terminal (result : VerificationResult) :
    (verdict result).2.1.kind.isTerminal = true := by
  rw [verdict]
  cases result.outcome <;> rfl

theorem Effect.consistent (h : Effect task nowMs op task' r) (hc : task.Consistent) :
    task'.Consistent := by
  have hnone : ∀ state : TaskState, state.kind.isTerminal = false → task.isTerminal = false →
      OutcomeMatches state task.outcome := by
    intro state hstate hactive
    rw [hc.outcome_none hactive]
    cases state <;> exact hstate
  have hactive := h.active
  cases h with
  | beginPlanning | markReady | resume | retryCurrentStep | replan =>
    refine .of_outcome (by rintro _ _ ⟨⟩) (by rintro _ ⟨⟩) (hnone _ rfl ?_)
    simpa using hactive
  | addStep _ hstate =>
    exact .of_outcome (fun _ _ h ↦ nomatch hstate.symm.trans h)
      (fun _ h ↦ nomatch hstate.symm.trans h) hc.outcome
  | waitFor _ _ _ commitment =>
    refine .of_outcome (by rintro _ _ ⟨⟩) (by rintro _ ⟨⟩) (hnone _ ?_ (by simpa using hactive))
    show (task.move (.waiting commitment) nowMs).isTerminal = false
    exact waiting_not_terminal rfl
  | beginExecution stepIndex step hstate hbump hstep =>
    refine ⟨?_, by rintro _ ⟨⟩, fun _ _ ↦ Nat.succ_pos _, hnone _ rfl (by simpa using hactive)⟩
    rintro _ _ ⟨⟩
    refine ⟨rfl, ?_⟩
    change stepIndex < (task.steps.modify stepIndex _).length
    rw [List.length_modify]
    exact (List.getElem?_eq_some_iff.mp hstep).1
  | recordObservation => exact ⟨hc.executing, hc.verifying, hc.started, hc.outcome⟩
  | finishStep stepIndex generation next hstate hmono hnext =>
    obtain ⟨hgeneration, hindex⟩ := hc.executing stepIndex generation hstate
    split at hnext
    case isTrue hall =>
      subst hnext
      refine ⟨by rintro _ _ ⟨⟩, ?_, fun _ _ ↦ hc.started _ (Or.inl ⟨_, hstate⟩),
        hnone _ rfl (by simpa using hactive)⟩
      rintro _ ⟨⟩
      refine ⟨hgeneration, ?_, fun step hstep ↦ ?_⟩
      · apply List.ne_nil_of_length_pos
        change 0 < (task.steps.modify stepIndex _).length
        rw [List.length_modify]
        exact Nat.zero_lt_of_lt hindex
      · exact of_decide_eq_true (List.all_eq_true.mp hall step hstep)
    case isFalse =>
      subst hnext
      exact .of_outcome (by rintro _ _ ⟨⟩) (by rintro _ ⟨⟩) (hnone _ rfl (by simpa using hactive))
  | verify generation result =>
    have hterminal := verdict_terminal result
    refine .of_outcome (fun i g h ↦ ?_) (fun g h ↦ ?_) (verdict_matches result)
    · rw [show (verdict result).2.1 = .executing i g from h] at hterminal
      cases hterminal
    · rw [show (verdict result).2.1 = .verifying g from h] at hterminal
      cases hterminal
  | cancel => exact .of_outcome (by rintro _ _ ⟨⟩) (by rintro _ ⟨⟩) trivial
  | resumeExpired _ hexpires | expire hexpires => exact hexpires.consistent
  | idle => exact hc

theorem Outcome.consistent {result : AgentTask × Except TaskError Reply}
    (h : Outcome task nowMs op result) (hc : task.Consistent) : result.1.Consistent := by
  cases h with
  | refused | exhausted => exact ⟨hc.executing, hc.verifying, hc.started, hc.outcome⟩
  | done h => exact h.consistent hc

/-- **Every run keeps a task consistent.** -/
theorem run_consistent (hc : task.Consistent) (calls : List (Nat × Op)) :
    (machine.run task calls).Consistent :=
  machine.run_invariant (P := Consistent)
    (fun t call h ↦ (perform_outcome t call.1 call.2).consistent h) hc calls

end Invariant

/-! ## A task -/

/-- A new task under the default limits, due after fifteen minutes. -/
def sampleTask : AgentTask where
  id := ⟨"task", by decide⟩
  requestedOutcome := "work"
  state := .accepted
  steps := []
  observations := []
  limits := .default
  createdAtMs := 0
  updatedAtMs := 0
  expiresAtMs := 900000
  generation := 0
  retries := 0
  replans := 0
  outcome := none

theorem sampleTask_new : new ⟨"task", by decide⟩ "work" 0 .default = .ok sampleTask := by rfl

end AgentTask

end Aivtuber
