import Aivtuber.Domain.TaskBody

/-!
# The generation counter of a task

Every operation that hands out a generation uses up something that is bounded: a pending
step, a retry, a replan, or the task itself, which ends.  A retry puts its step back, so
that it pays for two generations, and a replan forgets the steps begun before it.  What
remains is the bound of `maxGeneration`, far below the 64 bits of the counter, so that no
run reaches the error of `bumpGeneration`; and that error is the only one that an operation
can return after it has written (`perform_outcome`).
-/

open Aivtuber.Check

namespace Aivtuber

/-- The generations that the limits of a task leave room for. -/
def TaskLimits.maxGeneration (limits : TaskLimits) : Nat :=
  limits.maxSteps + 2 * limits.maxRetries + limits.maxReplans * (limits.maxSteps + 1) + 1

/-- Limits that pass their check keep the bound small. -/
theorem TaskLimits.maxGeneration_lt {limits limits' : TaskLimits}
    (h : limits.validate = .ok limits') : limits' = limits ∧ limits.maxGeneration + 1 < 2 ^ 64 := by
  simp only [validate, unit_bind_eq_ok, ensure_eq_ok, Bool.and_eq_true, decide_eq_true_eq] at h
  obtain ⟨⟨-, hsteps⟩, -, hretries, hreplans, -, -, h⟩ := h
  rw [maxTaskStepsHard] at hsteps
  rw [maxTaskRetriesHard] at hretries
  rw [maxTaskReplansHard] at hreplans
  have hproduct : limits.maxReplans * (limits.maxSteps + 1) ≤ 16 * 65 :=
    Nat.mul_le_mul hreplans (by omega)
  refine ⟨(Except.ok.inj h).symm, ?_⟩
  rw [maxGeneration]
  omega

namespace AgentTask

/-! ## Steps begun -/

/-- A step that has been begun under the current plan. -/
def isBegun (step : TaskStep) : Bool := step.state ≠ .pending

def begun (task : AgentTask) : Nat := task.steps.countP isBegun

/-- One for a task that has ended. -/
def ended (task : AgentTask) : Nat := if task.isTerminal then 1 else 0

theorem countP_modify {α : Type} {p : α → Bool} {f : α → α} {l : List α} {i : Nat} {a : α}
    (h : l[i]? = some a) :
    (l.modify i f).countP p + (if p a then 1 else 0) =
      l.countP p + (if p (f a) then 1 else 0) := by
  induction l generalizing i with
  | nil => cases h
  | cons b l ih =>
    cases i with
    | zero =>
      cases h
      rw [List.modify_zero_cons, List.countP_cons, List.countP_cons]
      omega
    | succ i =>
      have hrest := ih (i := i) (by simpa using h)
      rw [List.modify_succ_cons, List.countP_cons, List.countP_cons]
      omega

theorem begun_setStep {task : AgentTask} {stepIndex : Nat} {step : TaskStep}
    (state : TaskStepState) (h : task.steps[stepIndex]? = some step) :
    (task.setStep stepIndex state).begun + (if step.state ≠ .pending then 1 else 0) =
      task.begun + (if state ≠ .pending then 1 else 0) := by
  have hcount := countP_modify (p := isBegun) (f := fun step ↦ { step with state }) h
  simp only [isBegun, decide_eq_true_eq] at hcount
  exact hcount

/-! ## The invariant -/

/-- What pays for the generations of a task. -/
structure Bounded (limits : TaskLimits) (task : AgentTask) : Prop where
  limits_eq : task.limits = limits
  steps : task.steps.length ≤ limits.maxSteps
  retries : task.retries ≤ limits.maxRetries
  replans : task.replans ≤ limits.maxReplans
  /-- The step in execution has been begun. -/
  executing : ∀ stepIndex generation, task.state = .executing stepIndex generation →
    ∃ step, task.steps[stepIndex]? = some step ∧ step.state ≠ .pending
  paid : task.generation ≤ task.begun + 2 * task.retries +
    task.replans * (limits.maxSteps + 1) + task.ended

section Invariant

variable {limits : TaskLimits} {task task' : AgentTask} {nowMs : Nat} {op : Op} {r : Reply}

theorem Bounded.generation_le (h : task.Bounded limits) :
    task.generation ≤ limits.maxGeneration := by
  have hbegun : task.begun ≤ limits.maxSteps := List.countP_le_length.trans h.steps
  have hreplans := Nat.mul_le_mul_right (limits.maxSteps + 1) h.replans
  have hended : task.ended ≤ 1 := by
    rw [ended]
    split <;> omega
  have hpaid := h.paid
  have hretries := h.retries
  rw [TaskLimits.maxGeneration]
  omega

theorem Expires.bounded {transition : TaskTransition}
    (h : task.Expires nowMs task' transition) (hb : task.Bounded limits) :
    task'.Bounded limits := by
  have hactive : task.ended = 0 := by rw [ended, h.active]; rfl
  have hpaid := hb.paid
  cases h with
  | lifetime | commitment =>
    refine ⟨hb.limits_eq, hb.steps, hb.retries, hb.replans, by rintro _ _ ⟨⟩, ?_⟩
    change task.generation + 1 ≤ task.begun + 2 * task.retries +
      task.replans * (limits.maxSteps + 1) + 1
    omega

/-- A change of state pays for itself when the task was active and no generation is new. -/
theorem Bounded.move (hb : task.Bounded limits) (hactive : task.isTerminal = false)
    {next : TaskState} (hnext : ∀ stepIndex generation, next ≠ .executing stepIndex generation)
    (outcome : Option TaskOutcome) :
    ({ task with outcome := outcome }.move next nowMs).Bounded limits := by
  refine ⟨hb.limits_eq, hb.steps, hb.retries, hb.replans,
    fun i g h ↦ absurd h (hnext i g), ?_⟩
  have hended : task.ended = 0 := by rw [ended, hactive]; rfl
  have hpaid := hb.paid
  rw [hended] at hpaid
  exact hpaid.trans (Nat.le_add_right _ _)

/-- A plan of another list of steps, as long as it is paid for. -/
theorem Bounded.addStep (hb : task.Bounded limits) (hstate : task.state = .planning)
    (hsteps : task.steps.length < task.limits.maxSteps) {step : TaskStep}
    (hpending : step.state = .pending) :
    { task with steps := task.steps ++ [step] }.Bounded limits := by
  have hbegun : { task with steps := task.steps ++ [step] }.begun = task.begun := by
    simp [begun, isBegun, hpending]
  refine ⟨hb.limits_eq, ?_, hb.retries, hb.replans, fun i g h ↦ ?_, ?_⟩
  · rw [hb.limits_eq] at hsteps
    rw [List.length_append]
    exact hsteps
  · cases hstate.symm.trans h
  · rw [hbegun]
    exact hb.paid

/-- Another state for a step that exists, and another state for the task. -/
theorem Bounded.step (hb : task.Bounded limits) {stepIndex : Nat} {step : TaskStep}
    (hstep : task.steps[stepIndex]? = some step) {state : TaskStepState} {next : TaskState}
    {generation retries : Nat} (hretries : retries ≤ limits.maxRetries)
    (hnext : ∀ i g, next = .executing i g → i = stepIndex ∧ state ≠ .pending)
    (hpaid : generation + (if step.state ≠ .pending then 1 else 0) ≤
      task.begun + (if state ≠ .pending then 1 else 0) + 2 * retries +
        task.replans * (limits.maxSteps + 1)) :
    ({ task.setStep stepIndex state with generation, retries }.move next nowMs).Bounded
      limits := by
  have hcount := begun_setStep state hstep
  have hbegun : ({ task.setStep stepIndex state with generation, retries }.move next nowMs).begun =
      (task.setStep stepIndex state).begun := rfl
  refine ⟨hb.limits_eq, ?_, hretries, hb.replans, fun i g h ↦ ?_, ?_⟩
  · change (task.steps.modify stepIndex _).length ≤ _
    rw [List.length_modify]
    exact hb.steps
  · obtain ⟨rfl, hbegins⟩ := hnext i g h
    refine ⟨{ step with state }, ?_, hbegins⟩
    change (task.steps.modify i _)[i]? = _
    simp [hstep]
  · rw [hbegun]
    change generation ≤ (task.setStep stepIndex state).begun + 2 * retries +
      task.replans * (limits.maxSteps + 1) + _
    omega

theorem Effect.bounded (h : Effect task nowMs op task' r) (hb : task.Bounded limits) :
    task'.Bounded limits := by
  have hactive := h.active
  have hpaid : task.isTerminal = false → task.generation ≤
      task.begun + 2 * task.retries + task.replans * (limits.maxSteps + 1) := by
    intro hactive
    have hended : task.ended = 0 := by rw [ended, hactive]; rfl
    have hpaid := hb.paid
    rw [hended] at hpaid
    exact hpaid
  cases h with
  | beginPlanning | markReady | waitFor | resume =>
    refine hb.move ?_ (by rintro _ _ ⟨⟩) _
    simpa using hactive
  | verify generation result =>
    refine hb.move (by simpa using hactive) (fun i g heq ↦ ?_) _
    have hterminal := verdict_terminal result
    rw [heq] at hterminal
    cases hterminal
  | addStep description hstate hsteps => exact hb.addStep hstate hsteps rfl
  | beginExecution stepIndex step hstate hbump hstep hpending =>
    have hpaid := hpaid (by simpa using hactive)
    refine hb.step hstep hb.retries ?_ ?_
    · rintro _ _ ⟨⟩
      exact ⟨rfl, by decide⟩
    · rw [if_neg (by simp [hpending]), if_pos (by decide)]
      change task.generation + 1 + 0 ≤ task.begun + 1 + 2 * task.retries + _
      omega
  | recordObservation =>
    exact ⟨hb.limits_eq, hb.steps, hb.retries, hb.replans, hb.executing, hb.paid⟩
  | finishStep stepIndex generation next hstate hmono hnext =>
    have hpaid := hpaid (by simpa using hactive)
    obtain ⟨step, hstep, hbegun⟩ := hb.executing stepIndex generation hstate
    refine hb.step hstep hb.retries ?_ ?_
    · intro i g heq
      rw [hnext] at heq
      split at heq <;> cases heq
    · rw [if_pos hbegun, if_pos (by decide)]
      omega
  | retryCurrentStep stepIndex generation hstate hbump hretries =>
    have hpaid := hpaid (by simpa using hactive)
    obtain ⟨step, hstep, hbegun⟩ := hb.executing stepIndex generation hstate
    refine hb.step hstep ?_ (by rintro _ _ ⟨⟩) ?_
    · rw [hb.limits_eq] at hretries
      exact hretries
    · rw [if_pos hbegun, if_neg (by decide)]
      change task.generation + 1 + 1 ≤ task.begun + 0 + 2 * (task.retries + 1) + _
      omega
  | replan hstate hbump hreplans =>
    have hpaid := hpaid (by simpa using hactive)
    have hbegun : task.begun ≤ limits.maxSteps := List.countP_le_length.trans hb.steps
    rw [hb.limits_eq] at hreplans
    refine ⟨hb.limits_eq, Nat.zero_le _, hb.retries, hreplans, by rintro _ _ ⟨⟩, ?_⟩
    change task.generation + 1 ≤ 0 + 2 * task.retries +
      (task.replans + 1) * (limits.maxSteps + 1) + 0
    rw [Nat.add_mul]
    omega
  | cancel =>
    have hpaid := hpaid (by simpa using hactive)
    refine ⟨hb.limits_eq, hb.steps, hb.retries, hb.replans, by rintro _ _ ⟨⟩, ?_⟩
    change task.generation + 1 ≤ task.begun + 2 * task.retries +
      task.replans * (limits.maxSteps + 1) + 1
    omega
  | resumeExpired _ hexpires | expire hexpires => exact hexpires.bounded hb
  | idle => exact hb

theorem new_bounded {id : TaskId} {requestedOutcome : String} {createdAtMs : Nat}
    (h : new id requestedOutcome createdAtMs limits = .ok task) :
    task.Bounded limits ∧ limits.maxGeneration + 1 < 2 ^ 64 := by
  rw [new, bind_eq_ok] at h
  obtain ⟨limits', hvalid, h⟩ := h
  rw [unit_bind_eq_ok] at h
  obtain ⟨hlimits, hbound⟩ := TaskLimits.maxGeneration_lt hvalid
  subst hlimits
  cases h.2
  exact ⟨⟨rfl, Nat.zero_le _, Nat.zero_le _, Nat.zero_le _, by rintro _ _ ⟨⟩, Nat.zero_le _⟩,
    hbound⟩

/-- A call fails without a trace, as long as the counter has room, or it keeps the bound. -/
theorem Outcome.atomic {result : AgentTask × Except TaskError Reply}
    (h : Outcome task nowMs op result) (hroom : task.generation + 1 < 2 ^ 64) {error : TaskError}
    (herror : result.2 = .error error) : result.1 = task := by
  cases h with
  | refused => rfl
  | exhausted _ _ _ hgeneration => omega
  | done => cases herror

theorem Outcome.bounded {result : AgentTask × Except TaskError Reply}
    (h : Outcome task nowMs op result) (hb : task.Bounded limits)
    (hroom : task.generation + 1 < 2 ^ 64) : result.1.Bounded limits := by
  cases h with
  | refused => exact hb
  | exhausted _ _ _ hgeneration => omega
  | done h => exact h.bounded hb

end Invariant

/-! ## The exhaustion of the counter -/

/-- A computation that does not fail for the counter. -/
def Spares {α : Type} (x : Except TaskError α) : Prop := x ≠ .error .generationExhausted

section Spares

variable {α β : Type} {task : AgentTask} {nowMs : Nat}

theorem Spares.ok {a : α} : Spares (.ok a) := by rintro ⟨⟩

theorem Spares.bind {x : Except TaskError α} {f : α → Except TaskError β} (hx : Spares x)
    (hf : ∀ a, Spares (f a)) : Spares (x >>= f) := by
  cases x with
  | ok a => exact hf a
  | error error => exact fun h ↦ hx (congrArg Except.error (Except.error.inj h))

theorem spares_ensure {error : TaskError} (herror : error ≠ .generationExhausted)
    {condition : Bool} : Spares (ensure error condition) := by
  cases condition
  · exact fun h ↦ herror (Except.error.inj h)
  · exact Spares.ok

theorem spares_expect {error : TaskError} (herror : error ≠ .generationExhausted)
    {value : Option α} : Spares (expect error value) := by
  cases value
  · exact fun h ↦ herror (Except.error.inj h)
  · exact Spares.ok

theorem spares_requireState {expected : TaskStateKind} {action : String} :
    Spares (task.requireState expected action) := spares_ensure (by rintro ⟨⟩)

theorem spares_validateText {field value : String} {maxBytes : Nat} :
    Spares (validateText field value maxBytes) := spares_ensure (by rintro ⟨⟩)

theorem spares_ensureMonotonicTime : Spares (task.ensureMonotonicTime nowMs) :=
  spares_ensure (by rintro ⟨⟩)

theorem spares_transition {next : TaskState} {reason : TaskTransitionReason} :
    Spares (task.transition next reason nowMs) :=
  spares_ensureMonotonicTime.bind fun _ ↦ Spares.ok

theorem spares_execution {action : String} : Spares (task.execution action) := by
  rw [execution]
  split
  · exact Spares.ok
  · rintro ⟨⟩

theorem spares_bumpGeneration (hroom : task.generation + 1 < 2 ^ 64) :
    Spares task.bumpGeneration := by
  rw [bumpGeneration_eq_ok.mpr ⟨hroom, rfl⟩]
  exact Spares.ok

theorem spares_expiry (hroom : task.generation + 1 < 2 ^ 64) : Spares (task.expiry nowMs) := by
  rw [expiry]
  split
  · exact Spares.ok
  · refine spares_ensureMonotonicTime.bind fun _ ↦ ?_
    split
    · exact (spares_bumpGeneration hroom).bind fun _ ↦ spares_transition.bind fun _ ↦ Spares.ok
    · split
      · exact (spares_bumpGeneration hroom).bind fun _ ↦ spares_transition.bind fun _ ↦ Spares.ok
      · exact Spares.ok

/-- What an operation returns fails as its computation does. -/
theorem Spares.reply {f : α → Reply} {x : Except TaskError (AgentTask × α)} (h : Spares x) :
    Spares (AgentTask.reply f (task.attempt x)).2 := by
  cases x with
  | ok result => exact Spares.ok
  | error error => exact fun herror ↦ h (congrArg Except.error (Except.error.inj herror))

/-- **No operation fails for the counter** while it has room. -/
theorem spares_perform (hroom : task.generation + 1 < 2 ^ 64) (op : Op) :
    Spares (task.perform nowMs op).2 := by
  cases op with
  | beginPlanning => exact (spares_requireState.bind fun _ ↦ spares_transition).reply
  | addStep description =>
    exact (spares_requireState.bind fun _ ↦ (spares_ensure (by rintro ⟨⟩)).bind fun _ ↦
      spares_validateText.bind fun _ ↦ Spares.ok).reply
  | markReady =>
    exact (spares_requireState.bind fun _ ↦ (spares_ensure (by rintro ⟨⟩)).bind fun _ ↦
      spares_transition).reply
  | waitFor kind summary ttlMs =>
    exact (spares_requireState.bind fun _ ↦ (spares_ensure (by rintro ⟨⟩)).bind fun _ ↦
      spares_validateText.bind fun _ ↦ spares_transition).reply
  | resume =>
    refine Spares.reply ?_
    split
    · refine (spares_expiry hroom).bind fun swept ↦ ?_
      split
      · exact Spares.ok
      · exact spares_transition
    · rintro ⟨⟩
  | beginExecution stepIndex =>
    exact (spares_requireState.bind fun _ ↦ spares_ensureMonotonicTime.bind fun _ ↦
      (spares_expect (by rintro ⟨⟩)).bind fun _ ↦ (spares_ensure (by rintro ⟨⟩)).bind fun _ ↦
      (spares_bumpGeneration hroom).bind fun _ ↦ spares_transition).reply
  | recordObservation observedGeneration result verification =>
    exact (spares_execution.bind fun _ ↦ (spares_ensure (by rintro ⟨⟩)).bind fun _ ↦
      Spares.ok).reply
  | finishStep =>
    refine Spares.reply ?_
    refine spares_execution.bind fun _ ↦ spares_ensureMonotonicTime.bind fun _ ↦ ?_
    dsimp only
    split <;> exact spares_transition
  | retryCurrentStep =>
    have hchecks : Spares (task.retryStep nowMs) :=
      spares_execution.bind fun _ ↦ (spares_ensure (by rintro ⟨⟩)).bind fun _ ↦
        spares_ensureMonotonicTime.bind fun _ ↦ Spares.ok
    rw [perform, retryCurrentStep]
    split
    case h_1 error herror =>
      rw [herror] at hchecks
      exact fun h ↦ hchecks (congrArg Except.error (Except.error.inj h))
    case h_2 =>
      refine Spares.reply ?_
      exact (spares_bumpGeneration (by exact hroom)).bind fun _ ↦ spares_transition
  | replan =>
    have hchecks : Spares (task.replanCheck nowMs) :=
      (spares_ensure (by rintro ⟨⟩)).bind fun _ ↦ (spares_ensure (by rintro ⟨⟩)).bind fun _ ↦
        spares_ensureMonotonicTime
    rw [perform, replan]
    split
    case h_1 error herror =>
      rw [herror] at hchecks
      exact fun h ↦ hchecks (congrArg Except.error (Except.error.inj h))
    case h_2 =>
      refine Spares.reply ?_
      exact (spares_bumpGeneration (by exact hroom)).bind fun _ ↦ spares_transition
  | verify observedGeneration result =>
    refine Spares.reply ?_
    split
    · exact (spares_ensure (by rintro ⟨⟩)).bind fun _ ↦
        spares_ensureMonotonicTime.bind fun _ ↦ spares_transition
    · rintro ⟨⟩
  | cancel reason =>
    exact ((spares_ensure (by rintro ⟨⟩)).bind fun _ ↦ spares_validateText.bind fun _ ↦
      spares_ensureMonotonicTime.bind fun _ ↦ (spares_bumpGeneration hroom).bind fun _ ↦
      spares_transition).reply
  | expireIfNeeded => exact (spares_expiry hroom).reply

end Spares

/-! ## Every operation is atomic -/

/-- **A failed operation leaves no trace**, and the generation counter is never exhausted:
in every run of a new task, each operation run statement by statement either succeeds or
leaves the whole task as it was, the error it then returns is not the exhaustion of the
counter, and the counter stays below a bound that the limits give. -/
theorem operations_atomic {id : TaskId} {requestedOutcome : String} {createdAtMs : Nat}
    {limits : TaskLimits} {task : AgentTask}
    (h : new id requestedOutcome createdAtMs limits = .ok task) (calls : List (Nat × Op))
    (nowMs : Nat) (op : Op) :
    (∀ error, ((Body.perform nowMs op).run (Body.machine.run task calls)).2 = .error error →
      ((Body.perform nowMs op).run (Body.machine.run task calls)).1 =
        Body.machine.run task calls ∧ error ≠ .generationExhausted) ∧
    (Body.machine.run task calls).generation ≤ limits.maxGeneration ∧
    limits.maxGeneration + 1 < 2 ^ 64 := by
  obtain ⟨hnew, hlimits⟩ := new_bounded h
  have hroom : ∀ {t : AgentTask}, t.Bounded limits → t.generation + 1 < 2 ^ 64 := by
    intro t ht
    have hgeneration := ht.generation_le
    omega
  have hb : (Body.machine.run task calls).Bounded limits := by
    rw [Body.machine_eq]
    exact machine.run_invariant (P := Bounded limits)
      (fun t call ht ↦ (perform_outcome t call.1 call.2).bounded ht (hroom ht)) hnew calls
  rw [Body.perform_run]
  refine ⟨fun error herror ↦ ⟨?_, ?_⟩, hb.generation_le, hlimits⟩
  · exact (perform_outcome _ nowMs op).atomic (hroom hb) herror
  · rintro rfl
    exact spares_perform (hroom hb) op herror

/-- Under the default limits a task has 55 generations at most; finishing a step that has not
been started leaves it as it was. -/
theorem operations_atomic_sample :
    ((Body.perform 5 .finishStep).run (Body.machine.run sampleTask [(0, .beginPlanning)])).1 =
      Body.machine.run sampleTask [(0, .beginPlanning)] ∧
    (Body.machine.run sampleTask [(0, .beginPlanning)]).generation ≤
      55 :=
  ⟨((operations_atomic sampleTask_new [(0, .beginPlanning)] 5 .finishStep).1
      (.invalidTransition .planning "finish_step") rfl).1,
    (operations_atomic sampleTask_new [(0, .beginPlanning)] 5 .finishStep).2.1⟩

end AgentTask

end Aivtuber
