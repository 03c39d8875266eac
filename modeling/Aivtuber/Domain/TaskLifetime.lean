import Aivtuber.Domain.TaskFence

/-!
# The lifetime of a task

`expires_at_ms` is read by the sweep (`expireIfNeeded`) and by `resume`; no other
operation asks for it.  A call after the deadline therefore goes through exactly when
it would have before (`Startable`), unless a sweep has ended the task first.
-/

open Aivtuber.Check

namespace Aivtuber

namespace AgentTask

/-- A transition that expires the task, or the commitment it waits for. -/
def isExpiry : TaskTransitionReason → Bool
  | .taskExpired | .commitmentExpired => true
  | _ => false

/-- The operations that may succeed at any time. -/
def Op.endsTask : Op → Bool
  | .cancel _ | .expireIfNeeded => true
  | _ => false

/-- A call at or after the deadline that goes through, other than by expiry or
cancellation. -/
def Overruns (task : AgentTask) (call : Nat × Op) : Prop :=
  task.expiresAtMs ≤ call.1 ∧ call.2.endsTask = false ∧
    ∃ r, (task.perform call.1 call.2).2 = .ok r ∧
      ∀ transition ∈ r.transition?, isExpiry transition.reason = false

/-- What an operation asks of the task and of its arguments, at any time.  `resume`
sweeps first, so that it asks for nothing that a late call could meet. -/
def Startable (task : AgentTask) (nowMs : Nat) : Op → Prop
  | .beginPlanning => task.state = .accepted ∧ task.updatedAtMs ≤ nowMs
  | .addStep description =>
    task.state = .planning ∧ task.steps.length < task.limits.maxSteps ∧
      validateText "step_description" description maxTaskStepBytes = .ok ()
  | .markReady => task.state = .planning ∧ task.updatedAtMs ≤ nowMs ∧ task.steps ≠ []
  | .waitFor _ summary ttlMs =>
    task.state = .ready ∧ task.updatedAtMs ≤ nowMs ∧
      (ttlMs ≠ 0 ∧ ttlMs ≤ task.limits.maxPendingTtlMs) ∧
      validateText "pending_summary" summary maxTaskReasonBytes = .ok ()
  | .beginExecution stepIndex =>
    task.state = .ready ∧ task.CanBump nowMs ∧
      ∃ step, task.steps[stepIndex]? = some step ∧ step.state = .pending
  | .recordObservation generation _ _ => ∃ stepIndex, task.state = .executing stepIndex generation
  | .finishStep =>
    (∃ stepIndex generation, task.state = .executing stepIndex generation) ∧
      task.updatedAtMs ≤ nowMs
  | .retryCurrentStep =>
    (∃ stepIndex generation, task.state = .executing stepIndex generation) ∧
      task.CanBump nowMs ∧ task.retries < task.limits.maxRetries
  | .replan =>
    (task.state = .ready ∨ ∃ generation, task.state = .verifying generation) ∧
      task.CanBump nowMs ∧ task.replans < task.limits.maxReplans
  | .verify generation _ => task.state = .verifying generation ∧ task.updatedAtMs ≤ nowMs
  | .resume | .cancel _ | .expireIfNeeded => False

section Overruns

variable {task task' : AgentTask} {nowMs : Nat} {op : Op} {r : Reply}

theorem Expires.isExpiry {transition : TaskTransition}
    (h : task.Expires nowMs task' transition) : isExpiry transition.reason = true := by
  cases h <;> rfl

/-- An effect after the deadline meets the guards of its operation. -/
theorem Effect.startable (h : Effect task nowMs op task' r) (hlate : task.expiresAtMs ≤ nowMs)
    (hop : op.endsTask = false)
    (hexpiry : ∀ transition ∈ r.transition?, AgentTask.isExpiry transition.reason = false) :
    task.Startable nowMs op := by
  cases h with
  | beginPlanning hstate hmono => exact ⟨hstate, hmono⟩
  | addStep _ hstate hsteps htext => exact ⟨hstate, hsteps, htext⟩
  | markReady hstate hmono hsteps => exact ⟨hstate, hmono, hsteps⟩
  | waitFor _ _ _ _ _ hstate hmono httl htext => exact ⟨hstate, hmono, httl, htext⟩
  | resume _ _ _ hdue => exact absurd hlate (Nat.not_le_of_lt hdue)
  | resumeExpired _ hexpires =>
    have hnot := hexpiry _ rfl
    rw [hexpires.isExpiry] at hnot
    cases hnot
  | beginExecution _ step hstate hbump hstep hpending =>
    exact ⟨hstate, hbump, step, hstep, hpending⟩
  | recordObservation stepIndex _ _ _ _ hstate => exact ⟨stepIndex, hstate⟩
  | finishStep stepIndex generation _ hstate hmono => exact ⟨⟨stepIndex, generation, hstate⟩, hmono⟩
  | retryCurrentStep stepIndex generation hstate hbump hretries =>
    exact ⟨⟨stepIndex, generation, hstate⟩, hbump, hretries⟩
  | replan hstate hbump hreplans => exact ⟨hstate, hbump, hreplans⟩
  | verify _ _ hstate hmono => exact ⟨hstate, hmono⟩
  | cancel | idle | expire => cases hop

/-- An attempt that passes its checks changes the state, for its own reason. -/
theorem attempt_goes {result : Except TaskError (AgentTask × TaskTransition)} {t : TaskTransition}
    (h : result = .ok (task', t)) (hreason : AgentTask.isExpiry t.reason = false) :
    ∃ r, (reply .transition (task.attempt result)).2 = .ok r ∧
      ∀ transition ∈ r.transition?, AgentTask.isExpiry transition.reason = false := by
  refine ⟨.transition t, ?_, ?_⟩
  · rw [h]
    rfl
  · rintro _ ⟨⟩
    exact hreason

/-- Nothing but the guards of an operation keeps it from succeeding. -/
theorem Startable.ok (h : task.Startable nowMs op) :
    ∃ r, (task.perform nowMs op).2 = .ok r ∧
      ∀ transition ∈ r.transition?, AgentTask.isExpiry transition.reason = false := by
  cases op with
  | beginPlanning =>
    obtain ⟨hstate, hmono⟩ := h
    refine attempt_goes (unit_bind_eq_ok.mpr ⟨?_, transition_eq_ok.mpr ⟨hmono, rfl, rfl⟩⟩) rfl
    exact requireState_eq_ok.mpr (kind_eq_accepted.mpr hstate)
  | addStep description =>
    obtain ⟨hstate, hsteps, htext⟩ := h
    refine ⟨.step task.steps.length, ?_, by rintro _ ⟨⟩⟩
    rw [perform, addStep, requireState_eq_ok.mpr (kind_eq_planning.mpr hstate),
      ensure_eq_ok.mpr (decide_eq_true hsteps), htext]
    rfl
  | markReady =>
    obtain ⟨hstate, hmono, hsteps⟩ := h
    refine attempt_goes (unit_bind_eq_ok.mpr ⟨?_, unit_bind_eq_ok.mpr ⟨?_,
      transition_eq_ok.mpr ⟨hmono, rfl, rfl⟩⟩⟩) rfl
    · exact requireState_eq_ok.mpr (kind_eq_planning.mpr hstate)
    · exact ensure_eq_ok.mpr (by simpa using hsteps)
  | waitFor kind summary ttlMs =>
    obtain ⟨hstate, hmono, httl, htext⟩ := h
    refine attempt_goes (unit_bind_eq_ok.mpr ⟨?_, unit_bind_eq_ok.mpr ⟨?_,
      unit_bind_eq_ok.mpr ⟨htext, transition_eq_ok.mpr ⟨hmono, rfl, rfl⟩⟩⟩⟩) ?_
    · exact requireState_eq_ok.mpr (kind_eq_ready.mpr hstate)
    · exact ensure_eq_ok.mpr (by simpa using httl)
    · cases kind <;> rfl
  | beginExecution stepIndex =>
    obtain ⟨hstate, hbump, step, hstep, hpending⟩ := h
    refine attempt_goes (unit_bind_eq_ok.mpr ⟨?_, unit_bind_eq_ok.mpr ⟨?_,
      expect_bind_eq_ok.mpr ⟨step, hstep, unit_bind_eq_ok.mpr ⟨?_, bind_eq_ok.mpr
        ⟨_, bumpGeneration_eq_ok.mpr ⟨hbump.generation, rfl⟩,
          transition_eq_ok.mpr ⟨hbump.monotonic, rfl, rfl⟩⟩⟩⟩⟩⟩) rfl
    · exact requireState_eq_ok.mpr (kind_eq_ready.mpr hstate)
    · exact ensureMonotonicTime_eq_ok.mpr hbump.monotonic
    · exact ensure_eq_ok.mpr (decide_eq_true hpending)
  | recordObservation generation result verification =>
    obtain ⟨stepIndex, hstate⟩ := h
    have hexecution : task.execution "record_observation" = .ok (stepIndex, generation) :=
      execution_eq_ok.mpr hstate
    refine ⟨.recorded, ?_, by rintro _ ⟨⟩⟩
    rw [perform, recordObservation, hexecution]
    simp [reply, attempt, ensure, bind, Except.bind, Except.map]
  | finishStep =>
    obtain ⟨⟨stepIndex, generation, hstate⟩, hmono⟩ := h
    have hexecution : task.execution "finish_step" = .ok (stepIndex, generation) :=
      execution_eq_ok.mpr hstate
    have htime := ensureMonotonicTime_eq_ok.mpr hmono
    by_cases hall : (task.setStep stepIndex .executed).steps.all (·.state = .executed) = true
    · exact attempt_goes (bind_eq_ok.mpr ⟨_, hexecution, unit_bind_eq_ok.mpr ⟨htime,
        (if_pos hall).trans (transition_eq_ok.mpr ⟨hmono, rfl, rfl⟩)⟩⟩) rfl
    · exact attempt_goes (bind_eq_ok.mpr ⟨_, hexecution, unit_bind_eq_ok.mpr ⟨htime,
        (if_neg hall).trans (transition_eq_ok.mpr ⟨hmono, rfl, rfl⟩)⟩⟩) rfl
  | retryCurrentStep =>
    obtain ⟨⟨stepIndex, generation, hstate⟩, hbump, hretries⟩ := h
    have hretry : task.retryStep nowMs = .ok stepIndex :=
      bind_eq_ok.mpr ⟨(stepIndex, generation), execution_eq_ok.mpr hstate,
        unit_bind_eq_ok.mpr ⟨ensure_eq_ok.mpr (decide_eq_true hretries),
          unit_bind_eq_ok.mpr ⟨ensureMonotonicTime_eq_ok.mpr hbump.monotonic, rfl⟩⟩⟩
    rw [perform, retryCurrentStep, hretry]
    dsimp only
    rw [attempt_bump { task with retries := task.retries + 1 } (·.setStep stepIndex .pending)
      .ready .retryScheduled hbump.monotonic, if_pos hbump.generation]
    exact ⟨.transition _, rfl, by rintro _ ⟨⟩; rfl⟩
  | replan =>
    obtain ⟨hstate, hbump, hreplans⟩ := h
    have hkind : (task.state.kind = .ready || task.state.kind = .verifying) = true := by
      simpa [kind_eq_ready, kind_eq_verifying] using hstate
    have hreplan : task.replanCheck nowMs = .ok () :=
      unit_bind_eq_ok.mpr ⟨ensure_eq_ok.mpr hkind,
        unit_bind_eq_ok.mpr ⟨ensure_eq_ok.mpr (decide_eq_true hreplans),
          ensureMonotonicTime_eq_ok.mpr hbump.monotonic⟩⟩
    rw [perform, AgentTask.replan, hreplan]
    dsimp only
    rw [attempt_bump { task with replans := task.replans + 1 }
      (fun t ↦ { t with steps := [], observations := [] }) .planning .replanStarted
      hbump.monotonic, if_pos hbump.generation]
    exact ⟨.transition _, rfl, by rintro _ ⟨⟩; rfl⟩
  | verify generation result =>
    obtain ⟨hstate, hmono⟩ := h
    rw [perform, AgentTask.verify, hstate]
    refine attempt_goes (unit_bind_eq_ok.mpr ⟨ensure_eq_ok.mpr (decide_eq_true rfl),
      unit_bind_eq_ok.mpr ⟨ensureMonotonicTime_eq_ok.mpr hmono,
        transition_eq_ok.mpr ⟨hmono, rfl, rfl⟩⟩⟩) ?_
    show AgentTask.isExpiry (verdict result).2.2 = false
    rw [verdict]
    cases result.outcome <;> rfl
  | resume | cancel reason | expireIfNeeded => exact h.elim

/-- Startable operations that are not meant to run late. -/
theorem Startable.not_endsTask (h : task.Startable nowMs op) : op.endsTask = false := by
  cases op with
  | cancel | expireIfNeeded => exact h.elim
  | _ => rfl

/-- **A late call goes through exactly** when its operation could start at any time. -/
theorem overruns_iff {call : Nat × Op} :
    task.Overruns call ↔ task.expiresAtMs ≤ call.1 ∧ task.Startable call.1 call.2 := by
  constructor
  · rintro ⟨hlate, hop, r, hok, hexpiry⟩
    exact ⟨hlate, (perform_effect hok).startable hlate hop hexpiry⟩
  · rintro ⟨hlate, hstart⟩
    exact ⟨hlate, hstart.not_endsTask, hstart.ok⟩

end Overruns

/-! ## Runs -/

/-- No call of a run overruns the deadline. -/
def LifetimeKept (task : AgentTask) (calls : List (Nat × Op)) : Prop :=
  ∀ before call after, calls = before ++ call :: after → ¬(machine.run task before).Overruns call

/-- **The lifetime is kept exactly** when every late call finds its operation unable to
start: it is an expiry, a cancellation or a `resume`, or the task is not in the state
it starts from (a sweep came first), or its arguments are refused at any time. -/
theorem lifetime_kept_iff (task : AgentTask) (calls : List (Nat × Op)) :
    LifetimeKept task calls ↔
      ∀ before call after, calls = before ++ call :: after →
        (machine.run task before).expiresAtMs ≤ call.1 →
          ¬(machine.run task before).Startable call.1 call.2 := by
  constructor
  · intro hkept before call after hcalls hlate hstart
    exact hkept before call after hcalls (overruns_iff.mpr ⟨hlate, hstart⟩)
  · intro hbarred before call after hcalls hoverruns
    obtain ⟨hlate, hstart⟩ := overruns_iff.mp hoverruns
    exact hbarred before call after hcalls hlate hstart

/-- Work that begins, and is verified, after the deadline. -/
def lateCalls : List (Nat × Op) :=
  [(1, .beginPlanning), (2, .addStep "step"), (3, .markReady), (900000, .beginExecution 0),
    (900001, .finishStep), (900002, .verify 1 ⟨.verified, none⟩)]

/-- No sweep comes in between, and the task completes after its lifetime. -/
theorem late_task_completes :
    sampleTask.expiresAtMs = 900000 ∧ (machine.run sampleTask lateCalls).state = .completed ∧
      ¬LifetimeKept sampleTask lateCalls := by
  refine ⟨rfl, by decide, fun hkept ↦ ?_⟩
  refine hkept (lateCalls.take 3) (900000, .beginExecution 0) (lateCalls.drop 4) rfl ?_
  exact overruns_iff.mpr ⟨by decide, by decide, ⟨by decide, by decide⟩, _, rfl, rfl⟩

end AgentTask

end Aivtuber
