import Aivtuber.Domain.TaskRun

/-!
# The completion fence

A generation is a token: whoever saw a task under it may report back with it.  In a
consistent task only the current generation is accepted, generations never decrease,
and a retry, a replan, a cancellation or an expiry takes the next one.  A token from
before such a call is therefore below the current generation for good.

Completion is read off backwards: the step that enters `completed` is a verification
under the current generation of a plan executed to its end, and nothing happens to a
terminal task after it.
-/

namespace Aivtuber

namespace AgentTask

/-! ## Tokens -/

/-- The generation that a caller can see in a task. -/
def HandedOut (task : AgentTask) (generation : Nat) : Prop :=
  task.generation = generation ∨ (∃ stepIndex, task.state = .executing stepIndex generation) ∨
    task.state = .verifying generation

/-- A call that is accepted for work under `generation`.  `finish_step` presents no
token: it finishes the step in execution, under the generation of that execution. -/
def Accepts (task : AgentTask) (call : Nat × Op) (generation : Nat) : Prop :=
  (∃ r, (task.perform call.1 call.2).2 = .ok r) ∧
    ((∃ result verification, call.2 = .recordObservation generation result verification) ∨
      (∃ result, call.2 = .verify generation result) ∨
      call.2 = .finishStep ∧ ∃ stepIndex, task.state = .executing stepIndex generation)

/-- The transition of a reply. -/
def Reply.transition? : Reply → Option TaskTransition
  | .transition t => some t
  | .swept t => t
  | .step _ | .recorded => none

/-- The reasons of a retry, a replan, a cancellation and an expiry. -/
def isFence : TaskTransitionReason → Bool
  | .retryScheduled | .replanStarted | .cancelled | .taskExpired | .commitmentExpired => true
  | _ => false

/-- A call that succeeds as a retry, a replan, a cancellation or an expiry. -/
def Fences (task : AgentTask) (call : Nat × Op) : Prop :=
  ∃ r transition, (task.perform call.1 call.2).2 = .ok r ∧ r.transition? = some transition ∧
    isFence transition.reason = true

section Tokens

variable {task task' : AgentTask} {nowMs : Nat} {op : Op} {r : Reply} {generation : Nat}

/-- What a caller has seen is not ahead of the task. -/
theorem Consistent.handedOut_le (hc : task.Consistent) (h : task.HandedOut generation) :
    generation ≤ task.generation := by
  rcases h with rfl | ⟨stepIndex, h⟩ | h
  · exact le_rfl
  · exact (hc.executing _ _ h).1.le
  · exact (hc.verifying _ h).1.le

theorem perform_effect (h : (task.perform nowMs op).2 = .ok r) :
    Effect task nowMs op (task.perform nowMs op).1 r := by
  have houtcome := perform_outcome task nowMs op
  obtain ⟨task', hperform⟩ : ∃ task', task.perform nowMs op = (task', .ok r) :=
    ⟨_, Prod.ext rfl h⟩
  rw [hperform] at houtcome ⊢
  cases houtcome with
  | done heffect => exact heffect

theorem Effect.observed {result : ToolExecutionResult} {verification : ToolVerificationOutcome}
    (h : Effect task nowMs (.recordObservation generation result verification) task' r) :
    ∃ stepIndex, task.state = .executing stepIndex generation := by
  cases h with
  | recordObservation stepIndex _ _ _ _ hstate => exact ⟨stepIndex, hstate⟩

theorem Effect.verified {result : VerificationResult}
    (h : Effect task nowMs (.verify generation result) task' r) :
    task.state = .verifying generation := by
  cases h with
  | verify _ _ hstate => exact hstate

/-- Only the current generation is accepted. -/
theorem Consistent.accepts_eq (hc : task.Consistent) {call : Nat × Op}
    (h : task.Accepts call generation) : generation = task.generation := by
  obtain ⟨nowMs, op⟩ := call
  obtain ⟨⟨r, hok⟩, h⟩ := h
  have heffect := perform_effect hok
  rcases h with ⟨result, verification, rfl⟩ | ⟨result, rfl⟩ | ⟨-, stepIndex, hstate⟩
  · obtain ⟨stepIndex, hstate⟩ := heffect.observed
    exact (hc.executing _ _ hstate).1
  · exact (hc.verifying _ heffect.verified).1
  · exact (hc.executing _ _ hstate).1

theorem verdict_not_fence (result : VerificationResult) :
    isFence (verdict result).2.2 = false := by
  rw [verdict]
  cases result.outcome <;> rfl

/-- A fence takes the next generation. -/
theorem Effect.fence_lt {transition : TaskTransition} (h : Effect task nowMs op task' r)
    (htransition : r.transition? = some transition) (hfence : isFence transition.reason = true) :
    task.generation < task'.generation := by
  cases h with
  | retryCurrentStep | replan | cancel => exact Nat.lt_succ_self _
  | resumeExpired _ hexpires | expire hexpires =>
    rw [hexpires.generation_eq]
    exact Nat.lt_succ_self _
  | waitFor _ _ _ _ reason _ _ _ _ hreason =>
    cases htransition
    rcases hreason with rfl | rfl <;> cases hfence
  | verify _ result =>
    cases htransition
    rw [note, verdict_not_fence] at hfence
    cases hfence
  | _ => cases htransition <;> cases hfence

theorem Fences.generation_lt {call : Nat × Op} (h : task.Fences call) :
    task.generation < (machine.next task call).generation := by
  obtain ⟨r, transition, hok, htransition, hfence⟩ := h
  exact (perform_effect hok).fence_lt htransition hfence

end Tokens

/-! ## Completion -/

/-- The step that completes a task: a verification, with a `Verified` verdict under the
current generation, of a plan whose steps were all executed. -/
structure Completes (task : AgentTask) (generation : Nat) (result : VerificationResult) : Prop where
  verdict : result.outcome = .verified
  state : task.state = .verifying generation
  generation : generation = task.generation
  planned : task.steps ≠ []
  executed : ∀ step ∈ task.steps, step.state = .executed

section Completion

variable {task task' : AgentTask} {nowMs : Nat} {op : Op} {r : Reply}

theorem Expires.not_completed {transition : TaskTransition}
    (h : task.Expires nowMs task' transition) : task'.state ≠ .completed := by
  cases h <;> rintro ⟨⟩

theorem verdict_completed {result : VerificationResult}
    (h : (verdict result).2.1 = .completed) : result.outcome = .verified := by
  rw [verdict] at h
  cases houtcome : result.outcome <;> rw [houtcome] at h <;> first | rfl | cases h

/-- Only a verification completes a task. -/
theorem Effect.completes (h : Effect task nowMs op task' r) (hc : task.Consistent)
    (hbefore : task.state ≠ .completed) (hafter : task'.state = .completed) :
    ∃ generation result, op = .verify generation result ∧ task.Completes generation result := by
  cases h with
  | verify generation result hstate =>
    obtain ⟨hgeneration, hplanned, hexecuted⟩ := hc.verifying generation hstate
    exact ⟨generation, result, rfl, verdict_completed hafter, hstate, hgeneration, hplanned,
      hexecuted⟩
  | finishStep _ _ next _ _ hnext =>
    rw [show next = .completed from hafter] at hnext
    split at hnext <;> cases hnext
  | resumeExpired _ hexpires | expire hexpires => exact absurd hafter hexpires.not_completed
  | addStep | recordObservation | idle => exact absurd hafter hbefore
  | _ => cases hafter

/-- Nothing happens to a terminal task. -/
theorem Outcome.terminal {result : AgentTask × Except TaskError Reply}
    (h : Outcome task nowMs op result) (hterminal : task.isTerminal = true) :
    result.1 = task ∧ ((∃ error, result.2 = .error error) ∨
      op = .expireIfNeeded ∧ result.2 = .ok (.swept none)) := by
  cases h with
  | refused error => exact ⟨rfl, Or.inl ⟨error, rfl⟩⟩
  | exhausted _ _ hactive => exact absurd hterminal (by simp [hactive])
  | done h =>
    rcases h.active with hactive | ⟨hop, htask, hr⟩
    · exact absurd hterminal (by simp [hactive])
    · exact ⟨htask, Or.inr ⟨hop, congrArg Except.ok hr⟩⟩

theorem run_terminal (hterminal : task.isTerminal = true) (calls : List (Nat × Op)) :
    machine.run task calls = task :=
  machine.run_invariant (P := fun t ↦ t = task)
    (fun t call h ↦ by
      subst h
      exact ((perform_outcome t call.1 call.2).terminal hterminal).1) rfl calls

theorem Outcome.error_completed {result : AgentTask × Except TaskError Reply} {error : TaskError}
    (h : Outcome task nowMs op result) (herror : result.2 = .error error)
    (hbefore : task.state ≠ .completed) : result.1.state ≠ .completed := by
  cases h with
  | refused | exhausted => exact hbefore
  | done => cases herror

/-- A completed task has been completed by one of the calls. -/
theorem run_completed {calls : List (Nat × Op)} (hc : task.Consistent)
    (hstart : task.state ≠ .completed) (h : (machine.run task calls).state = .completed) :
    ∃ before nowMs generation result after,
      calls = before ++ (nowMs, .verify generation result) :: after ∧
        (machine.run task before).Completes generation result ∧
        (machine.run task (before ++ [(nowMs, .verify generation result)])).state =
          .completed := by
  induction calls using List.reverseRecOn with
  | nil => exact absurd h hstart
  | append_singleton calls call ih =>
    by_cases hcompleted : (machine.run task calls).state = .completed
    · obtain ⟨before, nowMs, generation, result, after, rfl, hcompletes⟩ := ih hcompleted
      exact ⟨before, nowMs, generation, result, after ++ [call], by simp, hcompletes⟩
    · obtain ⟨nowMs, op⟩ := call
      have hlast := h
      rw [machine.run_concat] at hlast
      have hconsistent := run_consistent hc calls
      cases hok : ((machine.run task calls).perform nowMs op).2 with
      | error error =>
        have houtcome := perform_outcome (machine.run task calls) nowMs op
        exact absurd hlast (houtcome.error_completed hok hcompleted)
      | ok r =>
        obtain ⟨generation, result, rfl, hcompletes⟩ :=
          (perform_effect hok).completes hconsistent hcompleted hlast
        exact ⟨calls, nowMs, generation, result, [], rfl, hcompletes, h⟩

end Completion

/-! ## The fence -/

/-- What holds of a run of calls on a new task. -/
structure CompletionFenced (task : AgentTask) (calls : List (Nat × Op)) : Prop where
  /-- A completed task was completed by a verification of a plan executed to its end. -/
  completed : (machine.run task calls).state = .completed →
    ∃ before nowMs generation result after,
      calls = before ++ (nowMs, .verify generation result) :: after ∧
        (machine.run task before).Completes generation result ∧
        (machine.run task (before ++ [(nowMs, .verify generation result)])).state = .completed
  /-- No token from before a fence is accepted after it. -/
  fenced : ∀ before between fence later call rest,
    calls = before ++ between ++ fence :: later ++ call :: rest →
      (machine.run task (before ++ between)).Fences fence →
        ∀ generation, (machine.run task before).HandedOut generation →
          ¬(machine.run task (before ++ between ++ fence :: later)).Accepts call generation
  /-- Nothing changes a terminal task. -/
  absorbing : ∀ before after, calls = before ++ after →
    (machine.run task before).isTerminal = true →
      machine.run task calls = machine.run task before
  /-- The outcome is there exactly in a terminal state, and matches it. -/
  outcome : OutcomeMatches (machine.run task calls).state (machine.run task calls).outcome

/-- **The completion fence** holds of every run of calls on a new task. -/
theorem completion_fence {id : TaskId} {requestedOutcome : String} {createdAtMs : Nat}
    {limits : TaskLimits} {task : AgentTask}
    (h : new id requestedOutcome createdAtMs limits = .ok task) (calls : List (Nat × Op)) :
    CompletionFenced task calls := by
  have hc := new_consistent h
  have hstart : task.state ≠ .completed := by
    rw [new_state h]
    rintro ⟨⟩
  refine ⟨run_completed hc hstart, ?_, ?_, (run_consistent hc calls).outcome⟩
  · rintro before between fence later call rest rfl hfence generation hseen haccepts
    have hgeneration := (run_consistent hc _).accepts_eq haccepts
    have hle := (run_consistent hc before).handedOut_le hseen
    have hbetween := run_generation_le (machine.run task before) between
    have hlater := run_generation_le (machine.next (machine.run task (before ++ between)) fence)
      later
    have hlt := hfence.generation_lt
    rw [← machine.run_append] at hbetween
    rw [← machine.run_cons, ← machine.run_append] at hlater
    omega
  · rintro before after rfl hterminal
    rw [machine.run_append]
    exact run_terminal hterminal after

/-- A plan of one step, carried out and verified. -/
def verifiedCalls : List (Nat × Op) :=
  [(1, .beginPlanning), (2, .addStep "step"), (3, .markReady), (4, .beginExecution 0),
    (5, .finishStep), (6, .verify 1 ⟨.verified, none⟩)]

theorem completion_fence_verified :
    (machine.run sampleTask verifiedCalls).state = .completed ∧
      CompletionFenced sampleTask verifiedCalls :=
  ⟨by decide, completion_fence sampleTask_new verifiedCalls⟩

end AgentTask

end Aivtuber
