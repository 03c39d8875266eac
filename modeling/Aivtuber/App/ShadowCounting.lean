import Aivtuber.App.ShadowOrchestrator

/-!
# What the shadow counters count

`Counted` says what each counter is, whatever the threads are in the middle of: the queue
or the mailbox, and what the threads hold of it.  A hand-over releases one counter before
it claims the next, so a job in the middle of it is in no counter; these jobs, and the
calls that the composer is in the middle of, are the difference between the jobs that were
admitted and those that the counters have.
-/

open Pool Saturating

namespace Aivtuber

namespace ShadowWorker

variable {ρ : Type}

/-- What a worker holds of `pending`. -/
def pending : ShadowWorker ρ → Nat
  | received _ => 1
  | _ => 0

/-- What a worker holds of `in_flight`. -/
def inFlight : ShadowWorker ρ → Nat
  | claimed _ | running _ | discarded _ | finished _ _ => 1
  | _ => 0

/-- What a worker holds of `awaiting_drain`. -/
def awaitingDrain : ShadowWorker ρ → Nat
  | published _ _ | fenced _ _ | unsent _ => 1
  | _ => 0

/-- A job that no counter has. -/
def halfDone : ShadowWorker ρ → Nat
  | released _ | unclaimed _ _ | dropped => 1
  | _ => 0

/-- The job that a worker has. -/
def job? : ShadowWorker ρ → Option ShadowJob
  | received job | released job | claimed job | running job | discarded job | finished job _
  | unclaimed job _ | published job _ | fenced job _ | unsent job => some job
  | idle | dropped | stopped => none

end ShadowWorker

namespace ShadowComposer

variable {ρ : Type}

/-- What the composer holds of `pending`. -/
def pending : ShadowComposer ρ → Nat
  | noted _ | refused _ => 1
  | _ => 0

/-- What the composer holds of `awaiting_drain`. -/
def awaitingDrain : ShadowComposer ρ → Nat
  | received _ => 1
  | _ => 0

/-- A job that is in a counter and is not submitted. -/
def ahead : ShadowComposer ρ → Nat
  | noted _ | admitted _ | refused _ => 1
  | _ => 0

/-- A completion that no counter has. -/
def behind : ShadowComposer ρ → Nat
  | released _ => 1
  | _ => 0

end ShadowComposer

/-- The jobs that the counters have. -/
def ShadowCounters.tracked (counters : ShadowCounters) : Int :=
  counters.pending + counters.inFlight + counters.awaitingDrain + counters.completed +
    counters.droppedCompletionMailboxFull

namespace ShadowOrchestrator

variable {ρ : Type}

/-- What each counter is. -/
structure Counted (orchestrator : ShadowOrchestrator ρ) : Prop where
  pending : orchestrator.counters.pending =
    (orchestrator.queue.length + load ShadowWorker.pending orchestrator.workers +
      orchestrator.composer.pending : Nat)
  inFlight : orchestrator.counters.inFlight =
    (load ShadowWorker.inFlight orchestrator.workers : Nat)
  awaitingDrain : orchestrator.counters.awaitingDrain =
    (orchestrator.mailbox.length + load ShadowWorker.awaitingDrain orchestrator.workers +
      orchestrator.composer.awaitingDrain : Nat)
  submitted : (orchestrator.counters.submitted + orchestrator.composer.ahead : Int) =
    orchestrator.counters.tracked +
      (load ShadowWorker.halfDone orchestrator.workers + orchestrator.composer.behind : Nat)

section Steps

variable {orchestrator : ShadowOrchestrator ρ}

theorem new_counted (config : ShadowOrchestratorConfig) :
    (new config : ShadowOrchestrator ρ).Counted := by
  have hload : ∀ held : ShadowWorker ρ → Nat, held .idle = 0 →
      load held (new config : ShadowOrchestrator ρ).workers = 0 :=
    fun _ hidle ↦ load_replicate_zero hidle config.maxConcurrent
  refine ⟨?_, ?_, ?_, ?_⟩ <;> rw [hload _ rfl] <;> rfl

/-- The step of a worker: what it takes from a counter and from the lists is what it holds
afterwards. -/
theorem Counted.move (h : orchestrator.Counted) {orchestrator' : ShadowOrchestrator ρ} {i : Nat}
    {worker next : ShadowWorker ρ} (hi : orchestrator.workers[i]? = some worker)
    (hworkers : orchestrator'.workers = orchestrator.workers.set i next)
    (hcomposer : orchestrator'.composer = orchestrator.composer)
    (hpending : orchestrator'.counters.pending + (orchestrator.queue.length + worker.pending : Nat) =
      orchestrator.counters.pending + (orchestrator'.queue.length + next.pending : Nat))
    (hinFlight : orchestrator'.counters.inFlight + (worker.inFlight : Nat) =
      orchestrator.counters.inFlight + (next.inFlight : Nat))
    (hdrain : orchestrator'.counters.awaitingDrain +
        (orchestrator.mailbox.length + worker.awaitingDrain : Nat) =
      orchestrator.counters.awaitingDrain +
        (orchestrator'.mailbox.length + next.awaitingDrain : Nat))
    (hsubmitted : orchestrator'.counters.submitted = orchestrator.counters.submitted)
    (htracked : orchestrator'.counters.tracked + (next.halfDone : Nat) =
      orchestrator.counters.tracked + (worker.halfDone : Nat)) : orchestrator'.Counted := by
  have hp := load_set hi ShadowWorker.pending next
  have hf := load_set hi ShadowWorker.inFlight next
  have hd := load_set hi ShadowWorker.awaitingDrain next
  have hh := load_set hi ShadowWorker.halfDone next
  refine ⟨?_, ?_, ?_, ?_⟩
  · rw [hworkers, hcomposer]
    have := h.pending
    omega
  · rw [hworkers]
    have := h.inFlight
    omega
  · rw [hworkers, hcomposer]
    have := h.awaitingDrain
    omega
  · rw [hworkers, hcomposer, hsubmitted]
    have := h.submitted
    omega

/-- The step of a worker that moves no counter. -/
theorem Counted.move_uncounted (h : orchestrator.Counted) {i : Nat} {worker next : ShadowWorker ρ}
    (hi : orchestrator.workers[i]? = some worker) (hpending : next.pending = worker.pending)
    (hinFlight : next.inFlight = worker.inFlight)
    (hdrain : next.awaitingDrain = worker.awaitingDrain)
    (hhalfDone : next.halfDone = worker.halfDone) :
    { orchestrator with workers := orchestrator.workers.set i next }.Counted := by
  refine h.move hi rfl rfl ?_ ?_ ?_ rfl ?_
  · rw [hpending]
  · rw [hinFlight]
  · rw [hdrain]
  · rw [hhalfDone]

theorem Counted.workerStep (h : orchestrator.Counted) {i : Nat} {worker : ShadowWorker ρ}
    (hi : orchestrator.workers[i]? = some worker) (evaluation : ShadowEvaluation ρ) :
    (orchestrator.workerStep i evaluation worker).Counted := by
  cases worker with
  | idle =>
    rw [ShadowOrchestrator.workerStep]
    split
    · exact h
    · split
      case h_1 job queue hqueue =>
        refine h.move hi rfl rfl ?_ rfl rfl rfl rfl
        rw [hqueue]
        rfl
      case h_2 =>
        split
        · exact h.move_uncounted hi rfl rfl rfl rfl
        · exact h
  | claimed job =>
    rw [ShadowOrchestrator.workerStep]
    split
    all_goals exact h.move_uncounted hi rfl rfl rfl rfl
  | running job =>
    cases evaluation with
    | aborted record => exact h.move_uncounted hi rfl rfl rfl rfl
    | evaluated record =>
      rw [ShadowOrchestrator.workerStep]
      split
      all_goals exact h.move_uncounted hi rfl rfl rfl rfl
  | published job record =>
    rw [ShadowOrchestrator.workerStep]
    split
    · exact h
    · exact h.move hi rfl rfl rfl rfl rfl rfl rfl
  | fenced job record =>
    rw [ShadowOrchestrator.workerStep]
    split
    · refine h.move hi rfl rfl rfl rfl ?_ rfl rfl
      rw [List.length_append]
      rfl
    · exact h.move_uncounted hi rfl rfl rfl rfl
  | stopped => exact h
  | received | released | discarded | finished | unclaimed | unsent | dropped =>
    -- what is left changes counters and the worker alone
    refine h.move hi rfl rfl ?_ ?_ ?_ rfl ?_ <;>
      simp only [ShadowOrchestrator.workerStep, ShadowWorker.pending, ShadowWorker.inFlight,
        ShadowWorker.awaitingDrain, ShadowWorker.halfDone, ShadowCounters.tracked] <;>
      omega

/-- A step of the composer that keeps the queue, the mailbox and the workers. -/
theorem Counted.keep (h : orchestrator.Counted) {orchestrator' : ShadowOrchestrator ρ}
    (hworkers : orchestrator'.workers = orchestrator.workers)
    (hpending : orchestrator'.counters.pending +
        (orchestrator.queue.length + orchestrator.composer.pending : Nat) =
      orchestrator.counters.pending +
        (orchestrator'.queue.length + orchestrator'.composer.pending : Nat))
    (hinFlight : orchestrator'.counters.inFlight = orchestrator.counters.inFlight)
    (hdrain : orchestrator'.counters.awaitingDrain +
        (orchestrator.mailbox.length + orchestrator.composer.awaitingDrain : Nat) =
      orchestrator.counters.awaitingDrain +
        (orchestrator'.mailbox.length + orchestrator'.composer.awaitingDrain : Nat))
    (hsubmitted : (orchestrator'.counters.submitted + orchestrator'.composer.ahead : Int) +
        (orchestrator.counters.tracked + (orchestrator.composer.behind : Nat)) =
      (orchestrator.counters.submitted + orchestrator.composer.ahead : Int) +
        (orchestrator'.counters.tracked + (orchestrator'.composer.behind : Nat))) :
    orchestrator'.Counted := by
  refine ⟨?_, ?_, ?_, ?_⟩
  · rw [hworkers]
    have := h.pending
    omega
  · rw [hworkers, hinFlight]
    exact h.inFlight
  · rw [hworkers]
    have := h.awaitingDrain
    omega
  · rw [hworkers]
    have := h.submitted
    omega

/-- A refusal moves the counter of its reason alone. -/
theorem Counted.skip (h : orchestrator.Counted) (reason : ShadowSkipReason)
    (hpending : orchestrator.composer.pending = 0)
    (hdrain : orchestrator.composer.awaitingDrain = 0) (hahead : orchestrator.composer.ahead = 0)
    (hbehind : orchestrator.composer.behind = 0) : (orchestrator.skip reason).1.Counted := by
  refine h.keep rfl ?_ ?_ ?_ ?_
  · rw [hpending]
    cases reason <;> rfl
  · cases reason <;> rfl
  · rw [hdrain]
    cases reason <;> rfl
  · rw [hahead, hbehind]
    cases reason <;> rfl

theorem Counted.call (h : orchestrator.Counted) (hidle : orchestrator.composer = .idle)
    (call : ShadowCall) : (orchestrator.call call).1.Counted := by
  have hskip : ∀ {orchestrator' : ShadowOrchestrator ρ} (reason : ShadowSkipReason),
      orchestrator'.Counted → orchestrator'.composer = .idle →
      (orchestrator'.skip reason).1.Counted := fun reason h' hidle' ↦
    h'.skip reason (by rw [hidle']; rfl) (by rw [hidle']; rfl) (by rw [hidle']; rfl)
      (by rw [hidle']; rfl)
  have hcleared : { orchestrator with staged := none }.Counted := ⟨h.1, h.2, h.3, h.4⟩
  cases call with
  | stage event =>
    rw [ShadowOrchestrator.call, stage]
    split
    · exact hskip _ hcleared hidle
    · split_ifs
      · exact hskip _ hcleared hidle
      · exact h
      · exact hskip _ hcleared hidle
      · exact ⟨h.1, h.2, h.3, h.4⟩
  | commitWithBudget admitted =>
    rw [ShadowOrchestrator.call, commitWithBudget]
    split
    · split
      · exact h
      · refine h.keep rfl ?_ rfl ?_ ?_
        · rw [hidle]
          simp only [ShadowCounters.noteQueued, ShadowComposer.pending]
          omega
        · rw [hidle]
          rfl
        · rw [hidle]
          simp only [ShadowCounters.noteQueued, ShadowCounters.tracked, ShadowComposer.ahead,
            ShadowComposer.behind]
          omega
    · exact hskip _ hcleared hidle
  | discardStaged => exact hcleared
  | supersedeSource event =>
    rw [ShadowOrchestrator.call, supersede]
    split
    · exact h
    · exact ⟨h.1, h.2, h.3, h.4⟩
  | drain =>
    rw [ShadowOrchestrator.call]
    cases hmailbox : orchestrator.mailbox with
    | nil => exact h
    | cons completion mailbox =>
      refine h.keep rfl ?_ rfl ?_ ?_
      · rw [hidle]
        rfl
      · rw [hidle, hmailbox]
        rfl
      · rw [hidle]
        rfl
  | snapshot | shutdown =>
    refine h.keep rfl ?_ rfl ?_ ?_ <;> rw [hidle] <;> rfl

theorem Counted.composerStep (h : orchestrator.Counted) :
    (orchestrator.composerStep orchestrator.composer).1.Counted := by
  cases hcomposer : orchestrator.composer with
  | idle => exact h
  | noted job =>
    rw [ShadowOrchestrator.composerStep, tryPushSuperseding]
    split_ifs
    · refine h.keep rfl ?_ rfl ?_ ?_ <;> rw [hcomposer] <;> rfl
    · exact h
    · refine h.keep rfl ?_ rfl ?_ ?_ <;> rw [hcomposer] <;> rfl
    · refine h.keep rfl ?_ rfl ?_ ?_
      · rw [hcomposer, List.length_append]
        rfl
      · rw [hcomposer]
        rfl
      · rw [hcomposer]
        rfl
  | skipping reason =>
    exact h.skip reason (by rw [hcomposer]; rfl) (by rw [hcomposer]; rfl)
      (by rw [hcomposer]; rfl) (by rw [hcomposer]; rfl)
  | joining =>
    rw [ShadowOrchestrator.composerStep]
    split
    · refine h.keep rfl ?_ rfl ?_ ?_ <;> rw [hcomposer] <;> rfl
    · exact h
  | admitted | refused | received | released =>
    refine h.keep rfl ?_ rfl ?_ ?_ <;> rw [hcomposer] <;>
      simp only [ShadowOrchestrator.composerStep, ShadowComposer.pending,
        ShadowComposer.awaitingDrain, ShadowComposer.ahead, ShadowComposer.behind,
        ShadowCounters.tracked] <;>
      omega
  | readPending | readInFlight | closing | cancelling =>
    refine h.keep rfl ?_ rfl ?_ ?_ <;> rw [hcomposer] <;> rfl

/-- Every step keeps what the counters count. -/
theorem Counted.next (h : orchestrator.Counted) (action : Action ρ) :
    (machine.next orchestrator action).Counted := by
  cases action with
  | call call =>
    show (step orchestrator (.call call)).1.Counted
    rw [step]
    split
    case isTrue hidle => exact h.call (isIdle_iff.mp hidle) call
    case isFalse => exact h
  | proceed => exact h.composerStep
  | work i evaluation =>
    show ((orchestrator.workers[i]?).elim orchestrator
      (orchestrator.workerStep i evaluation)).Counted
    cases hi : orchestrator.workers[i]? with
    | none => exact h
    | some worker => exact h.workerStep hi evaluation

end Steps

end ShadowOrchestrator

end Aivtuber
