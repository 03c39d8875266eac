import Aivtuber.App.GenerationExecutor

/-!
# Quiescence of the generation executor

`Counted` says that each counter is at least what the threads and the channels hold of
it, so no counter is released that is not held.  `Passed k n` says that the jobs numbered
below `n` have all left the stages below `k`, or the executor.  Each zero that an observer
reads raises `k` for the jobs submitted before its first read.
-/

open Pool

namespace Aivtuber

namespace GenerationWorker

/-- The job that a worker has. -/
def job? : GenerationWorker → Option Nat
  | received job | claimed job | released job | dropping job | running job | ready job
  | sending job | unsent job => some job
  | idle | stopped => none

/-- What a worker holds of `pending`. -/
def pending : GenerationWorker → Nat
  | received _ | claimed _ => 1
  | _ => 0

/-- What a worker holds of `in_flight`. -/
def inFlight : GenerationWorker → Nat
  | claimed _ | released _ | dropping _ | running _ | ready _ => 1
  | _ => 0

/-- What a worker holds of `awaiting_drain`. -/
def awaitingDrain : GenerationWorker → Nat
  | ready _ | sending _ | unsent _ => 1
  | _ => 0

/-- The last counter that a job goes through after those of its worker. -/
def stage : GenerationWorker → Nat
  | received _ | claimed _ => 0
  | released _ | dropping _ | running _ | ready _ => 1
  | sending _ | unsent _ => 2
  | idle | stopped => 3

end GenerationWorker

namespace GenerationExecutor

/-- The part of a submission that is counted and not queued. -/
def submitting (executor : GenerationExecutor) : Nat :=
  match executor.submitter with
  | .noted | .refused => 1
  | .idle | .checked => 0

/-- Each counter is at least what is held of it. -/
structure Counted (executor : GenerationExecutor) : Prop where
  pending : (executor.queue.length + load GenerationWorker.pending executor.workers +
    executor.submitting : Nat) ≤ executor.pending
  inFlight : (load GenerationWorker.inFlight executor.workers : Nat) ≤ executor.inFlight
  awaitingDrain : (executor.mailbox.length + load GenerationWorker.awaitingDrain executor.workers +
    executor.draining.toNat : Nat) ≤ executor.awaitingDrain

/-- Jobs below `n` are past the stages below `k`. -/
structure Passed (executor : GenerationExecutor) (k n : Nat) : Prop where
  queue : 0 < k → ∀ job ∈ executor.queue, n ≤ job
  workers : ∀ worker ∈ executor.workers, worker.stage < k → ∀ job, worker.job? = some job → n ≤ job
  mailbox : 2 < k → ∀ job ∈ executor.mailbox, n ≤ job

/-- A job is queued, with a worker, or awaits its drain. -/
def Outstanding (executor : GenerationExecutor) (job : Nat) : Prop :=
  job ∈ executor.queue ∨ (∃ worker ∈ executor.workers, worker.job? = some job) ∨
    job ∈ executor.mailbox

section Steps

variable {executor : GenerationExecutor}

theorem new_counted (queueCapacity workers : Nat) : Counted (new queueCapacity workers) := by
  have hload : ∀ held : GenerationWorker → Nat, held .idle = 0 →
      load held (new queueCapacity workers).workers = 0 :=
    fun _ hidle ↦ load_replicate_zero hidle workers
  refine ⟨?_, ?_, ?_⟩
  · rw [hload _ rfl]
    exact Int.le_refl 0
  · rw [hload _ rfl]
    exact Int.le_refl 0
  · rw [hload _ rfl]
    exact Int.le_refl 0

/-- A worker that claims before it releases keeps the counters. -/
theorem Counted.move (h : executor.Counted) {executor' : GenerationExecutor} {i : Nat}
    {worker next : GenerationWorker} (hi : executor.workers[i]? = some worker)
    (hworkers : executor'.workers = executor.workers.set i next)
    (hpending : executor.pending +
        (executor'.queue.length + next.pending + executor'.submitting : Nat) ≤
      executor'.pending + (executor.queue.length + worker.pending + executor.submitting : Nat))
    (hinFlight : executor.inFlight + (next.inFlight : Nat) ≤
      executor'.inFlight + (worker.inFlight : Nat))
    (hdrain : executor.awaitingDrain +
        (executor'.mailbox.length + next.awaitingDrain + executor'.draining.toNat : Nat) ≤
      executor'.awaitingDrain +
        (executor.mailbox.length + worker.awaitingDrain + executor.draining.toNat : Nat)) :
    executor'.Counted := by
  have hp := load_set hi GenerationWorker.pending next
  have hf := load_set hi GenerationWorker.inFlight next
  have hd := load_set hi GenerationWorker.awaitingDrain next
  refine ⟨?_, ?_, ?_⟩
  · rw [hworkers]
    have := h.pending
    omega
  · rw [hworkers]
    have := h.inFlight
    omega
  · rw [hworkers]
    have := h.awaitingDrain
    omega

theorem Counted.workerStep (h : executor.Counted) {i : Nat} {worker : GenerationWorker}
    (hi : executor.workers[i]? = some worker) : (executor.workerStep i worker).Counted := by
  cases worker with
  | idle =>
    rw [GenerationExecutor.workerStep]
    cases hqueue : executor.queue with
    | nil =>
      dsimp only
      split
      · exact h
      · refine h.move hi rfl ?_ (Int.le_refl _) (Int.le_refl _)
        rw [hqueue]
        exact Int.le_refl _
    | cons job queue =>
      refine h.move hi rfl ?_ (Int.le_refl _) (Int.le_refl _)
      rw [hqueue]
      simp only [List.length_cons, GenerationWorker.pending, submitting]
      omega
  | released job =>
    rw [GenerationExecutor.workerStep]
    split
    all_goals exact h.move hi rfl (Int.le_refl _) (Int.le_refl _) (Int.le_refl _)
  | sending job =>
    rw [GenerationExecutor.workerStep]
    split_ifs
    · exact h.move hi rfl (Int.le_refl _) (Int.le_refl _) (Int.le_refl _)
    · refine h.move hi rfl (Int.le_refl _) (Int.le_refl _) ?_
      simp only [List.length_append, List.length_singleton, GenerationWorker.awaitingDrain]
      omega
    · exact h
  | stopped => exact h
  | received | claimed | dropping | running | ready | unsent =>
    -- what is left changes counters and the worker alone
    refine h.move hi rfl ?_ ?_ ?_ <;>
      simp only [GenerationExecutor.workerStep, GenerationWorker.pending,
        GenerationWorker.inFlight, GenerationWorker.awaitingDrain, submitting] <;>
      omega

theorem Counted.next (h : executor.Counted) (action : Action) :
    (machine.next executor action).Counted := by
  obtain ⟨hpending, hinFlight, hdrain⟩ := h
  cases action with
  | submit =>
    show (submitStep executor).Counted
    rw [submitting] at hpending
    rw [submitStep]
    cases hsubmitter : executor.submitter with
    | idle =>
      rw [hsubmitter] at hpending
      dsimp only
      split
      · refine ⟨?_, hinFlight, hdrain⟩
        rw [submitting, hsubmitter]
        exact hpending
      · exact ⟨hpending, hinFlight, hdrain⟩
    | checked =>
      rw [hsubmitter] at hpending
      refine ⟨?_, hinFlight, hdrain⟩
      simp only [submitting] at hpending ⊢
      omega
    | noted =>
      rw [hsubmitter] at hpending
      dsimp only
      split
      · refine ⟨?_, hinFlight, hdrain⟩
        simp only [submitting, List.length_append, List.length_singleton] at hpending ⊢
        omega
      · exact ⟨hpending, hinFlight, hdrain⟩
    | refused =>
      rw [hsubmitter] at hpending
      refine ⟨?_, hinFlight, hdrain⟩
      simp only [submitting] at hpending ⊢
      omega
  | work i =>
    show ((executor.workers[i]?).elim executor (executor.workerStep i)).Counted
    cases hi : executor.workers[i]? with
    | none => exact ⟨hpending, hinFlight, hdrain⟩
    | some worker => exact Counted.workerStep ⟨hpending, hinFlight, hdrain⟩ hi
  | drain =>
    show (drainStep executor).Counted
    rw [drainStep]
    split
    case isTrue hdraining =>
      refine ⟨hpending, hinFlight, ?_⟩
      rw [hdraining] at hdrain
      simp only [Bool.toNat_true, Bool.toNat_false] at hdrain ⊢
      omega
    case isFalse hdraining =>
      rw [Bool.not_eq_true] at hdraining
      rw [hdraining] at hdrain
      cases hmailbox : executor.mailbox with
      | nil => exact ⟨hpending, hinFlight, by rw [hdraining]; exact hdrain⟩
      | cons job mailbox =>
        rw [hmailbox] at hdrain
        refine ⟨hpending, hinFlight, ?_⟩
        simp only [List.length_cons, Bool.toNat_true, Bool.toNat_false] at hdrain ⊢
        omega
  | observe =>
    show (observeStep executor).1.Counted
    rw [observeStep]
    split
    all_goals exact ⟨hpending, hinFlight, hdrain⟩
  | shutdown => exact ⟨hpending, hinFlight, hdrain⟩
  | disconnect =>
    refine ⟨hpending, hinFlight, ?_⟩
    show ((0 : Nat) + load GenerationWorker.awaitingDrain executor.workers +
      executor.draining.toNat : Nat) ≤ executor.awaitingDrain
    omega

/-! ## Stages only grow -/

/-- The step of a worker with a job that is `n` or above, or past the stages below `k`. -/
theorem Passed.move {k n : Nat} (h : executor.Passed k n) {executor' : GenerationExecutor} {i : Nat}
    {next : GenerationWorker} (hworkers : executor'.workers = executor.workers.set i next)
    (hnext : next.stage < k → ∀ job, next.job? = some job → n ≤ job)
    (hqueue : executor'.queue ⊆ executor.queue)
    (hmailbox : 2 < k → ∀ job ∈ executor'.mailbox, n ≤ job) : executor'.Passed k n where
  queue hk job hjob := h.queue hk job (hqueue hjob)
  workers := by
    rw [hworkers]
    exact forall_mem_set h.workers hnext
  mailbox := hmailbox

theorem Passed.workerStep {k n : Nat} (h : executor.Passed k n) {i : Nat}
    {worker : GenerationWorker} (hi : executor.workers[i]? = some worker) :
    (executor.workerStep i worker).Passed k n := by
  have hworker := h.workers worker (List.mem_of_getElem? hi)
  cases worker with
  | idle =>
    rw [GenerationExecutor.workerStep]
    cases hqueue : executor.queue with
    | nil =>
      dsimp only
      split
      · exact h
      · exact h.move rfl (fun _ _ ↦ nofun) (by simp [hqueue]) h.mailbox
    | cons job queue =>
      refine h.move rfl (fun hk job' hjob' ↦ ?_) ?_ h.mailbox
      · obtain rfl : job = job' := Option.some.inj hjob'
        exact h.queue hk job (hqueue ▸ List.mem_cons_self)
      · rw [hqueue]
        exact List.subset_cons_self job queue
  | released job =>
    rw [GenerationExecutor.workerStep]
    split
    all_goals exact h.move rfl hworker (List.Subset.refl _) h.mailbox
  | sending job =>
    rw [GenerationExecutor.workerStep]
    split_ifs
    · exact h.move rfl hworker (List.Subset.refl _) h.mailbox
    · refine h.move rfl (fun _ _ ↦ nofun) (List.Subset.refl _) fun hk job' hjob' ↦ ?_
      rcases List.mem_append.mp hjob' with hjob' | hjob'
      · exact h.mailbox hk job' hjob'
      · obtain rfl := List.mem_singleton.mp hjob'
        exact hworker hk job' rfl
    · exact h
  | stopped => exact h
  | dropping | unsent =>
    exact h.move rfl (fun _ _ ↦ nofun) (List.Subset.refl _) h.mailbox
  | received | claimed | running | ready =>
    refine h.move rfl (fun hk job hjob ↦ hworker ?_ job hjob) (List.Subset.refl _) h.mailbox
    exact Nat.lt_of_le_of_lt (by simp [GenerationWorker.stage]) hk

theorem Passed.next {k n : Nat} (h : executor.Passed k n) (hn : n ≤ executor.submitted)
    (action : Action) : (machine.next executor action).Passed k n := by
  obtain ⟨hqueue, hworkers, hmailbox⟩ := h
  cases action with
  | submit =>
    show (submitStep executor).Passed k n
    rw [submitStep]
    split
    · split
      all_goals exact ⟨hqueue, hworkers, hmailbox⟩
    · exact ⟨hqueue, hworkers, hmailbox⟩
    · split
      · refine ⟨fun hk job hjob ↦ ?_, hworkers, hmailbox⟩
        rcases List.mem_append.mp hjob with hjob | hjob
        · exact hqueue hk job hjob
        · obtain rfl := List.mem_singleton.mp hjob
          exact hn
      · exact ⟨hqueue, hworkers, hmailbox⟩
    · exact ⟨hqueue, hworkers, hmailbox⟩
  | work i =>
    show ((executor.workers[i]?).elim executor (executor.workerStep i)).Passed k n
    cases hi : executor.workers[i]? with
    | none => exact ⟨hqueue, hworkers, hmailbox⟩
    | some worker => exact Passed.workerStep ⟨hqueue, hworkers, hmailbox⟩ hi
  | drain =>
    show (drainStep executor).Passed k n
    rw [drainStep]
    split
    · exact ⟨hqueue, hworkers, hmailbox⟩
    · cases hlist : executor.mailbox with
      | nil => exact ⟨hqueue, hworkers, hmailbox⟩
      | cons job mailbox =>
        refine ⟨hqueue, hworkers, fun hk job' hjob' ↦ hmailbox hk job' ?_⟩
        rw [hlist]
        exact List.mem_cons_of_mem job hjob'
  | observe =>
    show (observeStep executor).1.Passed k n
    rw [observeStep]
    split
    all_goals exact ⟨hqueue, hworkers, hmailbox⟩
  | shutdown => exact ⟨hqueue, hworkers, hmailbox⟩
  | disconnect => exact ⟨hqueue, hworkers, fun _ _ ↦ nofun⟩

theorem submitted_workerStep (executor : GenerationExecutor) (i : Nat) (worker : GenerationWorker) :
    (executor.workerStep i worker).submitted = executor.submitted := by
  cases worker with
  | idle =>
    rw [GenerationExecutor.workerStep]
    split
    · rfl
    · split <;> rfl
  | sending job =>
    rw [GenerationExecutor.workerStep]
    split_ifs <;> rfl
  | _ => rfl

theorem le_submitted_next (executor : GenerationExecutor) (action : Action) :
    executor.submitted ≤ (machine.next executor action).submitted := by
  cases action with
  | submit =>
    show executor.submitted ≤ (submitStep executor).submitted
    rw [submitStep]
    split
    · split <;> exact Nat.le_refl _
    · exact Nat.le_refl _
    · split
      · exact Nat.le_succ _
      · exact Nat.le_refl _
    · exact Nat.le_refl _
  | work i =>
    show _ ≤ ((executor.workers[i]?).elim executor (executor.workerStep i)).submitted
    cases executor.workers[i]? with
    | none => exact Nat.le_refl _
    | some worker => exact Nat.le_of_eq (submitted_workerStep executor i worker).symm
  | drain =>
    show _ ≤ (drainStep executor).submitted
    rw [drainStep]
    split
    · exact Nat.le_refl _
    · split <;> exact Nat.le_refl _
  | observe =>
    show _ ≤ (observeStep executor).1.submitted
    rw [observeStep]
    split <;> exact Nat.le_refl _
  | shutdown | disconnect => exact Nat.le_refl _

/-! ## What a zero says -/

/-- No pending job: the jobs below `n` have left the queue and their dequeueing. -/
theorem Counted.passed_one (h : executor.Counted) (hzero : executor.pending = 0) (n : Nat) :
    executor.Passed 1 n := by
  have hpending := h.pending
  have hload := held_eq_zero (show load GenerationWorker.pending executor.workers = 0 by omega)
  refine ⟨fun _ job hjob ↦ ?_, fun worker hworker hstage job hjob ↦ ?_, fun hk ↦ ?_⟩
  · rw [List.eq_nil_of_length_eq_zero (show executor.queue.length = 0 by omega)] at hjob
    cases hjob
  · have hheld := hload worker hworker
    cases worker <;> simp [GenerationWorker.stage, GenerationWorker.pending] at hstage hheld
  · exact absurd hk (by decide)

/-- No job in flight: they have left their execution. -/
theorem Passed.of_inFlight {n : Nat} (h : executor.Passed 1 n) (hcounted : executor.Counted)
    (hzero : executor.inFlight = 0) : executor.Passed 2 n := by
  have hinFlight := hcounted.inFlight
  have hload := held_eq_zero (show load GenerationWorker.inFlight executor.workers = 0 by omega)
  refine ⟨fun _ ↦ h.queue Nat.one_pos, fun worker hworker hstage job hjob ↦ ?_, fun hk ↦ ?_⟩
  · have hheld := hload worker hworker
    have hearly := fun hlt ↦ h.workers worker hworker hlt job hjob
    cases worker <;> simp [GenerationWorker.stage, GenerationWorker.inFlight] at hstage hheld hearly
    exact hearly
  · exact absurd hk (by decide)

/-- No job awaits its drain: none is left. -/
theorem Passed.not_outstanding {n : Nat} (h : executor.Passed 2 n) (hcounted : executor.Counted)
    (hzero : executor.awaitingDrain = 0) {job : Nat} (hjob : job < n) :
    ¬executor.Outstanding job := by
  have hdrain := hcounted.awaitingDrain
  have hload := held_eq_zero (show load GenerationWorker.awaitingDrain executor.workers = 0 by omega)
  rintro (hqueue | ⟨worker, hworker, hhas⟩ | hmailbox)
  · exact absurd (h.queue (by decide) job hqueue) (Nat.not_le_of_lt hjob)
  · have hheld := hload worker hworker
    refine absurd (h.workers worker hworker ?_ job hhas) (Nat.not_le_of_lt hjob)
    cases worker <;> simp [GenerationWorker.stage, GenerationWorker.awaitingDrain,
      GenerationWorker.job?] at hheld hhas ⊢
  · rw [List.eq_nil_of_length_eq_zero (show executor.mailbox.length = 0 by omega)] at hmailbox
    cases hmailbox

end Steps

/-! ## Snapshots -/

abbrev ExecutorEvent := Machine.Event GenerationExecutor Action (Option GenerationExecutionSnapshot)

/-- How many jobs were submitted before the first read of the current snapshot. -/
def observe (first : Nat) (e : ExecutorEvent) : Nat :=
  match e.input, e.pre.observer with
  | .observe, .idle => e.pre.submitted
  | _, _ => first

/-- No counter is below zero, and a quiescent snapshot has left every job behind that was
submitted before its first read. -/
structure Sound (first : Nat) (e : ExecutorEvent) : Prop where
  pending : 0 ≤ e.post.pending
  inFlight : 0 ≤ e.post.inFlight
  awaitingDrain : 0 ≤ e.post.awaitingDrain
  quiescent : ∀ snapshot, e.output = some snapshot → snapshot.isQuiescent = true →
    ∀ job < first, ¬e.post.Outstanding job

/-- What the reads of an observer have shown. -/
def Seen (executor : GenerationExecutor) (first : Nat) : Prop :=
  match executor.observer with
  | .idle => True
  | .readPending pending => pending = 0 → executor.Passed 1 first
  | .readInFlight pending inFlight => pending = 0 → inFlight = 0 → executor.Passed 2 first

structure Watched (executor : GenerationExecutor) (first : Nat) : Prop where
  counted : executor.Counted
  first_le : first ≤ executor.submitted
  seen : executor.Seen first

section Runs

variable {executor : GenerationExecutor} {first : Nat}

theorem observer_workerStep (executor : GenerationExecutor) (i : Nat) (worker : GenerationWorker) :
    (executor.workerStep i worker).observer = executor.observer := by
  cases worker with
  | idle =>
    rw [GenerationExecutor.workerStep]
    split
    · rfl
    · split <;> rfl
  | sending job =>
    rw [GenerationExecutor.workerStep]
    split_ifs <;> rfl
  | _ => rfl

theorem observer_next (action : Action) (h : action ≠ .observe) :
    (machine.next executor action).observer = executor.observer := by
  cases action with
  | submit =>
    show (submitStep executor).observer = _
    rw [submitStep]
    split <;> try split
    all_goals rfl
  | work i =>
    show ((executor.workers[i]?).elim executor (executor.workerStep i)).observer = _
    cases executor.workers[i]? with
    | none => rfl
    | some worker => exact observer_workerStep executor i worker
  | drain =>
    show (drainStep executor).observer = _
    rw [drainStep]
    split <;> try split
    all_goals rfl
  | observe => exact absurd rfl h
  | shutdown | disconnect => rfl

/-- A read: a zero raises the stage of the jobs submitted before the first one. -/
theorem Watched.next_observe (h : executor.Watched first) :
    (machine.next executor .observe).Watched (observe first (machine.event executor .observe)) := by
  have hcounted := h.counted.next .observe
  have hseen := h.seen
  have hfirst : observe first (machine.event executor .observe) =
      match executor.observer with | .idle => executor.submitted | _ => first := by
    show observe first ⟨executor, .observe, _, _⟩ = _
    rw [observe]
    cases executor.observer <;> rfl
  rw [hfirst]
  rw [Seen] at hseen
  cases hobserver : executor.observer with
  | idle =>
    have hnext : machine.next executor .observe =
        { executor with observer := .readPending executor.pending } := by
      show (observeStep executor).1 = _
      rw [observeStep, hobserver]
    rw [hnext] at hcounted ⊢
    exact ⟨hcounted, Nat.le_refl _, fun hzero ↦ hcounted.passed_one hzero _⟩
  | readPending pending =>
    have hnext : machine.next executor .observe =
        { executor with observer := .readInFlight pending executor.inFlight } := by
      show (observeStep executor).1 = _
      rw [observeStep, hobserver]
    rw [hobserver] at hseen
    have hkept := fun hp ↦ (hseen hp).next h.first_le .observe
    rw [hnext] at hcounted hkept ⊢
    exact ⟨hcounted, h.first_le, fun hp hi ↦ (hkept hp).of_inFlight hcounted hi⟩
  | readInFlight pending inFlight =>
    have hnext : machine.next executor .observe = { executor with observer := .idle } := by
      show (observeStep executor).1 = _
      rw [observeStep, hobserver]
    rw [hnext] at hcounted ⊢
    exact ⟨hcounted, h.first_le, trivial⟩

theorem Watched.next (h : executor.Watched first) (action : Action) :
    (machine.next executor action).Watched (observe first (machine.event executor action)) := by
  have hcounted := h.counted.next action
  by_cases haction : action = .observe
  · subst haction
    exact h.next_observe
  · have hfirst : observe first (machine.event executor action) = first := by
      cases action with
      | observe => exact absurd rfl haction
      | _ => rfl
    rw [hfirst]
    refine ⟨hcounted, Nat.le_trans h.first_le (le_submitted_next executor action), ?_⟩
    have hseen := h.seen
    rw [Seen] at hseen ⊢
    rw [observer_next action haction]
    split
    case h_1 => trivial
    case h_2 pending hobserver =>
      rw [hobserver] at hseen
      exact fun hp ↦ (hseen hp).next h.first_le action
    case h_3 pending inFlight hobserver =>
      rw [hobserver] at hseen
      exact fun hp hi ↦ (hseen hp hi).next h.first_le action

/-- The last read of a quiescent snapshot. -/
theorem Watched.not_outstanding (h : executor.Watched first)
    {snapshot : GenerationExecutionSnapshot} (hout : (observeStep executor).2 = some snapshot)
    (hquiescent : snapshot.isQuiescent = true) {job : Nat} (hjob : job < first) :
    ¬executor.Outstanding job := by
  have hseen := h.seen
  rw [Seen] at hseen
  rw [observeStep] at hout
  cases hobserver : executor.observer with
  | idle => simp [hobserver] at hout
  | readPending pending => simp [hobserver] at hout
  | readInFlight pending inFlight =>
    rw [hobserver] at hseen hout
    obtain rfl := Option.some.inj hout
    rw [GenerationExecutionSnapshot.isQuiescent] at hquiescent
    simp only [Bool.and_eq_true, decide_eq_true_eq] at hquiescent
    obtain ⟨⟨hp, hi⟩, hd⟩ := hquiescent
    exact (hseen hp hi).not_outstanding h.counted hd hjob

theorem Watched.sound (h : executor.Watched first) (action : Action) :
    Sound first (machine.event executor action) := by
  have hcounted := h.counted.next action
  refine ⟨?_, ?_, ?_, fun snapshot hout hquiescent job hjob ↦ ?_⟩
  · exact Int.le_trans (Int.natCast_nonneg _) hcounted.pending
  · exact Int.le_trans (Int.natCast_nonneg _) hcounted.inFlight
  · exact Int.le_trans (Int.natCast_nonneg _) hcounted.awaitingDrain
  · cases action with
    | observe =>
      have hnot := h.not_outstanding hout hquiescent hjob
      have hpost : (machine.event executor .observe).post.Outstanding job ↔
          executor.Outstanding job := by
        show (observeStep executor).1.Outstanding job ↔ _
        rw [observeStep]
        split
        all_goals exact Iff.rfl
      exact fun hafter ↦ hnot (hpost.mp hafter)
    | submit | work | drain | shutdown | disconnect => cases hout

/-- **Quiescence is sound.**  Along every interleaving no counter is ever below zero, and a
snapshot that is quiescent leaves no job outstanding whose submission was complete before
its first read. -/
theorem quiescence_sound (queueCapacity workers : Nat) (actions : List Action) :
    machine.Meets observe Sound (new queueCapacity workers) 0 actions := by
  have hnew : (new queueCapacity workers).Watched 0 :=
    ⟨new_counted queueCapacity workers, Nat.le_refl 0, trivial⟩
  exact machine.meets_of_watch (fun executor first action h ↦ h.next action)
    (fun executor first action h ↦ h.sound action) hnew actions

end Runs

end GenerationExecutor

end Aivtuber
