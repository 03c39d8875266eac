import Aivtuber.App.ShadowCounting

/-!
# Quiescence of the shadow pool

A worker that hands a job over releases a counter before it claims the next one, so the
job is in no counter in between, and the reads of a snapshot can pass it by.  A job is
overlooked if `in_flight` is read while its worker is in such a gap.  A quiescent snapshot
says the truth exactly when no overlooked job is still in the hands of its worker at the
last read.
-/

open Pool

namespace Aivtuber

namespace ShadowWorker

variable {ρ : Type}

/-- A worker with a job, or one that cannot send the completion of one. -/
def busy (worker : ShadowWorker ρ) : Nat := worker.job?.isSome.toNat

/-- The job that a worker has behind `pending` and in front of `awaiting_drain`. -/
def inHand? : ShadowWorker ρ → Option ShadowJob
  | released job | claimed job | running job | discarded job | finished job _
  | unclaimed job _ => some job
  | _ => none

/-- The job of a worker between the two updates of a hand-over. -/
def between? : ShadowWorker ρ → Option ShadowJob
  | released job | unclaimed job _ => some job
  | _ => none

end ShadowWorker

namespace ShadowOrchestrator

variable {ρ : Type}

/-- The jobs that are queued, with a worker, or await their drain. -/
def outstanding (orchestrator : ShadowOrchestrator ρ) : Nat :=
  orchestrator.queue.length + load ShadowWorker.busy orchestrator.workers +
    orchestrator.mailbox.length + orchestrator.composer.awaitingDrain

/-- The tokens of the jobs between the two updates of a hand-over. -/
def handingOver (orchestrator : ShadowOrchestrator ρ) : List Nat :=
  orchestrator.workers.filterMap fun worker ↦ worker.between?.map ShadowJob.token

/-- No job is queued or counted as pending, and `p` holds of those in the hands of workers. -/
structure Settled (orchestrator : ShadowOrchestrator ρ) (p : Nat → Prop) : Prop where
  queue : orchestrator.queue = []
  pending : ∀ worker ∈ orchestrator.workers, worker.pending = 0
  inHand : ∀ worker ∈ orchestrator.workers, ∀ job, worker.inHand? = some job → p job.token

section Steps

variable {orchestrator : ShadowOrchestrator ρ} {p : Nat → Prop}

theorem Settled.move (h : orchestrator.Settled p) {orchestrator' : ShadowOrchestrator ρ} {i : Nat}
    {next : ShadowWorker ρ} (hworkers : orchestrator'.workers = orchestrator.workers.set i next)
    (hqueue : orchestrator'.queue = orchestrator.queue) (hpending : next.pending = 0)
    (hinHand : ∀ job, next.inHand? = some job → p job.token) : orchestrator'.Settled p where
  queue := hqueue.trans h.queue
  pending := by
    rw [hworkers]
    exact forall_mem_set h.pending hpending
  inHand := by
    rw [hworkers]
    exact forall_mem_set h.inHand hinHand

theorem Settled.workerStep (h : orchestrator.Settled p) {i : Nat} {worker : ShadowWorker ρ}
    (hi : orchestrator.workers[i]? = some worker) (evaluation : ShadowEvaluation ρ) :
    (orchestrator.workerStep i evaluation worker).Settled p := by
  have hmem := List.mem_of_getElem? hi
  have hinHand := h.inHand worker hmem
  cases worker with
  | idle =>
    rw [ShadowOrchestrator.workerStep]
    split
    · exact h
    · split
      case h_1 job queue hqueue =>
        rw [h.queue] at hqueue
        cases hqueue
      case h_2 =>
        split
        · exact h.move rfl rfl rfl fun _ hjob ↦ by cases hjob
        · exact h
  | received job => exact absurd (h.pending _ hmem) Nat.one_ne_zero
  | claimed job =>
    rw [ShadowOrchestrator.workerStep]
    split
    all_goals exact h.move rfl rfl rfl hinHand
  | running job =>
    cases evaluation with
    | aborted record => exact h.move rfl rfl rfl hinHand
    | evaluated record =>
      rw [ShadowOrchestrator.workerStep]
      split
      all_goals exact h.move rfl rfl rfl hinHand
  | published job record =>
    rw [ShadowOrchestrator.workerStep]
    split
    · exact h
    · exact h.move rfl rfl rfl fun _ hjob ↦ by cases hjob
  | fenced job record =>
    rw [ShadowOrchestrator.workerStep]
    split
    all_goals exact h.move rfl rfl rfl fun _ hjob ↦ by cases hjob
  | stopped => exact h
  | released | discarded | finished => exact h.move rfl rfl rfl hinHand
  | unclaimed | unsent | dropped => exact h.move rfl rfl rfl fun _ hjob ↦ by cases hjob

/-- A read that finds no pending job: the queue is empty. -/
theorem Counted.settled (h : orchestrator.Counted) (hzero : orchestrator.counters.pending = 0) :
    orchestrator.Settled fun _ ↦ True := by
  have hpending := h.pending
  refine ⟨List.eq_nil_of_length_eq_zero (by omega), held_eq_zero (by omega), fun _ _ _ _ ↦ trivial⟩

/-- A read that finds no job in flight: the jobs in the hands of workers are overlooked. -/
theorem Settled.overlooked (h : orchestrator.Settled fun _ ↦ True) (hcounted : orchestrator.Counted)
    (hzero : orchestrator.counters.inFlight = 0) :
    orchestrator.Settled (· ∈ orchestrator.handingOver) := by
  have hinFlight := hcounted.inFlight
  have hload := held_eq_zero (show load ShadowWorker.inFlight orchestrator.workers = 0 by omega)
  refine ⟨h.queue, h.pending, fun worker hworker job hjob ↦ ?_⟩
  have hbetween : worker.between? = some job := by
    have hheld := hload worker hworker
    cases worker with
    | released | unclaimed => exact hjob
    | claimed | running | discarded | finished => cases hheld
    | idle | received | published | fenced | unsent | dropped | stopped => cases hjob
  refine List.mem_filterMap.mpr ⟨worker, hworker, ?_⟩
  rw [hbetween]
  rfl

/-- With no completion to drain, what is outstanding is in the hands of a worker. -/
theorem Settled.outstanding_eq_zero_iff (h : orchestrator.Settled p)
    (hcounted : orchestrator.Counted) (hzero : orchestrator.counters.awaitingDrain = 0) :
    orchestrator.outstanding = 0 ↔ ∀ worker ∈ orchestrator.workers, worker.inHand? = none := by
  have hdrain := hcounted.awaitingDrain
  have hload := held_eq_zero (show load ShadowWorker.awaitingDrain orchestrator.workers = 0 by omega)
  have hbusy : ∀ worker ∈ orchestrator.workers, worker.busy = 0 ↔ worker.inHand? = none := by
    intro worker hworker
    have hp := h.pending worker hworker
    have hd := hload worker hworker
    cases worker <;> simp_all [ShadowWorker.busy, ShadowWorker.job?, ShadowWorker.inHand?,
      ShadowWorker.pending, ShadowWorker.awaitingDrain]
  rw [outstanding, h.queue, List.length_nil]
  constructor
  · intro hsum worker hworker
    have hzero := held_eq_zero (show load ShadowWorker.busy orchestrator.workers = 0 by omega)
    exact (hbusy worker hworker).mp (hzero worker hworker)
  · intro hnone
    have hzero := load_eq_zero fun worker hworker ↦ (hbusy worker hworker).mpr (hnone worker hworker)
    omega

end Steps

/-! ## Snapshots -/

abbrev OrchestratorEvent (ρ : Type) :=
  Machine.Event (ShadowOrchestrator ρ) (Action ρ) (Option (ShadowReply ρ))

/-- The jobs that were being handed over when the current snapshot read `in_flight`. -/
def overlook (overlooked : List Nat) (e : OrchestratorEvent ρ) : List Nat :=
  match e.input, e.pre.composer with
  | .proceed, .readPending _ _ => e.pre.handingOver
  | _, _ => overlooked

/-- A quiescent snapshot leaves no job outstanding.  The composer submits nothing while it
reads, so each of them would have been submitted before the first read. -/
def Quiescent (_ : List Nat) (e : OrchestratorEvent ρ) : Prop :=
  ∀ snapshot, e.output = some (.snapshot snapshot) → snapshot.isQuiescent = true →
    e.post.outstanding = 0

/-- At the last of three reads of zero, no overlooked job is in the hands of its worker. -/
def HandedOver (overlooked : List Nat) (e : OrchestratorEvent ρ) : Prop :=
  e.input = .proceed → e.pre.composer = .readInFlight false 0 0 →
    e.pre.counters.awaitingDrain = 0 →
    ∀ worker ∈ e.pre.workers, ∀ job, worker.inHand? = some job → job.token ∉ overlooked

/-- What the reads of the composer have shown. -/
def Seen (orchestrator : ShadowOrchestrator ρ) (overlooked : List Nat) : Prop :=
  match orchestrator.composer with
  | .readPending _ pending => pending = 0 → orchestrator.Settled fun _ ↦ True
  | .readInFlight _ pending inFlight => pending = 0 → inFlight = 0 →
      orchestrator.Settled (· ∈ overlooked)
  | _ => True

structure Watched (orchestrator : ShadowOrchestrator ρ) (overlooked : List Nat) : Prop where
  counted : orchestrator.Counted
  seen : orchestrator.Seen overlooked

section Runs

variable {orchestrator : ShadowOrchestrator ρ} {overlooked : List Nat}

theorem Seen.workerStep (h : orchestrator.Seen overlooked) {i : Nat} {worker : ShadowWorker ρ}
    (hi : orchestrator.workers[i]? = some worker) (evaluation : ShadowEvaluation ρ) :
    (orchestrator.workerStep i evaluation worker).Seen overlooked := by
  rw [Seen] at h ⊢
  rw [(workerStep_kept orchestrator i evaluation worker).composer]
  split
  case h_1 staged pending hcomposer =>
    rw [hcomposer] at h
    exact fun hp ↦ (h hp).workerStep hi evaluation
  case h_2 staged pending inFlight hcomposer =>
    rw [hcomposer] at h
    exact fun hp hf ↦ (h hp hf).workerStep hi evaluation
  case h_3 => trivial

/-- The call of `snapshot` makes the first read; the other calls read nothing. -/
theorem Counted.seen_call (h : orchestrator.Counted) (hidle : orchestrator.composer = .idle)
    (call : ShadowCall) : (orchestrator.call call).1.Seen overlooked := by
  have hunread : ∀ {orchestrator' : ShadowOrchestrator ρ},
      orchestrator'.composer = .idle → orchestrator'.Seen overlooked := by
    intro orchestrator' hidle'
    rw [Seen, hidle']
    trivial
  cases call with
  | stage event =>
    rw [ShadowOrchestrator.call, stage]
    split
    · exact hunread rfl
    · split_ifs
      · exact hunread rfl
      · exact hunread hidle
      · exact hunread rfl
      · exact hunread hidle
  | commitWithBudget admitted =>
    rw [ShadowOrchestrator.call, commitWithBudget]
    split
    · split
      · exact hunread hidle
      · trivial
    · exact hunread rfl
  | discardStaged => exact hunread hidle
  | supersedeSource event =>
    rw [ShadowOrchestrator.call, supersede]
    split
    · exact hunread hidle
    · exact hunread hidle
  | drain =>
    rw [ShadowOrchestrator.call]
    split
    · trivial
    · exact hunread hidle
  | snapshot => exact fun hzero ↦ ⟨(h.settled hzero).1, (h.settled hzero).2, (h.settled hzero).3⟩
  | shutdown => trivial

theorem Watched.seen_composerStep (h : orchestrator.Watched overlooked) :
    (orchestrator.composerStep orchestrator.composer).1.Seen
      (overlook overlooked (machine.event orchestrator .proceed)) := by
  have hseen := h.seen
  rw [Seen] at hseen
  cases hcomposer : orchestrator.composer with
  | idle =>
    rw [Seen, ShadowOrchestrator.composerStep, hcomposer]
    trivial
  | noted job =>
    rw [ShadowOrchestrator.composerStep, tryPushSuperseding]
    split_ifs
    · trivial
    · rw [Seen, hcomposer]
      trivial
    · trivial
    · trivial
  | readPending staged pending =>
    rw [hcomposer] at hseen
    have hread : overlook overlooked (machine.event orchestrator .proceed) =
        orchestrator.handingOver := by
      show overlook overlooked ⟨orchestrator, .proceed, _, _⟩ = _
      rw [overlook, hcomposer]
    rw [hread]
    intro hp hf
    have hsettled := (hseen hp).overlooked h.counted hf
    exact ⟨hsettled.1, hsettled.2, hsettled.3⟩
  | joining =>
    rw [ShadowOrchestrator.composerStep]
    split
    · trivial
    · rw [Seen, hcomposer]
      trivial
  | admitted | refused | skipping | received | released | readInFlight | closing
    | cancelling => trivial

theorem Watched.next (h : orchestrator.Watched overlooked) (action : Action ρ) :
    (machine.next orchestrator action).Watched
      (overlook overlooked (machine.event orchestrator action)) := by
  refine ⟨h.counted.next action, ?_⟩
  cases action with
  | call call =>
    show (step orchestrator (.call call)).1.Seen overlooked
    rw [step]
    split
    case isTrue hidle => exact h.counted.seen_call (isIdle_iff.mp hidle) call
    case isFalse => exact h.seen
  | proceed => exact h.seen_composerStep
  | work i evaluation =>
    show ((orchestrator.workers[i]?).elim orchestrator
      (orchestrator.workerStep i evaluation)).Seen overlooked
    cases hi : orchestrator.workers[i]? with
    | none => exact h.seen
    | some worker => exact h.seen.workerStep hi evaluation

/-- A snapshot is the last step of its reads. -/
theorem snapshot_composerStep {snapshot : ShadowExecutionSnapshot}
    (hout : (orchestrator.composerStep orchestrator.composer).2 = some (.snapshot snapshot)) :
    orchestrator.composer = .readInFlight snapshot.staged snapshot.pending snapshot.inFlight ∧
      snapshot.awaitingDrain = orchestrator.counters.awaitingDrain := by
  cases hcomposer : orchestrator.composer with
  | readInFlight staged pending inFlight =>
    rw [hcomposer, ShadowOrchestrator.composerStep] at hout
    obtain rfl := ShadowReply.snapshot.inj (Option.some.inj hout)
    exact ⟨rfl, rfl⟩
  | joining =>
    rw [hcomposer, ShadowOrchestrator.composerStep] at hout
    split at hout <;> cases hout
  | _ =>
    rw [hcomposer] at hout
    cases hout

/-- No other call than `snapshot` returns a snapshot, and it has only begun. -/
theorem call_ne_snapshot (call : ShadowCall) (snapshot : ShadowExecutionSnapshot) :
    (orchestrator.call call).2 ≠ some (.snapshot snapshot) := by
  intro hout
  cases call with
  | stage event =>
    rw [ShadowOrchestrator.call, stage] at hout
    split at hout
    · cases hout
    · split_ifs at hout <;> cases hout
  | commitWithBudget admitted =>
    rw [ShadowOrchestrator.call, commitWithBudget] at hout
    split at hout
    · split at hout <;> cases hout
    · cases hout
  | drain =>
    rw [ShadowOrchestrator.call] at hout
    split at hout <;> cases hout
  | discardStaged | supersedeSource | snapshot | shutdown => cases hout

/-- The last of three reads of zero leaves what is in the hands of workers outstanding. -/
theorem Watched.outstanding_next (h : orchestrator.Watched overlooked)
    (hcomposer : orchestrator.composer = .readInFlight false 0 0)
    (hdrain : orchestrator.counters.awaitingDrain = 0) :
    (machine.next orchestrator .proceed).outstanding = 0 ↔
      ∀ worker ∈ orchestrator.workers, worker.inHand? = none := by
  have hseen := h.seen
  rw [Seen, hcomposer] at hseen
  have hkept : (machine.next orchestrator .proceed).outstanding = orchestrator.outstanding := by
    show (orchestrator.composerStep orchestrator.composer).1.outstanding = _
    rw [hcomposer, outstanding, outstanding, hcomposer]
    rfl
  rw [hkept]
  exact (hseen rfl rfl).outstanding_eq_zero_iff h.counted hdrain

theorem Watched.handedOver_iff (h : orchestrator.Watched overlooked) (action : Action ρ) :
    HandedOver overlooked (machine.event orchestrator action) ↔
      Quiescent overlooked (machine.event orchestrator action) := by
  cases action with
  | call call =>
    refine ⟨fun _ snapshot hout ↦ ?_, fun _ hproceed ↦ by cases hproceed⟩
    have hcall : (step orchestrator (.call call)).2 = some (.snapshot snapshot) := hout
    rw [step] at hcall
    split at hcall
    · exact absurd hcall (call_ne_snapshot call snapshot)
    · cases hcall
  | proceed =>
    constructor
    · intro hover snapshot hout hquiescent
      obtain ⟨hcomposer, hdrain⟩ := snapshot_composerStep hout
      rw [ShadowExecutionSnapshot.isQuiescent] at hquiescent
      simp only [Bool.and_eq_true, decide_eq_true_eq, Bool.not_eq_true'] at hquiescent
      obtain ⟨⟨⟨hp, hf⟩, hd⟩, hs⟩ := hquiescent
      rw [hp, hf, hs] at hcomposer
      rw [hdrain] at hd
      apply (h.outstanding_next hcomposer hd).mpr
      intro worker hworker
      cases hjob : worker.inHand? with
      | none => rfl
      | some job =>
        have hseen := h.seen
        rw [Seen, hcomposer] at hseen
        have hmem := (hseen rfl rfl).inHand worker hworker job hjob
        exact absurd hmem (hover rfl hcomposer hd worker hworker job hjob)
    · intro hquiescent _ hcomposer hdrain worker hworker job hjob
      have hcomposer : orchestrator.composer = .readInFlight false 0 0 := hcomposer
      have hdrain : orchestrator.counters.awaitingDrain = 0 := hdrain
      have hout : (machine.event orchestrator .proceed).output = some (.snapshot
          { pending := 0, inFlight := 0, awaitingDrain := 0, staged := false }) := by
        show (orchestrator.composerStep orchestrator.composer).2 = _
        rw [hcomposer, ← hdrain]
        rfl
      have hnone := (h.outstanding_next hcomposer hdrain).mp (hquiescent _ hout rfl) worker hworker
      rw [hnone] at hjob
      cases hjob
  | work i evaluation =>
    refine ⟨fun _ snapshot hout ↦ ?_, fun _ hproceed ↦ ?_⟩
    · cases hout
    · cases hproceed

/-- **When quiescence is sound.**  The quiescent snapshots of a run leave no job outstanding
exactly when, at the last of three reads of zero, the jobs that were being handed over at
the read of `in_flight` have left the hands of their workers. -/
theorem quiescent_iff_handedOver (config : ShadowOrchestratorConfig) (actions : List (Action ρ)) :
    machine.Meets overlook Quiescent (new config) [] actions ↔
      machine.Meets overlook HandedOver (new config) [] actions := by
  have hnew : (new config : ShadowOrchestrator ρ).Watched [] := ⟨new_counted config, trivial⟩
  exact machine.meets_congr_of_watch (fun orchestrator overlooked action h _ ↦ h.next action)
    (fun orchestrator overlooked action h ↦ (h.handedOver_iff action).symm) hnew actions

/-- A pool of one worker that takes every event. -/
def lonePool : ShadowOrchestratorConfig where
  enabled := true
  sampleRatePer10k := 10000
  seed := 0
  eventKinds := []
  maxConcurrent := 1
  queueCapacity := 1
  chargeShadowToBudget := false

def chatEvent : EventEnvelope where
  schemaVersion := eventSchemaVersion
  eventId := "e"
  correlationId := "c"
  sequence := 0
  observedAt := "2026-01-01T00:00:00Z"
  source := "chat"
  sourceClass := .publicChat
  plane := .content
  trustLevel := .untrusted
  kind := .chatMessage
  actorId := none
  priorityHint := none
  authorization := none
  payload := ∅

/-- A job is admitted and popped, its pending is released, and two counters are read. -/
def readInGap : List (Action Unit) :=
  [.call (.stage chatEvent), .call (.commitWithBudget true), .proceed, .proceed,
    .work 0 (.evaluated ()), .work 0 (.evaluated ()), .call .snapshot, .proceed]

/-- The third read passes the job by as well. -/
theorem quiescent_while_claiming :
    ¬machine.Meets overlook Quiescent (new lonePool) [] (readInGap ++ [.proceed]) := by
  intro hmeets
  obtain ⟨hlast, -⟩ := (machine.meets_append.mp hmeets).2
  have hout : (machine.event (machine.run (new lonePool) readInGap) .proceed).output =
      some (.snapshot { pending := 0, inFlight := 0, awaitingDrain := 0, staged := false }) := by
    decide +kernel
  have hleft : (machine.event (machine.run (new lonePool) readInGap) .proceed).post.outstanding =
      1 := by decide +kernel
  exact absurd (hleft.symm.trans (hlast _ hout rfl)) Nat.one_ne_zero

end Runs

end ShadowOrchestrator

end Aivtuber
