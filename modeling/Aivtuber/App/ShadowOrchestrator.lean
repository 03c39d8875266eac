import Aivtuber.Base.Machine
import Aivtuber.Base.Pool
import Aivtuber.Domain.Event

/-!
# The shadow orchestrator

`ShadowOrchestrator` of `crates/app/src/shadow_orchestrator.rs`.  One thread, the composer,
makes the calls of the orchestrator one after the other; the workers of the pool interleave
with it and with each other in any order.  Each update of a shared counter, each read of one
and each critical section of the queue lock is a step of its own, and a thread that needs
the lock waits while a worker holds it.

A job is staged, queued, run by a worker and published to a bounded mailbox, from which the
composer drains it.  Its cancellation token is registered under the correlation id of its
event from the push of the job to its publication fence, unless a newer revision of the
same chain takes its place.

The records that workers publish are a parameter.
-/

open Pool Saturating
open Std (ExtTreeMap)

namespace Aivtuber

structure ShadowOrchestratorConfig where
  enabled : Bool
  sampleRatePer10k : Nat
  seed : Nat
  /-- Empty for every kind. -/
  eventKinds : List EventKind
  maxConcurrent : Nat
  queueCapacity : Nat
  chargeShadowToBudget : Bool

inductive ShadowSkipReason where
  | disabled | filtered | notSampled | saturated | shuttingDown | budgetDenied
deriving DecidableEq, Repr

inductive ShadowSubmission where
  | admitted (jobId : Nat)
  | skipped (reason : ShadowSkipReason)
deriving DecidableEq, Repr

namespace ShadowOrchestratorConfig

/-- FNV-1a over the seed, little endian, and the event id. -/
def sampleBucket (config : ShadowOrchestratorConfig) (eventId : String) : Nat :=
  let bytes := (List.range 8).map (fun i ↦ config.seed / 256 ^ i % 256) ++
    eventId.toUTF8.toList.map UInt8.toNat
  bytes.foldl (fun hash byte ↦ (hash ^^^ byte) * 0x00000100000001b3 % 2 ^ 64)
    0xcbf29ce484222325 % 10000

def skipReason (config : ShadowOrchestratorConfig) (event : EventEnvelope) :
    Option ShadowSkipReason :=
  if !config.enabled then some .disabled
  else if !config.eventKinds.isEmpty && !config.eventKinds.contains event.kind then some .filtered
  else if config.sampleRatePer10k ≤ config.sampleBucket event.eventId then some .notSampled
  else none

end ShadowOrchestratorConfig

/-- The revision chain of an event. -/
def supersessionKey (event : EventEnvelope) : String := event.correlationId

/-- A job; `token` is the identity of its cancellation token. -/
structure ShadowJob where
  jobId : Nat
  event : EventEnvelope
  token : Nat

def ShadowJob.key (job : ShadowJob) : String := supersessionKey job.event

/-- A discarded completion has no record. -/
structure ShadowCompletion (ρ : Type) where
  jobId : Nat
  record : Option ρ
deriving DecidableEq

inductive PushRefusal where
  | saturated | closed
deriving DecidableEq, Repr

/-- What `run_job` comes to behind its first check: an abort before the policy ran, which is
recorded, or an evaluation, which is checked once more. -/
inductive ShadowEvaluation (ρ : Type) where
  | aborted (record : ρ)
  | evaluated (record : ρ)

/-- A worker, between two of its steps. -/
inductive ShadowWorker (ρ : Type) where
  | idle
  /-- Popped. -/
  | received (job : ShadowJob)
  /-- `pending` is released, and in-flight is not claimed yet. -/
  | released (job : ShadowJob)
  | claimed (job : ShadowJob)
  | running (job : ShadowJob)
  /-- The discarded job is not counted yet. -/
  | discarded (job : ShadowJob)
  | finished (job : ShadowJob) (record : Option ρ)
  /-- In-flight is released, and the drain window is not claimed yet. -/
  | unclaimed (job : ShadowJob) (record : Option ρ)
  /-- In front of the publication fence. -/
  | published (job : ShadowJob) (record : Option ρ)
  /-- In the critical section of the fence, with the chain retired. -/
  | fenced (job : ShadowJob) (record : Option ρ)
  /-- The mailbox is full, and the drain window is not released yet. -/
  | unsent (job : ShadowJob)
  /-- The dropped completion is not counted yet. -/
  | dropped
  | stopped

/-- The critical section of `publish_fenced` holds the queue lock to its end. -/
def ShadowWorker.holdsLock {ρ : Type} : ShadowWorker ρ → Bool
  | .fenced _ _ | .unsent _ | .dropped => true
  | _ => false

/-- The composer, between two of its steps. -/
inductive ShadowComposer (ρ : Type) where
  | idle
  /-- `note_queued` is done. -/
  | noted (job : ShadowJob)
  /-- Pushed, and `submitted` is not counted yet. -/
  | admitted (jobId : Nat)
  /-- `pending` is not reverted yet. -/
  | refused (refusal : PushRefusal)
  | skipping (reason : ShadowSkipReason)
  /-- A completion was taken, and the drain window is not released yet. -/
  | received (completion : ShadowCompletion ρ)
  /-- The completion is not counted yet. -/
  | released (completion : ShadowCompletion ρ)
  /-- In `snapshot`, with what it has read. -/
  | readPending (staged : Bool) (pending : Int)
  | readInFlight (staged : Bool) (pending inFlight : Int)
  /-- In `shutdown`, behind the flag, the closed queue and the cancelled chains. -/
  | closing | cancelling | joining

/-- The counters.  A high-water mark moves with the counter it watches. -/
structure ShadowCounters where
  pending : Int
  inFlight : Int
  awaitingDrain : Int
  pendingHighWater : Int
  inFlightHighWater : Int
  submitted : Nat
  completed : Nat
  droppedDisabled : Nat
  droppedFiltered : Nat
  droppedNotSampled : Nat
  droppedSaturated : Nat
  droppedShuttingDown : Nat
  droppedBudgetDenied : Nat
  cancelledOrStale : Nat
  droppedCompletionMailboxFull : Nat
deriving DecidableEq, Repr

namespace ShadowCounters

def new : ShadowCounters where
  pending := 0
  inFlight := 0
  awaitingDrain := 0
  pendingHighWater := 0
  inFlightHighWater := 0
  submitted := 0
  completed := 0
  droppedDisabled := 0
  droppedFiltered := 0
  droppedNotSampled := 0
  droppedSaturated := 0
  droppedShuttingDown := 0
  droppedBudgetDenied := 0
  cancelledOrStale := 0
  droppedCompletionMailboxFull := 0

def noteQueued (counters : ShadowCounters) : ShadowCounters :=
  { counters with
    pending := counters.pending + 1
    pendingHighWater := max counters.pendingHighWater (counters.pending + 1) }

/-- One more dropped for a reason. -/
def noteSkipped (counters : ShadowCounters) : ShadowSkipReason → ShadowCounters
  | .disabled => { counters with droppedDisabled := counters.droppedDisabled + 1 }
  | .filtered => { counters with droppedFiltered := counters.droppedFiltered + 1 }
  | .notSampled => { counters with droppedNotSampled := counters.droppedNotSampled + 1 }
  | .saturated => { counters with droppedSaturated := counters.droppedSaturated + 1 }
  | .shuttingDown => { counters with droppedShuttingDown := counters.droppedShuttingDown + 1 }
  | .budgetDenied => { counters with droppedBudgetDenied := counters.droppedBudgetDenied + 1 }

end ShadowCounters

/-- What `is_quiescent` reads of a snapshot. -/
structure ShadowExecutionSnapshot where
  pending : Int
  inFlight : Int
  awaitingDrain : Int
  staged : Bool
deriving DecidableEq, Repr

def ShadowExecutionSnapshot.isQuiescent (snapshot : ShadowExecutionSnapshot) : Bool :=
  snapshot.pending = 0 && snapshot.inFlight = 0 && snapshot.awaitingDrain = 0 && !snapshot.staged

/-- A call of the composer. -/
inductive ShadowCall where
  | stage (event : EventEnvelope)
  | commitWithBudget (budgetAdmitted : Bool)
  | discardStaged
  | supersedeSource (event : EventEnvelope)
  /-- One round of `drain_comparisons`. -/
  | drain
  | snapshot
  | shutdown

/-- What a call returns. -/
inductive ShadowReply (ρ : Type) where
  | staged
  | submission (submission : ShadowSubmission)
  | drained (completion : ShadowCompletion ρ)
  | snapshot (snapshot : ShadowExecutionSnapshot)
deriving DecidableEq

structure ShadowOrchestrator (ρ : Type) where
  config : ShadowOrchestratorConfig
  counters : ShadowCounters
  shuttingDown : Bool
  closed : Bool
  queue : List ShadowJob
  mailbox : List (ShadowCompletion ρ)
  /-- The token of the live job of each chain. -/
  live : ExtTreeMap String Nat
  cancelled : List Nat
  staged : Option ShadowJob
  nextJobId : Nat
  /-- How many tokens were allocated. -/
  tokens : Nat
  lastSubmission : Option ShadowSubmission
  composer : ShadowComposer ρ
  workers : List (ShadowWorker ρ)

namespace ShadowOrchestrator

variable {ρ : Type}

def new (config : ShadowOrchestratorConfig) : ShadowOrchestrator ρ where
  config := config
  counters := .new
  shuttingDown := false
  closed := false
  queue := []
  mailbox := []
  live := ∅
  cancelled := []
  staged := none
  nextJobId := 0
  tokens := 0
  lastSubmission := none
  composer := .idle
  workers := List.replicate config.maxConcurrent .idle

/-- Every queued job and every executing job can publish. -/
def mailboxCapacity (orchestrator : ShadowOrchestrator ρ) : Nat :=
  satAdd orchestrator.config.queueCapacity orchestrator.config.maxConcurrent

/-- A worker is in a critical section of the queue lock. -/
def locked (orchestrator : ShadowOrchestrator ρ) : Bool :=
  orchestrator.workers.any ShadowWorker.holdsLock

def isCancelled (orchestrator : ShadowOrchestrator ρ) (token : Nat) : Bool :=
  orchestrator.cancelled.contains token

/-- A job that is to stop: `run_job` discards it. -/
def isDiscarded (orchestrator : ShadowOrchestrator ρ) (job : ShadowJob) : Bool :=
  orchestrator.shuttingDown || orchestrator.isCancelled job.token

/-- The entry of the chain of a job is its own. -/
def isLive (orchestrator : ShadowOrchestrator ρ) (job : ShadowJob) : Bool :=
  orchestrator.live[job.key]? = some job.token

/-! ## The composer -/

def skip (orchestrator : ShadowOrchestrator ρ) (reason : ShadowSkipReason) :
    ShadowOrchestrator ρ × Option (ShadowReply ρ) :=
  ({ orchestrator with
      counters := orchestrator.counters.noteSkipped reason
      lastSubmission := some (.skipped reason)
      composer := .idle },
    some (.submission (.skipped reason)))

def stage (orchestrator : ShadowOrchestrator ρ) (event : EventEnvelope) :
    ShadowOrchestrator ρ × Option (ShadowReply ρ) :=
  let cleared := { orchestrator with staged := none }
  match orchestrator.config.skipReason event with
  | some reason => cleared.skip reason
  | none =>
    if orchestrator.shuttingDown then cleared.skip .shuttingDown
    else if orchestrator.locked then (orchestrator, none)
    else if orchestrator.config.queueCapacity ≤ orchestrator.queue.length then
      cleared.skip .saturated
    else
      let jobId := satAdd orchestrator.nextJobId 1
      ({ orchestrator with
          nextJobId := jobId
          tokens := orchestrator.tokens + 1
          staged := some { jobId, event, token := orchestrator.tokens } },
        some .staged)

/-- The first step of `commit`, or `commit_denied`. -/
def commitWithBudget (orchestrator : ShadowOrchestrator ρ) (budgetAdmitted : Bool) :
    ShadowOrchestrator ρ × Option (ShadowReply ρ) :=
  if budgetAdmitted then
    match orchestrator.staged with
    | none => (orchestrator,
        some (.submission (orchestrator.lastSubmission.getD (.skipped .disabled))))
    | some job =>
      ({ orchestrator with
          staged := none
          counters := orchestrator.counters.noteQueued
          composer := .noted job }, none)
  else { orchestrator with staged := none }.skip .budgetDenied

/-- The push of a job, under the queue lock. -/
def tryPushSuperseding (orchestrator : ShadowOrchestrator ρ) (job : ShadowJob) :
    ShadowOrchestrator ρ :=
  if orchestrator.closed then { orchestrator with composer := .refused .closed }
  else if orchestrator.locked then orchestrator
  else if orchestrator.config.queueCapacity ≤ orchestrator.queue.length then
    { orchestrator with composer := .refused .saturated }
  else
    { orchestrator with
      live := orchestrator.live.insert job.key job.token
      cancelled := (orchestrator.live[job.key]?).toList ++ orchestrator.cancelled
      queue := orchestrator.queue ++ [job]
      composer := .admitted job.jobId }

def supersede (orchestrator : ShadowOrchestrator ρ) (key : String) : ShadowOrchestrator ρ :=
  if orchestrator.locked then orchestrator
  else
    { orchestrator with
      live := orchestrator.live.erase key
      cancelled := (orchestrator.live[key]?).toList ++ orchestrator.cancelled }

/-- A call of a composer that is idle. -/
def call (orchestrator : ShadowOrchestrator ρ) :
    ShadowCall → ShadowOrchestrator ρ × Option (ShadowReply ρ)
  | .stage event => orchestrator.stage event
  | .commitWithBudget budgetAdmitted => orchestrator.commitWithBudget budgetAdmitted
  | .discardStaged => ({ orchestrator with staged := none }, none)
  | .supersedeSource event => (orchestrator.supersede (supersessionKey event), none)
  | .drain =>
    match orchestrator.mailbox with
    | completion :: mailbox =>
      ({ orchestrator with mailbox, composer := .received completion }, none)
    | [] => (orchestrator, none)
  | .snapshot =>
    ({ orchestrator with
      composer := .readPending orchestrator.staged.isSome orchestrator.counters.pending }, none)
  | .shutdown => ({ orchestrator with shuttingDown := true, composer := .closing }, none)

/-- The next step of the call that the composer is in. -/
def composerStep (orchestrator : ShadowOrchestrator ρ) :
    ShadowComposer ρ → ShadowOrchestrator ρ × Option (ShadowReply ρ)
  | .idle => (orchestrator, none)
  | .noted job => (orchestrator.tryPushSuperseding job, none)
  | .admitted jobId =>
    ({ orchestrator with
        counters.submitted := orchestrator.counters.submitted + 1
        lastSubmission := some (.admitted jobId)
        composer := .idle },
      some (.submission (.admitted jobId)))
  | .refused refusal =>
    ({ orchestrator with
        counters.pending := orchestrator.counters.pending - 1
        composer := .skipping (match refusal with
          | .saturated => .saturated
          | .closed => .shuttingDown) }, none)
  | .skipping reason => orchestrator.skip reason
  | .received completion =>
    ({ orchestrator with
      counters.awaitingDrain := orchestrator.counters.awaitingDrain - 1
      composer := .released completion }, none)
  | .released completion =>
    ({ orchestrator with
        counters.completed := orchestrator.counters.completed + 1
        composer := .idle },
      some (.drained completion))
  | .readPending staged pending =>
    ({ orchestrator with
      composer := .readInFlight staged pending orchestrator.counters.inFlight }, none)
  | .readInFlight staged pending inFlight =>
    ({ orchestrator with composer := .idle },
      some (.snapshot
        { pending, inFlight, awaitingDrain := orchestrator.counters.awaitingDrain, staged }))
  | .closing => ({ orchestrator with closed := true, composer := .cancelling }, none)
  | .cancelling =>
    ({ orchestrator with
      staged := none
      live := ∅
      cancelled := orchestrator.live.toList.map Prod.snd ++ orchestrator.cancelled
      composer := .joining }, none)
  | .joining =>
    if orchestrator.workers.all (· matches .stopped) then
      ({ orchestrator with composer := .idle }, none)
    else (orchestrator, none)

/-! ## The workers -/

/-- The fence: a record that is no longer wanted is dropped, and the chain is retired. -/
def fence (orchestrator : ShadowOrchestrator ρ) (worker : Nat) (job : ShadowJob)
    (record : Option ρ) : ShadowOrchestrator ρ :=
  let stillCurrent := !orchestrator.isDiscarded job && orchestrator.isLive job
  { orchestrator with
    counters.cancelledOrStale := orchestrator.counters.cancelledOrStale +
      (if !stillCurrent && record.isSome then 1 else 0)
    live := if orchestrator.isLive job then orchestrator.live.erase job.key else orchestrator.live
    workers := orchestrator.workers.set worker
      (.fenced job (if stillCurrent then record else none)) }

/-- The step of a worker from its state: a blocked worker waits. -/
def workerStep (orchestrator : ShadowOrchestrator ρ) (worker : Nat)
    (evaluation : ShadowEvaluation ρ) : ShadowWorker ρ → ShadowOrchestrator ρ
  | .idle =>
    if orchestrator.locked then orchestrator
    else
      match orchestrator.queue with
      | job :: queue =>
        { orchestrator with queue, workers := orchestrator.workers.set worker (.received job) }
      | [] =>
        if orchestrator.closed then
          { orchestrator with workers := orchestrator.workers.set worker .stopped }
        else orchestrator
  | .received job =>
    { orchestrator with
      counters.pending := orchestrator.counters.pending - 1
      workers := orchestrator.workers.set worker (.released job) }
  | .released job =>
    { orchestrator with
      counters.inFlight := orchestrator.counters.inFlight + 1
      counters.inFlightHighWater :=
        max orchestrator.counters.inFlightHighWater (orchestrator.counters.inFlight + 1)
      workers := orchestrator.workers.set worker (.claimed job) }
  | .claimed job =>
    { orchestrator with
      workers := orchestrator.workers.set worker
        (if orchestrator.isDiscarded job then .discarded job else .running job) }
  | .running job =>
    { orchestrator with
      workers := orchestrator.workers.set worker (match evaluation with
        | .aborted record => .finished job (some record)
        | .evaluated record =>
          if orchestrator.isDiscarded job then .discarded job
          else .finished job (some record)) }
  | .discarded job =>
    { orchestrator with
      counters.cancelledOrStale := orchestrator.counters.cancelledOrStale + 1
      workers := orchestrator.workers.set worker (.finished job none) }
  | .finished job record =>
    { orchestrator with
      counters.inFlight := orchestrator.counters.inFlight - 1
      workers := orchestrator.workers.set worker (.unclaimed job record) }
  | .unclaimed job record =>
    { orchestrator with
      counters.awaitingDrain := orchestrator.counters.awaitingDrain + 1
      workers := orchestrator.workers.set worker (.published job record) }
  | .published job record =>
    if orchestrator.locked then orchestrator else orchestrator.fence worker job record
  | .fenced job record =>
    if orchestrator.mailbox.length < orchestrator.mailboxCapacity then
      { orchestrator with
        mailbox := orchestrator.mailbox ++ [{ jobId := job.jobId, record }]
        workers := orchestrator.workers.set worker .idle }
    else { orchestrator with workers := orchestrator.workers.set worker (.unsent job) }
  | .unsent _ =>
    { orchestrator with
      counters.awaitingDrain := orchestrator.counters.awaitingDrain - 1
      workers := orchestrator.workers.set worker .dropped }
  | .dropped =>
    { orchestrator with
      counters.droppedCompletionMailboxFull :=
        orchestrator.counters.droppedCompletionMailboxFull + 1
      workers := orchestrator.workers.set worker .idle }
  | .stopped => orchestrator

/-- What no worker changes: jobs only leave the queue, at its front. -/
structure Kept (orchestrator orchestrator' : ShadowOrchestrator ρ) : Prop where
  config : orchestrator'.config = orchestrator.config
  shuttingDown : orchestrator'.shuttingDown = orchestrator.shuttingDown
  closed : orchestrator'.closed = orchestrator.closed
  staged : orchestrator'.staged = orchestrator.staged
  composer : orchestrator'.composer = orchestrator.composer
  cancelled : orchestrator'.cancelled = orchestrator.cancelled
  tokens : orchestrator'.tokens = orchestrator.tokens
  queue : orchestrator'.queue <:+ orchestrator.queue

theorem workerStep_kept (orchestrator : ShadowOrchestrator ρ) (i : Nat)
    (evaluation : ShadowEvaluation ρ) (worker : ShadowWorker ρ) :
    orchestrator.Kept (orchestrator.workerStep i evaluation worker) := by
  cases worker with
  | idle =>
    rw [workerStep]
    split
    · exact ⟨rfl, rfl, rfl, rfl, rfl, rfl, rfl, List.suffix_rfl⟩
    · split
      case h_1 job queue hqueue =>
        refine ⟨rfl, rfl, rfl, rfl, rfl, rfl, rfl, ?_⟩
        rw [hqueue]
        exact List.suffix_cons job queue
      case h_2 => split <;> exact ⟨rfl, rfl, rfl, rfl, rfl, rfl, rfl, List.suffix_rfl⟩
  | published | fenced =>
    rw [workerStep]
    split <;> exact ⟨rfl, rfl, rfl, rfl, rfl, rfl, rfl, List.suffix_rfl⟩
  | _ => exact ⟨rfl, rfl, rfl, rfl, rfl, rfl, rfl, List.suffix_rfl⟩

/-! ## Runs -/

/-- Which thread takes its next step. -/
inductive Action (ρ : Type) where
  | call (call : ShadowCall)
  | proceed
  | work (worker : Nat) (evaluation : ShadowEvaluation ρ)

def isIdle (orchestrator : ShadowOrchestrator ρ) : Bool := orchestrator.composer matches .idle

/-- A composer that is in a call makes no other one. -/
def step (orchestrator : ShadowOrchestrator ρ) :
    Action ρ → ShadowOrchestrator ρ × Option (ShadowReply ρ)
  | .call call => if orchestrator.isIdle then orchestrator.call call else (orchestrator, none)
  | .proceed => orchestrator.composerStep orchestrator.composer
  | .work worker evaluation =>
    ((orchestrator.workers[worker]?).elim orchestrator (orchestrator.workerStep worker evaluation),
      none)

/-- The orchestrator under any interleaving of its threads. -/
def machine : Machine (ShadowOrchestrator ρ) (Action ρ) (Option (ShadowReply ρ)) := ⟨step⟩

theorem isIdle_iff {orchestrator : ShadowOrchestrator ρ} :
    orchestrator.isIdle = true ↔ orchestrator.composer = .idle := by
  rw [isIdle]
  cases orchestrator.composer <;> simp

end ShadowOrchestrator

end Aivtuber
