import Aivtuber.Base.Machine
import Aivtuber.Base.Pool

/-!
# The generation executor

`GenerationExecutor` of `crates/app/src/lib.rs`, as its threads see it: a submitter, the
workers, a drainer and an observer, whose sequentially consistent steps interleave in any
order.  Each update of a shared counter and each read of one is a step of its own.

A job is queued, in flight and awaiting drain, and each hand-over claims the next counter
before it releases the last.  So a job is counted at every moment, in a counter at or
behind the *stage* it has reached; and since stages only grow, an observer that reads the
counters in this order, and finds them zero, has left every job submitted before its first
read behind.
-/

open Pool

namespace Aivtuber

/-- A worker, between two of its steps. -/
inductive GenerationWorker where
  | idle
  /-- Dequeued. -/
  | received (job : Nat)
  /-- `claim_in_flight` is done. -/
  | claimed (job : Nat)
  /-- `release_pending` is done. -/
  | released (job : Nat)
  /-- The shutdown was seen, and in-flight is not released yet. -/
  | dropping (job : Nat)
  | running (job : Nat)
  /-- `claim_drain_window` is done. -/
  | ready (job : Nat)
  /-- `release_in_flight` is done. -/
  | sending (job : Nat)
  /-- The mailbox has no receiver, and the drain window is not released yet. -/
  | unsent (job : Nat)
  | stopped
deriving DecidableEq, Repr

/-- The thread in `try_submit`, between two of its steps. -/
inductive GenerationSubmitter where
  | idle | checked | noted | refused
deriving DecidableEq, Repr

/-- The thread in `snapshot`, with what it has read. -/
inductive GenerationObserver where
  | idle
  | readPending (pending : Int)
  | readInFlight (pending inFlight : Int)
deriving DecidableEq, Repr

structure GenerationExecutionSnapshot where
  pending : Int
  inFlight : Int
  awaitingDrain : Int
deriving DecidableEq, Repr

def GenerationExecutionSnapshot.isQuiescent (snapshot : GenerationExecutionSnapshot) : Bool :=
  snapshot.pending = 0 && snapshot.inFlight = 0 && snapshot.awaitingDrain = 0

/-- The shared state and the threads.  Jobs are numbered in the order of their submission. -/
structure GenerationExecutor where
  queueCapacity : Nat
  pending : Int
  inFlight : Int
  awaitingDrain : Int
  shuttingDown : Bool
  /-- The sender of the work queue is there. -/
  workOpen : Bool
  /-- The receiver of the completions is there. -/
  mailboxOpen : Bool
  queue : List Nat
  mailbox : List Nat
  submitted : Nat
  submitter : GenerationSubmitter
  /-- A completion was taken, and the drain window is not released yet. -/
  draining : Bool
  workers : List GenerationWorker
  observer : GenerationObserver

namespace GenerationExecutor

def new (queueCapacity workers : Nat) : GenerationExecutor where
  queueCapacity := queueCapacity
  pending := 0
  inFlight := 0
  awaitingDrain := 0
  shuttingDown := false
  workOpen := true
  mailboxOpen := true
  queue := []
  mailbox := []
  submitted := 0
  submitter := .idle
  draining := false
  workers := List.replicate workers .idle
  observer := .idle

/-- Which thread takes its next step. -/
inductive Action where
  | submit
  | work (worker : Nat)
  | drain
  | observe
  | shutdown
  /-- The executor is dropped, and the receiver of the completions with it. -/
  | disconnect
deriving DecidableEq, Repr

/-- One completion for every queued job and one for an active worker. -/
def mailboxCapacity (executor : GenerationExecutor) : Nat := executor.queueCapacity + 1

/-- A worker that has not left its loop can still receive. -/
def hasReceiver (executor : GenerationExecutor) : Bool := executor.workers.any (· ≠ .stopped)

/-- The next step of `try_submit`. -/
def submitStep (executor : GenerationExecutor) : GenerationExecutor :=
  match executor.submitter with
  | .idle =>
    if executor.shuttingDown || !executor.workOpen then executor
    else { executor with submitter := .checked }
  | .checked => { executor with pending := executor.pending + 1, submitter := .noted }
  | .noted =>
    if executor.hasReceiver && executor.queue.length < executor.queueCapacity then
      { executor with
        queue := executor.queue ++ [executor.submitted]
        submitted := executor.submitted + 1
        submitter := .idle }
    else { executor with submitter := .refused }
  | .refused => { executor with pending := executor.pending - 1, submitter := .idle }

/-- The step of a worker from its state: a blocked worker waits. -/
def workerStep (executor : GenerationExecutor) (worker : Nat) :
    GenerationWorker → GenerationExecutor
  | .idle =>
    match executor.queue with
    | job :: queue =>
      { executor with queue, workers := executor.workers.set worker (.received job) }
    | [] =>
      if executor.workOpen then executor
      else { executor with workers := executor.workers.set worker .stopped }
  | .received job =>
    { executor with
      inFlight := executor.inFlight + 1
      workers := executor.workers.set worker (.claimed job) }
  | .claimed job =>
    { executor with
      pending := executor.pending - 1
      workers := executor.workers.set worker (.released job) }
  | .released job =>
    { executor with
      workers := executor.workers.set worker
        (if executor.shuttingDown then .dropping job else .running job) }
  | .dropping _ =>
    { executor with
      inFlight := executor.inFlight - 1
      workers := executor.workers.set worker .idle }
  | .running job =>
    { executor with
      awaitingDrain := executor.awaitingDrain + 1
      workers := executor.workers.set worker (.ready job) }
  | .ready job =>
    { executor with
      inFlight := executor.inFlight - 1
      workers := executor.workers.set worker (.sending job) }
  | .sending job =>
    if !executor.mailboxOpen then
      { executor with workers := executor.workers.set worker (.unsent job) }
    else if executor.mailbox.length < executor.mailboxCapacity then
      { executor with
        mailbox := executor.mailbox ++ [job]
        workers := executor.workers.set worker .idle }
    else executor
  | .unsent _ =>
    { executor with
      awaitingDrain := executor.awaitingDrain - 1
      workers := executor.workers.set worker .stopped }
  | .stopped => executor

/-- The next step of `try_recv`. -/
def drainStep (executor : GenerationExecutor) : GenerationExecutor :=
  if executor.draining then
    { executor with awaitingDrain := executor.awaitingDrain - 1, draining := false }
  else
    match executor.mailbox with
    | _ :: mailbox => { executor with mailbox, draining := true }
    | [] => executor

/-- The next read of `snapshot`. -/
def observeStep (executor : GenerationExecutor) :
    GenerationExecutor × Option GenerationExecutionSnapshot :=
  match executor.observer with
  | .idle => ({ executor with observer := .readPending executor.pending }, none)
  | .readPending pending =>
    ({ executor with observer := .readInFlight pending executor.inFlight }, none)
  | .readInFlight pending inFlight =>
    ({ executor with observer := .idle },
      some { pending, inFlight, awaitingDrain := executor.awaitingDrain })

def step (executor : GenerationExecutor) :
    Action → GenerationExecutor × Option GenerationExecutionSnapshot
  | .submit => (executor.submitStep, none)
  | .work worker =>
    ((executor.workers[worker]?).elim executor (executor.workerStep worker), none)
  | .drain => (executor.drainStep, none)
  | .observe => executor.observeStep
  | .shutdown => ({ executor with shuttingDown := true, workOpen := false }, none)
  | .disconnect =>
    ({ executor with shuttingDown := true, workOpen := false, mailboxOpen := false, mailbox := [] },
      none)

/-- The executor under any interleaving of its threads. -/
def machine : Machine GenerationExecutor Action (Option GenerationExecutionSnapshot) := ⟨step⟩

end GenerationExecutor

end Aivtuber
