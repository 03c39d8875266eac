import Aivtuber.Base.Machine
import Aivtuber.Generative.Generation
import Aivtuber.Generative.Registry

/-!
# The generative runtime

`GenerativeRuntime` of `crates/app/src/lib.rs`: the executor's channels with their one
worker, the registry of cancellations, and the generation that is current.  The steps of
the worker come between the calls of the composition thread in any order, and a provider
may answer anything.

A generation is current when it is the active one by its number, and the registry has its
event.  The registry knows events only.
-/

open Saturating

namespace Aivtuber

structure GenerativeRuntime where
  queueCapacity : Nat
  shuttingDown : Bool
  queue : List GenerationWork
  /-- What the worker is at. -/
  inFlight : Option GenerationWork
  mailbox : List GenerationCompletion
  cancellation : GenerationCancellationRegistry
  /-- How many cancellation tokens were created. -/
  tokens : Nat
  nextGenerationId : Nat
  activeGenerationId : Option Nat

namespace GenerativeRuntime

def new (queueCapacity : Nat) : GenerativeRuntime where
  queueCapacity := queueCapacity
  shuttingDown := false
  queue := []
  inFlight := none
  mailbox := []
  cancellation := .default
  tokens := 0
  nextGenerationId := 0
  activeGenerationId := none

variable (runtime : GenerativeRuntime)

/-- `try_submit` of the executor. -/
def trySubmit (work : GenerationWork) : Except GenerationSubmitError GenerativeRuntime :=
  if runtime.shuttingDown then .error .shuttingDown
  else if runtime.queue.length < runtime.queueCapacity then
    .ok { runtime with queue := runtime.queue ++ [work] }
  else .error .saturated

/-- The work that a submission makes of a request. -/
def newWork (request : GenerationRequest) (fallback : FallbackDirective) (providerDeadline : Nat) :
    GenerationWork where
  generationId := satAdd runtime.nextGenerationId 1
  request := request
  cancellation := runtime.tokens
  fallback := fallback
  providerDeadline := providerDeadline

/-- A submission gets the next number and a new token, also if the executor refuses it. -/
def submit (request : GenerationRequest) (fallback : FallbackDirective) (providerDeadline : Nat) :
    GenerativeRuntime × Except GenerationSubmitError Nat :=
  let work := runtime.newWork request fallback providerDeadline
  let numbered := { runtime with
    nextGenerationId := work.generationId
    tokens := runtime.tokens + 1 }
  match numbered.trySubmit work with
  | .ok queued =>
    ({ queued with
        cancellation := queued.cancellation.activate request.sourceEvent work.cancellation
        activeGenerationId := some work.generationId },
      .ok work.generationId)
  | .error error =>
    ({ numbered with cancellation := numbered.cancellation.cancel work.cancellation },
      .error error)

def isCurrent (generationId : Nat) (eventId : String) : Bool :=
  runtime.activeGenerationId = some generationId &&
    runtime.cancellation.activeEventId = some eventId

def finish (generationId : Nat) (eventId : String) : GenerativeRuntime :=
  { runtime with
    activeGenerationId :=
      if runtime.activeGenerationId = some generationId then none else runtime.activeGenerationId
    cancellation := runtime.cancellation.finish eventId }

def shutdown : GenerativeRuntime :=
  { runtime with
    cancellation := runtime.cancellation.cancelActive.1
    activeGenerationId := none
    shuttingDown := true }

/-! ## The worker -/

/-- The worker receives the next work, and drops it if the runtime is shutting down. -/
def take : GenerativeRuntime :=
  match runtime.inFlight, runtime.queue with
  | none, work :: queue =>
    { runtime with queue, inFlight := if runtime.shuttingDown then none else some work }
  | _, _ => runtime

/-- The worker publishes what the provider has answered, if the mailbox has room. -/
def complete (result : Except String GenerationResult) (outputDecision : Option PublicOutput) :
    GenerativeRuntime :=
  match runtime.inFlight with
  | none => runtime
  | some work =>
    if runtime.mailbox.length < runtime.queueCapacity + 1 then
      { runtime with
        inFlight := none
        mailbox := runtime.mailbox ++ [{ work with result, outputDecision }] }
    else runtime

/-! ## Draining -/

/-- The check of `drain_generation_completions`, at an instant. -/
def staleOrCancelled (completion : GenerationCompletion) (now : Nat) : Bool :=
  runtime.shuttingDown || !runtime.isCurrent completion.generationId completion.eventId ||
    runtime.cancellation.isCancelled completion.cancellation || completion.providerDeadline ≤ now

/-- What a round of the drain loop does to the runtime: the completion that it takes, and
whether it is committed. -/
def drainOne (now : Nat) : GenerativeRuntime × Option (GenerationCompletion × Bool) :=
  match runtime.mailbox with
  | [] => (runtime, none)
  | completion :: mailbox =>
    let taken := { runtime with mailbox }
    (taken.finish completion.generationId completion.eventId,
      some (completion, !taken.staleOrCancelled completion now))

/-! ## Runs -/

inductive Op where
  | submit (request : GenerationRequest) (fallback : FallbackDirective) (providerDeadline : Nat)
  | cancelForEvent (event : EventEnvelope)
  | cancelActive
  | take
  | complete (result : Except String GenerationResult) (outputDecision : Option PublicOutput)
  | drain (now : Nat)
  | shutdown

inductive Outcome where
  | submitted (result : Except GenerationSubmitError Nat)
  | drained (round : Option (GenerationCompletion × Bool))
  | done

def perform : Op → GenerativeRuntime × Outcome
  | .submit request fallback providerDeadline =>
    let submitted := runtime.submit request fallback providerDeadline
    (submitted.1, .submitted submitted.2)
  | .cancelForEvent event =>
    ({ runtime with cancellation := runtime.cancellation.cancelForEvent event }, .done)
  | .cancelActive =>
    ({ runtime with cancellation := runtime.cancellation.cancelActive.1 }, .done)
  | .take => (runtime.take, .done)
  | .complete result outputDecision => (runtime.complete result outputDecision, .done)
  | .drain now =>
    let round := runtime.drainOne now
    (round.1, .drained round.2)
  | .shutdown => (runtime.shutdown, .done)

def machine : Machine GenerativeRuntime Op Outcome := ⟨perform⟩

/-! ## The pipeline -/

/-- Everything submitted that is not drained yet. -/
def pipeline : List GenerationWork :=
  runtime.mailbox.map (·.toGenerationWork) ++ runtime.inFlight.toList ++ runtime.queue

variable {runtime} {work : GenerationWork}

theorem mem_pipeline : work ∈ runtime.pipeline ↔
    (∃ completion ∈ runtime.mailbox, completion.toGenerationWork = work) ∨
      runtime.inFlight = some work ∨ work ∈ runtime.queue := by
  simp [pipeline]

theorem pipeline_take : runtime.take.pipeline ⊆ runtime.pipeline := by
  rw [take]
  split
  case h_1 next queue hinFlight hqueue =>
    intro work hwork
    rw [mem_pipeline] at hwork ⊢
    rw [hqueue]
    rcases hwork with hmailbox | hworker | hqueued
    · exact .inl hmailbox
    · dsimp only at hworker
      split at hworker
      · cases hworker
      · cases hworker
        exact .inr (.inr List.mem_cons_self)
    · exact .inr (.inr (List.mem_cons_of_mem next hqueued))
  case h_2 => exact List.Subset.refl _

theorem pipeline_complete (result : Except String GenerationResult)
    (outputDecision : Option PublicOutput) :
    (runtime.complete result outputDecision).pipeline ⊆ runtime.pipeline := by
  rw [complete]
  split
  case h_1 => exact List.Subset.refl _
  case h_2 published hinFlight =>
    split
    · intro work hwork
      rw [mem_pipeline] at hwork ⊢
      rcases hwork with ⟨completion, hmem, rfl⟩ | hworker | hqueued
      · rcases List.mem_append.mp hmem with hmailbox | hnew
        · exact .inl ⟨completion, hmailbox, rfl⟩
        · obtain rfl := List.mem_singleton.mp hnew
          exact .inr (.inl hinFlight)
      · cases hworker
      · exact .inr (.inr hqueued)
    · exact List.Subset.refl _

/-- A round takes a completion from the pipeline. -/
theorem pipeline_drainOne (now : Nat) : (runtime.drainOne now).1.pipeline ⊆ runtime.pipeline := by
  rw [drainOne]
  split
  case h_1 => exact List.Subset.refl _
  case h_2 completion mailbox hmailbox =>
    intro work hwork
    rw [mem_pipeline] at hwork ⊢
    rw [hmailbox]
    exact hwork.imp_left fun ⟨other, hmem, heq⟩ ↦ ⟨other, List.mem_cons_of_mem _ hmem, heq⟩

end GenerativeRuntime

end Aivtuber
