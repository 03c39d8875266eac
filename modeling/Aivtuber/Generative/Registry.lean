import Aivtuber.Domain.Event
import Aivtuber.Scheduler.Plan

/-!
# Cancellation of generations

`GenerationCancellationRegistry` of `crates/generative/src/lib.rs`.  A token is a flag that
its clones share, here its number, and the registry keeps the flags that are set with the
generation that it has registered.
-/

namespace Aivtuber

def priorityForEvent : EventKind → Priority
  | .operatorCommand => .operator
  | .chatDonation => .highPriorityInteraction
  | .gameEvent => .strongReaction
  | .chatMessage | .speechInput => .conversation
  | .streamEvent => .commentary
  | .timerTick | .systemHealth => .background

structure ActiveGeneration where
  eventId : String
  priority : Priority
  token : Nat
deriving DecidableEq, Repr

structure GenerationCancellationRegistry where
  active : Option ActiveGeneration
  /-- The tokens whose flag is set. -/
  cancelled : List Nat
deriving DecidableEq, Repr

namespace GenerationCancellationRegistry

def default : GenerationCancellationRegistry := ⟨none, []⟩

variable (registry : GenerationCancellationRegistry)

def isCancelled (token : Nat) : Bool := registry.cancelled.contains token

def cancel (token : Nat) : GenerationCancellationRegistry :=
  { registry with cancelled := token :: registry.cancelled }

/-- Register a generation in place of the one before, which is cancelled. -/
def activate (event : EventEnvelope) (token : Nat) : GenerationCancellationRegistry :=
  let replaced := registry.active.elim registry fun previous ↦ registry.cancel previous.token
  { replaced with active := some ⟨event.eventId, priorityForEvent event.kind, token⟩ }

/-- An event cancels a generation of lower priority. -/
def cancelForEvent (event : EventEnvelope) : GenerationCancellationRegistry :=
  match registry.active with
  | none => registry
  | some active =>
    if (priorityForEvent event.kind).rank < active.priority.rank then registry.cancel active.token
    else registry

/-- Cancel the registered generation; whether there was one. -/
def cancelActive : GenerationCancellationRegistry × Bool :=
  match registry.active with
  | none => (registry, false)
  | some active => (registry.cancel active.token, true)

/-- A generation of the event is no longer registered. -/
def finish (eventId : String) : GenerationCancellationRegistry :=
  if registry.active.any (·.eventId = eventId) then { registry with active := none } else registry

def activeEventId : Option String := registry.active.map (·.eventId)

variable {registry : GenerationCancellationRegistry} {token other : Nat}

@[simp] theorem isCancelled_cancel :
    (registry.cancel token).isCancelled other =
      (decide (other = token) || registry.isCancelled other) := by
  simp [cancel, isCancelled]

@[simp] theorem cancelled_finish (eventId : String) :
    (registry.finish eventId).cancelled = registry.cancelled := by
  rw [finish]
  split
  · rfl
  · rfl

theorem isCancelled_finish (eventId : String) :
    (registry.finish eventId).isCancelled token = registry.isCancelled token := by
  rw [isCancelled, cancelled_finish, isCancelled]

theorem active_cancelForEvent (event : EventEnvelope) :
    (registry.cancelForEvent event).active = registry.active := by
  rw [cancelForEvent]
  split
  · rfl
  · split
    · rfl
    · rfl

theorem active_cancelActive : registry.cancelActive.1.active = registry.active := by
  rw [cancelActive]
  split
  · rfl
  · rfl

/-- Cancelling the registered generation reaches the token that it was registered with. -/
theorem isCancelled_cancelActive : registry.cancelActive.1.isCancelled token =
    (registry.active.any (·.token = token) || registry.isCancelled token) := by
  rw [cancelActive]
  cases registry.active with
  | none => simp
  | some active => simp [eq_comm]

/-- What a cancellation for an event cancels was registered. -/
theorem isCancelled_cancelForEvent (event : EventEnvelope)
    (h : (registry.cancelForEvent event).isCancelled token = true) :
    registry.active.any (·.token = token) = true ∨ registry.isCancelled token = true := by
  rw [cancelForEvent] at h
  split at h
  case h_1 => exact .inr h
  case h_2 active hactive =>
    split at h
    · rw [isCancelled_cancel, Bool.or_eq_true, decide_eq_true_eq] at h
      rcases h with rfl | h
      · left
        simp [hactive]
      · exact .inr h
    · exact .inr h

theorem isCancelled_of_cancelForEvent (event : EventEnvelope) (h : registry.isCancelled token = true) :
    (registry.cancelForEvent event).isCancelled token = true := by
  rw [cancelForEvent]
  split
  · exact h
  · split
    · rw [isCancelled_cancel, h, Bool.or_true]
    · exact h

/-- An activation cancels what was registered before. -/
theorem isCancelled_activate (event : EventEnvelope) :
    (registry.activate event token).isCancelled other =
      (registry.active.any (·.token = other) || registry.isCancelled other) := by
  rw [activate]
  cases registry.active with
  | none => rfl
  | some previous => simp [cancel, isCancelled, eq_comm]

end GenerationCancellationRegistry

end Aivtuber
