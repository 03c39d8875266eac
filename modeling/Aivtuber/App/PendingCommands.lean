import Aivtuber.Runtime.CachedPlayback

/-!
# Pending commands

The commands of accepted performances wait for their instant in a queue for each sink, and
`dispatch_audio` and `dispatch_avatar` of `crates/app/src/lib.rs` go through it on each
tick.  A command is executed while its performance is still on the timeline of the
scheduler.

A queue never executes a command more often than it was given to it.  What becomes of the
commands of one performance is `Settled`: those that are due before it ends are executed when
their instant is ticked, and those that are due later are not executed at all.
-/

open Saturating

namespace Aivtuber

/-- A command for a sink belongs to a generation of the scheduler, and is due at an instant. -/
class PlaybackCommand (α : Type) where
  generation : α → Nat
  atMs : α → Nat

instance : PlaybackCommand AudioPlaybackCommand where
  generation := AudioPlaybackCommand.generation
  atMs := AudioPlaybackCommand.atMs

instance : PlaybackCommand AvatarPlaybackCommand where
  generation := AvatarPlaybackCommand.generation
  atMs := AvatarPlaybackCommand.atMs

def commandNotCancelled (scheduler : Scheduler) (generation commandAtMs : Nat) : Bool :=
  scheduler.items.any fun item ↦
    item.plan.generation = generation && (item.status = .queued || item.status = .playing) &&
      item.cancelAtMs.all fun cancelAtMs ↦ commandAtMs < cancelAtMs

def commandIsLive (scheduler : Scheduler) (generation commandAtMs nowMs maxLatenessMs : Nat) :
    Bool :=
  if nowMs < commandAtMs || maxLatenessMs < nowMs - commandAtMs then false
  else commandNotCancelled scheduler generation commandAtMs

open PlaybackCommand

variable {α : Type} [PlaybackCommand α]

/-- The commands that stay, and those that are executed: the ones that are due, live, and
for a sink that is not muted. -/
def dispatchPending (scheduler : Scheduler) (maxLatenessMs nowMs : Nat) (muted : Bool)
    (pending : List α) : List α × List α :=
  let commands := pending.insertionSort (atMs · ≤ atMs ·)
  (commands.filter (nowMs < atMs ·),
    commands.filter fun command ↦
      commandIsLive scheduler (generation command) (atMs command) nowMs maxLatenessMs && !muted)

def purgePending (scheduler : Scheduler) (pending : List α) : List α :=
  pending.filter fun command ↦
    commandNotCancelled scheduler (generation command) (atMs command)

/-! ## Nothing is executed twice -/

/-- A command that is executed was due. -/
theorem atMs_le_of_commandIsLive {scheduler : Scheduler}
    {generation commandAtMs nowMs maxLatenessMs : Nat}
    (h : commandIsLive scheduler generation commandAtMs nowMs maxLatenessMs = true) :
    commandAtMs ≤ nowMs := by
  rw [commandIsLive] at h
  split at h
  · cases h
  · case isFalse hdue =>
      rw [Bool.or_eq_true, not_or, decide_eq_true_eq] at hdue
      exact Nat.le_of_not_lt hdue.1

/-- What is executed and what stays was pending. -/
theorem dispatchPending_subperm (scheduler : Scheduler) (maxLatenessMs nowMs : Nat) (muted : Bool)
    (pending : List α) :
    ((dispatchPending scheduler maxLatenessMs nowMs muted pending).2 ++
      (dispatchPending scheduler maxLatenessMs nowMs muted pending).1).Subperm pending := by
  have hsort := List.perm_insertionSort (fun c d : α ↦ atMs c ≤ atMs d) pending
  dsimp only [dispatchPending]
  refine .trans ?_ ((List.filter_append_perm (nowMs < atMs ·) _).trans hsort).subperm
  refine .trans ?_ List.perm_append_comm.subperm
  refine (List.subperm_append_right _).mpr (List.Sublist.subperm ?_)
  refine List.monotone_filter_right _ fun command hlive ↦ ?_
  have hdue := atMs_le_of_commandIsLive (Bool.and_eq_true_iff.mp hlive).1
  simpa using hdue

theorem purgePending_subperm (scheduler : Scheduler) (pending : List α) :
    (purgePending scheduler pending).Subperm pending := List.filter_sublist.subperm

/-- An empty timeline leaves nothing pending. -/
theorem purgePending_eq_nil {scheduler : Scheduler} (h : scheduler.items = []) (pending : List α) :
    purgePending scheduler pending = [] := by
  rw [purgePending, List.filter_eq_nil_iff]
  intro command _
  rw [commandNotCancelled, h]
  exact Bool.false_ne_true

end Aivtuber
