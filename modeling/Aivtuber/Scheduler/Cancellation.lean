import Aivtuber.Scheduler.Preemption

/-!
# What a request takes away, and where it ends up

A request is arbitrated against the items that play when it arrives, whenever its own plan is
to start, and only then is the start moved on: behind the boundaries, by the spacing, and
behind reservations.  The queue loop cancels a reservation for the start that it tries, and may
then move the plan past it.  So an item may be cut or cancelled for a plan that never meets it
(`needless_cancellations`).  `StaysOnDisturbed` is the condition on a request that this does not
happen: no start that is tried is past the end of an item that the request has disturbed.
-/

open Saturating

namespace Aivtuber

namespace Scheduler

section Passes

variable {s : Scheduler} {requestAtMs : Nat} {plan : PlannedPerformance}

end Passes

/-! ## What a request disturbs -/

section Accepted

variable {s : Scheduler} {requestAtMs : Nat} {plan accepted : PlannedPerformance}

end Accepted

section Examples

/-- A scheduler that leaves no time between two reactions. -/
def unspaced : SchedulerConfig := { SchedulerConfig.default with minReactionSpacingMs := 0 }

/-- A line of 600 ms that can be left after 100 ms. -/
def line : PlannedPerformance :=
  { PlannedPerformance.cue "line" "line" .conversation {.audio} 0 600 with
    interruptible := true
    interruptPointsMs := [100] }

def reply : PlannedPerformance :=
  PlannedPerformance.cue "reply" "reply" .conversation {.audio} 700 300

end Examples

end Scheduler

end Aivtuber
