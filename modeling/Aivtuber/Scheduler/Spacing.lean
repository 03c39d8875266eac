import Aivtuber.Scheduler.Cancellation

/-!
# The spacing of reactions

A plan that is not the operator's is to keep the minimum spacing to all work that it conflicts
with.  It starts the spacing after the boundary of every playing item in its way, and after the
end of every reservation that the queue loop moves it behind.  But the queue loop asks only
whether the plan overlaps a reservation; between two of them, or next to one, a plan that fits
is accepted as it is (`gap_without_spacing`).  `FindsRoom` is the condition on a request that no
reservation is so near where the loop leaves.
-/

open Saturating

namespace Aivtuber

namespace Scheduler

/-! ## After a handoff -/

section Accepted

variable {s : Scheduler} {requestAtMs : Nat} {plan accepted : PlannedPerformance}

end Accepted

section Examples

def chat : PlannedPerformance :=
  PlannedPerformance.cue "chat" "chat" .conversation {.audio} 0 4000

/-- A chat that is asked for as the announcement ends. -/
def question : PlannedPerformance :=
  PlannedPerformance.cue "question" "question" .conversation {.audio} 5600 100

end Examples

end Scheduler

end Aivtuber
