import Aivtuber.Base.KeyedSort
import Aivtuber.Scheduler.Replay

/-!
# The order of a trace does not matter

A trace is validated as a whole and then sorted, so two traces with the same events, whose
sort keys are distinct, are driven through the same inputs: they are reported alike, or both
refused.  Which input a refusal names does depend on the order.
-/

open Aivtuber.Check

namespace Aivtuber

theorem validateTrace_eq_ok {trace : List ReplayEvent} :
    validateTrace trace = .ok () ↔ ∀ input ∈ trace, validateInput input = .ok () := by
  induction trace with
  | nil => simp [validateTrace]
  | cons input trace ih => rw [validateTrace, unit_bind_eq_ok, ih, List.forall_mem_cons]

/-- A chain of checks and a computation, as far as its result is concerned. -/
theorem toOption_unit_bind_congr {ε α : Type} {check check' : Except ε Unit} {result : Except ε α}
    (h : check = .ok () ↔ check' = .ok ()) :
    (check >>= fun _ ↦ result).toOption = (check' >>= fun _ ↦ result).toOption := by
  cases check with
  | ok =>
    rw [h.mp rfl]
  | error =>
    cases check' with
    | ok => cases h.mpr rfl
    | error => rfl

namespace ReplayHarnessConfig

/-- **A replay does not depend on the order of its trace**, if no two events have the same
instant, control rank, sequence and event id. -/
theorem run_eq_of_perm (rounding : ℚ → ℚ) (config : ReplayHarnessConfig)
    {trace trace' : ReplayTrace} (h : trace.val.Perm trace'.val)
    (hkeys : (trace.val.map (·.sortKey)).Nodup) :
    (config.run rounding trace).toOption = (config.run rounding trace').toOption := by
  have hvalid : validateTrace trace.val = .ok () ↔ validateTrace trace'.val = .ok () := by
    rw [validateTrace_eq_ok, validateTrace_eq_ok]
    exact forall_congr' fun input ↦ by rw [h.mem_iff]
  rw [run, run, KeyedSort.insertionSort_eq_of_perm h hkeys]
  exact toOption_unit_bind_congr hvalid

/-- A message that is not answered in time. -/
def unanswered : ReplayEvent where
  atMs := 0
  event := recordedMessage "chat-2" 2
  directive := .fallback .timeout
  atMs_le := by decide

theorem run_swapped :
    (default.run id ⟨[answered 0 "chat-1" 1, unanswered], by decide⟩).toOption.isSome = true ∧
      (default.run id ⟨[answered 0 "chat-1" 1, unanswered], by decide⟩).toOption =
        (default.run id ⟨[unanswered, answered 0 "chat-1" 1], by decide⟩).toOption :=
  ⟨by decide +kernel, run_eq_of_perm id default (List.Perm.swap _ _ _) (by decide +kernel)⟩

end ReplayHarnessConfig

end Aivtuber
