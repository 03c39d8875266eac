import Aivtuber.Scheduler.Timeline

/-!
# Polling granularity

A host polls the scheduler between the requests it makes: each `tick` advances
logical time to an instant no later than the next request.  The polled run is
compared with the run of the requests alone.  Between two requests the polled
scheduler is `Behind` a common future: it has the timeline that the unpolled one
will have once it has advanced as far.  At the next request the two have the same
timeline, and answer alike if the start of that request does not depend on the
order of the slots.

That condition cannot be dropped.  A tick retires what ends early in another
order, swap-removal reorders the queue behind it, and a request that waits behind
two items with different ends starts earlier or later (`ticks_delay_start`).
-/

open Saturating

namespace Aivtuber

/-- What a host does with a scheduler it polls. -/
inductive Poll where
  | tick (atMs : Nat)
  | request (requestAtMs : Nat) (plan : PlannedPerformance)

namespace Poll

def isRequest : Poll → Bool
  | tick _ => false
  | request _ _ => true

/-- The requests alone. -/
def requests (polls : List Poll) : List Poll := polls.filter isRequest

/-- The time of the next request. -/
def nextRequest : List Poll → Option Nat
  | [] => none
  | tick _ :: polls => nextRequest polls
  | request requestAtMs _ :: _ => some requestAtMs

/-- Every tick is no later than the next request. -/
def Timely : List Poll → Prop
  | [] => True
  | tick atMs :: polls => (∀ requestAtMs ∈ nextRequest polls, atMs ≤ requestAtMs) ∧ Timely polls
  | request _ _ :: polls => Timely polls

end Poll

namespace Scheduler

open Poll

/-- The answers to the requests of a polled run. -/
def results : Scheduler → List Poll → List (Except Rejection PlannedPerformance)
  | _, [] => []
  | s, .tick atMs :: polls => (s.advanceTo atMs).results polls
  | s, .request requestAtMs plan :: polls =>
    (s.scheduleAt requestAtMs plan).2 :: (s.scheduleAt requestAtMs plan).1.results polls

/-- No request of the run depends on the order of the slots. -/
def orderFreeRun : Scheduler → List Poll → Bool
  | _, [] => true
  | s, .tick atMs :: polls => (s.advanceTo atMs).orderFreeRun polls
  | s, .request requestAtMs plan :: polls =>
    s.orderFree requestAtMs plan && (s.scheduleAt requestAtMs plan).1.orderFreeRun polls

/-! ## Polled and unpolled runs -/

/-- The polled state `t` has the timeline of the unpolled state `s`, or the one `s`
will have at some instant before the next request. -/
def Behind (s t : Scheduler) (polls : List Poll) : Prop :=
  SameTimeline s t ∨
    ∃ atMs, SameTimeline (s.advanceTo atMs) t ∧ ∀ r ∈ nextRequest polls, atMs ≤ r

theorem Behind.tick {s t : Scheduler} {atMs : Nat} {polls : List Poll} (hs : s.Tidy)
    (h : Behind s t (.tick atMs :: polls)) (htick : ∀ r ∈ nextRequest polls, atMs ≤ r) :
    Behind s (t.advanceTo atMs) polls := by
  rcases h with h | ⟨previous, h, hprevious⟩
  · exact Or.inr ⟨atMs, h.advanceTo atMs, htick⟩
  · refine Or.inr ⟨max previous atMs, ?_, fun r hr ↦ max_le (hprevious r hr) (htick r hr)⟩
    exact (advanceTo_advanceTo hs previous atMs).symm.trans (h.advanceTo atMs)

/-- By the time of the next request the two runs agree. -/
theorem Behind.request {s t : Scheduler} {requestAtMs : Nat} {plan : PlannedPerformance}
    {polls : List Poll} (hs : s.Tidy) (h : Behind s t (.request requestAtMs plan :: polls)) :
    SameTimeline ({ s with lastRejection := none }.advanceTo requestAtMs)
      ({ t with lastRejection := none }.advanceTo requestAtMs) := by
  have hreset : ∀ u : Scheduler, SameTimeline u { u with lastRejection := none } :=
    fun u ↦ ⟨.refl _, rfl, rfl, rfl, rfl, rfl⟩
  have hst : SameTimeline (s.advanceTo requestAtMs) (t.advanceTo requestAtMs) := by
    rcases h with h | ⟨atMs, h, hle⟩
    · exact h.advanceTo requestAtMs
    · have htwice := advanceTo_advanceTo hs atMs requestAtMs
      rw [max_eq_right (hle requestAtMs rfl)] at htwice
      exact htwice.symm.trans (h.advanceTo requestAtMs)
  exact ((hreset s).advanceTo requestAtMs).symm.trans
    (hst.trans ((hreset t).advanceTo requestAtMs))

/-- The simulation, by induction on the polled run. -/
theorem Behind.results_eq {polls : List Poll} : ∀ {s t : Scheduler}, s.Tidy → Behind s t polls →
    Timely polls → s.orderFreeRun (requests polls) →
    t.results polls = s.results (requests polls) := by
  induction polls with
  | nil => intro s t _ _ _ _; rfl
  | cons poll polls ih =>
    intro s t hs h htimely hfree
    cases poll with
    | tick atMs => exact ih hs (h.tick hs htimely.1) htimely.2 hfree
    | request requestAtMs plan =>
      rw [Poll.requests, List.filter_cons_of_pos rfl, orderFreeRun, Bool.and_eq_true] at hfree
      obtain ⟨hsame, hout⟩ := SameTimeline.scheduleAt (h.request hs) hfree.1
      rw [Poll.requests, List.filter_cons_of_pos rfl, results, results, hout]
      congr 1
      exact ih ((scheduleAt_effect hs requestAtMs plan).tidy hs) (Or.inl hsame) htimely hfree.2

/-- **Ticks do not matter** from any reachable state, in a run none of whose
requests depends on the order of the slots: each request is accepted or rejected
as it is without the ticks, and gets the same plan. -/
theorem results_eq_of_orderFree (config : SchedulerConfig) (ops : List Op) (polls : List Poll)
    (htimely : Timely polls)
    (hfree : (machine.run (new config) ops).orderFreeRun (requests polls)) :
    (machine.run (new config) ops).results polls =
      (machine.run (new config) ops).results (requests polls) :=
  Behind.results_eq (reachable_tidy config ops) (Or.inl (.refl _)) htimely hfree

/-! ## When a request waits in any order -/

theorem startAtMs_waitBehindAll (spacingMs : Nat) (plan : PlannedPerformance) (ends : List Nat) :
    (waitBehindAll spacingMs plan ends).startAtMs =
      ends.foldl (fun start e ↦ if plan.priority = .operator then max start e
        else satAdd (max start e) spacingMs) plan.startAtMs := by
  induction ends generalizing plan with
  | nil => rfl
  | cons e ends ih => exact ih (waitBehind spacingMs plan e)

/-- **When the order does not matter**: an operator plan, no spacing, or a single
end to wait for. -/
theorem waitsInAnyOrder_of {spacingMs : Nat} {plan : PlannedPerformance} {ends : List Nat}
    (h : plan.priority = .operator ∨ spacingMs = 0 ∨ ∃ e, ∀ x ∈ ends, x = e) :
    waitsInAnyOrder spacingMs plan ends := by
  rw [waitsInAnyOrder, List.all_eq_true]
  intro order horder
  rw [List.mem_permutations'] at horder
  refine decide_eq_true ?_
  rw [waitBehindAll_eq, waitBehindAll_eq spacingMs plan ends, startAtMs_waitBehindAll,
    startAtMs_waitBehindAll]
  rcases h with h | rfl | ⟨e, he⟩
  · simp only [if_pos h]
    rw [horder.foldl_eq]
  · rw [horder.foldl_eq' fun x _ y _ start ↦ ?_]
    split
    · exact max_right_comm _ _ _
    · simp only [satAdd]
      omega
  · rw [List.eq_replicate_of_mem he] at horder ⊢
    rw [List.perm_replicate.mp horder]

/-- Behind two different ends it does, but for an operator plan or no spacing. -/
theorem waitsInAnyOrder_pair_iff {spacingMs a b : Nat} {plan : PlannedPerformance}
    (hpriority : plan.priority ≠ .operator) (ha : plan.startAtMs ≤ a) (hb : plan.startAtMs ≤ b)
    (hrange : max a b + 2 * spacingMs ≤ u64Max) :
    waitsInAnyOrder spacingMs plan [a, b] ↔ spacingMs = 0 ∨ a = b := by
  constructor
  · intro h
    have hswap := congrArg PlannedPerformance.startAtMs
      (waitBehindAll_perm h (List.Perm.swap a b []))
    simp only [startAtMs_waitBehindAll, List.foldl_cons, List.foldl_nil, if_neg hpriority,
      satAdd] at hswap
    omega
  · rintro (h | rfl)
    · exact waitsInAnyOrder_of (Or.inr (Or.inl h))
    · exact waitsInAnyOrder_of (Or.inr (Or.inr ⟨a, by simp⟩))

/-! ## A stage on which ticks matter -/

section Stage

def tenApart : SchedulerConfig := ⟨10, 16, .ring⟩

/-- Two cues that play from the start, and two that are queued for 100 ms. -/
def stage : List Op := [
  .schedule (.cue "song" "a" .conversation {.audio} 0 10),
  .schedule (.cue "blink" "b" .conversation {.face} 0 5),
  .scheduleAt 0 (.cue "bow" "c" .conversation {.body} 100 10),
  .scheduleAt 0 (.cue "glance" "d" .conversation {.gaze} 100 20)]

/-- A cue in the way of one queued cue. -/
def nod : PlannedPerformance := .cue "nod" "e" .conversation {.body} 105 10

/-- A cue in the way of both. -/
def dance : PlannedPerformance := .cue "dance" "f" .conversation {.body, .gaze} 105 10

/-- A tick leaves the cue that waits behind one other where it is. -/
theorem results_eq_of_orderFree_nod :
    (machine.run (new tenApart) stage).results [.tick 7, .request 20 nod] =
      (machine.run (new tenApart) stage).results [.request 20 nod] :=
  results_eq_of_orderFree tenApart stage [.tick 7, .request 20 nod]
    ⟨fun _ hr ↦ by cases hr; decide, trivial⟩ (by decide +kernel)

/-- A tick between the ends of the playing cues delays the one that waits behind
two, by the spacing. -/
theorem ticks_delay_start :
    Timely [.tick 7, .request 20 dance] ∧
      ((machine.run (new tenApart) stage).results [.request 20 dance]).map
        (fun result ↦ result.toOption.map (·.startAtMs)) = [some 130] ∧
      ((machine.run (new tenApart) stage).results [.tick 7, .request 20 dance]).map
        (fun result ↦ result.toOption.map (·.startAtMs)) = [some 140] :=
  ⟨⟨fun _ hr ↦ by cases hr; decide, trivial⟩, by decide +kernel, by decide +kernel⟩

end Stage

end Scheduler

end Aivtuber
