import Mathlib.Data.Finset.Basic
import Mathlib.Data.List.Sort
import Mathlib.Data.List.Destutter
import Aivtuber.Base.Saturating

/-!
# Plans and scheduled items

The data of the performance scheduler, `crates/scheduler/src/lib.rs`: priorities,
blend channels, planned performances, and the live items the scheduler keeps for
them.  Instants and durations are unsigned 64-bit milliseconds, so every sum of
them saturates.
-/

open Saturating

namespace Aivtuber

/-- Coarse execution priority.  Lower rank preempts higher rank. -/
inductive Priority where
  | background
  | commentary
  | conversation
  | strongReaction
  | highPriorityInteraction
  | operator
deriving DecidableEq, Repr

def Priority.rank : Priority → Nat
  | .background => 5
  | .commentary => 4
  | .conversation => 3
  | .strongReaction => 2
  | .highPriorityInteraction => 1
  | .operator => 0

/-- Independently blendable execution resources. -/
inductive BlendChannel where
  | audio
  | face
  | body
  | gaze
  | overlay
deriving DecidableEq, Repr

/-- A planned performance on the shared monotonic timeline. -/
structure PlannedPerformance where
  eventId : String
  assetId : String
  priority : Priority
  interruptible : Bool
  /-- Offsets from the start that are safe to leave. -/
  interruptPointsMs : List Nat
  startAtMs : Nat
  durationMs : Nat
  /-- Monotonic generation, used as a cancellation token. -/
  generation : Nat
  /-- Exclusive work conflicts with every other performance. -/
  exclusive : Bool
  /-- Other work overlaps only on disjoint channel sets. -/
  channels : Finset BlendChannel
deriving DecidableEq

namespace PlannedPerformance

/-- A plan that plays on some channels and cannot be interrupted. -/
def cue (eventId assetId : String) (priority : Priority) (channels : Finset BlendChannel)
    (startAtMs durationMs : Nat) : PlannedPerformance where
  eventId := eventId
  assetId := assetId
  priority := priority
  interruptible := false
  interruptPointsMs := []
  startAtMs := startAtMs
  durationMs := durationMs
  generation := 0
  exclusive := false
  channels := channels

def endAtMs (plan : PlannedPerformance) : Nat := satAdd plan.startAtMs plan.durationMs

theorem endAtMs_le_max (plan : PlannedPerformance) : plan.endAtMs ≤ u64Max := satAdd_le_max _ _

/-- The same plan, started no earlier. -/
structure Postponed (plan plan' : PlannedPerformance) : Prop where
  plan_eq : plan' = { plan with startAtMs := plan'.startAtMs }
  start_le : plan.startAtMs ≤ plan'.startAtMs

theorem Postponed.refl (plan : PlannedPerformance) : plan.Postponed plan := ⟨rfl, le_refl _⟩

theorem Postponed.trans {plan plan' plan'' : PlannedPerformance} (h : plan.Postponed plan')
    (h' : plan'.Postponed plan'') : plan.Postponed plan'' := by
  refine ⟨?_, h.start_le.trans h'.start_le⟩
  rw [h'.plan_eq, h.plan_eq]

theorem Postponed.eventId_eq {plan plan' : PlannedPerformance} (h : plan.Postponed plan') :
    plan'.eventId = plan.eventId := by rw [h.plan_eq]

theorem Postponed.assetId_eq {plan plan' : PlannedPerformance} (h : plan.Postponed plan') :
    plan'.assetId = plan.assetId := by rw [h.plan_eq]

end PlannedPerformance

/-- Lifecycle state of a scheduled item. -/
inductive Status where
  | queued
  | playing
  | completed
  | cancelled
deriving DecidableEq, Repr

/-- A planned performance plus its lifecycle. -/
structure ScheduledItem where
  plan : PlannedPerformance
  status : Status
  /-- The boundary a preempted item is cancelled at. -/
  cancelAtMs : Option Nat
deriving DecidableEq

namespace ScheduledItem

def effectiveEndMs (item : ScheduledItem) : Nat :=
  min (item.cancelAtMs.getD item.plan.endAtMs) item.plan.endAtMs

def occupiesTimeline (item : ScheduledItem) : Bool :=
  item.status = .queued || item.status = .playing

/-- The item was cut before its natural end. -/
def cutShort (item : ScheduledItem) : Bool :=
  item.cancelAtMs.any fun cancel ↦ cancel < item.plan.endAtMs

theorem effectiveEndMs_le_endAtMs (item : ScheduledItem) :
    item.effectiveEndMs ≤ item.plan.endAtMs := min_le_right _ _

theorem effectiveEndMs_le_max (item : ScheduledItem) : item.effectiveEndMs ≤ u64Max :=
  item.effectiveEndMs_le_endAtMs.trans item.plan.endAtMs_le_max

end ScheduledItem

def plansConflict (a b : PlannedPerformance) : Bool :=
  a.exclusive || b.exclusive || decide ¬ Disjoint a.channels b.channels

def intervalsOverlap (aStart aEnd bStart bEnd : Nat) : Bool :=
  aStart < bEnd && bStart < aEnd

theorem plansConflict_comm (a b : PlannedPerformance) : plansConflict a b = plansConflict b a := by
  simp only [plansConflict, disjoint_comm, Bool.or_comm a.exclusive]

theorem PlannedPerformance.Postponed.plansConflict_eq {plan plan' : PlannedPerformance}
    (h : plan.Postponed plan') (other : PlannedPerformance) :
    plansConflict other plan' = plansConflict other plan := by rw [h.plan_eq]; rfl

theorem intervalsOverlap_comm (s e s' e' : Nat) :
    intervalsOverlap s e s' e' = intervalsOverlap s' e' s e := Bool.and_comm _ _

/-- The first interrupt point at or after the request, else the natural end. -/
def nextSafeBoundary (plan : PlannedPerformance) (requestAtMs : Nat) : Nat :=
  let naturalEnd := plan.endAtMs
  let elapsed := requestAtMs - plan.startAtMs
  ((plan.interruptPointsMs.filter (elapsed ≤ ·)).map (satAdd plan.startAtMs)).find?
    (fun boundary ↦ requestAtMs ≤ boundary && boundary < naturalEnd) |>.getD naturalEnd

/-- Sorted interrupt points within the duration, without repetitions. -/
def normalizeInterruptPoints (plan : PlannedPerformance) : PlannedPerformance :=
  { plan with
    interruptPointsMs :=
      ((plan.interruptPointsMs.filter (· ≤ plan.durationMs)).insertionSort (· ≤ ·)).destutter
        (· ≠ ·) }

theorem nextSafeBoundary_le_endAtMs (plan : PlannedPerformance) (requestAtMs : Nat) :
    nextSafeBoundary plan requestAtMs ≤ plan.endAtMs := by
  rw [nextSafeBoundary]
  cases h : List.find? _ _ with
  | none => exact le_refl _
  | some boundary =>
    have := List.find?_some h
    simp only [Bool.and_eq_true, decide_eq_true_eq] at this
    exact this.2.le

/-- Why a schedule request was rejected. -/
inductive Rejection where
  | cooldown
  | priority
  /-- An item carrying the same event id is still live. -/
  | duplicateEvent
deriving DecidableEq, Repr

/-- How terminal items are retained. -/
inductive HistoryPolicy where
  | ring
  | retainAll
deriving DecidableEq, Repr

/-- A terminal scheduler record. -/
structure HistoryEntry where
  terminalAtMs : Nat
  scheduledAtMs : Nat
  item : ScheduledItem
deriving DecidableEq

structure SchedulerConfig where
  minReactionSpacingMs : Nat
  /-- Terminal items retained under `HistoryPolicy.ring`. -/
  historyCapacity : Nat
  historyPolicy : HistoryPolicy
deriving DecidableEq, Repr

/-- The production defaults. -/
def SchedulerConfig.default : SchedulerConfig where
  minReactionSpacingMs := 1500
  historyCapacity := 1024
  historyPolicy := .ring

/-- The configuration of replay harnesses, which keep every terminal item. -/
def SchedulerConfig.replay : SchedulerConfig :=
  { SchedulerConfig.default with historyCapacity := u64Max, historyPolicy := .retainAll }

end Aivtuber
