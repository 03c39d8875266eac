import Aivtuber.Base.PositionIndex
import Aivtuber.Scheduler.Plan

/-!
# The performance scheduler

`Scheduler` of `crates/scheduler/src/lib.rs`, operation by operation.  A vector
slot that the source reads by index is read by `getElem?` here; every loop only
passes indices that exist, so the `none` branches are never taken.  Loops over a
shrinking vector recurse on the number of slots still to be visited, which each
iteration lowers by one whether it advances or retires.
-/

open Saturating PositionIndex
open Std (ExtTreeMap)

namespace Aivtuber

/-- Live-state counters. -/
structure SchedulerMetrics where
  queued : Nat
  playing : Nat
  active : Nat
  terminalRetained : Nat
  terminalEvicted : Nat
  cooldowns : Nat
  cooldownsHighWater : Nat
  cooldownsExpired : Nat
deriving DecidableEq, Repr

/-- Deterministic timeline owner and arbiter. -/
structure Scheduler where
  items : List ScheduledItem
  /-- Position of each live generation. -/
  liveByGeneration : ExtTreeMap Nat Nat
  /-- Position of each live event id. -/
  liveByEvent : ExtTreeMap String Nat
  history : List HistoryEntry
  /-- Cooldown deadline of each asset. -/
  cooldowns : ExtTreeMap String Nat
  cooldownsHighWater : Nat
  cooldownsExpired : Nat
  generation : Nat
  config : SchedulerConfig
  lastRejection : Option Rejection
  nowMs : Nat
  lastTerminalAt : Option Nat
  terminalEvicted : Nat

/-- A terminal instant folded into the latest one. -/
def latestTerminal (last : Option Nat) (atMs : Nat) : Option Nat :=
  some (last.elim atMs fun previous ↦ max previous atMs)

/-- Pop entries from the front of `history` until at most `capacity` are left,
counting each into `evicted`. -/
def trimLoop (capacity : Nat) : List HistoryEntry → Nat → List HistoryEntry × Nat
  | [], evicted => ([], evicted)
  | entry :: history, evicted =>
    if (entry :: history).length > capacity then trimLoop capacity history (satAdd evicted 1)
    else (entry :: history, evicted)

/-- What `advanceTo` does with one slot. -/
inductive SlotAction where
  /-- Leave the slot as it is. -/
  | keep
  /-- The item starts playing. -/
  | play
  /-- A queued item whose cancellation precedes its start. -/
  | drop
  /-- The item reached its end, naturally or at a cancellation boundary. -/
  | finish (status : Status) (atMs : Nat)
deriving DecidableEq, Repr

/-- The fate of an item when logical time reaches `target`. -/
def ScheduledItem.advance (item : ScheduledItem) (target : Nat) : SlotAction :=
  let terminal := if item.cutShort then Status.cancelled else Status.completed
  match item.status with
  | .playing => if item.effectiveEndMs ≤ target then .finish terminal item.effectiveEndMs else .keep
  | .queued =>
    if item.cancelAtMs.any fun cancel ↦ cancel < item.plan.startAtMs && cancel ≤ target then .drop
    else if item.plan.startAtMs ≤ target then
      if item.effectiveEndMs ≤ target then .finish terminal item.effectiveEndMs else .play
    else .keep
  | .completed | .cancelled => .keep

namespace Scheduler

def new (config : SchedulerConfig) : Scheduler where
  items := []
  liveByGeneration := ∅
  liveByEvent := ∅
  history := []
  cooldowns := ∅
  cooldownsHighWater := 0
  cooldownsExpired := 0
  generation := 0
  config := config
  lastRejection := none
  nowMs := 0
  lastTerminalAt := none
  terminalEvicted := 0

def drainHistory (s : Scheduler) : Scheduler × List HistoryEntry :=
  ({ s with history := [] }, s.history)

def metrics (s : Scheduler) : SchedulerMetrics :=
  let queued := s.items.countP (·.status = .queued)
  let playing := s.items.countP (·.status = .playing)
  { queued, playing
    active := queued + playing
    terminalRetained := s.history.length
    terminalEvicted := s.terminalEvicted
    cooldowns := s.cooldowns.size
    cooldownsHighWater := s.cooldownsHighWater
    cooldownsExpired := s.cooldownsExpired }

def isGenerationLive (s : Scheduler) (generation : Nat) : Bool :=
  s.liveByGeneration.contains generation

def liveItemByGeneration (s : Scheduler) (generation : Nat) : Option ScheduledItem :=
  s.liveByGeneration[generation]?.bind fun index ↦ s.items[index]?

def liveItemByEvent (s : Scheduler) (eventId : String) : Option ScheduledItem :=
  s.liveByEvent[eventId]?.bind fun index ↦ s.items[index]?

/-! ## Retirement -/

def trimHistory (s : Scheduler) : Scheduler :=
  if s.config.historyPolicy = .retainAll then s
  else
    let trimmed := trimLoop s.config.historyCapacity s.history s.terminalEvicted
    { s with history := trimmed.1, terminalEvicted := trimmed.2 }

/-- Move the item of a slot to the history, remove its index entries, and record
the new place of the item that filled the slot. -/
def retire (s : Scheduler) (index terminalAtMs : Nat) : Scheduler :=
  match s.items[index]? with
  | none => s
  | some item =>
    let items := s.items.swapRemove index
    let s := trimHistory
      { s with
        items
        liveByGeneration := s.liveByGeneration.erase item.plan.generation
        liveByEvent := s.liveByEvent.erase item.plan.eventId
        history := s.history ++
          [{ terminalAtMs, scheduledAtMs := item.plan.startAtMs, item }] }
    { s with
      liveByGeneration := reindex (·.plan.generation) items s.liveByGeneration index
      liveByEvent := reindex (·.plan.eventId) items s.liveByEvent index }

/-- Overwrite the item of a slot. -/
def setItem (s : Scheduler) (index : Nat) (item : ScheduledItem) : Scheduler :=
  { s with items := s.items.set index item }

/-! ## Logical time -/

/-- Drop the cooldowns that are over at `target`. -/
def expireCooldowns (s : Scheduler) (target : Nat) : Scheduler :=
  let cooldowns := s.cooldowns.filter fun _ untilMs ↦ target < untilMs
  { s with
    cooldowns
    cooldownsExpired := satAdd s.cooldownsExpired (s.cooldowns.size - cooldowns.size) }

/-- The loop of `advanceTo`, with `fuel` slots from `index` on. -/
def advanceLoop (target : Nat) : Nat → Nat → Scheduler → Scheduler
  | 0, _, s => s
  | fuel + 1, index, s =>
    match s.items[index]? with
    | none => s
    | some item =>
      match item.advance target with
      | .keep => advanceLoop target fuel (index + 1) s
      | .play =>
        advanceLoop target fuel (index + 1) (s.setItem index { item with status := .playing })
      | .drop => advanceLoop target fuel index (s.retire index target)
      | .finish status atMs =>
        let s := s.setItem index { item with status }
        let s := { s with lastTerminalAt := latestTerminal s.lastTerminalAt atMs }
        advanceLoop target fuel index (s.retire index atMs)

/-- Advance logical time without consulting wall-clock time. -/
def advanceTo (s : Scheduler) (atMs : Nat) : Scheduler :=
  let target := max atMs s.nowMs
  let s := s.expireCooldowns target
  let s := advanceLoop target s.items.length 0 s
  { s with nowMs := target }

/-! ## Cancelling -/

/-- Give up the cooldown a queued item has planned, unless its asset has got
another one since. -/
def releaseCooldown (spacingMs : Nat) (cooldowns : ExtTreeMap String Nat) (item : ScheduledItem) :
    ExtTreeMap String Nat :=
  let plannedCooldown := satAdd item.plan.endAtMs spacingMs
  if cooldowns[item.plan.assetId]? = some plannedCooldown then cooldowns.erase item.plan.assetId
  else cooldowns

/-- Cancel one queued reservation and retire it. -/
def cancelQueued (s : Scheduler) (index atMs : Nat) : Scheduler :=
  match s.items[index]? with
  | none => s
  | some item =>
    let s := s.setItem index { item with status := .cancelled, cancelAtMs := some atMs }
    let s := { s with
      cooldowns := releaseCooldown s.config.minReactionSpacingMs s.cooldowns item }
    s.retire index atMs

/-- Cancel the playing item of a slot and retire it. -/
def stopPlaying (s : Scheduler) (index atMs : Nat) (item : ScheduledItem) : Scheduler :=
  let s := s.setItem index { item with status := .cancelled, cancelAtMs := some atMs }
  let s := { s with lastTerminalAt := latestTerminal s.lastTerminalAt atMs }
  s.retire index atMs

/-- The loop of `stopAll`, with `fuel` slots from `index` on. -/
def stopLoop (atMs : Nat) :
    Nat → Nat → Scheduler → List PlannedPerformance → Scheduler × List PlannedPerformance
  | 0, _, s, stopped => (s, stopped)
  | fuel + 1, index, s, stopped =>
    match s.items[index]? with
    | none => (s, stopped)
    | some item =>
      match item.status with
      | .playing =>
        stopLoop atMs fuel index (s.stopPlaying index atMs item) (stopped ++ [item.plan])
      | .queued => stopLoop atMs fuel index (s.cancelQueued index atMs) (stopped ++ [item.plan])
      | .completed | .cancelled => stopLoop atMs fuel (index + 1) s stopped

/-- Operator path: stop active work and cancel queued work. -/
def stopAll (s : Scheduler) (atMs : Nat) : Scheduler × List PlannedPerformance :=
  let s := s.advanceTo atMs
  stopLoop atMs s.items.length 0 s []

/-- Stop the first playing item. -/
def stopCurrent (s : Scheduler) (atMs : Nat) : Scheduler × Option PlannedPerformance :=
  let s := s.advanceTo atMs
  match s.items.findIdx? (·.status = .playing) with
  | none => (s, none)
  | some index =>
    match s.items[index]? with
    | none => (s, none)
    | some item => (s.stopPlaying index atMs item, some item.plan)

/-- Finish every remaining reservation at deterministic logical time. -/
def completeAll (s : Scheduler) : Scheduler :=
  let ends := (s.items.filter (·.occupiesTimeline)).map (·.effectiveEndMs)
  s.advanceTo (ends.max?.getD s.nowMs)

/-! ## Scheduling -/

def reject (s : Scheduler) (rejection : Rejection) :
    Scheduler × Except Rejection PlannedPerformance :=
  ({ s with lastRejection := some rejection }, .error rejection)

/-- What arbitration against the playing work leaves. -/
structure Handoff where
  candidateStart : Nat
  handoffTerminal : Option Nat
  /-- Slots to cut, and where. -/
  pendingCancellations : List (Nat × Nat)

/-- A playing item that conflicts with `plan`. -/
def contends (plan : PlannedPerformance) (item : ScheduledItem) : Bool :=
  item.status = .playing && plansConflict item.plan plan

/-- Where a playing item can be left. -/
def handoffBoundary (item : ScheduledItem) (requestAtMs : Nat) : Nat :=
  if item.plan.interruptible then nextSafeBoundary item.plan requestAtMs else item.plan.endAtMs

/-- Arbitrate against the playing items, or give way to one of higher priority. -/
def arbitrate (incomingRank requestAtMs : Nat) :
    List (ScheduledItem × Nat) → Handoff → Except Rejection Handoff
  | [], handoff => .ok handoff
  | (item, index) :: active, handoff =>
    if incomingRank > item.plan.priority.rank then .error .priority
    else
      let boundary := handoffBoundary item requestAtMs
      arbitrate incomingRank requestAtMs active
        { candidateStart := max handoff.candidateStart boundary
          handoffTerminal := latestTerminal handoff.handoffTerminal boundary
          pendingCancellations :=
            if boundary < item.plan.endAtMs then
              handoff.pendingCancellations ++ [(index, boundary)]
            else handoff.pendingCancellations }

/-- The item is left at `boundary`, or earlier if it already had to be. -/
def cutAt (boundary : Nat) (item : ScheduledItem) : ScheduledItem :=
  { item with cancelAtMs := some (item.cancelAtMs.elim boundary fun value ↦ min value boundary) }

/-- Apply the pending cancellations. -/
def applyCancellations (s : Scheduler) (pending : List (Nat × Nat)) : Scheduler :=
  { s with
    items := pending.foldl (fun items cut ↦ items.modify cut.1 (cutAt cut.2)) s.items }

/-- The minimum reaction spacing, which only operator plans do without. -/
def spacedStart (s : Scheduler) (plan : PlannedPerformance) (handoff : Handoff) : Nat :=
  if plan.priority = .operator then handoff.candidateStart
  else
    match handoff.handoffTerminal, s.lastTerminalAt with
    | some terminal, _ =>
      max handoff.candidateStart (satAdd terminal s.config.minReactionSpacingMs)
    | none, some lastTerminal =>
      max handoff.candidateStart (satAdd lastTerminal s.config.minReactionSpacingMs)
    | none, none => handoff.candidateStart

/-- A queued item that conflicts with `plan` and overlaps it. -/
def blocks (plan : PlannedPerformance) (item : ScheduledItem) : Bool :=
  item.status = .queued && plansConflict item.plan plan &&
    intervalsOverlap plan.startAtMs plan.endAtMs item.plan.startAtMs item.effectiveEndMs

/-- The slots of the items in the way of `plan`, last slot first: a cancellation
moves only slots behind the one it empties. -/
def queuedSlots (s : Scheduler) (plan : PlannedPerformance) : List Nat :=
  ((s.items.slots (blocks plan)).map Prod.snd).reverse

/-- The start of `plan` once it waits for an item to end. -/
def waitBehind (spacingMs : Nat) (plan : PlannedPerformance) (queuedEndMs : Nat) :
    PlannedPerformance :=
  let start := max plan.startAtMs queuedEndMs
  { plan with startAtMs := if plan.priority = .operator then start else satAdd start spacingMs }

/-- Supersede the queued item of a slot, or wait behind it. -/
def resolveSlot (requestAtMs : Nat) (state : Scheduler × PlannedPerformance) (index : Nat) :
    Scheduler × PlannedPerformance :=
  match state.1.items[index]? with
  | none => state
  | some queued =>
    if state.2.priority.rank < queued.plan.priority.rank then
      (state.1.cancelQueued index requestAtMs, state.2)
    else
      (state.1, waitBehind state.1.config.minReactionSpacingMs state.2 queued.effectiveEndMs)

/-- The queue loop, for at most `fuel` passes.  A pass over at least one slot
always changes something, so the loop ends at the first pass without slots. -/
def resolveQueue (requestAtMs : Nat) :
    Nat → Scheduler × PlannedPerformance → Scheduler × PlannedPerformance
  | 0, state => state
  | fuel + 1, state =>
    match state.1.queuedSlots state.2 with
    | [] => state
    | slots => resolveQueue requestAtMs fuel (slots.foldl (resolveSlot requestAtMs) state)

/-- Give `plan` the next generation and make it live. -/
def accept (s : Scheduler) (plan : PlannedPerformance) :
    Scheduler × Except Rejection PlannedPerformance :=
  let generation := satAdd s.generation 1
  let plan := { plan with generation }
  let status := if plan.startAtMs ≤ s.nowMs then Status.playing else Status.queued
  let cooldownUntil := satAdd plan.endAtMs s.config.minReactionSpacingMs
  let cooldowns := s.cooldowns.insert plan.assetId cooldownUntil
  let index := s.items.length
  ({ s with
     generation
     cooldowns
     cooldownsHighWater := max s.cooldownsHighWater cooldowns.size
     liveByGeneration := s.liveByGeneration.insert plan.generation index
     liveByEvent := s.liveByEvent.insert plan.eventId index
     items := s.items ++ [{ plan, status, cancelAtMs := none }] },
   .ok plan)

/-- The start of a request is never before its own event or the logical clock. -/
def requestedPlan (s : Scheduler) (requestAtMs : Nat) (plan : PlannedPerformance) :
    PlannedPerformance :=
  normalizeInterruptPoints
    { plan with startAtMs := max (max plan.startAtMs requestAtMs) s.nowMs }

/-- The part of `scheduleAt` in front of the queue loop, once logical time has
advanced to the request: the state and the plan that enter the loop. -/
def contend (s : Scheduler) (requestAtMs : Nat) (plan : PlannedPerformance) :
    Except Rejection (Scheduler × PlannedPerformance) :=
  if s.items.any (·.plan.eventId = plan.eventId) then .error .duplicateEvent
  else
    let plan := s.requestedPlan requestAtMs plan
    if plan.startAtMs < s.cooldowns[plan.assetId]?.getD 0 then .error .cooldown
    else
      match arbitrate plan.priority.rank requestAtMs (s.items.slots (contends plan))
        ⟨plan.startAtMs, none, []⟩ with
      | .error rejection => .error rejection
      | .ok handoff =>
        let s := s.applyCancellations handoff.pendingCancellations
        .ok (s, { plan with startAtMs := s.spacedStart plan handoff })

/-- `scheduleAt` once logical time has advanced to the request. -/
def scheduleNow (s : Scheduler) (requestAtMs : Nat) (plan : PlannedPerformance) :
    Scheduler × Except Rejection PlannedPerformance :=
  match s.contend requestAtMs plan with
  | .error rejection => s.reject rejection
  | .ok state =>
    let resolved := resolveQueue requestAtMs (state.1.items.length + 1) state
    resolved.1.accept resolved.2

/-- Schedule a plan whose source event arrived at `requestAtMs`. -/
def scheduleAt (s : Scheduler) (requestAtMs : Nat) (plan : PlannedPerformance) :
    Scheduler × Except Rejection PlannedPerformance :=
  ({ s with lastRejection := none }.advanceTo requestAtMs).scheduleNow requestAtMs plan

/-- The requested start is also the arrival time. -/
def schedule (s : Scheduler) (plan : PlannedPerformance) :
    Scheduler × Except Rejection PlannedPerformance :=
  s.scheduleAt plan.startAtMs plan

end Scheduler

end Aivtuber
