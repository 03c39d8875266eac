import Mathlib.Algebra.Order.Archimedean.Basic
import Mathlib.Data.Int.ConditionallyCompleteOrder
import Mathlib.Data.List.Induction
import Mathlib.Order.CompletePartialOrder
import Std.Data.ExtTreeMap
import Aivtuber.Base.Machine

/-!
# The scheduler of the reference harness

`Scheduler` of `src/scheduler.ts`: one timeline, on which a request waits, interrupts or is
rejected.  The items never forget what was scheduled, but only their status changes; when
an item in fact ended is kept by a monitor (`Ledger`).

Arbitration gives way to an item that cannot be interrupted only where that item has the
higher priority.  The timeline is exclusive as long as no request gets past one that has not.
-/

open Std (ExtTreeMap)

namespace Aivtuber.Reference

inductive PriorityClass where
  | operator | paidInteraction | systemReaction | conversation | commentary | background
deriving DecidableEq, Repr

def PriorityClass.order : PriorityClass → Nat
  | .operator => 0
  | .paidInteraction => 1
  | .systemReaction => 2
  | .conversation => 3
  | .commentary => 4
  | .background => 5

structure PlannedPerformance where
  eventId : String
  assetId : String
  priority : PriorityClass
  interruptible : Bool
  interruptPointsMs : List Int
  startAtMs : Int
  durationMs : Int
  generation : Nat
deriving DecidableEq, Repr

def PlannedPerformance.endAtMs (plan : PlannedPerformance) : Int := plan.startAtMs + plan.durationMs

inductive ItemStatus where
  | queued | playing | completed | cancelled
deriving DecidableEq, Repr

structure ScheduledItem extends PlannedPerformance where
  status : ItemStatus
deriving DecidableEq, Repr

inductive Rejection where
  | cooldown | priority
deriving DecidableEq, Repr

structure Scheduler where
  items : List ScheduledItem
  cooldowns : ExtTreeMap String Int
  lastFinishAt : Option Int
  generation : Nat
  minReactionSpacingMs : Int
  lastRejection : Option Rejection

def ScheduledItem.isPlaying (item : ScheduledItem) : Bool := item.status = .playing

/-- An item that has reached its natural end is complete. -/
def ScheduledItem.expire (atMs : Int) (item : ScheduledItem) : ScheduledItem :=
  if item.isPlaying && item.endAtMs ≤ atMs then { item with status := .completed } else item

/-- Cancel the first item that plays. -/
def cancelPlaying : List ScheduledItem → List ScheduledItem
  | [] => []
  | item :: items =>
    if item.isPlaying then { item with status := .cancelled } :: items
    else item :: cancelPlaying items

namespace Scheduler

def new (minReactionSpacingMs : Option Int) : Scheduler where
  items := []
  cooldowns := ∅
  lastFinishAt := none
  generation := 0
  minReactionSpacingMs := minReactionSpacingMs.getD 1500
  lastRejection := none

def completeExpired (s : Scheduler) (atMs : Int) : Scheduler :=
  { s with items := s.items.map (ScheduledItem.expire atMs) }

def playing? (s : Scheduler) : Option ScheduledItem := s.items.find? (·.isPlaying)

/-- The asset of a plan is still cooling down. -/
def cooling (s : Scheduler) (plan : PlannedPerformance) : Bool :=
  plan.startAtMs < (s.cooldowns[plan.assetId]?).getD 0

/-- Cancel what plays, at an instant. -/
def cancel (s : Scheduler) (atMs : Int) : Scheduler :=
  { s with items := cancelPlaying s.items, lastFinishAt := some atMs }

/-- The start of a plan, once it keeps the minimum spacing. -/
def spacedStart (s : Scheduler) (plan : PlannedPerformance) : Int :=
  match s.lastFinishAt with
  | some last =>
    if plan.priority ≠ .operator ∧ plan.startAtMs - last < s.minReactionSpacingMs then
      max plan.startAtMs (last + s.minReactionSpacingMs)
    else plan.startAtMs
  | none => plan.startAtMs

def accept (s : Scheduler) (plan : PlannedPerformance) : Scheduler × Option PlannedPerformance :=
  let plan := { plan with startAtMs := s.spacedStart plan, generation := s.generation + 1 }
  ({ s with
     items := s.items ++ [{ plan with status := .playing }]
     cooldowns := s.cooldowns.insert plan.assetId (plan.endAtMs + s.minReactionSpacingMs)
     lastFinishAt := some plan.endAtMs
     generation := s.generation + 1 }, some plan)

def reject (s : Scheduler) (rejection : Rejection) : Scheduler × Option PlannedPerformance :=
  ({ s with lastRejection := some rejection }, none)

/-- Schedule a plan, or reject it for its cooldown or for what plays. -/
def schedule (s : Scheduler) (plan : PlannedPerformance) : Scheduler × Option PlannedPerformance :=
  let s := { s with lastRejection := none }.completeExpired plan.startAtMs
  if s.cooling plan then s.reject .cooldown
  else
    match s.playing? with
    | none => s.accept plan
    | some playing =>
      if plan.priority.order > playing.priority.order then s.reject .priority
      else if playing.interruptible then (s.cancel plan.startAtMs).accept plan
      else s.accept plan

/-- Stop what plays: the operator path. -/
def stopCurrent (s : Scheduler) (atMs : Int) : Scheduler × Option ScheduledItem :=
  match s.playing? with
  | none => (s, none)
  | some playing => (s.cancel atMs, some { playing with status := .cancelled })

end Scheduler

/-! ## Runs -/

inductive Op where
  | schedule (plan : PlannedPerformance)
  | stopCurrent (atMs : Int)
deriving DecidableEq, Repr

def Op.atMs : Op → Int
  | .schedule plan => plan.startAtMs
  | .stopCurrent atMs => atMs

def machine : Machine Scheduler Op (Option PlannedPerformance) where
  step s op :=
    match op with
    | .schedule plan => s.schedule plan
    | .stopCurrent atMs =>
      let stopped := s.stopCurrent atMs
      (stopped.1, stopped.2.map (·.toPlannedPerformance))

/-- What an observer keeps of a run. -/
structure Ledger where
  /-- The instant of the last operation. -/
  nowMs : Option Int
  /-- When each item ends: at its natural end, or where it was cut. -/
  ends : List Int
deriving DecidableEq, Repr

/-- The end of the item of a slot, after a step at `atMs`. -/
def observedEnd (before : List ScheduledItem) (ends : List Int) (atMs : Int) (index : Nat)
    (item : ScheduledItem) : Int :=
  match before[index]? with
  | none => item.endAtMs
  | some old =>
    if old.isPlaying && item.status = .cancelled then atMs else ends.getD index item.endAtMs

def Ledger.record (ledger : Ledger) (e : Machine.Event Scheduler Op (Option PlannedPerformance)) :
    Ledger where
  nowMs := some e.input.atMs
  ends := e.post.items.mapIdx (observedEnd e.pre.items ledger.ends e.input.atMs)

/-! ## Timelines -/

/-- An item and its effective end. -/
abbrev Slot := ScheduledItem × Int

/-- What an item keeps of an earlier one. -/
def Apart (spacingMs : Int) (earlier later : Slot) : Prop :=
  earlier.2 ≤ later.1.startAtMs ∧
    (later.1.priority ≠ .operator → earlier.2 + spacingMs ≤ later.1.startAtMs)

/-- The items that are over, in the order in which they were accepted, and the one that
plays; `last` is where the next one has to keep its distance from. -/
structure Timeline (spacingMs : Int) (last : Option Int) (past : List Slot)
    (current : Option ScheduledItem) : Prop where
  settled : ∀ slot ∈ past, slot.1.isPlaying = false
  playing : ∀ item ∈ current, item.isPlaying = true
  forward : ∀ item ∈ current, 0 ≤ item.durationMs
  apart : past.Pairwise (Apart spacingMs)
  clear : ∀ slot ∈ past, ∀ item ∈ current, Apart spacingMs slot (item, item.endAtMs)
  last_current : ∀ item ∈ current, last = some item.endAtMs
  last_past : current = none → ∀ slot ∈ past, ∃ finish ∈ last, slot.2 ≤ finish

section Timeline

variable {spacingMs : Int} {last : Option Int} {past : List Slot} {c : ScheduledItem}

/-- What plays is over: at its natural end, or where it is cut. -/
theorem Timeline.finish (h : Timeline spacingMs last past (some c)) (status : ItemStatus)
    (hstatus : status ≠ .playing) {finish atMs : Int} (hfinish : finish ≤ atMs)
    (hpast : ∀ slot ∈ past, slot.2 ≤ atMs)  :
    Timeline spacingMs (some atMs) (past ++ [({ c with status }, finish)]) none where
  settled := by
    intro slot hslot
    rcases List.mem_append.mp hslot with hslot | hslot
    · exact h.settled slot hslot
    · rw [List.mem_singleton.mp hslot]
      simp [ScheduledItem.isPlaying, hstatus]
  playing := by simp
  forward := by simp
  apart := by
    rw [List.pairwise_append]
    refine ⟨h.apart, List.pairwise_singleton _ _, ?_⟩
    intro slot hslot slot' hslot'
    rw [List.mem_singleton.mp hslot']
    exact h.clear slot hslot c rfl
  clear := by simp
  last_current := by simp
  last_past := by
    intro _ slot hslot
    refine ⟨atMs, rfl, ?_⟩
    rcases List.mem_append.mp hslot with hslot | hslot
    · exact hpast slot hslot
    · rw [List.mem_singleton.mp hslot]
      exact hfinish

/-- What plays ends after everything before it. -/
theorem Timeline.le_end (h : Timeline spacingMs last past (some c)) :
    ∀ slot ∈ past, slot.2 ≤ c.endAtMs := by
  intro slot hslot
  have hclear := (h.clear slot hslot c rfl).1
  have hforward := h.forward c rfl
  simp only at hclear
  rw [PlannedPerformance.endAtMs]
  omega

end Timeline

namespace Scheduler

variable {s : Scheduler} {plan : PlannedPerformance} {past : List Slot}

theorem le_spacedStart (s : Scheduler) (plan : PlannedPerformance) :
    plan.startAtMs ≤ s.spacedStart plan := by
  rw [spacedStart]
  cases s.lastFinishAt with
  | none => exact le_refl _
  | some last =>
    dsimp only
    split
    · exact le_max_left _ _
    · exact le_refl _

theorem spacing_le_spacedStart {last : Int} (hlast : s.lastFinishAt = some last)
    (hplan : plan.priority ≠ .operator) :
    last + s.minReactionSpacingMs ≤ s.spacedStart plan := by
  rw [spacedStart, hlast]
  dsimp only
  split
  · exact le_max_right _ _
  · rename_i hspaced
    have := not_lt.mp fun h ↦ hspaced ⟨hplan, h⟩
    omega

/-- The item that accepting a plan adds. -/
def accepted (s : Scheduler) (plan : PlannedPerformance) : ScheduledItem :=
  { plan with startAtMs := s.spacedStart plan, generation := s.generation + 1, status := .playing }

@[simp] theorem accept_items (s : Scheduler) (plan : PlannedPerformance) :
    (s.accept plan).1.items = s.items ++ [s.accepted plan] := rfl

/-- An accepted plan keeps its distance from all that is over. -/
theorem accept_timeline
    (h : Timeline s.minReactionSpacingMs s.lastFinishAt past none)
    (hpast : ∀ slot ∈ past, slot.2 ≤ plan.startAtMs) (hforward : 0 ≤ plan.durationMs) :
    Timeline s.minReactionSpacingMs (s.accept plan).1.lastFinishAt past
      (some (s.accepted plan)) where
  settled := h.settled
  playing := by
    rintro item ⟨⟩
    rfl
  forward := by
    rintro item ⟨⟩
    exact hforward
  apart := h.apart
  clear := by
    rintro slot hslot item ⟨⟩
    constructor
    · exact (hpast slot hslot).trans (s.le_spacedStart plan)
    · intro hplan
      obtain ⟨last, hlast, hle⟩ := h.last_past rfl slot hslot
      exact (add_le_add_left hle _).trans (spacing_le_spacedStart hlast hplan)
  last_current := by
    rintro item ⟨⟩
    rfl
  last_past := by simp

end Scheduler

/-! ## What an observer sees -/

/-- The items and their ends, as the timeline has them. -/
structure Shows (items : List ScheduledItem) (ends : List Int) (past : List Slot)
    (current : Option ScheduledItem) : Prop where
  items_eq : items = past.map Prod.fst ++ current.toList
  ends_eq : ends = past.map Prod.snd ++ (current.toList.map fun item ↦ item.endAtMs)

section Shows

variable {items : List ScheduledItem} {ends : List Int} {past : List Slot}
  {current : Option ScheduledItem} {atMs : Int}

/-- The ends of what is over do not change. -/
theorem Shows.observedEnd_past (h : Shows items ends past current)
    (hover : ∀ slot ∈ past, slot.1.isPlaying = false) :
    (past.map Prod.fst).mapIdx (observedEnd items ends atMs) = past.map Prod.snd := by
  apply List.ext_getElem
  · simp
  · intro index hindex hindex'
    rw [List.length_map] at hindex'
    have hitem : items[index]? = some past[index].1 := by
      rw [h.items_eq, List.getElem?_append_left (by simpa using hindex')]
      simp [hindex']
    have hend : ends[index]? = some past[index].2 := by
      rw [h.ends_eq, List.getElem?_append_left (by simpa using hindex')]
      simp [hindex']
    have hnot := hover past[index] (List.getElem_mem hindex')
    simp [observedEnd, hitem, hnot, List.getD, hend]

theorem Shows.observedEnd_current {c : ScheduledItem} (h : Shows items ends past (some c))
    (hc : c.isPlaying = true) (item : ScheduledItem) :
    observedEnd items ends atMs past.length item =
      if item.status = .cancelled then atMs else c.endAtMs := by
  have hitem : items[past.length]? = some c := by
    rw [h.items_eq, List.getElem?_append_right (by simp)]
    simp
  have hend : ends[past.length]? = some c.endAtMs := by
    rw [h.ends_eq, List.getElem?_append_right (by simp)]
    simp
  simp [observedEnd, hitem, hc, List.getD, hend]

theorem observedEnd_new (items : List ScheduledItem) (ends : List Int) (atMs : Int)
    (item : ScheduledItem) : observedEnd items ends atMs items.length item = item.endAtMs := by
  simp [observedEnd]

/-- A step that adds at most an item while nothing plays. -/
theorem Shows.step_none (h : Shows items ends past none)
    (hover : ∀ slot ∈ past, slot.1.isPlaying = false) (added : Option ScheduledItem) :
    Shows (past.map Prod.fst ++ added.toList)
      ((past.map Prod.fst ++ added.toList).mapIdx (observedEnd items ends atMs)) past added where
  items_eq := rfl
  ends_eq := by
    rw [List.mapIdx_append, h.observedEnd_past hover]
    have hlength : items.length = past.length := by rw [h.items_eq]; simp
    cases added with
    | none => rfl
    | some item => simp [← hlength, observedEnd_new]

variable (atMs) in
/-- A step after which what played is over, and which adds at most an item. -/
theorem Shows.step_over {c : ScheduledItem} (h : Shows items ends past (some c))
    (hover : ∀ slot ∈ past, slot.1.isPlaying = false) (hc : c.isPlaying = true)
    (status : ItemStatus) (added : Option ScheduledItem) :
    let ended := past ++ [({ c with status }, if status = .cancelled then atMs else c.endAtMs)]
    Shows (ended.map Prod.fst ++ added.toList)
      ((ended.map Prod.fst ++ added.toList).mapIdx (observedEnd items ends atMs)) ended added where
  items_eq := rfl
  ends_eq := by
    have hlength : items.length = past.length + 1 := by rw [h.items_eq]; simp
    rw [List.map_append, List.append_assoc, List.mapIdx_append, h.observedEnd_past hover,
      List.map_append, List.append_assoc]
    congr 1
    cases added with
    | none => simp [h.observedEnd_current hc]
    | some item =>
      simp [h.observedEnd_current hc, Nat.add_comm 1, ← hlength, observedEnd_new]

/-- A step that changes nothing. -/
theorem Shows.step_keep {c : ScheduledItem} (h : Shows items ends past (some c))
    (hover : ∀ slot ∈ past, slot.1.isPlaying = false) (hc : c.isPlaying = true) :
    Shows (past.map Prod.fst ++ [c])
      ((past.map Prod.fst ++ [c]).mapIdx (observedEnd items ends atMs)) past (some c) where
  items_eq := rfl
  ends_eq := by
    have hplaying : c.status ≠ .cancelled := by
      rw [ScheduledItem.isPlaying, decide_eq_true_eq] at hc
      simp [hc]
    rw [List.mapIdx_append, h.observedEnd_past hover]
    simp [h.observedEnd_current hc, hplaying]

/-! ### The items themselves -/

theorem expire_past (hover : ∀ slot ∈ past, slot.1.isPlaying = false) :
    (past.map Prod.fst).map (ScheduledItem.expire atMs) = past.map Prod.fst := by
  rw [List.map_map]
  apply List.map_congr_left
  intro slot hslot
  simp [ScheduledItem.expire, hover slot hslot]

theorem find_playing (hover : ∀ slot ∈ past, slot.1.isPlaying = false)
    (hplaying : ∀ item ∈ current, item.isPlaying = true) :
    (past.map Prod.fst ++ current.toList).find? (·.isPlaying) = current := by
  have hnone : (past.map Prod.fst).find? (·.isPlaying) = none := by
    simpa using hover
  rw [List.find?_append, hnone, Option.none_or]
  cases current with
  | none => rfl
  | some item => simp [hplaying item rfl]

theorem cancelPlaying_append {c : ScheduledItem}
    (hover : ∀ slot ∈ past, slot.1.isPlaying = false) (hc : c.isPlaying = true) :
    cancelPlaying (past.map Prod.fst ++ [c]) =
      past.map Prod.fst ++ [{ c with status := .cancelled }] := by
  induction past with
  | nil => simp [cancelPlaying, hc]
  | cons slot past ih =>
    rw [List.forall_mem_cons] at hover
    rw [List.map_cons, List.cons_append, cancelPlaying, hover.1, ih hover.2]
    rfl

end Shows

/-! ## Exclusivity -/

/-- One timeline: at most one item plays, effective intervals are disjoint, and only operator
items come closer than the minimum spacing to an earlier one. -/
structure Exclusive (spacingMs : Int) (timeline : List Slot) : Prop where
  onePlaying : timeline.Pairwise fun a b ↦ ¬(a.1.isPlaying = true ∧ b.1.isPlaying = true)
  disjoint : timeline.Pairwise fun a b ↦
    Disjoint (Set.Ico a.1.startAtMs a.2) (Set.Ico b.1.startAtMs b.2)
  spaced : timeline.Pairwise fun a b ↦
    b.1.priority ≠ .operator → a.2 + spacingMs ≤ b.1.startAtMs

/-- A step after which the timeline is exclusive, and in which no request cuts an item that
cannot be interrupted. -/
structure Respects (spacingMs : Int) (ledger : Ledger)
    (e : Machine.Event Scheduler Op (Option PlannedPerformance)) : Prop where
  exclusive : Exclusive spacingMs (e.post.items.zip (ledger.record e).ends)
  uncut : ∀ plan, e.input = .schedule plan → ∀ (index : Nat) (before after : ScheduledItem),
    e.pre.items[index]? = some before → e.post.items[index]? = some after →
    before.isPlaying = true → before.interruptible = false → after.status ≠ .cancelled

/-- A request is rejected for its cooldown or its priority, or nothing plays that it could
not interrupt. -/
def Scheduler.GivesWay (s : Scheduler) (plan : PlannedPerformance) : Prop :=
  (s.completeExpired plan.startAtMs).cooling plan = true ∨
    ∀ playing ∈ (s.completeExpired plan.startAtMs).playing?,
      plan.priority.order ≤ playing.priority.order → playing.interruptible = true

/-- A step whose request gives way. -/
def Yields (_ : Ledger) (e : Machine.Event Scheduler Op (Option PlannedPerformance)) : Prop :=
  ∀ plan, e.input = .schedule plan → e.pre.GivesWay plan

/-- A step whose request does not run backwards. -/
def Forward (_ : Ledger) (e : Machine.Event Scheduler Op (Option PlannedPerformance)) : Prop :=
  ∀ plan, e.input = .schedule plan → 0 ≤ plan.durationMs

/-- A step that is not before the last one. -/
def Ordered (ledger : Ledger) (e : Machine.Event Scheduler Op (Option PlannedPerformance)) : Prop :=
  ∀ now ∈ ledger.nowMs, now ≤ e.input.atMs

/-- The timeline of a state, with nothing over after the last step. -/
def Accounted (spacingMs : Int) (s : Scheduler) (ledger : Ledger) : Prop :=
  s.minReactionSpacingMs = spacingMs ∧ ∃ past current, Shows s.items ledger.ends past current ∧
    Timeline spacingMs s.lastFinishAt past current ∧
    ∀ slot ∈ past, ∃ now ∈ ledger.nowMs, slot.2 ≤ now

variable {spacingMs : Int} {s : Scheduler} {ledger : Ledger}

theorem Timeline.exclusive {last : Option Int} {past : List Slot} {current : Option ScheduledItem}
    (h : Timeline spacingMs last past current) :
    Exclusive spacingMs (past ++ current.toList.map fun item ↦ (item, item.endAtMs)) := by
  have hapart : (past ++ current.toList.map fun item ↦ (item, item.endAtMs)).Pairwise fun a b ↦
      Apart spacingMs a b ∧ a.1.isPlaying = false := by
    rw [List.pairwise_append]
    refine ⟨?_, by cases current <;> simp, ?_⟩
    · exact h.apart.imp_of_mem fun ha _ hab ↦ ⟨hab, h.settled _ ha⟩
    · intro slot hslot later hlater
      rw [List.mem_map] at hlater
      obtain ⟨item, hitem, rfl⟩ := hlater
      exact ⟨h.clear slot hslot item (Option.mem_toList.mp hitem), h.settled slot hslot⟩
  constructor
  · exact hapart.imp fun hab hplaying ↦ by simp [hab.2] at hplaying
  · refine hapart.imp fun {a b} hab ↦ Set.disjoint_left.mpr fun x hxa hxb ↦ ?_
    have := hab.1.1
    rw [Set.mem_Ico] at hxa hxb
    omega
  · exact hapart.imp fun hab ↦ hab.1.2

theorem Shows.zip {items : List ScheduledItem} {ends : List Int} {past : List Slot}
    {current : Option ScheduledItem} (h : Shows items ends past current) :
    items.zip ends = past ++ current.toList.map fun item ↦ (item, item.endAtMs) := by
  have hpast : (past.map Prod.fst).zip (past.map Prod.snd) = past := by
    rw [List.zip_map', List.map_id'']
    simp
  rw [h.items_eq, h.ends_eq, List.zip_append (by simp), hpast]
  cases current <;> rfl

/-! ### What one step does -/

/-- A timeline from which a step at `atMs` goes on: it can leave it as it is, add an item to
what is over, or cut what plays and go on from there. -/
structure Follows (items : List ScheduledItem) (ends : List Int) (atMs : Int) (past : List Slot)
    (current : Option ScheduledItem) : Prop where
  keep : Shows (past.map Prod.fst ++ current.toList)
    ((past.map Prod.fst ++ current.toList).mapIdx (observedEnd items ends atMs)) past current
  add : current = none → ∀ item, Shows (past.map Prod.fst ++ [item])
    ((past.map Prod.fst ++ [item]).mapIdx (observedEnd items ends atMs)) past (some item)
  cut : ∀ c ∈ current, ∀ added : Option ScheduledItem,
    Shows (past.map Prod.fst ++ [{ c with status := .cancelled }] ++ added.toList)
      ((past.map Prod.fst ++ [{ c with status := .cancelled }] ++ added.toList).mapIdx
        (observedEnd items ends atMs))
      (past ++ [({ c with status := .cancelled }, atMs)]) added

section Follows

variable {items : List ScheduledItem} {ends : List Int} {past : List Slot}
  {current : Option ScheduledItem} {atMs : Int} {last : Option Int}

theorem Shows.follows (h : Shows items ends past current)
    (htimeline : Timeline spacingMs last past current) : Follows items ends atMs past current := by
  cases current with
  | none =>
    refine ⟨h.step_none htimeline.settled none, fun _ item ↦ h.step_none htimeline.settled (some item),
      ?_⟩
    rintro c ⟨⟩
  | some c =>
    refine ⟨h.step_keep htimeline.settled (htimeline.playing c rfl), by simp, ?_⟩
    rintro _ ⟨⟩ added
    have hover := h.step_over atMs htimeline.settled (htimeline.playing c rfl)
      .cancelled added
    simpa using hover

/-- What plays either is over by `atMs`, or goes on playing. -/
theorem Shows.expire (h : Shows items ends past current)
    (htimeline : Timeline spacingMs last past current) (hpast : ∀ slot ∈ past, slot.2 ≤ atMs) :
    ∃ past' current', items.map (ScheduledItem.expire atMs) =
        past'.map Prod.fst ++ current'.toList ∧
      Timeline spacingMs last past' current' ∧ (∀ slot ∈ past', slot.2 ≤ atMs) ∧
      Follows items ends atMs past' current' := by
  cases current with
  | none =>
    refine ⟨past, none, ?_, htimeline, hpast, h.follows htimeline⟩
    rw [h.items_eq, Option.toList_none, List.append_nil, expire_past htimeline.settled]
  | some c =>
    have hc := htimeline.playing c rfl
    have hitems : items.map (ScheduledItem.expire atMs) =
        past.map Prod.fst ++ [c.expire atMs] := by
      rw [h.items_eq, List.map_append, expire_past htimeline.settled]
      rfl
    by_cases hend : c.endAtMs ≤ atMs
    · refine ⟨past ++ [({ c with status := .completed }, c.endAtMs)], none, ?_, ?_, ?_, ?_⟩
      · rw [hitems]
        simp [ScheduledItem.expire, hc, hend]
      · rw [htimeline.last_current c rfl]
        exact htimeline.finish .completed (by decide) (le_refl _) htimeline.le_end
      · intro slot hslot
        rcases List.mem_append.mp hslot with hslot | hslot
        · exact hpast slot hslot
        · rw [List.mem_singleton.mp hslot]
          exact hend
      · have hover := fun added ↦ h.step_over atMs htimeline.settled hc .completed added
        refine ⟨?_, fun _ item ↦ ?_, by simp⟩
        · simpa using hover none
        · simpa using hover (some item)
    · refine ⟨past, some c, ?_, htimeline, hpast, h.follows htimeline⟩
      rw [hitems]
      simp [ScheduledItem.expire, hend]

end Follows

theorem Accounted.past_le {atMs : Int} (hordered : ∀ now ∈ ledger.nowMs, now ≤ atMs)
    {past : List Slot} (h : ∀ slot ∈ past, ∃ now ∈ ledger.nowMs, slot.2 ≤ now) :
    ∀ slot ∈ past, slot.2 ≤ atMs := by
  intro slot hslot
  obtain ⟨now, hnow, hle⟩ := h slot hslot
  exact hle.trans (hordered now hnow)

/-- The expired items, and what plays among them, do not depend on the last rejection. -/
theorem schedule_eq (s : Scheduler) (plan : PlannedPerformance) :
    s.schedule plan =
      if (s.completeExpired plan.startAtMs).cooling plan = true then
        ({ s with lastRejection := none }.completeExpired plan.startAtMs).reject .cooldown
      else
        match (s.completeExpired plan.startAtMs).playing? with
        | none => ({ s with lastRejection := none }.completeExpired plan.startAtMs).accept plan
        | some playing =>
          if plan.priority.order > playing.priority.order then
            ({ s with lastRejection := none }.completeExpired plan.startAtMs).reject .priority
          else if playing.interruptible = true then
            (({ s with lastRejection := none }.completeExpired plan.startAtMs).cancel
              plan.startAtMs).accept plan
          else ({ s with lastRejection := none }.completeExpired plan.startAtMs).accept plan :=
  rfl

/-- Scheduling a plan that gives way keeps the timeline. -/
theorem Accounted.schedule (h : Accounted spacingMs s ledger) {plan : PlannedPerformance}
    (hordered : ∀ now ∈ ledger.nowMs, now ≤ plan.startAtMs) (hforward : 0 ≤ plan.durationMs)
    (hway : s.GivesWay plan) :
    Accounted spacingMs (s.schedule plan).1
      (ledger.record (machine.event s (.schedule plan))) := by
  obtain ⟨hspacing, past, current, hshows, htimeline, hsettled⟩ := h
  subst hspacing
  obtain ⟨past', current', hitems, htimeline', hpast', hfollows⟩ :=
    hshows.expire htimeline (Accounted.past_le hordered hsettled)
  have hplaying : (s.completeExpired plan.startAtMs).playing? = current' := by
    rw [Scheduler.playing?, Scheduler.completeExpired]
    dsimp only
    rw [hitems, find_playing htimeline'.settled htimeline'.playing]
  have hafter : ∀ (t : Scheduler × Option PlannedPerformance) (items : List ScheduledItem)
      (past : List Slot) (current : Option ScheduledItem), s.schedule plan = t →
      t.1.minReactionSpacingMs = s.minReactionSpacingMs → t.1.items = items →
      Shows items (items.mapIdx (observedEnd s.items ledger.ends plan.startAtMs)) past current →
      Timeline s.minReactionSpacingMs t.1.lastFinishAt past current →
      (∀ slot ∈ past, slot.2 ≤ plan.startAtMs) →
      Accounted s.minReactionSpacingMs (s.schedule plan).1
        (ledger.record (machine.event s (.schedule plan))) := by
    rintro t items past current rfl hspacing rfl hshows htimeline hpast
    exact ⟨hspacing, past, current, hshows, htimeline, fun slot hslot ↦ ⟨_, rfl, hpast slot hslot⟩⟩
  have hreject : ∀ rejection, s.schedule plan =
      ({ s with lastRejection := none }.completeExpired plan.startAtMs).reject rejection →
      Accounted s.minReactionSpacingMs (s.schedule plan).1
        (ledger.record (machine.event s (.schedule plan))) := by
    intro rejection heq
    exact hafter _ _ past' current' heq rfl hitems hfollows.keep htimeline' hpast'
  by_cases hcool : (s.completeExpired plan.startAtMs).cooling plan = true
  · exact hreject .cooldown (by rw [schedule_eq, if_pos hcool])
  · cases current' with
    | none =>
      have heq : s.schedule plan =
          ({ s with lastRejection := none }.completeExpired plan.startAtMs).accept plan := by
        rw [schedule_eq, if_neg hcool, hplaying]
      rw [Option.toList_none, List.append_nil] at hitems
      exact hafter _ _ past' _ heq rfl (congrArg (· ++ [_]) hitems) (hfollows.add rfl _)
        (Scheduler.accept_timeline (s := { s with lastRejection := none }.completeExpired
          plan.startAtMs) htimeline' hpast' hforward) hpast'
    | some c =>
      by_cases hrank : plan.priority.order > c.priority.order
      · exact hreject .priority (by rw [schedule_eq, if_neg hcool, hplaying]; simp [hrank])
      · -- it gives way, so what plays can be interrupted
        have hinterruptible : c.interruptible = true :=
          (hway.resolve_left hcool) c hplaying (not_lt.mp hrank)
        have heq : s.schedule plan =
            (({ s with lastRejection := none }.completeExpired plan.startAtMs).cancel
              plan.startAtMs).accept plan := by
          rw [schedule_eq, if_neg hcool, hplaying]
          simp [hrank, hinterruptible]
        have hcut := htimeline'.finish .cancelled (by decide) (le_refl plan.startAtMs) hpast'
        have hpast'' : ∀ slot ∈ past' ++ [({ c with status := .cancelled }, plan.startAtMs)],
            slot.2 ≤ plan.startAtMs := by
          intro slot hslot
          rcases List.mem_append.mp hslot with hslot | hslot
          · exact hpast' slot hslot
          · rw [List.mem_singleton.mp hslot]
        have hcancelled := congrArg cancelPlaying hitems
        rw [Option.toList_some, cancelPlaying_append htimeline'.settled
          (htimeline'.playing c rfl)] at hcancelled
        exact hafter _ _ _ _ heq rfl (congrArg (· ++ [_]) hcancelled)
          (hfollows.cut c rfl (some _))
          (Scheduler.accept_timeline (s := ({ s with lastRejection := none }.completeExpired
            plan.startAtMs).cancel plan.startAtMs) hcut hpast'' hforward) hpast''

/-- Stopping keeps the timeline. -/
theorem Accounted.stopCurrent (h : Accounted spacingMs s ledger) {atMs : Int}
    (hordered : ∀ now ∈ ledger.nowMs, now ≤ atMs) :
    Accounted spacingMs (s.stopCurrent atMs).1
      (ledger.record (machine.event s (.stopCurrent atMs))) := by
  obtain ⟨hspacing, past, current, hshows, htimeline, hsettled⟩ := h
  subst hspacing
  have hpast := Accounted.past_le hordered hsettled
  have hfollows : Follows s.items ledger.ends atMs past current := hshows.follows htimeline
  have hplaying : s.playing? = current := by
    rw [Scheduler.playing?, hshows.items_eq, find_playing htimeline.settled htimeline.playing]
  cases current with
  | none =>
    have heq : s.stopCurrent atMs = (s, none) := by rw [Scheduler.stopCurrent, hplaying]
    have hstep : (machine.event s (.stopCurrent atMs)).post = s := by
      change (s.stopCurrent atMs).1 = s
      rw [heq]
    refine ⟨by rw [heq], past, none, ?_, ?_, fun slot hslot ↦ ⟨_, rfl, hpast slot hslot⟩⟩
    · rw [Ledger.record, hstep, heq]
      have hkeep := hfollows.keep
      rw [← hshows.items_eq] at hkeep
      exact hkeep
    · rw [heq]
      exact htimeline
  | some c =>
    have heq : (s.stopCurrent atMs).1 = s.cancel atMs := by rw [Scheduler.stopCurrent, hplaying]
    have hstep : (machine.event s (.stopCurrent atMs)).post = s.cancel atMs := heq
    have hitems : (s.cancel atMs).items =
        past.map Prod.fst ++ [{ c with status := .cancelled }] := by
      rw [Scheduler.cancel]
      dsimp only
      rw [hshows.items_eq, Option.toList_some,
        cancelPlaying_append htimeline.settled (htimeline.playing c rfl)]
    refine ⟨by rw [heq]; rfl, past ++ [({ c with status := .cancelled }, atMs)], none, ?_, ?_, ?_⟩
    · rw [Ledger.record, hstep, heq, hitems]
      have hcut := hfollows.cut c rfl none
      rw [Option.toList_none, List.append_nil] at hcut
      exact hcut
    · rw [heq]
      exact htimeline.finish .cancelled (by decide) (le_refl atMs) hpast
    · intro slot hslot
      refine ⟨_, rfl, ?_⟩
      rcases List.mem_append.mp hslot with hslot | hslot
      · exact hpast slot hslot
      · rw [List.mem_singleton.mp hslot]
        exact le_refl atMs

theorem length_cancelPlaying (items : List ScheduledItem) :
    (cancelPlaying items).length = items.length := by
  induction items with
  | nil => rfl
  | cons item items ih =>
    rw [cancelPlaying]
    split
    · rfl
    · rw [List.length_cons, List.length_cons, ih]

/-- Only the first item that plays is cancelled. -/
theorem cancelPlaying_getElem? {items : List ScheduledItem} {index : Nat} {item : ScheduledItem}
    (h : (cancelPlaying items)[index]? = some item) :
    items[index]? = some item ∨
      ∃ playing, items.find? (·.isPlaying) = some playing ∧ items[index]? = some playing := by
  induction items generalizing index with
  | nil => simp [cancelPlaying] at h
  | cons first items ih =>
    rw [cancelPlaying] at h
    by_cases hfirst : first.isPlaying = true
    · rw [if_pos hfirst] at h
      cases index with
      | zero => exact Or.inr ⟨first, by simp [hfirst], rfl⟩
      | succ index => exact Or.inl h
    · rw [if_neg hfirst] at h
      cases index with
      | zero => exact Or.inl h
      | succ index =>
        rcases ih h with h | ⟨playing, hfind, hget⟩
        · exact Or.inl h
        · exact Or.inr ⟨playing, by simp [hfirst, hfind], hget⟩

/-- A request never cuts what cannot be interrupted. -/
theorem schedule_uncut (s : Scheduler) (plan : PlannedPerformance) (index : Nat)
    (before after : ScheduledItem) (hbefore : s.items[index]? = some before)
    (hafter : (s.schedule plan).1.items[index]? = some after) (hplaying : before.isPlaying = true)
    (hfixed : before.interruptible = false) : after.status ≠ .cancelled := by
  have hexpired : (s.items.map (ScheduledItem.expire plan.startAtMs))[index]? =
      some (before.expire plan.startAtMs) := by rw [List.getElem?_map, hbefore]; rfl
  have hstatus : (before.expire plan.startAtMs).status ≠ .cancelled := by
    rw [ScheduledItem.isPlaying, decide_eq_true_eq] at hplaying
    rw [ScheduledItem.expire]
    split <;> simp [hplaying]
  have hkept : (before.expire plan.startAtMs).interruptible = false := by
    rw [ScheduledItem.expire]
    split <;> exact hfixed
  have hindex : index < (s.items.map (ScheduledItem.expire plan.startAtMs)).length :=
    (List.getElem?_eq_some_iff.mp hexpired).1
  have hsame : (s.items.map (ScheduledItem.expire plan.startAtMs))[index]? = some after →
      after.status ≠ .cancelled := by
    intro h
    rw [hexpired] at h
    cases h
    exact hstatus
  have haccept : (({ s with lastRejection := none }.completeExpired plan.startAtMs).accept
      plan).1.items[index]? = some after → after.status ≠ .cancelled :=
    fun h ↦ hsame ((List.getElem?_append_left hindex).symm.trans h)
  rw [schedule_eq] at hafter
  split at hafter
  · exact hsame hafter
  · split at hafter
    · exact haccept hafter
    · rename_i playing hfind
      split at hafter
      · exact hsame hafter
      · split at hafter
        · rename_i hinterruptible
          have hlength : index < (cancelPlaying
              (s.items.map (ScheduledItem.expire plan.startAtMs))).length := by
            rwa [length_cancelPlaying]
          have hafter := (List.getElem?_append_left hlength).symm.trans hafter
          rcases cancelPlaying_getElem? hafter with h | ⟨cut, hcut, hget⟩
          · exact hsame h
          · -- the item that is cut is the one that plays first, which can be interrupted
            have hcut : some cut = some playing := hcut.symm.trans hfind
            rw [Option.some.inj hcut, hexpired] at hget
            rw [← Option.some.inj hget, hkept] at hinterruptible
            cases hinterruptible
        · exact haccept hafter

/-- A request that does not give way plays over what cannot be interrupted. -/
theorem Respects.yields {op : Op} (h : Respects spacingMs ledger (machine.event s op)) :
    Yields ledger (machine.event s op) := by
  rintro plan hinput
  cases op with
  | stopCurrent atMs => cases hinput
  | schedule plan' =>
    cases hinput
    by_contra hway
    have hway : ¬ s.GivesWay plan := hway
    rw [Scheduler.GivesWay, not_or] at hway
    obtain ⟨hcool, hplaying⟩ := hway
    push Not at hplaying
    obtain ⟨playing, hfind, horder, hfixed⟩ := hplaying
    have hfind : (s.completeExpired plan.startAtMs).playing? = some playing := hfind
    have hitems : (machine.event s (.schedule plan)).post.items =
        s.items.map (ScheduledItem.expire plan.startAtMs) ++
          [({ s with lastRejection := none }.completeExpired plan.startAtMs).accepted plan] := by
      change (s.schedule plan).1.items = _
      rw [schedule_eq, if_neg hcool, hfind]
      simp only [gt_iff_lt, not_lt.mpr horder, if_false, hfixed]
      rfl
    have hlength : (machine.event s (.schedule plan)).post.items.length ≤
        (ledger.record (machine.event s (.schedule plan))).ends.length := by
      simp [Ledger.record]
    have hone : (((machine.event s (.schedule plan)).post.items.zip
        (ledger.record (machine.event s (.schedule plan))).ends).map Prod.fst).Pairwise
        fun a b ↦ ¬(a.isPlaying = true ∧ b.isPlaying = true) :=
      List.pairwise_map.mpr h.exclusive.onePlaying
    rw [List.map_fst_zip hlength, hitems, List.pairwise_append] at hone
    refine hone.2.2 playing (List.mem_of_find?_eq_some hfind) _ (List.mem_singleton_self _) ?_
    exact ⟨List.find?_some hfind, rfl⟩

/-! ## Runs -/

/-- The steps of a run whose instants do not decrease are ordered. -/
theorem meets_ordered (s : Scheduler) (ops : List Op)
    (h : (ops.map Op.atMs).Pairwise (· ≤ ·)) :
    machine.Meets Ledger.record Ordered s ⟨none, []⟩ ops := by
  rw [Machine.meets_iff_prefix]
  rintro before op after rfl now hnow
  rw [List.map_append, List.pairwise_append] at h
  cases before using List.reverseRecOn with
  | nil => cases hnow
  | append_singleton before last =>
    rw [Machine.watch_concat] at hnow
    cases hnow
    exact h.2.2 last.atMs (by simp) op.atMs (by simp)

/-- **The timeline is exclusive exactly as long as requests give way**.  In a run whose
instants do not decrease, and no request of which has a negative duration, every state is
exclusive if each request gives way to what it cannot interrupt; and a request that does not
breaks it at once. -/
theorem exclusive_iff_yields (minReactionSpacingMs : Option Int) (ops : List Op)
    (hordered : (ops.map Op.atMs).Pairwise (· ≤ ·)) :
    let start := Scheduler.new minReactionSpacingMs
    (machine.Meets Ledger.record (fun ledger e ↦ Yields ledger e ∧ Forward ledger e) start
        ⟨none, []⟩ ops →
      machine.Meets Ledger.record (Respects start.minReactionSpacingMs) start ⟨none, []⟩ ops) ∧
    (machine.Meets Ledger.record (Respects start.minReactionSpacingMs) start ⟨none, []⟩ ops →
      machine.Meets Ledger.record Yields start ⟨none, []⟩ ops) := by
  intro start
  have hnew : Accounted start.minReactionSpacingMs start ⟨none, []⟩ := by
    refine ⟨rfl, [], none, ⟨rfl, rfl⟩, ⟨?_, ?_, ?_, List.Pairwise.nil, ?_, ?_, ?_⟩, ?_⟩ <;> simp
  have hstep : ∀ (s : Scheduler) (ledger : Ledger) (op : Op),
      Accounted start.minReactionSpacingMs s ledger →
      Ordered ledger (machine.event s op) ∧ Yields ledger (machine.event s op) ∧
        Forward ledger (machine.event s op) →
      Accounted start.minReactionSpacingMs (machine.next s op)
        (ledger.record (machine.event s op)) := by
    rintro s ledger (plan | atMs) hs ⟨hordered, hyields, hforward⟩
    · exact hs.schedule hordered (hforward plan rfl) (hyields plan rfl)
    · exact hs.stopCurrent hordered
  constructor
  · intro hmeets
    have hall := machine.meets_and.mpr ⟨meets_ordered start ops hordered, hmeets⟩
    refine machine.meets_of_invariant hstep ?_ hnew hall
    intro s ledger op hs hmeet
    obtain ⟨-, past, current, hshows, htimeline, -⟩ := hstep s ledger op hs hmeet
    refine ⟨?_, ?_⟩
    · change Exclusive _ ((machine.next s op).items.zip _)
      rw [hshows.zip]
      exact htimeline.exclusive
    · intro plan hinput index before after hbefore hafter
      cases op with
      | stopCurrent atMs => cases hinput
      | schedule plan' =>
        cases hinput
        exact schedule_uncut s plan index before after hbefore hafter
  · exact fun hrespects ↦ Machine.Meets.imp machine hrespects fun _ _ _ h ↦ h.yields

/-- A performance of one second, from an instant on. -/
def performance (priority : PriorityClass) (eventId : String) (interruptible : Bool)
    (startAtMs : Int) : PlannedPerformance where
  eventId := eventId
  assetId := eventId
  priority := priority
  interruptible := interruptible
  interruptPointsMs := []
  startAtMs := startAtMs
  durationMs := 1000
  generation := 0

/-- One performance that interrupts another. -/
theorem exclusive_iff_yields_interrupt :
    machine.Meets Ledger.record (Respects 1500) (.new none) ⟨none, []⟩
      [.schedule (performance .background "evt-1" true 0),
        .schedule (performance .background "evt-2" true 100)] := by
  refine (exclusive_iff_yields none
    [.schedule (performance .background "evt-1" true 0),
      .schedule (performance .background "evt-2" true 100)]
    (by decide)).1 ⟨⟨?_, ?_⟩, ⟨?_, ?_⟩, trivial⟩
  · rintro plan ⟨⟩
    refine Or.inr ?_
    rintro playing ⟨⟩
  · rintro plan ⟨⟩
    decide
  · rintro plan ⟨⟩
    refine Or.inr ?_
    rintro playing ⟨⟩ -
    rfl
  · rintro plan ⟨⟩
    decide

/-- An operator's performance plays over another one that cannot be interrupted. -/
theorem operator_overlaps :
    ([.schedule (performance .operator "evt-1" false 0),
      .schedule (performance .operator "evt-2" true 100)].map Op.atMs).Pairwise (· ≤ ·) ∧
    ¬machine.Meets Ledger.record (Respects 1500) (.new none) ⟨none, []⟩
      [.schedule (performance .operator "evt-1" false 0),
        .schedule (performance .operator "evt-2" true 100)] := by
  refine ⟨by decide, fun h ↦ ?_⟩
  have hone := h.2.1.exclusive.onePlaying
  revert hone
  decide +kernel

end Aivtuber.Reference
