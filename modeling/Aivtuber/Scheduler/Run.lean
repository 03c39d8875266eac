import Aivtuber.Base.Machine
import Aivtuber.Scheduler.Queue

/-!
# The scheduler as a machine

The operations a host calls, as inputs of a machine (`machine`), and what a step
of it can do (`Effect`): quiet mutations, a drain of the history, or quiet
mutations followed by the acceptance of a plan that is fresh and clear of every
live item it conflicts with.  An invariant of whole runs is proved of the three
effects.
-/

open Saturating

namespace Aivtuber

namespace Scheduler

/-- What holds of the state `t` in which the plan `q` is accepted, for a request
made in `s`. -/
structure Accepted (s : Scheduler) (requestAtMs : Nat) (plan : PlannedPerformance)
    (t : Scheduler) (q : PlannedPerformance) : Prop where
  steps : Steps s t
  postponed : (s.requestedPlan requestAtMs plan).Postponed q
  /-- No item of the request's state carries its event id. -/
  fresh : ∀ item ∈ s.items, item.plan.eventId ≠ q.eventId
  cooled : s.cooldowns[q.assetId]?.getD 0 ≤ q.startAtMs
  clear : ∀ item ∈ t.items, plansConflict item.plan q →
    ¬ intervalsOverlap q.startAtMs q.endAtMs item.plan.startAtMs item.effectiveEndMs

/-- A live item the request has arbitrated with, and found nothing queued in the
way of, is clear of it. -/
theorem not_overlap_of_clear {q q' : PlannedPerformance} {item : ScheduledItem}
    (hpost : q.Postponed q') (hlive : item.Live)
    (hplaying : contends q item → item.effectiveEndMs ≤ q.startAtMs)
    (hqueued : blocks q' item = false) (hconf : plansConflict item.plan q') :
    ¬ intervalsOverlap q'.startAtMs q'.endAtMs item.plan.startAtMs item.effectiveEndMs := by
  intro hover
  rcases hlive with hstatus | ⟨hstatus, -⟩
  · rw [hpost.plansConflict_eq] at hconf
    have hend := hplaying (by simp [contends, hstatus, hconf])
    simp only [intervalsOverlap, Bool.and_eq_true, decide_eq_true_eq] at hover
    exact absurd (hend.trans hpost.start_le) (not_le.mpr hover.1)
  · rw [blocks, hstatus, hconf, hover] at hqueued
    cases hqueued

theorem Contended.accepted {s t t' : Scheduler} {requestAtMs : Nat} {plan q q' : PlannedPerformance}
    (hcon : s.Contended requestAtMs plan t q) (hres : t.Resolved q t' q') (hs : s.Tidy) :
    s.Accepted requestAtMs plan t' q' := by
  have hsteps := (hcon.steps hs).trans hres.steps
  have hpost := hcon.postponed.trans hres.postponed
  refine ⟨hsteps, hpost, fun item hitem ↦ ?_, ?_, fun item hitem ↦ ?_⟩
  · rw [hpost.eventId_eq]
    exact hcon.fresh item hitem
  · rw [hpost.assetId_eq]
    exact hcon.cooled.trans hres.postponed.start_le
  · exact not_overlap_of_clear hres.postponed (hsteps.tidy hs item hitem)
      (hcon.clear item (hres.subset hitem)) (hres.clear item hitem)

theorem Accepted.fresh_after {s t : Scheduler} {requestAtMs : Nat} {plan q : PlannedPerformance}
    (h : s.Accepted requestAtMs plan t q) : ∀ item ∈ t.items, item.plan.eventId ≠ q.eventId := by
  intro item hitem
  obtain ⟨item₀, hitem₀, hplan⟩ := h.steps.plans_subset item hitem
  rw [← hplan]
  exact h.fresh item₀ hitem₀

/-- **Scheduling.**  A request is rejected and leaves the state alone, but for the
recorded reason, or its plan is accepted. -/
theorem scheduleNow_cases {s : Scheduler} (hs : s.Tidy) (requestAtMs : Nat)
    (plan : PlannedPerformance) :
    (∃ rejection, s.scheduleNow requestAtMs plan = s.reject rejection) ∨
      ∃ t q, s.scheduleNow requestAtMs plan = t.accept q ∧ s.Accepted requestAtMs plan t q := by
  rw [scheduleNow]
  cases hc : s.contend requestAtMs plan with
  | error rejection => exact Or.inl ⟨rejection, rfl⟩
  | ok state =>
    exact Or.inr ⟨_, _, rfl, (contend_ok hc).accepted (resolveQueue_spec _ _ _) hs⟩

/-- A request that finds nothing live and no cooldown is accepted. -/
theorem scheduleNow_idle {s : Scheduler} (hitems : s.items = []) {requestAtMs : Nat}
    {plan : PlannedPerformance}
    (hcool : s.cooldowns[plan.assetId]?.getD 0 ≤ (s.requestedPlan requestAtMs plan).startAtMs) :
    s.scheduleNow requestAtMs plan =
      s.accept { s.requestedPlan requestAtMs plan with
        startAtMs := s.spacedStart (s.requestedPlan requestAtMs plan)
          (s.handoff requestAtMs (s.requestedPlan requestAtMs plan)) } := by
  have hsame : ({ s with items := [] } : Scheduler) = s := by rw [← hitems]
  rw [scheduleNow, contend_eq]
  dsimp only
  rw [if_neg (by simp [hitems]), if_neg (not_lt.mpr hcool), if_neg (by simp [hitems])]
  dsimp only
  rw [hitems, List.map_nil, hsame, resolveQueue_succ, if_pos]
  rw [queuedSlots_eq_nil_iff, hitems]
  exact fun item hitem ↦ absurd hitem List.not_mem_nil

/-! ## Operations -/

/-- The operations of a host. -/
inductive Op where
  | schedule (plan : PlannedPerformance)
  | scheduleAt (requestAtMs : Nat) (plan : PlannedPerformance)
  | advanceTo (atMs : Nat)
  | stopAll (atMs : Nat)
  | stopCurrent (atMs : Nat)
  | completeAll
  | drainHistory

/-- What an operation returns. -/
inductive Outcome where
  | scheduled (result : Except Rejection PlannedPerformance)
  | stopped (plans : List PlannedPerformance)
  | drained (entries : List HistoryEntry)
  | done

/-- The plan an operation has accepted. -/
def Outcome.accepted? : Outcome → Option PlannedPerformance
  | .scheduled (.ok plan) => some plan
  | _ => none

/-- The history entries an operation has handed out. -/
def Outcome.entries : Outcome → List HistoryEntry
  | .drained entries => entries
  | _ => []

/-- One operation. -/
def perform (s : Scheduler) : Op → Scheduler × Outcome
  | .schedule plan => (s.schedule plan).map id .scheduled
  | .scheduleAt requestAtMs plan => (s.scheduleAt requestAtMs plan).map id .scheduled
  | .advanceTo atMs => (s.advanceTo atMs, .done)
  | .stopAll atMs => (s.stopAll atMs).map id .stopped
  | .stopCurrent atMs => (s.stopCurrent atMs).map id fun plan ↦ .stopped plan.toList
  | .completeAll => (s.completeAll, .done)
  | .drainHistory => s.drainHistory.map id .drained

/-- The scheduler, driven by a host. -/
def machine : Machine Scheduler Op Outcome := ⟨perform⟩

/-- What one operation can do. -/
inductive Effect : Scheduler → Scheduler → Outcome → Prop
  | quiet {s t : Scheduler} {out : Outcome} (h : Steps s t) (haccepted : out.accepted? = none)
      (hentries : out.entries = []) : Effect s t out
  | drain (s : Scheduler) : Effect s { s with history := [] } (.drained s.history)
  | accept {s t : Scheduler} {q : PlannedPerformance} (h : Steps s t)
      (hfresh : ∀ item ∈ t.items, item.plan.eventId ≠ q.eventId)
      (hclear : ∀ item ∈ t.items, plansConflict item.plan q →
        ¬ intervalsOverlap q.startAtMs q.endAtMs item.plan.startAtMs item.effectiveEndMs) :
      Effect s (t.accept q).1 (.scheduled (t.accept q).2)

theorem scheduleAt_effect {s : Scheduler} (hs : s.Tidy) (requestAtMs : Nat)
    (plan : PlannedPerformance) :
    Effect s (s.scheduleAt requestAtMs plan).1 (.scheduled (s.scheduleAt requestAtMs plan).2) := by
  have hbook : Steps s { s with lastRejection := none } :=
    Steps.book ⟨rfl, rfl, rfl, rfl, rfl, rfl, rfl⟩
  have hadvance := hbook.trans (advanceTo_steps (s := { s with lastRejection := none }) hs
    requestAtMs)
  rw [scheduleAt]
  rcases scheduleNow_cases (hadvance.tidy hs) requestAtMs plan with ⟨r, hr⟩ | ⟨t, q, hq, hacc⟩
  · rw [hr]
    exact .quiet (hadvance.trans (reject_steps _ r)) rfl rfl
  · rw [hq]
    exact .accept (hadvance.trans hacc.steps) hacc.fresh_after hacc.clear

/-- **The effect of an operation.** -/
theorem perform_effect {s : Scheduler} (hs : s.Tidy) (op : Op) :
    Effect s (s.perform op).1 (s.perform op).2 := by
  cases op with
  | schedule plan => exact scheduleAt_effect hs plan.startAtMs plan
  | scheduleAt requestAtMs plan => exact scheduleAt_effect hs requestAtMs plan
  | advanceTo atMs => exact .quiet (advanceTo_steps hs atMs) rfl rfl
  | stopAll atMs => exact .quiet (stopAll_steps hs atMs) rfl rfl
  | stopCurrent atMs => exact .quiet (stopCurrent_steps hs atMs) rfl rfl
  | completeAll => exact .quiet (completeAll_steps hs) rfl rfl
  | drainHistory => exact .drain s

theorem accept_tidy {t : Scheduler} (ht : t.Tidy) (q : PlannedPerformance) :
    (t.accept q).1.Tidy := by
  intro item hitem
  rcases List.mem_append.mp hitem with hitem | hitem
  · exact ht item hitem
  · rw [List.mem_singleton.mp hitem]
    by_cases hstart : q.startAtMs ≤ t.nowMs
    · exact Or.inl (if_pos hstart)
    · exact Or.inr ⟨if_neg hstart, rfl⟩

theorem Effect.tidy {s t : Scheduler} {out : Outcome} (h : Effect s t out) (hs : s.Tidy) :
    t.Tidy := by
  cases h with
  | quiet h => exact h.tidy hs
  | drain => exact hs
  | accept h => exact accept_tidy (h.tidy hs) _

theorem new_tidy (config : SchedulerConfig) : (new config).Tidy :=
  fun _ hitem ↦ absurd hitem List.not_mem_nil

/-- **Effect invariants.**  What every effect on tidy states preserves holds in
every reachable state. -/
theorem reachable_invariant {P : Scheduler → Prop} (config : SchedulerConfig)
    (hnew : P (new config))
    (heffect : ∀ s t out, s.Tidy → Effect s t out → P s → P t) (ops : List Op) :
    P (machine.run (new config) ops) := by
  refine (machine.run_invariant (P := fun s ↦ s.Tidy ∧ P s) (fun s op ⟨hs, hP⟩ ↦ ?_)
    ⟨new_tidy config, hnew⟩ ops).2
  have h := perform_effect hs op
  exact ⟨h.tidy hs, heffect _ _ _ hs h hP⟩

theorem reachable_tidy (config : SchedulerConfig) (ops : List Op) :
    (machine.run (new config) ops).Tidy :=
  machine.run_invariant (P := Tidy) (fun _ op hs ↦ (perform_effect hs op).tidy hs)
    (new_tidy config) ops

theorem Effect.config_eq {s t : Scheduler} {out : Outcome} (h : Effect s t out) :
    t.config = s.config := by
  cases h with
  | quiet h => exact h.config_eq
  | drain => rfl
  | accept h => exact h.config_eq

end Scheduler

end Aivtuber
