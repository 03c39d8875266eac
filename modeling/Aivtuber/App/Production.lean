import Aivtuber.Runtime.Security
import Aivtuber.Scheduler.Run

/-!
# The composition root

The control path of `ProductionApp` (`crates/app/src/lib.rs`): an emergency command
goes to the security runtime and from there to the scheduler, then the application
ticks.  Adapters, generation workers, telemetry and budgets are a `Host`: what they
may do is bounded by what they return, a state of their own, performances to
schedule and records to audit.
-/

namespace Aivtuber

structure AdapterHealth where
  audioError : Option String
  avatarError : Option String
  streamError : Option String
deriving DecidableEq, Repr

/-- The application, over the state `ρ` of its host. -/
structure ProductionApp (ρ : Type) where
  security : SecurityRuntime
  scheduler : Scheduler
  health : AdapterHealth
  rest : ρ
  scheduler_tidy : scheduler.Tidy

/-- What draining the generation and shadow completions of the workers leaves. -/
structure Drained (ρ : Type) where
  rest : ρ
  /-- Performances to schedule, with the time of each request. -/
  commits : List (Nat × PlannedPerformance)
  audit : List AuditRecord

/-- The parts of the application around the control path. -/
structure Host (ρ : Type) where
  /-- Cancel the active generation; whether there was one. -/
  cancelActive : ρ → ρ × Bool
  /-- Drop the pending commands of cancelled performances. -/
  purgeCancelledPending : Scheduler → ρ → ρ
  /-- Telemetry and causal trace of an operator override. -/
  recordOverride : AuthenticatedControlCommand → ControlOutcome → Bool → AdapterHealth → ρ → ρ
  /-- Drain completed work. -/
  drain : Nat → ProductionApp ρ → Drained ρ
  /-- Execute the audio and avatar commands that are due. -/
  dispatch : Nat → ProductionApp ρ → ρ × AdapterHealth
  /-- Whether generation work is in flight. -/
  generationActive : ρ → Bool
  /-- The serialized support bundle. -/
  supportBundle : ProductionApp ρ → String

inductive AppError where
  | runtime (error : RuntimeError)
deriving DecidableEq, Repr

def AppError.display : AppError → String
  | .runtime error => error.display

/-- Commits of a drain, then logical time. -/
def tickOps (commits : List (Nat × PlannedPerformance)) (nowMs : Nat) : List Scheduler.Op :=
  commits.map (fun commit ↦ .scheduleAt commit.1 commit.2) ++ [.advanceTo nowMs]

theorem Scheduler.run_tidy {s : Scheduler} (hs : s.Tidy) (ops : List Scheduler.Op) :
    (machine.run s ops).Tidy :=
  machine.run_invariant (P := Tidy) (fun _ op h ↦ (perform_effect h op).tidy h) hs ops

namespace ProductionApp

variable {ρ : Type} (host : Host ρ)

def tick (nowMs : Nat) (app : ProductionApp ρ) : ProductionApp ρ :=
  let drained := host.drain nowMs app
  let app := { app with
    security := drained.audit.foldl SecurityRuntime.pushAudit app.security
    scheduler := Scheduler.machine.run app.scheduler (tickOps drained.commits nowMs)
    rest := drained.rest
    scheduler_tidy := Scheduler.run_tidy app.scheduler_tidy _ }
  let dispatched := host.dispatch nowMs app
  { app with rest := dispatched.1, health := dispatched.2 }

/-- What the host does about an outcome before the tick. -/
def settle (command : AuthenticatedControlCommand) (outcome : ControlOutcome)
    (scheduler : Scheduler) (health : AdapterHealth) (rest : ρ) : ρ :=
  match outcome with
  | .authenticatedOther => rest
  | .muted =>
    let (rest, cancelled) := host.cancelActive rest
    host.recordOverride command outcome cancelled health rest
  | .stopped _ =>
    let (rest, cancelled) := host.cancelActive rest
    host.recordOverride command outcome cancelled health
      (host.purgeCancelledPending scheduler rest)

def handleControl (command : AuthenticatedControlCommand) (atMs : Nat) (app : ProductionApp ρ) :
    Except AppError (ProductionApp ρ × ControlOutcome) :=
  match h : app.security.handleControlWithScheduler command atMs app.scheduler with
  | .error error => .error (.runtime error)
  | .ok (security, scheduler, outcome) =>
    let rest := settle host command outcome scheduler app.health app.rest
    let app := { app with
      security, scheduler, rest
      scheduler_tidy := SecurityRuntime.handleControl_tidy h app.scheduler_tidy }
    .ok (app.tick host atMs, outcome)

/-! ## What a tick keeps -/

theorem foldl_pushAudit_muted (records : List AuditRecord) : ∀ security : SecurityRuntime,
    (records.foldl SecurityRuntime.pushAudit security).muted = security.muted := by
  induction records with
  | nil => intro security; rfl
  | cons entry records ih => intro security; exact ih _

theorem tick_muted (nowMs : Nat) (app : ProductionApp ρ) :
    (app.tick host nowMs).security.muted = app.security.muted := foldl_pushAudit_muted _ _

theorem tick_scheduler (nowMs : Nat) (app : ProductionApp ρ) :
    (app.tick host nowMs).scheduler =
      Scheduler.machine.run app.scheduler (tickOps (host.drain nowMs app).commits nowMs) := rfl

/-- An accepted command is followed by a tick. -/
theorem handleControl_eq_ok {command : AuthenticatedControlCommand} {atMs : Nat}
    {app : ProductionApp ρ} {security : SecurityRuntime} {scheduler : Scheduler}
    {outcome : ControlOutcome}
    (h : app.security.handleControlWithScheduler command atMs app.scheduler =
      .ok (security, scheduler, outcome)) :
    ∃ settled : ProductionApp ρ, settled.security = security ∧ settled.scheduler = scheduler ∧
      app.handleControl host command atMs = .ok (settled.tick host atMs, outcome) := by
  rw [handleControl]
  split
  case h_1 herror => rw [h] at herror; cases herror
  case h_2 hok =>
    obtain ⟨rfl, rfl, rfl⟩ : security = _ ∧ scheduler = _ ∧ outcome = _ := by
      simpa using h.symm.trans hok
    exact ⟨_, rfl, rfl, rfl⟩

end ProductionApp

end Aivtuber
