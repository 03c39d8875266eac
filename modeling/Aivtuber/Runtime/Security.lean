import Aivtuber.Domain.Control
import Aivtuber.Scheduler.Steps
import Aivtuber.Telemetry.Redactor

/-!
# The security runtime

The control path and the audit of `crates/runtime/src/lib.rs`.  A command applied to
the scheduler of the composition root either stops it, mutes the output, or changes
neither; each is audited.
-/

open Aivtuber.Check Saturating

namespace Aivtuber

inductive RuntimeError where
  | invalidConfiguration (field : String)
  | invalidEnvelope (message : String)
  | unauthorizedControl (reason : String)
deriving DecidableEq, Repr

def RuntimeError.display : RuntimeError → String
  | .invalidConfiguration field => "invalid runtime security configuration: " ++ field
  | .invalidEnvelope message => "invalid event envelope: " ++ message
  | .unauthorizedControl reason => "authenticated control rejected: " ++ reason

inductive ControlOutcome where
  | stopped (cancelled : Nat)
  | muted
  | authenticatedOther
deriving DecidableEq, Repr

structure SecurityRuntime where
  maxAuditRecords : Nat
  contentQueue : List EventEnvelope
  muted : Bool
  redactor : SecretRedactor
  audit : List AuditRecord
  auditHighWater : Nat
  auditEvicted : Nat

def validateAuthorityMatchesEvent (authority : AuthenticatedControl) (event : EventEnvelope) :
    Except RuntimeError Unit := do
  ensure (.unauthorizedControl "authority is not attached to an operator control event")
    (event.kind = .operatorCommand && event.plane = .control)
  let claim ← expect (.unauthorizedControl "missing authorization claim") event.authorization
  ensure (.unauthorizedControl "serialized claim does not match authenticated authority")
    (claim.principal = authority.principal && claim.method = authority.method &&
      claim.capabilities = authority.capabilities)

def requireCapability (authority : AuthenticatedControl) (capability : Capability) :
    Except RuntimeError Unit :=
  ensure (.unauthorizedControl "capability not granted") (capability ∈ authority.capabilities)

/-- The check of an authority against its event never fails: a command carries both. -/
theorem AuthenticatedControlCommand.validateAuthority (command : AuthenticatedControlCommand) :
    validateAuthorityMatchesEvent command.authority command.event = .ok () := by
  have hplane : command.event.plane = .control := by
    have hkind := command.valid.kind
    rw [EventEnvelope.KindAllowed, command.operatorCommand] at hkind
    exact hkind.plane
  simp only [validateAuthorityMatchesEvent, unit_bind_eq_ok, expect_bind_eq_ok, ensure_eq_ok]
  refine ⟨by simp [command.operatorCommand, hplane], _, command.authorized, ?_⟩
  simp [AuthenticatedControl.claim]

namespace SecurityRuntime

def pushAudit (security : SecurityRuntime) (entry : AuditRecord) : SecurityRuntime :=
  let audit := security.audit ++ [entry]
  let remove := audit.length - security.maxAuditRecords
  { security with
    audit := audit.drop remove
    auditEvicted := satAdd security.auditEvicted remove
    auditHighWater := max security.auditHighWater (audit.drop remove).length }

@[simp] theorem pushAudit_muted (security : SecurityRuntime) (entry : AuditRecord) :
    (security.pushAudit entry).muted = security.muted := rfl

/-- What a checked action does, before it is audited. -/
def performControl (security : SecurityRuntime) (authority : AuthenticatedControl)
    (action : String) (atMs : Nat) (scheduler : Scheduler) :
    Except RuntimeError (SecurityRuntime × Scheduler × ControlOutcome) := do
  if action = "stop" ∨ action = "performer.stop" then
    requireCapability authority .performerStop
    let (scheduler, stopped) := scheduler.stopAll atMs
    .ok (security, scheduler, .stopped stopped.length)
  else if action = "mute" ∨ action = "performer.mute" then
    requireCapability authority .performerMute
    .ok ({ security with muted := true }, scheduler, .muted)
  else .ok (security, scheduler, .authenticatedOther)

/-- The audit record of an accepted command. -/
def controlRecord (security : SecurityRuntime) (command : AuthenticatedControlCommand)
    (action : String) : AuditRecord :=
  security.redactor.record (some command.event.eventId) .authorization "authorized_control"
    ("principal=" ++ command.authority.principal ++ " action=" ++ action)

/-- Apply an authenticated command to the scheduler of the composition root. -/
def handleControlWithScheduler (security : SecurityRuntime)
    (command : AuthenticatedControlCommand) (atMs : Nat) (scheduler : Scheduler) :
    Except RuntimeError (SecurityRuntime × Scheduler × ControlOutcome) := do
  validateAuthorityMatchesEvent command.authority command.event
  let action ← expect (.unauthorizedControl "missing action")
    (command.event.payload["action"]?.bind JsonValue.asStr)
  let (security, scheduler, outcome) ←
    security.performControl command.authority action atMs scheduler
  .ok (security.pushAudit (security.controlRecord command action), scheduler, outcome)

/-! ## What a command does -/

variable {security security' : SecurityRuntime} {s t : Scheduler} {outcome : ControlOutcome}
variable {atMs : Nat}

/-- What an action can do to the runtime and to the scheduler. -/
inductive Performed (authority : AuthenticatedControl) (atMs : Nat) (security : SecurityRuntime)
    (s : Scheduler) : SecurityRuntime → Scheduler → ControlOutcome → Prop
  | stop (hgranted : .performerStop ∈ authority.capabilities) :
      Performed authority atMs security s security (s.stopAll atMs).1
        (.stopped (s.stopAll atMs).2.length)
  | mute (hgranted : .performerMute ∈ authority.capabilities) :
      Performed authority atMs security s { security with muted := true } s .muted
  | other : Performed authority atMs security s security s .authenticatedOther

theorem performControl_performed {authority : AuthenticatedControl} {action : String}
    (h : security.performControl authority action atMs s = .ok (security', t, outcome)) :
    Performed authority atMs security s security' t outcome := by
  rw [performControl] at h
  split_ifs at h
  · obtain ⟨hgranted, h⟩ := unit_bind_eq_ok.mp h
    cases h
    exact .stop (of_decide_eq_true (ensure_eq_ok.mp hgranted))
  · obtain ⟨hgranted, h⟩ := unit_bind_eq_ok.mp h
    cases h
    exact .mute (of_decide_eq_true (ensure_eq_ok.mp hgranted))
  · cases h
    exact .other

/-- A command that is accepted was performed, then audited. -/
theorem handleControl_performed {command : AuthenticatedControlCommand}
    (h : security.handleControlWithScheduler command atMs s = .ok (security', t, outcome)) :
    ∃ performed entry, security' = performed.pushAudit entry ∧
      Performed command.authority atMs security s performed t outcome := by
  obtain ⟨-, h⟩ := unit_bind_eq_ok.mp h
  obtain ⟨action, -, h⟩ := expect_bind_eq_ok.mp h
  obtain ⟨⟨performed, scheduler, result⟩, hperform, h⟩ := bind_eq_ok.mp h
  cases h
  exact ⟨performed, _, rfl, performControl_performed hperform⟩

theorem handleControl_stop (security : SecurityRuntime) (s : Scheduler) (atMs : Nat)
    {command : AuthenticatedControlCommand}
    (haction : command.event.payload["action"]? = some (.string "stop"))
    (hgranted : .performerStop ∈ command.authority.capabilities) :
    security.handleControlWithScheduler command atMs s =
      .ok (security.pushAudit (security.controlRecord command "stop"), (s.stopAll atMs).1,
        .stopped (s.stopAll atMs).2.length) := by
  refine unit_bind_eq_ok.mpr ⟨command.validateAuthority, expect_bind_eq_ok.mpr ⟨"stop", ?_, ?_⟩⟩
  · rw [haction]
    rfl
  · refine bind_eq_ok.mpr ⟨(security, (s.stopAll atMs).1, _), ?_, rfl⟩
    exact unit_bind_eq_ok.mpr ⟨ensure_eq_ok.mpr (decide_eq_true hgranted), rfl⟩

theorem handleControl_mute (security : SecurityRuntime) (s : Scheduler) (atMs : Nat)
    {command : AuthenticatedControlCommand}
    (haction : command.event.payload["action"]? = some (.string "mute"))
    (hgranted : .performerMute ∈ command.authority.capabilities) :
    security.handleControlWithScheduler command atMs s =
      .ok ({ security with muted := true }.pushAudit (security.controlRecord command "mute"), s,
        .muted) := by
  refine unit_bind_eq_ok.mpr ⟨command.validateAuthority, expect_bind_eq_ok.mpr ⟨"mute", ?_, ?_⟩⟩
  · rw [haction]
    rfl
  · refine bind_eq_ok.mpr ⟨({ security with muted := true }, s, .muted), ?_, rfl⟩
    exact unit_bind_eq_ok.mpr ⟨ensure_eq_ok.mpr (decide_eq_true hgranted), rfl⟩

theorem handleControl_tidy {command : AuthenticatedControlCommand}
    (h : security.handleControlWithScheduler command atMs s = .ok (security', t, outcome))
    (hs : s.Tidy) : t.Tidy := by
  obtain ⟨performed, entry, -, hperformed⟩ := handleControl_performed h
  cases hperformed with
  | stop => exact (Scheduler.stopAll_steps hs atMs).tidy hs
  | mute | other => exact hs

end SecurityRuntime

end Aivtuber
