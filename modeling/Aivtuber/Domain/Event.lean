import Mathlib.Data.Finset.Basic
import Std.Data.ExtTreeMap
import Aivtuber.Base.Check
import Aivtuber.Base.Float64
import Aivtuber.Domain.DateTime

/-!
# Event envelopes

`EventEnvelope` of `crates/domain/src/event.rs` and its validation.  An envelope
is accepted exactly when it is `WellFormed`: the kind decides which source class,
plane and trust levels are allowed, and only an operator command may, and must,
carry an authorization.
-/

open Aivtuber.Check
open Std (ExtTreeMap)

namespace Aivtuber

/-- A JSON value; an object is the list of its members. -/
inductive JsonValue where
  | null
  | bool (value : Bool)
  | integer (value : Int)
  | float (value : Float64)
  | string (value : String)
  | array (items : List JsonValue)
  | object (members : List (String × JsonValue))

def JsonValue.asStr : JsonValue → Option String
  | .string value => some value
  | _ => none

/-- Validation failure for a domain value. -/
structure DomainValidationError where
  field : String
  message : String
deriving DecidableEq, Repr

def DomainValidationError.display (error : DomainValidationError) : String :=
  error.field ++ ": " ++ error.message

inductive SourceClass where
  | publicChat | donation | speech | game | stream | timer | operator | system
deriving DecidableEq, Repr

inductive SecurityPlane where
  | content | control | system
deriving DecidableEq, Repr

inductive TrustLevel where
  | untrusted | semiTrusted | trusted
deriving DecidableEq, Repr

inductive EventKind where
  | chatMessage | chatDonation | speechInput | gameEvent | streamEvent | timerTick
  | operatorCommand | systemHealth
deriving DecidableEq, Repr

def EventKind.debug : EventKind → String
  | .chatMessage => "ChatMessage"
  | .chatDonation => "ChatDonation"
  | .speechInput => "SpeechInput"
  | .gameEvent => "GameEvent"
  | .streamEvent => "StreamEvent"
  | .timerTick => "TimerTick"
  | .operatorCommand => "OperatorCommand"
  | .systemHealth => "SystemHealth"

inductive Capability where
  | performerMute | performerStop | obsControl | avatarControl | memoryAdmin | toolGrant
deriving DecidableEq, Repr

inductive AuthorizationMethod where
  | operatorUi | operatorHotkey | signedLocalApi
deriving DecidableEq, Repr

/-- Serializable authorization claim: data, not proof of authenticated ingress. -/
structure AuthorizationContext where
  principal : String
  method : AuthorizationMethod
  capabilities : Finset Capability
deriving DecidableEq

structure EventEnvelope where
  schemaVersion : String
  eventId : String
  correlationId : String
  sequence : Nat
  observedAt : String
  source : String
  sourceClass : SourceClass
  plane : SecurityPlane
  trustLevel : TrustLevel
  kind : EventKind
  actorId : Option String
  priorityHint : Option Float64
  authorization : Option AuthorizationContext
  payload : ExtTreeMap String JsonValue

def eventSchemaVersion : String := "0.2.0"

/-! ## Validation -/

def requireNonEmpty (field value : String) : Except DomainValidationError Unit :=
  ensure ⟨field, "must not be empty"⟩ (value ≠ "")

def validateDateTime (field value : String) : Except DomainValidationError Unit :=
  ensure ⟨field, "must be an RFC 3339 date-time"⟩ (isJsonSchemaDateTime value)

def Float64.inUnitInterval : Float64 → Bool
  | .finite value => 0 ≤ value && value ≤ 1
  | .infinite _ | .nan => false

def validateUnitInterval (field : String) (value : Float64) : Except DomainValidationError Unit :=
  ensure ⟨field, "must be a finite value in 0..=1"⟩ value.inUnitInterval

namespace EventEnvelope

def validateUnprivileged (event : EventEnvelope) (sourceClass : SourceClass)
    (plane : SecurityPlane) (trust : List TrustLevel) : Except DomainValidationError Unit := do
  ensure ⟨"source_class", "invalid source class for " ++ event.kind.debug⟩
    (event.sourceClass = sourceClass)
  ensure ⟨"plane", "invalid security plane for " ++ event.kind.debug⟩ (event.plane = plane)
  ensure ⟨"trust_level", "invalid trust level for " ++ event.kind.debug⟩
    (event.trustLevel ∈ trust)
  ensure ⟨"authorization", "authorization is forbidden outside operator.command"⟩
    event.authorization.isNone

def validateOperatorCommand (event : EventEnvelope) : Except DomainValidationError Unit := do
  ensure ⟨"source_class", "operator.command requires source_class=operator"⟩
    (event.sourceClass = .operator)
  ensure ⟨"plane", "operator.command requires plane=control"⟩ (event.plane = .control)
  ensure ⟨"trust_level", "operator.command requires trust_level=trusted"⟩
    (event.trustLevel = .trusted)
  let authorization ← expect ⟨"authorization", "operator.command requires authorization"⟩
    event.authorization
  requireNonEmpty "authorization.principal" authorization.principal
  ensure ⟨"authorization.capabilities", "at least one capability is required"⟩
    (authorization.capabilities ≠ ∅)

def validatePriorityHint (event : EventEnvelope) : Except DomainValidationError Unit :=
  match event.priorityHint with
  | some priority => validateUnitInterval "priority_hint" priority
  | none => pure ()

def validateKind (event : EventEnvelope) : Except DomainValidationError Unit :=
  match event.kind with
  | .chatMessage => event.validateUnprivileged .publicChat .content [.untrusted, .semiTrusted]
  | .chatDonation => event.validateUnprivileged .donation .content [.untrusted, .semiTrusted]
  | .speechInput => event.validateUnprivileged .speech .content [.untrusted, .semiTrusted]
  | .gameEvent => event.validateUnprivileged .game .content [.semiTrusted]
  | .streamEvent => event.validateUnprivileged .stream .system [.semiTrusted, .trusted]
  | .timerTick => event.validateUnprivileged .timer .system [.trusted]
  | .systemHealth => event.validateUnprivileged .system .system [.trusted]
  | .operatorCommand => event.validateOperatorCommand

/-- Validate schema version, trust classification and authorization. -/
def validate (event : EventEnvelope) : Except DomainValidationError Unit := do
  ensure ⟨"schema_version", "expected " ++ eventSchemaVersion⟩
    (event.schemaVersion = eventSchemaVersion)
  requireNonEmpty "event_id" event.eventId
  requireNonEmpty "correlation_id" event.correlationId
  validateDateTime "observed_at" event.observedAt
  requireNonEmpty "source" event.source
  event.validatePriorityHint
  event.validateKind

/-! ## What validation accepts -/

/-- Where an event of each kind comes from; `none` for the privileged kind. -/
def origin : EventKind → Option (SourceClass × SecurityPlane × List TrustLevel)
  | .chatMessage => some (.publicChat, .content, [.untrusted, .semiTrusted])
  | .chatDonation => some (.donation, .content, [.untrusted, .semiTrusted])
  | .speechInput => some (.speech, .content, [.untrusted, .semiTrusted])
  | .gameEvent => some (.game, .content, [.semiTrusted])
  | .streamEvent => some (.stream, .system, [.semiTrusted, .trusted])
  | .timerTick => some (.timer, .system, [.trusted])
  | .systemHealth => some (.system, .system, [.trusted])
  | .operatorCommand => none

/-- An event outside the control plane has the origin of its kind and no authorization. -/
structure Unprivileged (event : EventEnvelope) (sourceClass : SourceClass)
    (plane : SecurityPlane) (trust : List TrustLevel) : Prop where
  sourceClass : event.sourceClass = sourceClass
  plane : event.plane = plane
  trustLevel : event.trustLevel ∈ trust
  authorization : event.authorization = none

/-- An operator command is trusted, on the control plane, and claims a capability. -/
structure Privileged (event : EventEnvelope) : Prop where
  sourceClass : event.sourceClass = .operator
  plane : event.plane = .control
  trustLevel : event.trustLevel = .trusted
  authorization : ∃ claim, event.authorization = some claim ∧ claim.principal ≠ "" ∧
    claim.capabilities ≠ ∅

/-- What the kind of an event requires. -/
def KindAllowed (event : EventEnvelope) : Prop :=
  match origin event.kind with
  | some (sourceClass, plane, trust) => event.Unprivileged sourceClass plane trust
  | none => event.Privileged

/-- A valid envelope. -/
structure WellFormed (event : EventEnvelope) : Prop where
  schemaVersion : event.schemaVersion = eventSchemaVersion
  eventId : event.eventId ≠ ""
  correlationId : event.correlationId ≠ ""
  observedAt : isJsonSchemaDateTime event.observedAt = true
  source : event.source ≠ ""
  priorityHint : ∀ priority ∈ event.priorityHint, priority.inUnitInterval = true
  kind : event.KindAllowed

theorem validateUnprivileged_eq_ok {event : EventEnvelope} {sourceClass : SourceClass}
    {plane : SecurityPlane} {trust : List TrustLevel} :
    event.validateUnprivileged sourceClass plane trust = .ok () ↔
      event.Unprivileged sourceClass plane trust := by
  simp only [validateUnprivileged, unit_bind_eq_ok, ensure_eq_ok, decide_eq_true_eq,
    Option.isNone_iff_eq_none]
  exact ⟨fun ⟨h₁, h₂, h₃, h₄⟩ ↦ ⟨h₁, h₂, h₃, h₄⟩, fun ⟨h₁, h₂, h₃, h₄⟩ ↦ ⟨h₁, h₂, h₃, h₄⟩⟩

theorem validateOperatorCommand_eq_ok {event : EventEnvelope} :
    event.validateOperatorCommand = .ok () ↔ event.Privileged := by
  simp only [validateOperatorCommand, requireNonEmpty, unit_bind_eq_ok, expect_bind_eq_ok,
    ensure_eq_ok, decide_eq_true_eq]
  exact ⟨fun ⟨h₁, h₂, h₃, h₄⟩ ↦ ⟨h₁, h₂, h₃, h₄⟩, fun ⟨h₁, h₂, h₃, h₄⟩ ↦ ⟨h₁, h₂, h₃, h₄⟩⟩

theorem validateKind_eq_ok {event : EventEnvelope} :
    event.validateKind = .ok () ↔ event.KindAllowed := by
  rw [validateKind, KindAllowed]
  cases event.kind with
  | operatorCommand => exact validateOperatorCommand_eq_ok
  | _ => exact validateUnprivileged_eq_ok

theorem validatePriorityHint_eq_ok {event : EventEnvelope} :
    event.validatePriorityHint = .ok () ↔
      ∀ priority ∈ event.priorityHint, priority.inUnitInterval = true := by
  rw [validatePriorityHint]
  cases event.priorityHint with
  | none => simp [pure, Except.pure]
  | some priority => simp [validateUnitInterval, ensure_eq_ok]

/-- **Validation accepts exactly the well-formed envelopes**. -/
theorem validate_eq_ok {event : EventEnvelope} : event.validate = .ok () ↔ event.WellFormed := by
  simp only [validate, requireNonEmpty, validateDateTime, unit_bind_eq_ok, ensure_eq_ok,
    decide_eq_true_eq, validatePriorityHint_eq_ok, validateKind_eq_ok]
  exact ⟨fun ⟨h₁, h₂, h₃, h₄, h₅, h₆, h₇⟩ ↦ ⟨h₁, h₂, h₃, h₄, h₅, h₆, h₇⟩,
    fun ⟨h₁, h₂, h₃, h₄, h₅, h₆, h₇⟩ ↦ ⟨h₁, h₂, h₃, h₄, h₅, h₆, h₇⟩⟩

end EventEnvelope

end Aivtuber
