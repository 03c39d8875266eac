import Mathlib.Data.Finset.Insert
import Aivtuber.Domain.Event

/-!
# Authenticated local control

The ingress of `crates/domain/src/control.rs`: the only place where control
authority is minted.  A command carries its authority together with the event that
claims it, and the two agree by construction, so that whoever holds a command need
not compare them again.  With the right secret and a granted action, authentication
comes down to the validation of the event that it builds (`authenticate_eq_ok`).
-/

open Aivtuber.Check Aivtuber.Text

namespace Aivtuber

def controlSecretLen : Nat := 32

/-- The bytes of a local-session secret. -/
abbrev ControlSecret := { bytes : List UInt8 // bytes.length = controlSecretLen }

structure OperatorCommandInput where
  eventId : String
  correlationId : String
  sequence : Nat
  observedAt : String
  action : String
  payload : Std.ExtTreeMap String JsonValue

/-- Proof of authenticated local control authority. -/
structure AuthenticatedControl where
  principal : String
  method : AuthorizationMethod
  capabilities : Finset Capability
deriving DecidableEq

/-- The serializable claim of an authority. -/
def AuthenticatedControl.claim (authority : AuthenticatedControl) : AuthorizationContext where
  principal := authority.principal
  method := authority.method
  capabilities := authority.capabilities

/-- An authenticated command: a valid operator event and the authority it claims. -/
structure AuthenticatedControlCommand where
  event : EventEnvelope
  authority : AuthenticatedControl
  valid : event.WellFormed
  operatorCommand : event.kind = .operatorCommand
  authorized : event.authorization = some authority.claim

inductive ControlIngressError where
  | invalidConfiguration (field : String)
  | authenticationFailed
  | actionNotAllowlisted
  | capabilityNotGranted (capability : Capability)
  | invalidCommand (message : String)
deriving DecidableEq, Repr

/-- Trusted local ingress that verifies a session secret before it mints authority. -/
structure LocalControlIngress where
  source : String
  principal : String
  method : AuthorizationMethod
  capabilities : Finset Capability
  secret : ControlSecret
  source_not_blank : isBlank source = false
  principal_not_blank : isBlank principal = false
  capabilities_nonempty : capabilities ≠ ∅

def capabilityForAction (action : String) : Option Capability :=
  if action = "stop" ∨ action = "performer.stop" then some .performerStop
  else if action = "mute" ∨ action = "performer.mute" then some .performerMute
  else if action = "obs.control" then some .obsControl
  else if action = "avatar.control" then some .avatarControl
  else if action = "memory.admin" then some .memoryAdmin
  else if action = "tool.grant" then some .toolGrant
  else none

/-- Comparison that folds every byte, whatever the first difference. -/
def constantTimeEq (expected presented : ControlSecret) : Bool :=
  (expected.val.zip presented.val).foldl
    (fun difference pair ↦ difference ||| (pair.1 ^^^ pair.2)) 0 == 0

namespace LocalControlIngress

def new (source principal : String) (method : AuthorizationMethod)
    (capabilities : Finset Capability) (secret : ControlSecret) :
    Except ControlIngressError LocalControlIngress :=
  if hsource : isBlank source = true then .error (.invalidConfiguration "source")
  else if hprincipal : isBlank principal = true then .error (.invalidConfiguration "principal")
  else if hcapabilities : capabilities = ∅ then .error (.invalidConfiguration "capabilities")
  else .ok
    { source, principal, method, capabilities, secret
      source_not_blank := Bool.eq_false_iff.mpr hsource
      principal_not_blank := Bool.eq_false_iff.mpr hprincipal
      capabilities_nonempty := hcapabilities }

/-- Secret verification for reads that need no authority. -/
def verifySecret (ingress : LocalControlIngress) (presented : ControlSecret) : Bool :=
  constantTimeEq ingress.secret presented

/-- The authority of one action: the capability it requires and no other. -/
def authority (ingress : LocalControlIngress) (required : Capability) : AuthenticatedControl where
  principal := ingress.principal
  method := ingress.method
  capabilities := {required}

/-- The event of a command. -/
def commandEvent (ingress : LocalControlIngress) (input : OperatorCommandInput)
    (required : Capability) : EventEnvelope where
  schemaVersion := eventSchemaVersion
  eventId := input.eventId
  correlationId := input.correlationId
  sequence := input.sequence
  observedAt := input.observedAt
  source := ingress.source
  sourceClass := .operator
  plane := .control
  trustLevel := .trusted
  kind := .operatorCommand
  actorId := none
  priorityHint := none
  authorization := some (ingress.authority required).claim
  payload := input.payload.insert "action" (.string input.action)

/-- The command of a valid event. -/
def mint (ingress : LocalControlIngress) (input : OperatorCommandInput) (required : Capability)
    (hvalid : (ingress.commandEvent input required).validate = .ok ()) :
    AuthenticatedControlCommand where
  event := ingress.commandEvent input required
  authority := ingress.authority required
  valid := EventEnvelope.validate_eq_ok.mp hvalid
  operatorCommand := rfl
  authorized := rfl

def authenticate (ingress : LocalControlIngress) (input : OperatorCommandInput)
    (presented : ControlSecret) : Except ControlIngressError AuthenticatedControlCommand := do
  ensure .authenticationFailed (constantTimeEq ingress.secret presented)
  let required ← expect .actionNotAllowlisted (capabilityForAction input.action)
  ensure (.capabilityNotGranted required) (required ∈ ingress.capabilities)
  match hvalid : (ingress.commandEvent input required).validate with
  | .error error => .error (.invalidCommand error.display)
  | .ok () => .ok (ingress.mint input required hvalid)

/-! ## What authentication accepts -/

theorem fold_difference_eq_zero (pairs : List (UInt8 × UInt8)) : ∀ difference : UInt8,
    pairs.foldl (fun difference pair ↦ difference ||| (pair.1 ^^^ pair.2)) difference = 0 ↔
      difference = 0 ∧ ∀ pair ∈ pairs, pair.1 = pair.2 := by
  induction pairs with
  | nil => intro difference; simp
  | cons pair pairs ih =>
    intro difference
    rw [List.foldl_cons, ih, UInt8.or_eq_zero_iff, UInt8.xor_eq_zero_iff, List.forall_mem_cons,
      and_assoc]

/-- The comparison decides equality. -/
theorem constantTimeEq_iff {expected presented : ControlSecret} :
    constantTimeEq expected presented = true ↔ expected = presented := by
  have hlen : expected.val.length = presented.val.length := expected.2.trans presented.2.symm
  have hpairs : (∀ pair ∈ expected.val.zip presented.val, pair.1 = pair.2) ↔
      List.Forall₂ (· = ·) expected.val presented.val := by
    rw [List.forall₂_iff_zip]
    exact ⟨fun h ↦ ⟨hlen, fun hmem ↦ h _ hmem⟩, fun h pair hmem ↦ h.2 hmem⟩
  rw [constantTimeEq, beq_iff_eq, fold_difference_eq_zero, hpairs, List.forall₂_eq_eq_eq,
    Subtype.ext_iff]
  exact and_iff_right rfl

theorem new_eq_ok {source principal : String} {method : AuthorizationMethod}
    {capabilities : Finset Capability} {secret : ControlSecret} {ingress : LocalControlIngress}
    (h : new source principal method capabilities secret = .ok ingress) :
    ingress.capabilities = capabilities ∧ ingress.secret = secret := by
  rw [new] at h
  split_ifs at h
  cases h
  exact ⟨rfl, rfl⟩

theorem ne_empty_of_not_blank {s : String} (h : isBlank s = false) : s ≠ "" := by
  rintro rfl
  exact absurd h (by decide)

/-- The event of a command is valid exactly when its ids and its timestamp are. -/
theorem commandEvent_wellFormed_iff {ingress : LocalControlIngress} {input : OperatorCommandInput}
    {required : Capability} : (ingress.commandEvent input required).WellFormed ↔
      input.eventId ≠ "" ∧ input.correlationId ≠ "" ∧
        isJsonSchemaDateTime input.observedAt = true := by
  constructor
  · intro h
    exact ⟨h.eventId, h.correlationId, h.observedAt⟩
  · rintro ⟨hevent, hcorrelation, hobserved⟩
    exact
      { schemaVersion := rfl
        eventId := hevent
        correlationId := hcorrelation
        observedAt := hobserved
        source := ne_empty_of_not_blank ingress.source_not_blank
        priorityHint := by rintro _ ⟨⟩
        kind := ⟨rfl, rfl, rfl, _, rfl, ne_empty_of_not_blank ingress.principal_not_blank,
          Finset.singleton_ne_empty _⟩ }

/-- With the right secret and a granted action, the command is accepted exactly when
its ids and its timestamp are valid. -/
theorem authenticate_eq_ok {ingress : LocalControlIngress} {input : OperatorCommandInput}
    {required : Capability} (haction : capabilityForAction input.action = some required)
    (hgranted : required ∈ ingress.capabilities) {command : AuthenticatedControlCommand} :
    ingress.authenticate input ingress.secret = .ok command ↔
      ∃ hvalid, command = ingress.mint input required hvalid := by
  have hsecret : constantTimeEq ingress.secret ingress.secret = true := constantTimeEq_iff.mpr rfl
  rw [authenticate, unit_bind_eq_ok, expect_bind_eq_ok, ensure_eq_ok]
  constructor
  · rintro ⟨-, required', haction', hcommand⟩
    obtain rfl : required = required' := Option.some_inj.mp (haction.symm.trans haction')
    obtain ⟨-, hcommand⟩ := unit_bind_eq_ok.mp hcommand
    split at hcommand
    case h_1 => cases hcommand
    case h_2 hvalid => exact ⟨hvalid, (Except.ok.inj hcommand).symm⟩
  · rintro ⟨hvalid, rfl⟩
    refine ⟨hsecret, required, haction, unit_bind_eq_ok.mpr ⟨ensure_eq_ok.mpr ?_, ?_⟩⟩
    · exact decide_eq_true hgranted
    · split
      case h_1 herror => rw [hvalid] at herror; cases herror
      case h_2 => rfl

end LocalControlIngress

end Aivtuber
