import Aivtuber.Runtime.ContentRate

/-!
# Control authority

Only a covered request moves the scheduler or mutes the output: its event is a control
event, its claim is that of the authority, and the authority has the capability of its
action.  Authority comes from an ingress that verified a secret and granted the action, and
from nothing that content can carry.  The two entry points for control accept the same
requests.
-/

open Aivtuber.Check

namespace Aivtuber

/-- What an action requires of an authority; the others require nothing and do nothing. -/
def requiredCapability (action : String) : Option Capability :=
  if action = "stop" ∨ action = "performer.stop" then some .performerStop
  else if action = "mute" ∨ action = "performer.mute" then some .performerMute
  else none

namespace ControlRequest

def action (request : ControlRequest) : Option String :=
  request.event.payload["action"]?.bind JsonValue.asStr

/-- The authority covers the event. -/
structure Covered (request : ControlRequest) : Prop where
  kind : request.event.kind = .operatorCommand
  plane : request.event.plane = .control
  /-- The claim that the event carries is the one of the authority. -/
  claim : request.event.authorization = some request.authority.claim
  action : ∃ action, request.action = some action ∧
    ∀ capability ∈ requiredCapability action, capability ∈ request.authority.capabilities

/-- The capability of the action of a covered request. -/
def Uses (request : ControlRequest) (capability : Capability) : Prop :=
  request.Covered ∧ ∃ action, request.action = some action ∧
    requiredCapability action = some capability

theorem validateAuthority_eq_ok {request : ControlRequest} :
    validateAuthorityMatchesEvent request.authority request.event = .ok () ↔
      request.event.kind = .operatorCommand ∧ request.event.plane = .control ∧
        request.event.authorization = some request.authority.claim := by
  simp only [validateAuthorityMatchesEvent, unit_bind_eq_ok, expect_bind_eq_ok, ensure_eq_ok,
    Bool.and_eq_true, decide_eq_true_eq, and_assoc]
  refine and_congr_right fun _ ↦ and_congr_right fun _ ↦ ?_
  constructor
  · rintro ⟨⟨principal, method, capabilities⟩, hclaim, rfl, rfl, rfl⟩
    exact hclaim
  · intro hclaim
    exact ⟨_, hclaim, rfl, rfl, rfl⟩

end ControlRequest

theorem requireCapability_eq_ok {authority : AuthenticatedControl} {capability : Capability} :
    requireCapability authority capability = .ok () ↔ capability ∈ authority.capabilities := by
  rw [requireCapability, ensure_eq_ok, decide_eq_true_eq]

namespace SecurityBoundary

variable {boundary : SecurityBoundary} {scheduler : Scheduler} {request : ControlRequest}
variable {authority : AuthenticatedControl} {action : String} {atMs : Nat}

/-! ## Which requests are accepted -/

theorem exists_eq_ok_of_guard {ε α : Type} {guard : Except ε Unit} {value : α} :
    (∃ result, (guard >>= fun _ ↦ .ok value) = .ok result) ↔ guard = .ok () := by
  simp [unit_bind_eq_ok]

/-- An action is performed exactly when its capability is granted. -/
theorem performControl_accepts :
    (∃ result, boundary.performControl authority action atMs = .ok result) ↔
      ∀ capability ∈ requiredCapability action, capability ∈ authority.capabilities := by
  rw [performControl, requiredCapability]
  split_ifs
  · rw [exists_eq_ok_of_guard, requireCapability_eq_ok]
    simp
  · rw [exists_eq_ok_of_guard, requireCapability_eq_ok]
    simp
  · simp

theorem performControlWithScheduler_accepts :
    (∃ result, boundary.performControlWithScheduler authority action atMs scheduler =
      .ok result) ↔
      ∀ capability ∈ requiredCapability action, capability ∈ authority.capabilities := by
  rw [performControlWithScheduler, requiredCapability]
  split_ifs
  · rw [exists_eq_ok_of_guard, requireCapability_eq_ok]
    simp
  · rw [exists_eq_ok_of_guard, requireCapability_eq_ok]
    simp
  · simp

/-- Both entry points check a request in the same way before they perform its action. -/
theorem checked_accepts {α β : Type} (perform : String → Except RuntimeError α)
    (finish : String → α → β)
    (hperform : ∀ action, (∃ result, perform action = .ok result) ↔
      ∀ capability ∈ requiredCapability action, capability ∈ request.authority.capabilities) :
    (∃ result, (do
      validateAuthorityMatchesEvent request.authority request.event
      let action ← expect (.unauthorizedControl "missing action") request.action
      let performed ← perform action
      .ok (finish action performed) : Except RuntimeError β) = .ok result) ↔ request.Covered := by
  constructor
  · rintro ⟨result, h⟩
    obtain ⟨hvalid, h⟩ := unit_bind_eq_ok.mp h
    obtain ⟨action, haction, h⟩ := expect_bind_eq_ok.mp h
    obtain ⟨performed, hperformed, -⟩ := bind_eq_ok.mp h
    obtain ⟨hkind, hplane, hclaim⟩ := ControlRequest.validateAuthority_eq_ok.mp hvalid
    exact ⟨hkind, hplane, hclaim, action, haction, (hperform action).mp ⟨performed, hperformed⟩⟩
  · rintro ⟨hkind, hplane, hclaim, action, haction, hgranted⟩
    obtain ⟨performed, hperformed⟩ := (hperform action).mpr hgranted
    refine ⟨finish action performed, unit_bind_eq_ok.mpr ⟨?_, expect_bind_eq_ok.mpr ⟨action, haction,
      bind_eq_ok.mpr ⟨performed, hperformed, rfl⟩⟩⟩⟩
    exact ControlRequest.validateAuthority_eq_ok.mpr ⟨hkind, hplane, hclaim⟩

theorem handleControl_accepts :
    (∃ result, boundary.handleControl request atMs = .ok result) ↔ request.Covered :=
  checked_accepts _ (fun action result ↦
    (result.1.audited (result.1.controlRecord request action), result.2))
    fun _ ↦ performControl_accepts

theorem handleControlWithScheduler_accepts :
    (∃ result, boundary.handleControlWithScheduler request atMs scheduler = .ok result) ↔
      request.Covered :=
  checked_accepts _ (fun action result ↦
    (result.1.audited (result.1.controlRecord request action), result.2.1, result.2.2))
    fun _ ↦ performControlWithScheduler_accepts

/-! ## What a control moves -/

/-- The runtime, and the scheduler of a composition root, moved no further than these
capabilities permit; the registry of correlations did not move. -/
structure PermittedBy (granted : Capability → Prop) (pre post : SecurityBoundary × Scheduler) :
    Prop where
  correlations : post.1.correlations = pre.1.correlations
  correlationOrder : post.1.correlationOrder = pre.1.correlationOrder
  scheduler : post.1.scheduler ≠ pre.1.scheduler ∨ post.2 ≠ pre.2 → granted .performerStop
  muted : post.1.muted ≠ pre.1.muted → granted .performerMute

variable {granted granted' : Capability → Prop} {pre post : SecurityBoundary × Scheduler}

theorem PermittedBy.refl (granted : Capability → Prop) (pre : SecurityBoundary × Scheduler) :
    PermittedBy granted pre pre where
  correlations := rfl
  correlationOrder := rfl
  scheduler := by
    rintro (h | h)
    · exact absurd rfl h
    · exact absurd rfl h
  muted := by
    intro h
    exact absurd rfl h

theorem PermittedBy.mono (h : PermittedBy granted pre post)
    (himp : ∀ capability, granted capability → granted' capability) :
    PermittedBy granted' pre post where
  correlations := h.correlations
  correlationOrder := h.correlationOrder
  scheduler hmoved := himp _ (h.scheduler hmoved)
  muted hmoved := himp _ (h.muted hmoved)

/-- Who may stop may replace the schedulers. -/
theorem PermittedBy.of_stop (hgranted : granted .performerStop)
    (hcorrelations : post.1.correlations = pre.1.correlations)
    (horder : post.1.correlationOrder = pre.1.correlationOrder)
    (hmuted : post.1.muted = pre.1.muted) : PermittedBy granted pre post where
  correlations := hcorrelations
  correlationOrder := horder
  scheduler _ := hgranted
  muted hmoved := absurd hmuted hmoved

/-- Who may mute may turn the output off and on. -/
theorem PermittedBy.of_mute (hgranted : granted .performerMute)
    (hcorrelations : post.1.correlations = pre.1.correlations)
    (horder : post.1.correlationOrder = pre.1.correlationOrder)
    (hscheduler : post.1.scheduler = pre.1.scheduler) (hroot : post.2 = pre.2) :
    PermittedBy granted pre post where
  correlations := hcorrelations
  correlationOrder := horder
  scheduler := by
    rintro (hmoved | hmoved)
    · exact absurd hscheduler hmoved
    · exact absurd hroot hmoved
  muted _ := hgranted

theorem PermittedBy.audited {moved : SecurityBoundary} {t : Scheduler}
    (h : PermittedBy granted pre (moved, t)) (entry : AuditRecord) :
    PermittedBy granted pre (moved.audited entry, t) where
  correlations := h.correlations
  correlationOrder := h.correlationOrder
  scheduler := h.scheduler
  muted := h.muted

/-- The capability that an action requires is the one that it uses. -/
theorem performControl_permitted {moved : SecurityBoundary} {outcome : ControlOutcome}
    (h : boundary.performControl authority action atMs = .ok (moved, outcome)) :
    PermittedBy (requiredCapability action = some ·) (boundary, scheduler) (moved, scheduler) := by
  rw [performControl] at h
  split_ifs at h with hstop hmute
  · cases (unit_bind_eq_ok.mp h).2
    exact .of_stop (if_pos hstop) rfl rfl rfl
  · cases (unit_bind_eq_ok.mp h).2
    exact .of_mute ((if_neg hstop).trans (if_pos hmute)) rfl rfl rfl rfl
  · cases h
    exact .refl _ _

theorem performControlWithScheduler_permitted {moved : SecurityBoundary} {t : Scheduler}
    {outcome : ControlOutcome}
    (h : boundary.performControlWithScheduler authority action atMs scheduler =
      .ok (moved, t, outcome)) :
    PermittedBy (requiredCapability action = some ·) (boundary, scheduler) (moved, t) := by
  rw [performControlWithScheduler] at h
  split_ifs at h with hstop hmute
  · cases (unit_bind_eq_ok.mp h).2
    exact .of_stop (if_pos hstop) rfl rfl rfl
  · cases (unit_bind_eq_ok.mp h).2
    exact .of_mute ((if_neg hstop).trans (if_pos hmute)) rfl rfl rfl rfl
  · cases h
    exact .refl _ _

theorem handleControl_permitted {moved : SecurityBoundary} {outcome : ControlOutcome}
    (h : boundary.handleControl request atMs = .ok (moved, outcome)) :
    PermittedBy request.Uses (boundary, scheduler) (moved, scheduler) := by
  have hcovered : request.Covered := handleControl_accepts.mp ⟨_, h⟩
  obtain ⟨-, h⟩ := unit_bind_eq_ok.mp h
  obtain ⟨action, haction, h⟩ := expect_bind_eq_ok.mp h
  obtain ⟨⟨performed, result⟩, hperform, h⟩ := bind_eq_ok.mp h
  cases h
  exact ((performControl_permitted hperform).mono
    fun _ hcapability ↦ ⟨hcovered, action, haction, hcapability⟩).audited _

theorem handleControlWithScheduler_permitted {moved : SecurityBoundary} {t : Scheduler}
    {outcome : ControlOutcome}
    (h : boundary.handleControlWithScheduler request atMs scheduler = .ok (moved, t, outcome)) :
    PermittedBy request.Uses (boundary, scheduler) (moved, t) := by
  have hcovered : request.Covered := handleControlWithScheduler_accepts.mp ⟨_, h⟩
  obtain ⟨-, h⟩ := unit_bind_eq_ok.mp h
  obtain ⟨action, haction, h⟩ := expect_bind_eq_ok.mp h
  obtain ⟨⟨performed, performedScheduler, result⟩, hperform, h⟩ := bind_eq_ok.mp h
  cases h
  exact ((performControlWithScheduler_permitted hperform).mono
    fun _ hcapability ↦ ⟨hcovered, action, haction, hcapability⟩).audited _

/-! ## Requests -/

/-- What a request can do through either entry point. -/
structure ControlGuarded (codec : ContentCodec) (boundary : SecurityBoundary)
    (scheduler : Scheduler) (request : ControlRequest) (atMs : Nat) : Prop where
  own : PermittedBy request.Uses (boundary, scheduler)
    ((step codec boundary (.handleControl request atMs)).1, scheduler)
  shared : PermittedBy request.Uses (boundary, scheduler)
    ((boundary.applyControlWithScheduler request atMs scheduler).1,
      (boundary.applyControlWithScheduler request atMs scheduler).2.1)
  /-- A request that its authority does not cover changes nothing at all. -/
  refused : ¬ request.Covered →
    (step codec boundary (.handleControl request atMs)).1 = boundary ∧
      (boundary.applyControlWithScheduler request atMs scheduler).1 = boundary ∧
      (boundary.applyControlWithScheduler request atMs scheduler).2.1 = scheduler
  sameRequests : (∃ result, boundary.handleControl request atMs = .ok result) ↔
    ∃ result, boundary.handleControlWithScheduler request atMs scheduler = .ok result

theorem controlGuarded (codec : ContentCodec) (boundary : SecurityBoundary)
    (scheduler : Scheduler) (request : ControlRequest) (atMs : Nat) :
    ControlGuarded codec boundary scheduler request atMs where
  own := by
    rw [step]
    split
    · exact .refl _ _
    · exact handleControl_permitted (by assumption)
  shared := by
    rw [applyControlWithScheduler]
    split
    · exact .refl _ _
    · exact handleControlWithScheduler_permitted (by assumption)
  refused := by
    intro hcovered
    refine ⟨?_, ?_⟩
    · rw [step]
      split
      case h_1 => rfl
      case h_2 hok => exact absurd (handleControl_accepts.mp ⟨_, hok⟩) hcovered
    · rw [applyControlWithScheduler]
      split
      case h_1 => exact ⟨rfl, rfl⟩
      case h_2 hok => exact absurd (handleControlWithScheduler_accepts.mp ⟨_, hok⟩) hcovered
  sameRequests := handleControl_accepts.trans handleControlWithScheduler_accepts.symm

/-! ## Credentials -/

/-- An operator presents a secret with an action, and the command it is given is applied. -/
def submitControl (codec : ContentCodec) (boundary : SecurityBoundary)
    (ingress : LocalControlIngress) (input : OperatorCommandInput) (presented : ControlSecret)
    (atMs : Nat) : SecurityBoundary :=
  match ingress.authenticate input presented with
  | .error _ => boundary
  | .ok command => (step codec boundary (.handleControl command.request atMs)).1

def submitControlWithScheduler (boundary : SecurityBoundary) (ingress : LocalControlIngress)
    (input : OperatorCommandInput) (presented : ControlSecret) (atMs : Nat)
    (scheduler : Scheduler) : SecurityBoundary × Scheduler :=
  match ingress.authenticate input presented with
  | .error _ => (boundary, scheduler)
  | .ok command =>
    ((boundary.applyControlWithScheduler command.request atMs scheduler).1,
      (boundary.applyControlWithScheduler command.request atMs scheduler).2.1)

variable {ingress : LocalControlIngress} {input : OperatorCommandInput}
variable {presented : ControlSecret} {command : AuthenticatedControlCommand}

theorem authenticate_grants (h : ingress.authenticate input presented = .ok command) :
    presented = ingress.secret ∧ command.request.action = some input.action ∧
      ∃ required, capabilityForAction input.action = some required ∧
        required ∈ ingress.capabilities := by
  obtain ⟨hsecret, h⟩ := unit_bind_eq_ok.mp h
  obtain ⟨required, haction, h⟩ := expect_bind_eq_ok.mp h
  obtain ⟨hgranted, h⟩ := unit_bind_eq_ok.mp h
  refine ⟨(LocalControlIngress.constantTimeEq_iff.mp (ensure_eq_ok.mp hsecret)).symm, ?_,
    required, haction, of_decide_eq_true (ensure_eq_ok.mp hgranted)⟩
  split at h
  case h_1 => cases h
  case h_2 =>
    cases h
    change ((input.payload.insert "action" (.string input.action))["action"]?).bind _ = _
    rw [Std.ExtTreeMap.getElem?_insert_self]
    rfl

theorem capabilityForAction_of_required {capability : Capability}
    (h : requiredCapability action = some capability) :
    capabilityForAction action = some capability := by
  rw [requiredCapability] at h
  rw [capabilityForAction]
  split_ifs at h with hstop hmute
  · rw [if_pos hstop, h]
  · rw [if_neg hstop, if_pos hmute, h]

/-- The ingress grants the capability of the action to whoever presents its secret. -/
def Authenticated (ingress : LocalControlIngress) (input : OperatorCommandInput)
    (presented : ControlSecret) (capability : Capability) : Prop :=
  presented = ingress.secret ∧ capabilityForAction input.action = some capability ∧
    capability ∈ ingress.capabilities

theorem authenticated_of_uses (h : ingress.authenticate input presented = .ok command)
    {capability : Capability} (huses : command.request.Uses capability) :
    Authenticated ingress input presented capability := by
  obtain ⟨hsecret, haction, required, hrequired, hgranted⟩ := authenticate_grants h
  obtain ⟨-, action, haction', hcapability⟩ := huses
  obtain rfl : input.action = action := Option.some.inj (haction.symm.trans haction')
  have hcapability := capabilityForAction_of_required hcapability
  obtain rfl : required = capability := Option.some.inj (hrequired.symm.trans hcapability)
  exact ⟨hsecret, hrequired, hgranted⟩

/-- What a command can do that an operator submits. -/
structure SubmissionGuarded (codec : ContentCodec) (boundary : SecurityBoundary)
    (scheduler : Scheduler) (ingress : LocalControlIngress) (input : OperatorCommandInput)
    (presented : ControlSecret) (atMs : Nat) : Prop where
  own : PermittedBy (Authenticated ingress input presented) (boundary, scheduler)
    (submitControl codec boundary ingress input presented atMs, scheduler)
  shared : PermittedBy (Authenticated ingress input presented) (boundary, scheduler)
    (boundary.submitControlWithScheduler ingress input presented atMs scheduler)
  /-- Without the secret, or the capability, a submission changes nothing at all. -/
  refused : (¬ ∃ capability, Authenticated ingress input presented capability) →
    submitControl codec boundary ingress input presented atMs = boundary ∧
      boundary.submitControlWithScheduler ingress input presented atMs scheduler =
        (boundary, scheduler)

theorem submissionGuarded (codec : ContentCodec) (boundary : SecurityBoundary)
    (scheduler : Scheduler) (ingress : LocalControlIngress) (input : OperatorCommandInput)
    (presented : ControlSecret) (atMs : Nat) :
    SubmissionGuarded codec boundary scheduler ingress input presented atMs where
  own := by
    rw [submitControl]
    split
    case h_1 => exact .refl _ _
    case h_2 command hok =>
      exact (controlGuarded codec boundary scheduler command.request atMs).own.mono
        fun _ ↦ authenticated_of_uses hok
  shared := by
    rw [submitControlWithScheduler]
    split
    case h_1 => exact .refl _ _
    case h_2 command hok =>
      exact (controlGuarded codec boundary scheduler command.request atMs).shared.mono
        fun _ ↦ authenticated_of_uses hok
  refused := by
    intro hnone
    have herror : ∃ error, ingress.authenticate input presented = .error error := by
      cases hresult : ingress.authenticate input presented with
      | error error => exact ⟨error, rfl⟩
      | ok command =>
        obtain ⟨hsecret, -, required, hrequired, hgranted⟩ := authenticate_grants hresult
        exact absurd ⟨required, hsecret, hrequired, hgranted⟩ hnone
    obtain ⟨error, herror⟩ := herror
    rw [submitControl, submitControlWithScheduler, herror]
    exact ⟨rfl, rfl⟩

/-! ## Content -/

/-- What bytes on the content path can do. -/
structure ContentInert (codec : ContentCodec) (boundary : SecurityBoundary) (raw : List UInt8)
    (nowMs : Nat) : Prop where
  scheduler : (step codec boundary (.admitContentBytes raw nowMs)).1.scheduler = boundary.scheduler
  muted : (step codec boundary (.admitContentBytes raw nowMs)).1.muted = boundary.muted
  /-- The registry moves only where a content event is queued. -/
  registry : (step codec boundary (.admitContentBytes raw nowMs)).1.correlations ≠
      boundary.correlations ∨
    (step codec boundary (.admitContentBytes raw nowMs)).1.correlationOrder ≠
      boundary.correlationOrder →
    (step codec boundary (.admitContentBytes raw nowMs)).2 = .admission (.ok .queued) ∧
      ∃ event, codec.parse raw = .ok event ∧ event.bearsAuthority = false
  /-- Control and system events are at most audited. -/
  borne : ∀ event, codec.parse raw = .ok event → event.bearsAuthority = true →
    (step codec boundary (.admitContentBytes raw nowMs)).1 = boundary ∨
      ∃ entry, (step codec boundary (.admitContentBytes raw nowMs)).1 = boundary.audited entry

variable {codec : ContentCodec} {raw : List UInt8} {nowMs payloadBytes : Nat}
variable {event : EventEnvelope}

/-- Only a content event passes the gates. -/
theorem screen_passed (h : boundary.screen codec raw = .ok (.passed event payloadBytes)) :
    codec.parse raw = .ok event ∧ event.bearsAuthority = false := by
  rw [screen] at h
  split at h
  case isTrue => cases h
  case isFalse =>
    obtain ⟨parsed, hparsed, h⟩ := bind_eq_ok.mp h
    obtain ⟨-, h⟩ := unit_bind_eq_ok.mp h
    split at h
    case isTrue => cases h
    case isFalse hauthority =>
      obtain ⟨written, -, h⟩ := bind_eq_ok.mp h
      split at h
      case isTrue => cases h
      case isFalse =>
        cases h
        cases hparse : codec.parse raw with
        | error message => rw [hparse] at hparsed; cases hparsed
        | ok event => rw [hparse] at hparsed; cases hparsed; exact ⟨rfl, by simpa using hauthority⟩

/-- A call for a token touches nothing but the buckets and their counts. -/
theorem consumeToken_frame (boundary : SecurityBoundary) (source : String) (nowMs : Nat) :
    ∃ buckets highWater expired rejected, (boundary.consumeToken source nowMs).1 =
      { boundary with
        buckets := buckets
        rateLimitSourcesHighWater := highWater
        rateLimitSourcesExpired := expired
        rateLimitSourcesRejected := rejected } := by
  rw [consumeToken]
  split
  case h_1 => exact ⟨_, _, _, _, rfl⟩
  case h_2 =>
    dsimp only
    split <;> exact ⟨_, _, _, _, rfl⟩

theorem admitEvent_control (boundary : SecurityBoundary) (event : EventEnvelope)
    (payloadBytes nowMs : Nat) :
    (boundary.admitEvent event payloadBytes nowMs).1.scheduler = boundary.scheduler ∧
      (boundary.admitEvent event payloadBytes nowMs).1.muted = boundary.muted := by
  obtain ⟨_, _, _, _, hframe⟩ := boundary.consumeToken_frame event.source nowMs
  rw [admitEvent]
  dsimp only
  rw [hframe]
  split
  · rw [enqueue]
    split <;> exact ⟨rfl, rfl⟩
  · exact ⟨rfl, rfl⟩

theorem admitEvent_registry
    (h : (boundary.admitEvent event payloadBytes nowMs).2 ≠ .queued) :
    (boundary.admitEvent event payloadBytes nowMs).1.correlations = boundary.correlations ∧
      (boundary.admitEvent event payloadBytes nowMs).1.correlationOrder =
        boundary.correlationOrder := by
  obtain ⟨_, _, _, _, hframe⟩ := boundary.consumeToken_frame event.source nowMs
  rw [admitEvent] at h ⊢
  dsimp only at h ⊢
  rw [hframe] at h ⊢
  split at h
  case isTrue hgranted =>
    rw [if_pos hgranted]
    rw [enqueue] at h ⊢
    split at h
    case isTrue hfull =>
      rw [if_pos hfull]
      exact ⟨rfl, rfl⟩
    case isFalse => exact absurd rfl h
  case isFalse hgranted =>
    rw [if_neg hgranted]
    exact ⟨rfl, rfl⟩

theorem contentInert (codec : ContentCodec) (boundary : SecurityBoundary) (raw : List UInt8)
    (nowMs : Nat) : ContentInert codec boundary raw nowMs := by
  constructor
  all_goals
    rw [step_admitContentBytes]
    rcases hscreen : boundary.screen codec raw with error | ⟨decision, entry⟩ | ⟨event, payloadBytes⟩
  · rfl
  · rfl
  · exact (admitEvent_control ..).1
  · rfl
  · rfl
  · exact (admitEvent_control ..).2
  · rintro (h | h)
    · exact absurd rfl h
    · exact absurd rfl h
  · rintro (h | h)
    · exact absurd rfl h
    · exact absurd rfl h
  · intro hmoved
    refine ⟨?_, event, screen_passed hscreen⟩
    by_cases hqueued : (boundary.admitEvent event payloadBytes nowMs).2 = .queued
    · exact congrArg (IngressOutput.admission ∘ Except.ok) hqueued
    · obtain ⟨hcorrelations, horder⟩ := admitEvent_registry hqueued
      rcases hmoved with h | h
      · exact absurd hcorrelations h
      · exact absurd horder h
  · exact fun _ _ _ ↦ .inl rfl
  · exact fun _ _ _ ↦ .inr ⟨_, rfl⟩
  · intro parsed hparsed hauthority
    obtain ⟨hparse, hcontent⟩ := screen_passed hscreen
    obtain rfl : event = parsed := Except.ok.inj (hparse.symm.trans hparsed)
    rw [hcontent] at hauthority
    cases hauthority

/-- **Control authority cannot be forged**: content moves neither scheduler nor mute, a
request moves what its authority covers, and a submission moves what its secret is granted. -/
theorem authority_required (codec : ContentCodec) (boundary : SecurityBoundary)
    (scheduler : Scheduler) :
    (∀ raw nowMs, ContentInert codec boundary raw nowMs) ∧
      (∀ request atMs, ControlGuarded codec boundary scheduler request atMs) ∧
      ∀ ingress input presented atMs,
        SubmissionGuarded codec boundary scheduler ingress input presented atMs :=
  ⟨contentInert codec boundary, controlGuarded codec boundary scheduler,
    submissionGuarded codec boundary scheduler⟩

/-- A chat message moves the registry, and no control was involved. -/
theorem registry_moved_by_chat :
    (chatMessage "viewer").bearsAuthority = false ∧ slowBoundary.correlations.size = 0 ∧
      (step chatCodec slowBoundary
        (.admitContentBytes (chatJson "viewer") 0)).1.correlations.size = 1 :=
  ⟨by decide, by decide +kernel, chat_runs.2.2.2⟩

/-! ## The composition root's scheduler -/

end SecurityBoundary

end Aivtuber
