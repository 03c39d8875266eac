import Aivtuber.App.Production

/-!
# Operator control

The authenticated control endpoint of `crates/app/src/operator_control.rs`.  The
timestamp of a control event counts minutes in a two-digit field that the encoder
pads but never carries into hours.  The date-time validator reads that field by
position: from one hour of uptime on it refuses the timestamp, and the command with
it (`request_served_iff`).
-/

open Aivtuber.Text

namespace Aivtuber

/-- One line-delimited request. -/
structure OperatorRequest where
  action : String
  secret : String
  requestId : Option String
deriving DecidableEq, Repr

/-- Health and queue snapshot without secret material. -/
structure OperatorStatusSnapshot where
  muted : Bool
  audioError : Option String
  avatarError : Option String
  streamError : Option String
  contentQueue : Nat
  schedulerItems : Nat
  generationActive : Bool
deriving DecidableEq, Repr

/-- One line-delimited response. -/
structure OperatorResponse where
  requestId : String
  ok : Bool
  detail : String
  status : Option OperatorStatusSnapshot
deriving DecidableEq, Repr

inductive OperatorControlError where
  | invalidConfiguration (field : String)
deriving DecidableEq, Repr

structure OperatorControlServer where
  name : String
  ingress : LocalControlIngress

def OperatorControlServer.new (name : String) (secret : ControlSecret) :
    Except OperatorControlError OperatorControlServer :=
  if trim name = "" then .error (.invalidConfiguration "endpoint name")
  else
    match LocalControlIngress.new "operator-control" "operator:local" .signedLocalApi
      {.performerStop, .performerMute} secret with
    | .error _ => .error (.invalidConfiguration "ingress")
    | .ok ingress => .ok { name := trim name, ingress }

/-- The envelope timestamp: epoch-relative minutes and seconds. -/
def rfc3339FromMs (nowMs : Nat) : String :=
  let seconds := nowMs / 1000
  "1970-01-01T00:" ++ pad2 (seconds / 60) ++ ":" ++ pad2 (seconds % 60) ++ "Z"

def rejection (requestId detail : String) : OperatorResponse where
  requestId := requestId
  ok := false
  detail := detail
  status := none

/-- A presented secret of the right length. -/
def toSecret (bytes : List UInt8) : Option ControlSecret :=
  if h : bytes.length = controlSecretLen then some ⟨bytes, h⟩ else none

/-- The command input of a privileged request. -/
def operatorInput (requestId action : String) (nowMs : Nat) : OperatorCommandInput where
  eventId := "operator-" ++ requestId
  correlationId := "operator-" ++ requestId
  sequence := 0
  observedAt := rfc3339FromMs nowMs
  action := action
  payload := ∅

def ControlOutcome.detail : ControlOutcome → String
  | .stopped cancelled => "stopped " ++ toString cancelled ++ " items"
  | .muted => "muted"
  | .authenticatedOther => "authenticated"

namespace ProductionApp

variable {ρ : Type} (host : Host ρ)

def statusSnapshot (app : ProductionApp ρ) : OperatorStatusSnapshot where
  muted := app.security.muted
  audioError := app.health.audioError
  avatarError := app.health.avatarError
  streamError := app.health.streamError
  contentQueue := app.security.contentQueue.length
  schedulerItems := app.scheduler.items.length
  generationActive := host.generationActive app.rest

/-- Audit an accepted or rejected operator action. -/
def auditOperatorAction (app : ProductionApp ρ) (requestId action decision : String)
    (accepted : Bool) : ProductionApp ρ :=
  { app with security := app.security.pushAudit (app.security.redactor.record
      (some ("operator-" ++ requestId)) .authorization
      (if accepted then "operator_accepted" else "operator_rejected")
      ("action=" ++ action ++ " decision=" ++ decision)) }

/-- Audit a refusal and answer with it. -/
def refuse (app : ProductionApp ρ) (requestId action detail : String) :
    ProductionApp ρ × OperatorResponse :=
  (app.auditOperatorAction requestId action detail false, rejection requestId detail)

/-- Read the runtime state: no authority is minted. -/
def readStatus (app : ProductionApp ρ) (requestId action : String) :
    ProductionApp ρ × OperatorResponse :=
  if action = "status" then
    (app.auditOperatorAction requestId "status" "status" true,
      { requestId, ok := true, detail := "status", status := some (app.statusSnapshot host) })
  else
    (app.auditOperatorAction requestId "diagnose" "bundle generated" true,
      { requestId, ok := true, detail := host.supportBundle app, status := none })

/-- Apply a command and answer with its outcome. -/
def applyCommand (app : ProductionApp ρ) (requestId action : String)
    (command : AuthenticatedControlCommand) (nowMs : Nat) : ProductionApp ρ × OperatorResponse :=
  match app.handleControl host command nowMs with
  | .ok (app, outcome) =>
    (app.auditOperatorAction requestId action outcome.detail true,
      { requestId, ok := true, detail := outcome.detail, status := none })
  | .error error => app.refuse requestId action ("rejected: " ++ error.display)

/-- Authenticate and apply one dispatched request; `freshId` names a request that
has no id of its own. -/
def applyDispatchedRequest (ingress : LocalControlIngress) (app : ProductionApp ρ)
    (request : OperatorRequest) (freshId : String) (nowMs : Nat) :
    ProductionApp ρ × OperatorResponse :=
  let requestId := request.requestId.getD freshId
  if request.action ≠ "status" ∧ request.action ≠ "stop" ∧ request.action ≠ "mute" ∧
      request.action ≠ "diagnose" then
    app.refuse requestId request.action ("unknown action " ++ request.action)
  else
    match toSecret (utf8 request.secret) with
    | none => app.refuse requestId request.action "authentication failed"
    | some presented =>
      if request.action = "status" ∨ request.action = "diagnose" then
        if ingress.verifySecret presented then app.readStatus host requestId request.action
        else app.refuse requestId request.action "authentication failed"
      else
        match ingress.authenticate (operatorInput requestId request.action nowMs) presented with
        | .error _ => app.refuse requestId request.action "authentication failed"
        | .ok command => app.applyCommand host requestId request.action command nowMs

end ProductionApp

/-! ## The timestamp -/

/-- The bytes of a timestamp before its minutes. -/
def epochHour : List UInt8 := utf8 "1970-01-01T00:"

/-- The bytes of a timestamp whose numerals have two digits each. -/
def stamp (minutes seconds : Nat) : List UInt8 :=
  epochHour ++ digit (minutes / 10) :: digit (minutes % 10) :: byte ':' ::
    digit (seconds / 10) :: digit (seconds % 10) :: [byte 'Z']

theorem epochHour_eq : epochHour = [49, 57, 55, 48, 45, 48, 49, 45, 48, 49, 84, 48, 48, 58] := by
  decide +kernel

theorem utf8_rfc3339FromMs (nowMs : Nat) :
    utf8 (rfc3339FromMs nowMs) =
      epochHour ++ utf8 (pad2 (nowMs / 1000 / 60)) ++ utf8 ":" ++
        utf8 (pad2 (nowMs / 1000 % 60)) ++ utf8 "Z" := by
  delta rfc3339FromMs
  simp only [utf8_append]
  rfl

theorem hasSeparators_stamp (minutes seconds : Nat) : hasSeparators (stamp minutes seconds) = true := by
  rw [stamp, epochHour_eq]
  rfl

/-- The fields of a stamp before its minutes are those of the epoch. -/
theorem parseDigits_stamp_epoch (minutes seconds : Nat) :
    parseDigits (stamp minutes seconds) 0 4 = some 1970 ∧
      parseDigits (stamp minutes seconds) 5 2 = some 1 ∧
      parseDigits (stamp minutes seconds) 8 2 = some 1 ∧
      parseDigits (stamp minutes seconds) 11 2 = some 0 := by
  rw [stamp, epochHour_eq]
  exact ⟨rfl, rfl, rfl, rfl⟩

theorem parseDigits_stamp_minutes {minutes : Nat} (h : minutes < 100) (seconds : Nat) :
    parseDigits (stamp minutes seconds) 14 2 = some minutes := by
  have hlen : epochHour.length = 14 := by rw [epochHour_eq]; rfl
  rw [stamp, ← hlen]
  exact parseDigits_two h _ _

theorem parseDigits_stamp_seconds (minutes : Nat) {seconds : Nat} (h : seconds < 100) :
    parseDigits (stamp minutes seconds) 17 2 = some seconds := by
  have hlen : (epochHour ++ [digit (minutes / 10), digit (minutes % 10), byte ':']).length = 17 := by
    rw [epochHour_eq]
    rfl
  have hsplit : stamp minutes seconds =
      (epochHour ++ [digit (minutes / 10), digit (minutes % 10), byte ':']) ++
        digit (seconds / 10) :: digit (seconds % 10) :: [byte 'Z'] := by simp [stamp]
  rw [hsplit, ← hlen]
  exact parseDigits_two h _ _

theorem stamp_suffix (minutes seconds : Nat) :
    skipFraction (stamp minutes seconds) = some 19 ∧ isOffset (stamp minutes seconds) 19 = true := by
  rw [stamp, epochHour_eq]
  exact ⟨rfl, rfl⟩

/-- A stamp of two-digit numerals is a date-time when both are below sixty. -/
theorem isJsonSchemaDateTime_stamp {value : String} {minutes seconds : Nat} (hm : minutes < 100)
    (hs : seconds < 60) (h : utf8 value = stamp minutes seconds) :
    isJsonSchemaDateTime value = decide (minutes < 60) := by
  obtain ⟨hyear, hmonth, hday, hhour⟩ := parseDigits_stamp_epoch minutes seconds
  obtain ⟨hfraction, hoffset⟩ := stamp_suffix minutes seconds
  have hrange : inRange 1970 1 1 0 minutes seconds = decide (minutes < 60) := by
    rw [Bool.eq_iff_iff]
    simp [inRange, daysInMonth]
    omega
  simp only [isJsonSchemaDateTime, h, hasSeparators_stamp, hyear, hmonth, hday, hhour,
    parseDigits_stamp_minutes hm, parseDigits_stamp_seconds minutes (hs.trans (by decide)), hrange,
    hfraction, hoffset]
  by_cases hminutes : minutes < 60 <;> simp [hminutes]

/-- A minute count of three digits pushes the second colon out of its place. -/
theorem hasSeparators_of_hundred {a b c : UInt8} (hc : isDigit c = true) (rest : List UInt8) :
    hasSeparators (epochHour ++ a :: b :: c :: rest) = false := by
  have hcolon : c ≠ byte ':' := by
    rintro rfl
    exact absurd hc (by decide)
  simp [hasSeparators, epochHour_eq, hcolon]

/-- **The encoder meets the validator exactly in the first hour.** -/
theorem isJsonSchemaDateTime_rfc3339FromMs (nowMs : Nat) :
    isJsonSchemaDateTime (rfc3339FromMs nowMs) = true ↔ nowMs < 3600000 := by
  have hseconds : nowMs / 1000 % 60 < 60 := Nat.mod_lt _ (by decide)
  have hcolon : utf8 ":" = [byte ':'] := by decide +kernel
  have hzulu : utf8 "Z" = [byte 'Z'] := by decide +kernel
  rcases Nat.lt_or_ge (nowMs / 1000 / 60) 100 with hminutes | hminutes
  · have hbytes : utf8 (rfc3339FromMs nowMs) = stamp (nowMs / 1000 / 60) (nowMs / 1000 % 60) := by
      rw [utf8_rfc3339FromMs, utf8_pad2_of_lt hminutes,
        utf8_pad2_of_lt (hseconds.trans (by decide)), hcolon, hzulu]
      simp [stamp]
    rw [isJsonSchemaDateTime_stamp hminutes hseconds hbytes, decide_eq_true_eq]
    omega
  · obtain ⟨a, b, c, rest, hpad, hc⟩ := utf8_pad2_of_le hminutes
    have hrefused : isJsonSchemaDateTime (rfc3339FromMs nowMs) = false := by
      apply not_isJsonSchemaDateTime
      rw [utf8_rfc3339FromMs, hpad]
      simpa using hasSeparators_of_hundred hc _
    rw [hrefused]
    constructor
    · intro h
      cases h
    · omega

/-! ## Privileged requests -/

theorem OperatorControlServer.new_eq_ok {name : String} {secret : ControlSecret}
    {server : OperatorControlServer} (h : new name secret = .ok server) :
    server.ingress.capabilities = {.performerStop, .performerMute} ∧
      server.ingress.secret = secret := by
  rw [new] at h
  split_ifs at h
  split at h
  case h_1 => cases h
  case h_2 hingress =>
    cases h
    exact LocalControlIngress.new_eq_ok hingress

theorem toSecret_val (secret : ControlSecret) : toSecret secret.val = some secret :=
  dif_pos secret.2

theorem operatorInput_wellFormed_iff (ingress : LocalControlIngress) (required : Capability)
    (requestId action : String) (nowMs : Nat) :
    (ingress.commandEvent (operatorInput requestId action nowMs) required).WellFormed ↔
      nowMs < 3600000 := by
  have hid : "operator-" ++ requestId ≠ "" := by simp
  rw [LocalControlIngress.commandEvent_wellFormed_iff]
  exact ⟨fun h ↦ (isJsonSchemaDateTime_rfc3339FromMs nowMs).mp h.2.2,
    fun h ↦ ⟨hid, hid, (isJsonSchemaDateTime_rfc3339FromMs nowMs).mpr h⟩⟩

namespace ProductionApp

variable {ρ : Type} (host : Host ρ) {ingress : LocalControlIngress} (app : ProductionApp ρ)
variable {request : OperatorRequest} (freshId : String) {nowMs : Nat} {required : Capability}

/-- A privileged request with the right secret is decided by its authentication. -/
theorem applyDispatchedRequest_privileged (haction : request.action = "stop" ∨ request.action = "mute")
    (hsecret : utf8 request.secret = ingress.secret.val) :
    app.applyDispatchedRequest host ingress request freshId nowMs =
      match ingress.authenticate
        (operatorInput (request.requestId.getD freshId) request.action nowMs) ingress.secret with
      | .error _ =>
        app.refuse (request.requestId.getD freshId) request.action "authentication failed"
      | .ok command =>
        app.applyCommand host (request.requestId.getD freshId) request.action command nowMs := by
  rcases haction with haction | haction <;>
    simp [applyDispatchedRequest, haction, hsecret, toSecret_val]

/-- **From one hour of uptime on** every privileged request is refused, and neither
the performance nor the output changes. -/
theorem applyDispatchedRequest_refused (haction : request.action = "stop" ∨ request.action = "mute")
    (hrequired : capabilityForAction request.action = some required)
    (hgranted : required ∈ ingress.capabilities)
    (hsecret : utf8 request.secret = ingress.secret.val) (hnow : 3600000 ≤ nowMs) :
    app.applyDispatchedRequest host ingress request freshId nowMs =
      app.refuse (request.requestId.getD freshId) request.action "authentication failed" := by
  rw [applyDispatchedRequest_privileged host app freshId haction hsecret]
  cases hauth : ingress.authenticate
      (operatorInput (request.requestId.getD freshId) request.action nowMs) ingress.secret with
  | error error => rfl
  | ok command =>
    obtain ⟨hvalid, -⟩ := (LocalControlIngress.authenticate_eq_ok hrequired hgranted).mp hauth
    have hwell := EventEnvelope.validate_eq_ok.mp hvalid
    rw [operatorInput_wellFormed_iff] at hwell
    omega

/-- In the first hour it reaches the runtime. -/
theorem applyDispatchedRequest_applied (haction : request.action = "stop" ∨ request.action = "mute")
    (hrequired : capabilityForAction request.action = some required)
    (hgranted : required ∈ ingress.capabilities)
    (hsecret : utf8 request.secret = ingress.secret.val) (hnow : nowMs < 3600000) :
    ∃ command, command.event.payload["action"]? = some (.string request.action) ∧
      command.authority.capabilities = {required} ∧
      app.applyDispatchedRequest host ingress request freshId nowMs =
        app.applyCommand host (request.requestId.getD freshId) request.action command nowMs := by
  have hvalid := EventEnvelope.validate_eq_ok.mpr
    ((operatorInput_wellFormed_iff ingress required (request.requestId.getD freshId) request.action
      nowMs).mpr hnow)
  refine ⟨ingress.mint _ required hvalid, ?_, rfl, ?_⟩
  · exact Std.ExtTreeMap.getElem?_insert_self
  · rw [applyDispatchedRequest_privileged host app freshId haction hsecret,
      (LocalControlIngress.authenticate_eq_ok hrequired hgranted).mpr ⟨hvalid, rfl⟩]

theorem applyCommand_eq_ok {app app' : ProductionApp ρ} {outcome : ControlOutcome}
    {command : AuthenticatedControlCommand} (requestId action : String)
    (h : app.handleControl host command nowMs = .ok (app', outcome)) :
    (app.applyCommand host requestId action command nowMs).2.ok = true ∧
      (app.applyCommand host requestId action command nowMs).1.scheduler = app'.scheduler ∧
      (app.applyCommand host requestId action command nowMs).1.security.muted =
        app'.security.muted := by
  rw [applyCommand, h]
  exact ⟨rfl, rfl, rfl⟩

end ProductionApp

/-! ## Requests that take effect -/

/-- What a request of each action must do. -/
structure Served {ρ : Type} (before : ProductionApp ρ) (action : String) (nowMs : Nat)
    (result : ProductionApp ρ × OperatorResponse) : Prop where
  accepted : result.2.ok = true
  /-- Nothing is left of the performance, up to what is scheduled after the stop. -/
  stopped : action = "stop" → ∃ stopped commits, stopped = (before.scheduler.stopAll nowMs).1 ∧
    stopped.items = [] ∧ result.1.scheduler = Scheduler.machine.run stopped (tickOps commits nowMs)
  muted : action = "mute" → result.1.security.muted = true

section Served

variable {ρ : Type} (host : Host ρ) {ingress : LocalControlIngress} {app : ProductionApp ρ}
variable {request : OperatorRequest} (freshId : String) {nowMs : Nat}

theorem Served.read (haction : request.action = "status" ∨ request.action = "diagnose")
    (hsecret : utf8 request.secret = ingress.secret.val) :
    Served app request.action nowMs
      (app.applyDispatchedRequest host ingress request freshId nowMs) := by
  have hverify : ingress.verifySecret ingress.secret = true :=
    LocalControlIngress.constantTimeEq_iff.mpr rfl
  have hread : app.applyDispatchedRequest host ingress request freshId nowMs =
      app.readStatus host (request.requestId.getD freshId) request.action := by
    rcases haction with haction | haction <;>
      simp [ProductionApp.applyDispatchedRequest, haction, hsecret, toSecret_val, hverify]
  refine ⟨?_, fun hstop ↦ ?_, fun hmute ↦ ?_⟩
  · rw [hread, ProductionApp.readStatus]
    split <;> rfl
  · simp [hstop] at haction
  · simp [hmute] at haction

theorem Served.stop (haction : request.action = "stop")
    (hgranted : .performerStop ∈ ingress.capabilities)
    (hsecret : utf8 request.secret = ingress.secret.val) (hnow : nowMs < 3600000) :
    Served app request.action nowMs
      (app.applyDispatchedRequest host ingress request freshId nowMs) := by
  have hrequired : capabilityForAction request.action = some .performerStop := by rw [haction]; rfl
  obtain ⟨command, hpayload, hcapabilities, happly⟩ :=
    ProductionApp.applyDispatchedRequest_applied host app freshId (Or.inl haction)
      hrequired hgranted hsecret hnow
  rw [haction] at hpayload
  obtain ⟨settled, -, hscheduler, hok⟩ := ProductionApp.handleControl_eq_ok host
    (SecurityRuntime.handleControl_stop app.security app.scheduler nowMs hpayload
      (by simp [hcapabilities]))
  obtain ⟨haccepted, hafter, -⟩ := ProductionApp.applyCommand_eq_ok host
    (request.requestId.getD freshId) request.action hok
  rw [happly]
  refine ⟨haccepted, fun _ ↦ ⟨_, (host.drain nowMs settled).commits, rfl,
    Scheduler.stopAll_items app.scheduler_tidy nowMs, ?_⟩, fun hmute ↦ ?_⟩
  · rw [hafter, ProductionApp.tick_scheduler, hscheduler]
  · simp [haction] at hmute

theorem Served.mute (haction : request.action = "mute")
    (hgranted : .performerMute ∈ ingress.capabilities)
    (hsecret : utf8 request.secret = ingress.secret.val) (hnow : nowMs < 3600000) :
    Served app request.action nowMs
      (app.applyDispatchedRequest host ingress request freshId nowMs) := by
  have hrequired : capabilityForAction request.action = some .performerMute := by rw [haction]; rfl
  obtain ⟨command, hpayload, hcapabilities, happly⟩ :=
    ProductionApp.applyDispatchedRequest_applied host app freshId (Or.inr haction)
      hrequired hgranted hsecret hnow
  rw [haction] at hpayload
  obtain ⟨settled, hsecurity, -, hok⟩ := ProductionApp.handleControl_eq_ok host
    (SecurityRuntime.handleControl_mute app.security app.scheduler nowMs hpayload
      (by simp [hcapabilities]))
  obtain ⟨haccepted, -, hafter⟩ := ProductionApp.applyCommand_eq_ok host
    (request.requestId.getD freshId) request.action hok
  rw [happly]
  refine ⟨haccepted, fun hstop ↦ ?_, fun _ ↦ ?_⟩
  · simp [haction] at hstop
  · rw [hafter, ProductionApp.tick_muted, hsecurity]
    rfl

end Served

/-- **A request takes effect exactly** when it only reads the runtime, or arrives in
the first hour of uptime. -/
theorem request_served_iff {ρ : Type} (host : Host ρ) {name : String} {secret : ControlSecret}
    {server : OperatorControlServer} (hserver : OperatorControlServer.new name secret = .ok server)
    (app : ProductionApp ρ) {request : OperatorRequest}
    (haction : request.action ∈ ["status", "stop", "mute", "diagnose"])
    (hsecret : utf8 request.secret = secret.val) (freshId : String) (nowMs : Nat) :
    Served app request.action nowMs
        (app.applyDispatchedRequest host server.ingress request freshId nowMs) ↔
      request.action = "status" ∨ request.action = "diagnose" ∨ nowMs < 3600000 := by
  obtain ⟨hgranted, hserverSecret⟩ := OperatorControlServer.new_eq_ok hserver
  rw [← hserverSecret] at hsecret
  have hstop : .performerStop ∈ server.ingress.capabilities := by simp [hgranted]
  have hmute : .performerMute ∈ server.ingress.capabilities := by simp [hgranted]
  have hrefused : ∀ required ∈ server.ingress.capabilities,
      capabilityForAction request.action = some required →
      request.action = "stop" ∨ request.action = "mute" → 3600000 ≤ nowMs →
      ¬Served app request.action nowMs
        (app.applyDispatchedRequest host server.ingress request freshId nowMs) := by
    intro required hcapability hrequired hprivileged hnow hserved
    have haccepted := hserved.accepted
    rw [ProductionApp.applyDispatchedRequest_refused host app freshId hprivileged hrequired
      hcapability hsecret hnow] at haccepted
    cases haccepted
  simp only [List.mem_cons, List.not_mem_nil, or_false] at haction
  rcases haction with haction | haction | haction | haction
  · exact iff_of_true (.read host freshId (Or.inl haction) hsecret) (Or.inl haction)
  · constructor
    · intro hserved
      by_contra hlate
      refine hrefused .performerStop hstop (by rw [haction]; rfl) (Or.inl haction) ?_ hserved
      omega
    · intro hearly
      exact .stop host freshId haction hstop hsecret (by simpa [haction] using hearly)
  · constructor
    · intro hserved
      by_contra hlate
      refine hrefused .performerMute hmute (by rw [haction]; rfl) (Or.inr haction) ?_ hserved
      omega
    · intro hearly
      exact .mute host freshId haction hmute hsecret (by simpa [haction] using hearly)
  · exact iff_of_true (.read host freshId (Or.inr haction) hsecret) (Or.inr (Or.inl haction))

/-! ## An hour of uptime -/

/-- A host with no generation work. -/
def idleHost : Host Unit where
  cancelActive := fun rest ↦ (rest, false)
  purgeCancelledPending := fun _ rest ↦ rest
  recordOverride := fun _ _ _ _ rest ↦ rest
  drain := fun _ app ↦ { rest := app.rest, commits := [], audit := [] }
  dispatch := fun _ app ↦ (app.rest, app.health)
  generationActive := fun _ ↦ false
  supportBundle := fun _ ↦ "bundle"

def idleApp : ProductionApp Unit where
  security :=
    { maxAuditRecords := 16, contentQueue := [], muted := false, redactor := .new [], audit := []
      auditHighWater := 0, auditEvicted := 0 }
  scheduler := .new .default
  health := ⟨none, none, none⟩
  rest := ()
  scheduler_tidy := Scheduler.new_tidy _

/-- The secret of thirty-two letters `Z`. -/
def sampleSecret : ControlSecret := ⟨List.replicate 32 (byte 'Z'), by decide⟩

def stopRequest : OperatorRequest where
  action := "stop"
  secret := String.ofList (List.replicate 32 'Z')
  requestId := some "op-1"

def sampleServer : OperatorControlServer where
  name := "aivtuber"
  ingress :=
    { source := "operator-control", principal := "operator:local", method := .signedLocalApi
      capabilities := {.performerStop, .performerMute}, secret := sampleSecret
      source_not_blank := by decide
      principal_not_blank := by decide
      capabilities_nonempty := by decide }

theorem sampleServer_new : OperatorControlServer.new "aivtuber" sampleSecret = .ok sampleServer := by
  rfl

theorem stopRequest_secret : utf8 stopRequest.secret = sampleSecret.val := by
  decide +kernel

theorem stop_served_first_minute :
    Served idleApp "stop" 60000
      (idleApp.applyDispatchedRequest idleHost sampleServer.ingress stopRequest "id" 60000) :=
  (request_served_iff idleHost sampleServer_new idleApp (show stopRequest.action ∈ _ by decide)
    stopRequest_secret "id" 60000).mpr (by decide)

/-- A stop after one hour is answered with an authentication failure. -/
theorem stop_refused_after_hour :
    OperatorControlServer.new "aivtuber" sampleSecret = .ok sampleServer ∧
      utf8 stopRequest.secret = sampleSecret.val ∧
      (idleApp.applyDispatchedRequest idleHost sampleServer.ingress stopRequest "id" 3600000).2 =
        rejection "op-1" "authentication failed" ∧
      ¬Served idleApp "stop" 3600000
        (idleApp.applyDispatchedRequest idleHost sampleServer.ingress stopRequest "id" 3600000) := by
  have hrefused : idleApp.applyDispatchedRequest idleHost sampleServer.ingress stopRequest "id"
      3600000 = idleApp.refuse "op-1" "stop" "authentication failed" :=
    ProductionApp.applyDispatchedRequest_refused idleHost idleApp "id" (Or.inl rfl) rfl
      (by decide) stopRequest_secret le_rfl
  refine ⟨sampleServer_new, stopRequest_secret, ?_, fun hserved ↦ ?_⟩
  · rw [hrefused]
    rfl
  · have haccepted := hserved.accepted
    rw [hrefused] at haccepted
    cases haccepted

end Aivtuber
