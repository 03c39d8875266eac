import Aivtuber.Adapters.SessionProtocol

/-!
# The OBS adapter

`ObsWebSocketAdapter` of `crates/adapters/src/obs.rs`: the handshake of obs-websocket, the requests
that carry stream actions, and the subscription to events.  The first frame of a connection is read
as its Hello, whatever it is; an event in its place is lost with the connection.
-/

open Aivtuber.Check Aivtuber.Text
open Std (ExtTreeMap)

namespace Aivtuber.Adapters

structure StreamAction where
  action : String
  arguments : ExtTreeMap String JsonValue

structure ObsWebSocketConfig where
  endpoint : String
  password : Option String
  rpcVersion : Nat
  eventSubscriptions : Option Nat
  reconnect : ReconnectPolicy

/-- How texts are shown in messages, and the digest of SHA-256 in Base64. -/
structure ObsHost where
  debug : String → String
  digest : String → String

inductive ObsMessage where
  | identify (rpcVersion : Nat) (authentication : Option String) (eventSubscriptions : Option Nat)
  | reidentify (eventSubscriptions : Nat)
  | request (requestType requestId : String) (requestData : JsonValue)

/-- The subscriptions that are asked for on every connection. -/
abbrev ObsSession := Session ObsMessage (Option Nat)

def parseObsEvent (message : JsonValue) : Option AdapterEvent :=
  if (message.get? "op").bind JsonValue.asU64 ≠ some 5 then none
  else
    ((message.pointer ["d", "eventType"]).bind JsonValue.asStr).map fun eventType ↦
      ⟨"obs", eventType, (message.pointer ["d", "eventData"]).getD .null⟩

/-! ## The handshake -/

def createObsAuthentication (host : ObsHost) (password salt challenge : String) : String :=
  host.digest (host.digest (password ++ salt) ++ challenge)

/-- What is answered to the challenge of a Hello. -/
def obsAuthentication (config : ObsWebSocketConfig) (host : ObsHost) (authentication : JsonValue) :
    Except EngineError String := do
  let challenge ← expect ⟨.backend, "OBS authentication challenge is missing"⟩
    ((authentication.get? "challenge").bind JsonValue.asStr)
  let salt ← expect ⟨.backend, "OBS authentication salt is missing"⟩
    ((authentication.get? "salt").bind JsonValue.asStr)
  let password ← expect
    ⟨.authentication, "OBS requires authentication but no password is configured"⟩ config.password
  .ok (createObsAuthentication host password salt challenge)

/-- The Identify for a Hello. -/
def obsIdentify (config : ObsWebSocketConfig) (host : ObsHost) (peer : Peer ObsMessage)
    (eventSubscriptions : Option Nat) (helloText : String) : Except EngineError ObsMessage := do
  let hello ← (peer.parse helloText).mapError fun error ↦
    ⟨.backend, "invalid OBS Hello JSON: " ++ error⟩
  ensure ⟨.backend, "OBS websocket did not start with Hello (op 0)"⟩
    ((hello.get? "op").bind JsonValue.asU64 = some 0)
  let serverRpc ← expect ⟨.backend, "OBS Hello is missing d.rpcVersion"⟩
    ((hello.pointer ["d", "rpcVersion"]).bind JsonValue.asU64)
  let authentication ← (hello.pointer ["d", "authentication"]).mapM
    (obsAuthentication config host)
  .ok (.identify (min config.rpcVersion serverRpc) authentication eventSubscriptions)

def awaitIdentified : Waiting Unit where
  read message :=
    match (message.get? "op").bind JsonValue.asU64 with
    | some 2 => .answer (.ok ())
    | some 5 => .event (parseObsEvent message)
    | _ => .other
  late := ⟨.timeout, "OBS did not send Identified before the deadline"⟩
  malformed error := ⟨.backend, "invalid OBS identify response JSON: " ++ error⟩
  exhausted := ⟨.backend, "OBS Identified response was not received"⟩

def identify (config : ObsWebSocketConfig) (host : ObsHost) (peer : Peer ObsMessage)
    (connection : Nat) (session : ObsSession) : ObsSession × Except EngineError Unit :=
  match session.receiveWithDeadline peer connection (peer.patience session.log) with
  | (session, .error error) =>
    if error.timedOut then
      (session, .error
        ⟨.timeout, "OBS websocket did not send Hello before the deadline"⟩)
    else (session, .error ⟨.unavailable, error.message⟩)
  | (session, .ok helloText) =>
    match obsIdentify config host peer session.own helloText with
    | .error error => (session, .error error)
    | .ok message => exchange peer message awaitIdentified connection session

def obsProtocol (config : ObsWebSocketConfig) (host : ObsHost) (peer : Peer ObsMessage) :
    Protocol ObsMessage (Option Nat) where
  reconnect := config.reconnect
  backoff nextRetryAtMs := "OBS reconnect backoff active until " ++ toString nextRetryAtMs ++ "ms"
  refused error := "OBS websocket connection failed: " ++ error.message
  notConnected := "OBS websocket is not connected"
  malformedEvent error := "invalid OBS websocket event JSON: " ++ error
  parseEvent := parseObsEvent
  handshake := identify config host peer

/-! ## Actions -/

def requiredString (arguments : ExtTreeMap String JsonValue) (key : String) :
    Except EngineError String :=
  expect ⟨.invalidRequest, "OBS action requires non-empty " ++ key⟩
    ((arguments[key]?.bind JsonValue.asStr).filter fun value ↦ !isBlank value)

def requiredBool (arguments : ExtTreeMap String JsonValue) (key : String) :
    Except EngineError Bool :=
  expect ⟨.invalidRequest, "OBS action requires boolean " ++ key⟩
    (arguments[key]?.bind JsonValue.asBool)

def requiredI64 (arguments : ExtTreeMap String JsonValue) (key : String) :
    Except EngineError Int :=
  expect ⟨.invalidRequest, "OBS action requires integer " ++ key⟩
    (arguments[key]?.bind JsonValue.asI64)

def requiredF64 (arguments : ExtTreeMap String JsonValue) (key : String) :
    Except EngineError Float64 :=
  expect ⟨.invalidRequest, "OBS action requires numeric " ++ key⟩
    (arguments[key]?.bind JsonValue.asF64)

/-- The type and the data of the request for an action. -/
def mapStreamAction (host : ObsHost) (stream : StreamAction) :
    Except EngineError (String × JsonValue) := do
  if stream.action = "scene.set" then
    let sceneName ← requiredString stream.arguments "scene_name"
    .ok ("SetCurrentProgramScene", .object [("sceneName", .string sceneName)])
  else if stream.action = "source.visibility.set" then
    let sceneName ← requiredString stream.arguments "scene_name"
    let sceneItemId ← requiredI64 stream.arguments "scene_item_id"
    let enabled ← requiredBool stream.arguments "enabled"
    .ok ("SetSceneItemEnabled", .object [("sceneName", .string sceneName),
      ("sceneItemId", .integer sceneItemId), ("sceneItemEnabled", .bool enabled)])
  else if stream.action = "audio.mute.set" then
    let inputName ← requiredString stream.arguments "input_name"
    let muted ← requiredBool stream.arguments "muted"
    .ok ("SetInputMute", .object [("inputName", .string inputName), ("inputMuted", .bool muted)])
  else if stream.action = "audio.volume.set" then
    let inputName ← requiredString stream.arguments "input_name"
    let volumeMul ← requiredF64 stream.arguments "volume_mul"
    ensure ⟨.invalidRequest, "volume_mul must be a finite value in 0..=20"⟩
      (volumeMul.isFinite && (Float64.finite 0).le volumeMul && volumeMul.le (.finite 20))
    .ok ("SetInputVolume", .object [("inputName", .string inputName),
      ("inputVolumeMul", .float volumeMul)])
  else
    .error ⟨.invalidRequest, "unsupported OBS stream action " ++ host.debug stream.action⟩

def awaitObsResponse (requestType requestId : String) : Waiting JsonValue where
  read response :=
    match (response.get? "op").bind JsonValue.asU64 with
    | some 5 => .event (parseObsEvent response)
    | some 7 =>
      if (response.pointer ["d", "requestId"]).bind JsonValue.asStr ≠ some requestId then .other
      else if ((response.pointer ["d", "requestStatus", "result"]).bind
          JsonValue.asBool).getD false then
        .answer (.ok ((response.pointer ["d", "responseData"]).getD .null))
      else
        let code := ((response.pointer ["d", "requestStatus", "code"]).bind
          JsonValue.asU64).getD 0
        let comment := ((response.pointer ["d", "requestStatus", "comment"]).bind
          JsonValue.asStr).getD "request failed"
        .answer (.error ⟨.backend, "OBS request " ++ requestType ++ " failed with code " ++
          toString code ++ ": " ++ comment⟩)
    | _ => .other
  late := ⟨.timeout, "OBS did not respond before the request deadline"⟩
  malformed error := ⟨.backend, "invalid OBS response JSON: " ++ error⟩
  exhausted := ⟨.backend, "OBS response limit exceeded while waiting for request"⟩

def obsRequestStem : String := "aivtuber-obs-"

def obsExecute (config : ObsWebSocketConfig) (host : ObsHost) (peer : Peer ObsMessage)
    (action : StreamAction) (session : ObsSession) : ObsSession × Except EngineError Unit :=
  match mapStreamAction host action with
  | .error error => (session, .error error)
  | .ok (requestType, requestData) =>
    match ensureConnected peer (obsProtocol config host peer) session with
    | (session, .error error) => (session, .error error)
    | (session, .ok ()) =>
      let (session, result) := request peer (obsProtocol config host peer)
        (requestWithTransport peer obsRequestStem
          (fun requestId ↦ .request requestType requestId requestData)
          (awaitObsResponse requestType)) session
      (session, result.map fun _ ↦ ())

def setEventSubscriptions (config : ObsWebSocketConfig) (host : ObsHost) (peer : Peer ObsMessage)
    (subscriptions : Nat) (session : ObsSession) : ObsSession × Except EngineError Unit :=
  let session := { session with own := some subscriptions }
  match session.transport with
  | none => (session, .ok ())
  | some connection =>
    match session.send peer connection (.reidentify subscriptions) with
    | (session, .ok ()) => (session, .ok ())
    | (session, .error error) =>
      (disconnect peer (obsProtocol config host peer) session,
        .error ⟨.unavailable, "OBS Reidentify send failed: " ++ error.message⟩)

def obsWebSocketAdapter (config : ObsWebSocketConfig) (host : ObsHost) (peer : Peer ObsMessage) :
    Adapter ObsMessage (Option Nat) StreamAction Nat where
  protocol := obsProtocol config host peer
  execute := obsExecute config host peer
  subscribe := setEventSubscriptions config host peer

/-! ## The session protocol -/

def ObsMessage.isAction : ObsMessage → Bool
  | .request _ _ _ => true
  | .identify _ _ _ | .reidentify _ => false

/-- A success response to a request. -/
def ObsSucceeds (requestId : String) (response : JsonValue) : Prop :=
  (response.get? "op").bind JsonValue.asU64 = some 7 ∧
    (response.pointer ["d", "requestId"]).bind JsonValue.asStr = some requestId ∧
      (response.pointer ["d", "requestStatus", "result"]).bind JsonValue.asBool = some true

/-- The first frame of a connection is no event. -/
def ObsGreets (peer : Peer ObsMessage) (connection : Nat) (session : ObsSession) : Prop :=
  ∀ text, (session.receiveWithDeadline peer connection (peer.patience session.log)).2 = .ok text →
    hearing peer parseObsEvent text = none

def obsVocabulary (host : ObsHost) (peer : Peer ObsMessage) :
    Vocabulary ObsMessage (Option Nat) StreamAction where
  isAction := ObsMessage.isAction
  refuses action := !(mapStreamAction host action).toBool
  Carries action requestId message := ∃ requestType requestData,
    mapStreamAction host action = .ok (requestType, requestData) ∧
      message = .request requestType requestId requestData
  Succeeds := ObsSucceeds
  Greets := ObsGreets peer

section Lawful

variable {config : ObsWebSocketConfig} {host : ObsHost} {peer : Peer ObsMessage}

theorem parseObsEvent_of_ne {message : JsonValue}
    (h : (message.get? "op").bind JsonValue.asU64 ≠ some 5) : parseObsEvent message = none :=
  if_pos h

theorem awaitIdentified_hears : awaitIdentified.Hears parseObsEvent := by
  intro message
  rw [awaitIdentified]
  dsimp only
  split
  case h_1 event heq =>
    split at heq
    case h_1 => cases heq
    case h_2 => exact (Reading.event.inj heq).symm
    case h_3 => cases heq
  case h_2 heq =>
    split at heq
    case h_1 => cases heq
    case h_2 => cases heq
    case h_3 hother => exact parseObsEvent_of_ne hother
  case h_3 result heq =>
    split at heq
    case h_1 htwo =>
      apply parseObsEvent_of_ne
      rw [htwo]
      decide
    case h_2 => cases heq
    case h_3 => cases heq

theorem awaitObsResponse_hears (requestType requestId : String) :
    (awaitObsResponse requestType requestId).Hears parseObsEvent := by
  intro response
  rw [awaitObsResponse]
  dsimp only
  split
  case h_1 event heq =>
    split at heq
    case h_1 => exact (Reading.event.inj heq).symm
    case h_2 => split_ifs at heq
    case h_3 => cases heq
  case h_2 heq =>
    split at heq
    case h_1 => cases heq
    case h_2 hseven =>
      apply parseObsEvent_of_ne
      rw [hseven]
      decide
    case h_3 hfive _ => exact parseObsEvent_of_ne hfive
  case h_3 result heq =>
    split at heq
    case h_1 => cases heq
    case h_2 hseven =>
      apply parseObsEvent_of_ne
      rw [hseven]
      decide
    case h_3 => cases heq

theorem awaitObsResponse_succeeds {requestType requestId : String} {response a : JsonValue}
    (h : (awaitObsResponse requestType requestId).read response = .answer (.ok a)) :
    ObsSucceeds requestId response := by
  rw [awaitObsResponse] at h
  dsimp only at h
  split at h
  case h_1 => cases h
  case h_3 => cases h
  case h_2 hseven =>
    split_ifs at h with hid hsuccess
    · refine ⟨hseven, not_not.mp hid, ?_⟩
      cases hresult : (response.pointer ["d", "requestStatus", "result"]).bind JsonValue.asBool with
      | none =>
        rw [hresult] at hsuccess
        cases hsuccess
      | some result =>
        rw [hresult] at hsuccess
        exact congrArg some hsuccess
    · cases h

/-- What is done while the greeting is waited for. -/
theorem receiveWithDeadline_spec (connection retries : Nat) (s : ObsSession) :
    ∃ new, Talk connection s (s.receiveWithDeadline peer connection retries).1 new ∧
      sends new = [] ∧ (s.receiveWithDeadline peer connection retries).1.events = s.events ∧
      ((∀ text, (s.receiveWithDeadline peer connection retries).2 = .ok text →
        hearing peer parseObsEvent text = none) → heard (hearing peer parseObsEvent) new = []) := by
  have hgreeted (s : ObsSession) (text : String) : ∃ new,
      Talk connection s (s.note (.received connection text)) new ∧ sends new = [] ∧
        (s.note (.received connection text)).events = s.events ∧
          ((∀ text', (.ok text : Except TransportError String) = .ok text' →
            hearing peer parseObsEvent text' = none) →
              heard (hearing peer parseObsEvent) new = []) := by
    refine ⟨[.received connection text], ⟨rfl, fun action haction ↦ ?_, rfl⟩, rfl, rfl,
      fun hsilent ↦ ?_⟩
    · rw [List.mem_singleton.mp haction]
      rfl
    · simp [heard, hsilent text rfl]
  have hfailed (s : ObsSession) (error : TransportError) :
      Talk connection s (s.note (.failed connection error)) [.failed connection error] :=
    ⟨rfl, fun action haction ↦ by rw [List.mem_singleton.mp haction]; rfl, rfl⟩
  induction retries generalizing s with
  | zero =>
    rw [Session.receiveWithDeadline, Session.receive]
    cases hreceive : peer.receive s.log with
    | ok text => exact hgreeted s text
    | error error =>
      dsimp only
      split
      · exact ⟨_, hfailed s error, rfl, rfl, fun _ ↦ rfl⟩
      · exact ⟨_, hfailed s error, rfl, rfl, fun _ ↦ rfl⟩
  | succ retries ih =>
    rw [Session.receiveWithDeadline, Session.receive]
    cases hreceive : peer.receive s.log with
    | ok text => exact hgreeted s text
    | error error =>
      dsimp only
      split
      · obtain ⟨new, htalk, hsends, hevents, hsilent⟩ :=
          ih (s.note (.failed connection error))
        exact ⟨_, (hfailed s error).trans htalk, hsends, hevents, hsilent⟩
      · exact ⟨_, hfailed s error, rfl, rfl, fun _ ↦ rfl⟩

theorem identify_lawful :
    (obsProtocol config host peer).Lawful peer ObsMessage.isAction (ObsGreets peer) := by
  intro connection s
  change ∃ new, Talk connection s (identify config host peer connection s).1 new ∧ _ ∧
    (_ → (identify config host peer connection s).1.events = _)
  obtain ⟨greeting, htalk, hsends, hevents, hsilent⟩ : ∃ greeting, Talk connection s
      (s.receiveWithDeadline peer connection (peer.patience s.log)).1 greeting ∧ _ :=
    receiveWithDeadline_spec connection (peer.patience s.log) s
  have hstop : ∀ s', s' = (s.receiveWithDeadline peer connection (peer.patience s.log)).1 →
      ∃ new, Talk connection s s' new ∧ actionSends ObsMessage.isAction new = [] ∧
        (ObsGreets peer connection s → s'.events =
          s.events ++ heard (hearing peer parseObsEvent) new) := by
    rintro s' rfl
    refine ⟨greeting, htalk, actionSends_of_sends hsends, fun hgreets ↦ ?_⟩
    rw [hevents, hsilent hgreets, List.append_nil]
  rw [identify]
  cases hgreeting : s.receiveWithDeadline peer connection (peer.patience s.log) with
  | mk told result =>
    rw [hgreeting] at htalk hevents hsilent hstop
    cases result with
    | error error =>
      dsimp only
      split
      · exact hstop _ rfl
      · exact hstop _ rfl
    | ok helloText =>
      dsimp only
      cases hidentify : obsIdentify config host peer told.own helloText with
      | error error => exact hstop _ rfl
      | ok message =>
        have hquiet : message.isAction = false := by
          obtain ⟨hello, -, h⟩ := bind_eq_ok.mp hidentify
          obtain ⟨-, h⟩ := unit_bind_eq_ok.mp h
          obtain ⟨serverRpc, -, h⟩ := expect_bind_eq_ok.mp h
          obtain ⟨authentication, -, h⟩ := bind_eq_ok.mp h
          cases h
          rfl
        obtain ⟨new, hexchange⟩ : ∃ new, Exchanges peer parseObsEvent awaitIdentified
            connection message told (exchange peer message awaitIdentified connection told)
              new := exchange_spec awaitIdentified_hears message told
        refine ⟨greeting ++ .sent connection message :: new, htalk.trans hexchange.talk, ?_,
          fun hgreets ↦ ?_⟩
        · rw [actionSends_append, actionSends_of_sends hsends, (hexchange.said hquiet).sends]
          rfl
        · have hnone : heard (hearing peer parseObsEvent) greeting = [] := by
            apply hsilent
            intro text htext
            rw [ObsGreets, hgreeting] at hgreets
            exact hgreets text htext
          change (exchange peer message awaitIdentified connection told).1.events = s.events ++
            heard (hearing peer parseObsEvent) (greeting ++ .sent connection message :: new)
          rw [hexchange.events, hevents, heard_append, hnone]
          rfl

/-- What is not an action is an invalid request. -/
theorem mapStreamAction_rejects (action : StreamAction) :
    Rejects (mapStreamAction host action) := by
  rw [mapStreamAction]
  split_ifs
  · exact (rejects_expect _ _).bind fun _ ↦ rejects_ok _
  · exact (rejects_expect _ _).bind fun _ ↦ (rejects_expect _ _).bind fun _ ↦
      (rejects_expect _ _).bind fun _ ↦ rejects_ok _
  · exact (rejects_expect _ _).bind fun _ ↦ (rejects_expect _ _).bind fun _ ↦ rejects_ok _
  · exact (rejects_expect _ _).bind fun _ ↦ (rejects_expect _ _).bind fun _ ↦
      (rejects_ensure _ _).bind fun _ ↦ rejects_ok _
  · rintro error ⟨⟩
    rfl

theorem obsWebSocketAdapter_lawful :
    (obsWebSocketAdapter config host peer).Lawful (obsVocabulary host peer) peer where
  protocol := identify_lawful
  execute action s := by
    cases hmap : mapStreamAction host action with
    | error error =>
      refine .refused error ?_ ?_
      · change obsExecute config host peer action s = _
        rw [obsExecute, hmap]
      · rw [errorBreaksSession, mapStreamAction_rejects action error hmap]
        rfl
    | ok mapped =>
      obtain ⟨requestType, requestData⟩ := mapped
      have haccepts : (obsVocabulary host peer).refuses action = false := by
        change (!(mapStreamAction host action).toBool) = false
        rw [hmap]
        rfl
      cases hconnect : ensureConnected peer (obsProtocol config host peer) s with
      | mk s' result =>
        cases result with
        | error error =>
          refine .unconnected error s' haccepts hconnect ?_
          change obsExecute config host peer action s = _
          rw [obsExecute, hmap]
          dsimp only
          rw [hconnect]
        | ok u =>
          refine .requested s' obsRequestStem _ _ haccepts hconnect
            (awaitObsResponse_hears requestType)
            (fun requestId ↦ ⟨⟨requestType, requestData, hmap, rfl⟩, rfl⟩)
            (fun requestId value a ↦ awaitObsResponse_succeeds) ?_
          change obsExecute config host peer action s = _
          rw [obsExecute, hmap]
          dsimp only
          rw [hconnect]
          rfl
  subscribe subscriptions s := by
    change ∃ new, Did _ True s (setEventSubscriptions config host peer subscriptions s).1 new ∧ _ ∧
      ∀ e, (setEventSubscriptions config host peer subscriptions s).2 = _ → _ →
        (setEventSubscriptions config host peer subscriptions s).1.transport = none
    obtain ⟨asked, hasked⟩ : ∃ asked : ObsSession, asked = { s with own := some subscriptions } :=
      ⟨_, rfl⟩
    have hkept : Did (hearing peer parseObsEvent) True s asked [] := by
      subst hasked
      exact ⟨(List.append_nil _).symm, id, fun _ h ↦ h⟩
    rw [setEventSubscriptions, ← hasked]
    cases htransport : asked.transport with
    | none => exact ⟨[], hkept, rfl, fun _ h ↦ by cases h⟩
    | some connection =>
      have hsent : Did (hearing peer parseObsEvent) True asked
          (asked.note (.sent connection (.reidentify subscriptions)))
            [.sent connection (.reidentify subscriptions)] := .said htransport rfl rfl
      dsimp only
      rw [Session.send]
      cases peer.send asked.log with
      | none => exact ⟨_, hkept.trans hsent, rfl, fun _ h ↦ by cases h⟩
      | some error =>
        obtain ⟨sent, hsession⟩ : ∃ sent : ObsSession,
          sent = asked.note (.sent connection (.reidentify subscriptions)) := ⟨_, rfl⟩
        rw [← hsession] at hsent ⊢
        obtain ⟨new, hdid, hsends, hnone⟩ : ∃ new,
            Did (hearing peer (obsProtocol config host peer).parseEvent) True sent
              (disconnect peer (obsProtocol config host peer) sent) new ∧ sends new = [] ∧
                (disconnect peer (obsProtocol config host peer) sent).transport = none :=
          disconnect_did True sent
        refine ⟨_, (hkept.trans hsent).trans hdid, ?_, fun _ _ _ ↦ hnone⟩
        rw [actionSends_append, actionSends_of_sends hsends]
        rfl

end Lawful

end Aivtuber.Adapters
