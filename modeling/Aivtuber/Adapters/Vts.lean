import Aivtuber.Adapters.SessionProtocol

/-!
# The VTube Studio adapter

`VTubeStudioAdapter` of `crates/adapters/src/vts.rs`: authentication with a token that is asked for
once, the subscriptions that are restored on every connection, and the requests that carry avatar
actions.
-/

open Aivtuber.Check Aivtuber.Text
open Std (ExtTreeMap ExtTreeSet)

namespace Aivtuber.Adapters

structure VtsAction where
  action : String
  parameters : ExtTreeMap String Float64

structure VTubeStudioConfig where
  endpoint : String
  pluginName : String
  pluginDeveloper : String
  authenticationToken : Option String
  reconnect : ReconnectPolicy

/-- How texts are shown in messages. -/
structure VtsHost where
  debug : String → String

structure VtsMessage where
  requestId : String
  messageType : String
  data : JsonValue

/-- What is kept over connections. -/
structure VtsState where
  token : Option String
  subscriptions : ExtTreeSet String

abbrev VtsSession := Session VtsMessage VtsState

def VtsState.new (config : VTubeStudioConfig) : VtsState := ⟨config.authenticationToken, ∅⟩

def parseVtsEvent (message : JsonValue) : Option AdapterEvent := do
  let messageType ← (message.get? "messageType").bind JsonValue.asStr
  if !"Event".toList.isSuffixOf messageType.toList then none
  else some ⟨"vtube_studio", messageType, (message.get? "data").getD .null⟩

/-! ## Requests -/

def awaitVtsResponse (requestId : String) : Waiting JsonValue where
  read response :=
    match parseVtsEvent response with
    | some event => .event (some event)
    | none =>
      if (response.get? "requestID").bind JsonValue.asStr ≠ some requestId then .other
      else if (response.get? "messageType").bind JsonValue.asStr = some "APIError" then
        let errorId := ((response.pointer ["data", "errorID"]).bind JsonValue.asI64).getD 0
        .answer (.error ⟨if errorId = 50 then .authentication else .backend,
          "VTube Studio API error " ++ toString errorId⟩)
      else .answer (.ok ((response.get? "data").getD .null))
  late := ⟨.timeout, "VTube Studio did not respond before the request deadline"⟩
  malformed error := ⟨.backend, "invalid VTube Studio response JSON: " ++ error⟩
  exhausted := ⟨.backend, "VTube Studio response limit exceeded while waiting for request"⟩

def vtsRequestStem : String := "aivtuber-vts-"

def vtsRequest (peer : Peer VtsMessage) (messageType : String) (data : JsonValue) :
    Nat → VtsSession → VtsSession × Except EngineError JsonValue :=
  requestWithTransport peer vtsRequestStem (fun requestId ↦ ⟨requestId, messageType, data⟩)
    awaitVtsResponse

/-! ## The handshake -/

/-- The token: the one that is known, or one that is asked for. -/
def obtainToken (config : VTubeStudioConfig) (peer : Peer VtsMessage) (connection : Nat)
    (session : VtsSession) : VtsSession × Except EngineError String :=
  match session.own.token with
  | some token => (session, .ok token)
  | none =>
    match vtsRequest peer "AuthenticationTokenRequest"
        (.object [("pluginName", .string config.pluginName),
          ("pluginDeveloper", .string config.pluginDeveloper)]) connection session with
    | (session, .error error) => (session, .error error)
    | (session, .ok data) =>
      match ((data.get? "authenticationToken").bind JsonValue.asStr).filter (· ≠ "") with
      | none =>
        (session, .error
          ⟨.authentication, "VTube Studio did not return an authentication token"⟩)
      | some token =>
        ({ session with own := { session.own with token := some token } }, .ok token)

def authenticate (config : VTubeStudioConfig) (peer : Peer VtsMessage) (connection : Nat)
    (session : VtsSession) : VtsSession × Except EngineError Unit :=
  match obtainToken config peer connection session with
  | (session, .error error) => (session, .error error)
  | (session, .ok token) =>
    match vtsRequest peer "AuthenticationRequest"
        (.object [("pluginName", .string config.pluginName),
          ("pluginDeveloper", .string config.pluginDeveloper),
          ("authenticationToken", .string token)]) connection session with
    | (session, .error error) => (session, .error error)
    | (session, .ok data) =>
      (session, ensure ⟨.authentication, "VTube Studio authentication was rejected"⟩
        ((data.get? "authenticated").bind JsonValue.asBool = some true))

def subscription (eventName : String) : JsonValue :=
  .object [("eventName", .string eventName), ("subscribe", .bool true), ("config", .object [])]

/-- Restore the subscriptions. -/
def resubscribe (peer : Peer VtsMessage) (connection : Nat) :
    List String → VtsSession → VtsSession × Except EngineError Unit
  | [], session => (session, .ok ())
  | eventName :: eventNames, session =>
    match vtsRequest peer "EventSubscriptionRequest" (subscription eventName) connection
        session with
    | (session, .error error) => (session, .error error)
    | (session, .ok _) => resubscribe peer connection eventNames session

def vtsProtocol (config : VTubeStudioConfig) (peer : Peer VtsMessage) :
    Protocol VtsMessage VtsState where
  reconnect := config.reconnect
  backoff nextRetryAtMs :=
    "VTube Studio reconnect backoff active until " ++ toString nextRetryAtMs ++ "ms"
  refused error := "VTube Studio connection failed: " ++ error.message
  notConnected := "VTube Studio is not connected"
  malformedEvent error := "invalid VTube Studio event JSON: " ++ error
  parseEvent := parseVtsEvent
  handshake connection session :=
    match authenticate config peer connection session with
    | (session, .error error) => (session, .error error)
    | (session, .ok ()) => resubscribe peer connection session.own.subscriptions.toList session

/-! ## Actions -/

/-- What follows a text. -/
def stripPrefix (start text : String) : Option String :=
  if start.toList.isPrefixOf text.toList then
    some (String.ofList (text.toList.drop start.toList.length))
  else none

def parameterValue (host : VtsHost) (parameter : String × Float64) :
    Except EngineError JsonValue := do
  ensure ⟨.invalidRequest,
      "parameter " ++ host.debug parameter.1 ++ " is outside the VTube Studio API range"⟩
    (parameter.2.isFinite && (Float64.finite (-1000000)).le parameter.2 &&
      parameter.2.le (.finite 1000000))
  .ok (.object [("id", .string parameter.1), ("value", .float parameter.2)])

/-- The type and the data of the request for an action. -/
def mapAvatarAction (host : VtsHost) (avatar : VtsAction) :
    Except EngineError (String × JsonValue) :=
  match stripPrefix "hotkey.trigger:" avatar.action with
  | some hotkeyId =>
    if isBlank hotkeyId then
      .error ⟨.invalidRequest, "hotkey.trigger requires a non-empty hotkey id/name"⟩
    else .ok ("HotkeyTriggerRequest", .object [("hotkeyID", .string hotkeyId)])
  | none =>
    if avatar.action = "parameters.inject" then do
      let parameterValues ← avatar.parameters.toList.mapM (parameterValue host)
      .ok ("InjectParameterDataRequest", .object [("faceFound", .bool false),
        ("mode", .string "set"), ("parameterValues", .array parameterValues)])
    else
      .error ⟨.invalidRequest,
        "unsupported VTube Studio avatar action " ++ host.debug avatar.action⟩

def vtsExecute (config : VTubeStudioConfig) (host : VtsHost) (peer : Peer VtsMessage)
    (action : VtsAction) (session : VtsSession) : VtsSession × Except EngineError Unit :=
  match ensureConnected peer (vtsProtocol config peer) session with
  | (session, .error error) => (session, .error error)
  | (session, .ok ()) =>
    match mapAvatarAction host action with
    | .error error => (session, .error error)
    | .ok (messageType, data) =>
      let (session, result) := request peer (vtsProtocol config peer)
        (vtsRequest peer messageType data) session
      (session, result.map fun _ ↦ ())

def subscribeEvent (config : VTubeStudioConfig) (peer : Peer VtsMessage) (eventName : String)
    (session : VtsSession) : VtsSession × Except EngineError Unit :=
  let eventName := trim eventName
  if eventName = "" then (session, .error ⟨.invalidRequest, "event name must not be empty"⟩)
  else
    let session := { session with
      own := { session.own with subscriptions := session.own.subscriptions.insert eventName } }
    match session.transport with
    | none => (session, .ok ())
    | some _ =>
      let (session, result) := request peer (vtsProtocol config peer)
        (vtsRequest peer "EventSubscriptionRequest" (subscription eventName)) session
      (session, result.map fun _ ↦ ())

def vTubeStudioAdapter (config : VTubeStudioConfig) (host : VtsHost) (peer : Peer VtsMessage) :
    Adapter VtsMessage VtsState VtsAction String where
  protocol := vtsProtocol config peer
  execute := vtsExecute config host peer
  subscribe := subscribeEvent config peer

/-! ## The session protocol -/

def VtsMessage.isAction (message : VtsMessage) : Bool :=
  message.messageType = "HotkeyTriggerRequest" || message.messageType = "InjectParameterDataRequest"

/-- A response to a request that is no error. -/
def VtsSucceeds (requestId : String) (response : JsonValue) : Prop :=
  parseVtsEvent response = none ∧
    (response.get? "requestID").bind JsonValue.asStr = some requestId ∧
      (response.get? "messageType").bind JsonValue.asStr ≠ some "APIError"

def vtsVocabulary (host : VtsHost) : Vocabulary VtsMessage VtsState VtsAction where
  isAction := VtsMessage.isAction
  refuses _ := false
  Carries action requestId message := ∃ messageType data,
    mapAvatarAction host action = .ok (messageType, data) ∧
      message = ⟨requestId, messageType, data⟩
  Succeeds := VtsSucceeds
  Greets _ _ := True

section Lawful

variable {config : VTubeStudioConfig} {host : VtsHost} {peer : Peer VtsMessage}

theorem awaitVtsResponse_hears (requestId : String) :
    (awaitVtsResponse requestId).Hears parseVtsEvent := by
  intro response
  rw [awaitVtsResponse]
  dsimp only
  cases hevent : parseVtsEvent response with
  | some event => rfl
  | none =>
    dsimp only
    split_ifs
    · rfl
    · rfl
    · rfl
    · rfl

theorem awaitVtsResponse_succeeds {requestId : String} {response a : JsonValue}
    (h : (awaitVtsResponse requestId).read response = .answer (.ok a)) :
    VtsSucceeds requestId response := by
  rw [awaitVtsResponse] at h
  dsimp only at h
  cases hevent : parseVtsEvent response with
  | some event =>
    rw [hevent] at h
    cases h
  | none =>
    rw [hevent] at h
    dsimp only at h
    split at h
    case isTrue => cases h
    case isFalse hid =>
      split at h
      case isTrue => cases h
      case isFalse herror => exact ⟨hevent, not_not.mp hid, herror⟩

/-- A request that carries no action. -/
theorem vtsRequest_said {messageType : String} (data : JsonValue) (connection : Nat)
    (hquiet : ∀ requestId, VtsMessage.isAction ⟨requestId, messageType, data⟩ = false)
    (s : VtsSession) : ∃ new, Says peer parseVtsEvent VtsMessage.isAction connection s
      (vtsRequest peer messageType data connection s).1 new :=
  requestWithTransport_said awaitVtsResponse_hears hquiet s

theorem obtainToken_said (connection : Nat) (s : VtsSession) : ∃ new,
    Says peer parseVtsEvent VtsMessage.isAction connection s
      (obtainToken config peer connection s).1 new := by
  rw [obtainToken]
  cases s.own.token with
  | some token => exact ⟨[], .refl s⟩
  | none =>
    dsimp only
    obtain ⟨new, hsaid⟩ : ∃ new, Says peer parseVtsEvent VtsMessage.isAction connection s
        (vtsRequest peer "AuthenticationTokenRequest" _ connection s).1 new :=
      vtsRequest_said (.object [("pluginName", .string config.pluginName),
        ("pluginDeveloper", .string config.pluginDeveloper)]) connection
        (fun _ ↦ rfl) s
    split
    case h_1 hrequest =>
      rw [hrequest] at hsaid
      exact ⟨new, hsaid⟩
    case h_2 told data hrequest =>
      rw [hrequest] at hsaid
      split
      · exact ⟨new, hsaid⟩
      · exact ⟨new, ⟨hsaid.talk.log, hsaid.talk.on, hsaid.talk.connections⟩, hsaid.sends,
          hsaid.events⟩

theorem authenticate_said (connection : Nat) (s : VtsSession) : ∃ new,
    Says peer parseVtsEvent VtsMessage.isAction connection s
      (authenticate config peer connection s).1 new := by
  obtain ⟨new, hsaid⟩ : ∃ new, Says peer parseVtsEvent VtsMessage.isAction connection s
      (obtainToken config peer connection s).1 new := obtainToken_said connection s
  rw [authenticate]
  cases htoken : obtainToken config peer connection s with
  | mk told result =>
    rw [htoken] at hsaid
    cases result with
    | error error => exact ⟨new, hsaid⟩
    | ok token =>
      dsimp only
      obtain ⟨new', hsaid'⟩ : ∃ new', Says peer parseVtsEvent VtsMessage.isAction connection
          told (vtsRequest peer "AuthenticationRequest" _ connection told).1 new' :=
        vtsRequest_said (.object [("pluginName", .string config.pluginName),
          ("pluginDeveloper", .string config.pluginDeveloper),
          ("authenticationToken", .string token)]) connection (fun _ ↦ rfl) told
      split
      case h_1 hrequest =>
        rw [hrequest] at hsaid'
        exact ⟨_, hsaid.trans hsaid'⟩
      case h_2 hrequest =>
        rw [hrequest] at hsaid'
        exact ⟨_, hsaid.trans hsaid'⟩

theorem resubscribe_said (connection : Nat) (eventNames : List String) (s : VtsSession) : ∃ new,
    Says peer parseVtsEvent VtsMessage.isAction connection s
      (resubscribe peer connection eventNames s).1 new := by
  induction eventNames generalizing s with
  | nil => exact ⟨[], .refl s⟩
  | cons eventName eventNames ih =>
    obtain ⟨new, hsaid⟩ : ∃ new, Says peer parseVtsEvent VtsMessage.isAction connection s
        (vtsRequest peer "EventSubscriptionRequest" _ connection s).1 new :=
      vtsRequest_said (subscription eventName) connection (fun _ ↦ rfl) s
    rw [resubscribe]
    split
    case h_1 hrequest =>
      rw [hrequest] at hsaid
      exact ⟨new, hsaid⟩
    case h_2 told _ hrequest =>
      rw [hrequest] at hsaid
      obtain ⟨new', hsaid'⟩ := ih told
      exact ⟨_, hsaid.trans hsaid'⟩

theorem vtsProtocol_lawful :
    (vtsProtocol config peer).Lawful peer VtsMessage.isAction fun _ _ ↦ True := by
  intro connection s
  obtain ⟨new, hsaid⟩ : ∃ new, Says peer parseVtsEvent VtsMessage.isAction connection s
      (authenticate config peer connection s).1 new := authenticate_said connection s
  rw [vtsProtocol]
  dsimp only
  cases hauthenticate : authenticate config peer connection s with
  | mk told result =>
    rw [hauthenticate] at hsaid
    cases result with
    | error error => exact ⟨new, hsaid.talk, hsaid.sends, fun _ ↦ hsaid.events⟩
    | ok u =>
      obtain ⟨new', hsaid'⟩ : ∃ new', Says peer parseVtsEvent VtsMessage.isAction connection
          told (resubscribe peer connection told.own.subscriptions.toList told).1 new' :=
        resubscribe_said connection _ told
      have hboth := hsaid.trans hsaid'
      exact ⟨_, hboth.talk, hboth.sends, fun _ ↦ hboth.events⟩

theorem parameterValue_rejects (parameter : String × Float64) :
    Rejects (parameterValue host parameter) :=
  (rejects_ensure _ _).bind fun _ ↦ rejects_ok _

/-- What is not an action is an invalid request. -/
theorem mapAvatarAction_rejects (avatar : VtsAction) : Rejects (mapAvatarAction host avatar) := by
  rw [mapAvatarAction]
  split
  · split_ifs
    · rintro error ⟨⟩
      rfl
    · exact rejects_ok _
  · split_ifs
    · exact (rejects_mapM fun parameter ↦ parameterValue_rejects parameter).bind fun _ ↦ rejects_ok _
    · rintro error ⟨⟩
      rfl

theorem mapAvatarAction_isAction {avatar : VtsAction} {messageType : String} {data : JsonValue}
    (h : mapAvatarAction host avatar = .ok (messageType, data)) (requestId : String) :
    VtsMessage.isAction ⟨requestId, messageType, data⟩ = true := by
  rw [mapAvatarAction] at h
  split at h
  · split_ifs at h
    cases h
    rfl
  · split_ifs at h
    obtain ⟨parameterValues, -, h⟩ := bind_eq_ok.mp h
    cases h
    rfl

theorem vTubeStudioAdapter_lawful :
    (vTubeStudioAdapter config host peer).Lawful (vtsVocabulary host) peer where
  protocol := vtsProtocol_lawful
  execute action s := by
    cases hconnect : ensureConnected peer (vtsProtocol config peer) s with
    | mk s' result =>
      cases result with
      | error error =>
        refine .unconnected error s' rfl hconnect ?_
        change vtsExecute config host peer action s = _
        rw [vtsExecute, hconnect]
      | ok u =>
        cases hmap : mapAvatarAction host action with
        | error error =>
          refine .invalid error s' rfl hconnect ?_ ?_
          · change vtsExecute config host peer action s = _
            rw [vtsExecute, hconnect]
            dsimp only
            rw [hmap]
          · rw [errorBreaksSession, mapAvatarAction_rejects action error hmap]
            rfl
        | ok mapped =>
          obtain ⟨messageType, data⟩ := mapped
          refine .requested s' vtsRequestStem _ _ rfl hconnect awaitVtsResponse_hears
            (fun requestId ↦ ⟨⟨messageType, data, hmap, rfl⟩,
              mapAvatarAction_isAction hmap requestId⟩)
            (fun requestId value a ↦ awaitVtsResponse_succeeds) ?_
          change vtsExecute config host peer action s = _
          rw [vtsExecute, hconnect]
          dsimp only
          rw [hmap]
          rfl
  subscribe eventName s := by
    change ∃ new, Did (hearing peer (vtsProtocol config peer).parseEvent) True s
      (subscribeEvent config peer eventName s).1 new ∧ _ ∧
      ∀ e, (subscribeEvent config peer eventName s).2 = _ → _ →
        (subscribeEvent config peer eventName s).1.transport = none
    rw [subscribeEvent]
    split_ifs
    · refine ⟨[], .refl s, rfl, fun e he hbreaks ↦ ?_⟩
      cases he
      cases hbreaks
    · obtain ⟨asked, hasked⟩ : ∃ asked : VtsSession, asked = { s with own :=
          { s.own with subscriptions := s.own.subscriptions.insert (trim eventName) } } := ⟨_, rfl⟩
      have hkept : Did (hearing peer (vtsProtocol config peer).parseEvent) True s asked [] := by
        subst hasked
        exact ⟨(List.append_nil _).symm, id, fun _ h ↦ h⟩
      rw [← hasked]
      dsimp only
      cases htransport : asked.transport with
      | none => exact ⟨[], hkept, rfl, fun _ h ↦ by cases h⟩
      | some connection =>
        obtain ⟨requestId, new, after, hrequest⟩ : ∃ requestId new after,
            Requests peer (vtsProtocol config peer).parseEvent True
              (fun requestId ↦ ⟨requestId, "EventSubscriptionRequest",
                subscription (trim eventName)⟩) awaitVtsResponse connection asked
              (request peer (vtsProtocol config peer) (requestWithTransport peer vtsRequestStem
                _ _) asked) requestId new after :=
          request_spec awaitVtsResponse_hears htransport True
        refine ⟨_, hkept.trans hrequest.did, ?_, fun e he ↦ ?_⟩
        · have hsends : sends (.sent connection ⟨requestId, "EventSubscriptionRequest",
              subscription (trim eventName)⟩ :: new ++ after) =
              [(connection, ⟨requestId, "EventSubscriptionRequest",
                subscription (trim eventName)⟩)] := by
            rw [List.cons_append]
            change _ :: sends (new ++ after) = _
            rw [hrequest.sends]
          rw [List.nil_append, actionSends, hsends]
          rfl
        · exact hrequest.broken e (map_eq_error.mp he)

end Lawful

end Aivtuber.Adapters
