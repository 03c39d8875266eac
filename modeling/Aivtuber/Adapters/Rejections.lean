import Aivtuber.Adapters.Vts

/-!
# Rejections

What a rejected subscription does to the VTube Studio adapter.  A subscription is remembered before
the peer answers, and every remembered one must be accepted again before a new connection counts
(`ensure_connected` of `crates/adapters/src/vts.rs`).  So an adapter whose peer answers every
request connects as long as the peer accepts what was subscribed, and never again once it has
remembered a name that the peer refuses, although the refusal itself kept the session
(`reconnects_of_run`).
-/

open Aivtuber.Text
open Saturating (satAdd)

namespace Aivtuber.Adapters

/-! ## Peers that answer -/

def isApiError (response : JsonValue) : Bool :=
  (response.get? "messageType").bind JsonValue.asStr = some "APIError"

def apiErrorId (response : JsonValue) : Int :=
  ((response.pointer ["data", "errorID"]).bind JsonValue.asI64).getD 0

def responseData (response : JsonValue) : JsonValue := (response.get? "data").getD .null

/-- What a response to the request is read as. -/
def readResponse (response : JsonValue) : Except EngineError JsonValue :=
  if isApiError response then
    .error ⟨if apiErrorId response = 50 then .authentication else .backend,
      "VTube Studio API error " ++ toString (apiErrorId response)⟩
  else .ok (responseData response)

/-- The peer answers a request within so many messages and before its deadline.  Events, answers to
other requests and quiet moments may come first. -/
inductive Delivers (peer : Peer VtsMessage) (connection : Nat) (requestId : String)
    (Fits : JsonValue → Prop) : Nat → List (Action VtsMessage) → Prop where
  | answer {messages : Nat} {log : List (Action VtsMessage)} {text : String}
      {response : JsonValue} (received : peer.receive log = .ok text)
      (parsed : peer.parse text = .ok response) (noEvent : parseVtsEvent response = none)
      (own : (response.get? "requestID").bind JsonValue.asStr = some requestId)
      (fits : Fits response) : Delivers peer connection requestId Fits (messages + 1) log
  | event {messages : Nat} {log : List (Action VtsMessage)} {text : String}
      {response : JsonValue} {event : AdapterEvent} (received : peer.receive log = .ok text)
      (parsed : peer.parse text = .ok response) (isEvent : parseVtsEvent response = some event)
      (rest : Delivers peer connection requestId Fits messages
        (log ++ [.received connection text])) :
      Delivers peer connection requestId Fits (messages + 1) log
  | other {messages : Nat} {log : List (Action VtsMessage)} {text : String}
      {response : JsonValue} (received : peer.receive log = .ok text)
      (parsed : peer.parse text = .ok response) (noEvent : parseVtsEvent response = none)
      (foreign : (response.get? "requestID").bind JsonValue.asStr ≠ some requestId)
      (rest : Delivers peer connection requestId Fits messages
        (log ++ [.received connection text])) :
      Delivers peer connection requestId Fits (messages + 1) log
  | quiet {messages : Nat} {log : List (Action VtsMessage)} {error : TransportError}
      (received : peer.receive log = .error error) (timedOut : error.timedOut = true)
      (early : peer.late (log ++ [.failed connection error]) = false)
      (rest : Delivers peer connection requestId Fits messages
        (log ++ [.failed connection error])) :
      Delivers peer connection requestId Fits (messages + 1) log

/-- The peer authenticates, and rejects other requests with other errors only. -/
def Fair (message : VtsMessage) (response : JsonValue) : Prop :=
  if message.messageType = "AuthenticationTokenRequest" then
    isApiError response = false ∧ ∃ token, token ≠ "" ∧
      ((responseData response).get? "authenticationToken").bind JsonValue.asStr = some token
  else if message.messageType = "AuthenticationRequest" then
    isApiError response = false ∧
      ((responseData response).get? "authenticated").bind JsonValue.asBool = some true
  else isApiError response = true → apiErrorId response ≠ 50

/-- A peer that accepts connections and authentication, and answers every request. -/
structure Answering (peer : Peer VtsMessage) : Prop where
  connects : ∀ log, peer.connect log = none
  sends : ∀ log, peer.send log = none
  answers : ∀ log connection message, Delivers peer connection message.requestId (Fair message)
    maxResponseMessages (log ++ [.sent connection message])

/-- From now on the peer accepts the subscription whenever it is asked for. -/
def Accepts (peer : Peer VtsMessage) (log : List (Action VtsMessage)) (eventName : String) : Prop :=
  ∀ later connection requestId, Delivers peer connection requestId (isApiError · = false)
    maxResponseMessages
    (log ++ later ++
      [.sent connection ⟨requestId, "EventSubscriptionRequest", subscription eventName⟩])

/-- From now on the peer refuses the subscription whenever it is asked for. -/
def Refuses (peer : Peer VtsMessage) (log : List (Action VtsMessage)) (eventName : String) : Prop :=
  ∀ later connection requestId, Delivers peer connection requestId (isApiError · = true)
    maxResponseMessages
    (log ++ later ++
      [.sent connection ⟨requestId, "EventSubscriptionRequest", subscription eventName⟩])

section Requests

variable {peer : Peer VtsMessage} {log : List (Action VtsMessage)} {eventName : String}
  {connection : Nat} {requestId : String} {Fits : JsonValue → Prop} {s : VtsSession}

theorem Accepts.later (h : Accepts peer log eventName) (new : List (Action VtsMessage)) :
    Accepts peer (log ++ new) eventName := by
  intro later connection requestId
  rw [List.append_assoc log]
  exact h (new ++ later) connection requestId

theorem Refuses.later (h : Refuses peer log eventName) (new : List (Action VtsMessage)) :
    Refuses peer (log ++ new) eventName := by
  intro later connection requestId
  rw [List.append_assoc log]
  exact h (new ++ later) connection requestId

/-- What leaves all but the log, the events and the handling of requests alone. -/
structure Talked (s s' : VtsSession) : Prop where
  log : ∃ new, s'.log = s.log ++ new
  subscriptions : s'.own.subscriptions = s.own.subscriptions

theorem Talked.refl (s : VtsSession) : Talked s s := ⟨⟨[], (List.append_nil _).symm⟩, rfl⟩

theorem Talked.trans {s s' s'' : VtsSession} (h : Talked s s') (h' : Talked s' s'') :
    Talked s s'' := by
  obtain ⟨new, hlog⟩ := h.log
  obtain ⟨new', hlog'⟩ := h'.log
  refine ⟨⟨new ++ new', ?_⟩, h'.subscriptions.trans h.subscriptions⟩
  rw [hlog', hlog, List.append_assoc]

/-- The log and the subscriptions alone matter. -/
theorem Talked.of_eq {s s' s'' : VtsSession} (h : Talked s s') (hlog : s''.log = s'.log)
    (hsubscriptions : s''.own.subscriptions = s'.own.subscriptions) : Talked s s'' := by
  obtain ⟨new, hnew⟩ := h.log
  exact ⟨⟨new, hlog.trans hnew⟩, hsubscriptions.trans h.subscriptions⟩

theorem Talked.note (s : VtsSession) (action : Action VtsMessage) : Talked s (s.note action) :=
  ⟨⟨[action], rfl⟩, rfl⟩

theorem talked_awaitAnswer {α : Type} (waiting : Waiting α) (messages : Nat) (s : VtsSession) :
    Talked s (awaitAnswer peer waiting connection messages s).1 := by
  induction messages generalizing s with
  | zero => exact Talked.refl s
  | succ messages ih =>
    rw [awaitAnswer, Session.receive]
    cases peer.receive s.log with
    | error error =>
      have hnote := Talked.note s (.failed connection error)
      dsimp only
      split_ifs
      · exact hnote
      · exact hnote.trans (ih _)
      · exact hnote
    | ok text =>
      have hnote := Talked.note s (.received connection text)
      dsimp only
      cases peer.parse text with
      | error error => exact hnote
      | ok value =>
        dsimp only
        cases waiting.read value with
        | event event =>
          refine Talked.trans ?_ (ih _)
          exact hnote.of_eq rfl rfl
        | other => exact hnote.trans (ih _)
        | answer result => exact hnote

theorem vtsRequest_eq (peer : Peer VtsMessage) (connection : Nat) (messageType : String)
    (data : JsonValue) (s : VtsSession) :
    vtsRequest peer messageType data connection s =
      exchange peer ⟨vtsRequestStem ++ toString (satAdd s.requestSequence 1), messageType, data⟩
        (awaitVtsResponse (vtsRequestStem ++ toString (satAdd s.requestSequence 1))) connection
        { s with requestSequence := satAdd s.requestSequence 1 } := rfl

theorem talked_vtsRequest (peer : Peer VtsMessage) (connection : Nat) (messageType : String)
    (data : JsonValue) (s : VtsSession) :
    Talked s (vtsRequest peer messageType data connection s).1 := by
  have hsent (message : VtsMessage) : Talked s
      (({ s with requestSequence := satAdd s.requestSequence 1 } : VtsSession).note
        (.sent connection message)) := (Talked.note s _).of_eq rfl rfl
  rw [vtsRequest_eq, exchange, Session.send]
  cases peer.send _ with
  | some error => exact hsent _
  | none => exact (hsent _).trans (talked_awaitAnswer _ _ _)

theorem read_answer {response : JsonValue} (noEvent : parseVtsEvent response = none)
    (own : (response.get? "requestID").bind JsonValue.asStr = some requestId) :
    (awaitVtsResponse requestId).read response = .answer (readResponse response) := by
  rw [awaitVtsResponse, readResponse]
  dsimp only
  rw [noEvent]
  dsimp only
  rw [if_neg (not_not.mpr own)]
  by_cases herror : (response.get? "messageType").bind JsonValue.asStr = some "APIError"
  · have hkind : isApiError response = true := decide_eq_true herror
    rw [if_pos herror, hkind]
    rfl
  · have hkind : isApiError response = false := decide_eq_false herror
    rw [if_neg herror, hkind]
    rfl

theorem read_other {response : JsonValue} (noEvent : parseVtsEvent response = none)
    (foreign : (response.get? "requestID").bind JsonValue.asStr ≠ some requestId) :
    (awaitVtsResponse requestId).read response = .other := by
  rw [awaitVtsResponse]
  dsimp only
  rw [noEvent]
  dsimp only
  rw [if_pos foreign]

theorem read_event {response : JsonValue} {event : AdapterEvent}
    (isEvent : parseVtsEvent response = some event) :
    (awaitVtsResponse requestId).read response = .event (some event) := by
  rw [awaitVtsResponse]
  dsimp only
  rw [isEvent]

/-- **What is delivered is read**. -/
theorem awaitAnswer_delivers {messages : Nat}
    (h : Delivers peer connection requestId Fits messages s.log) :
    ∃ response s', Fits response ∧
      awaitAnswer peer (awaitVtsResponse requestId) connection messages s =
        (s', readResponse response) := by
  generalize hlog : s.log = log at h
  induction h generalizing s with
  | @answer messages log text response received parsed noEvent own fits =>
    refine ⟨response, s.note (.received connection text), fits, ?_⟩
    rw [awaitAnswer, Session.receive, hlog, received]
    dsimp only
    rw [parsed]
    dsimp only
    rw [read_answer noEvent own]
  | @event messages log text response event received parsed isEvent rest ih =>
    obtain ⟨response, s', fits, hread⟩ := @ih
      { s.note (.received connection text) with events := s.events ++ [event] }
      (by rw [← hlog]; rfl)
    refine ⟨response, s', fits, ?_⟩
    rw [awaitAnswer, Session.receive, hlog, received]
    dsimp only
    rw [parsed]
    dsimp only
    rw [read_event isEvent]
    exact hread
  | @other messages log text response received parsed noEvent foreign rest ih =>
    obtain ⟨response, s', fits, hread⟩ := @ih (s.note (.received connection text))
      (by rw [← hlog]; rfl)
    refine ⟨response, s', fits, ?_⟩
    rw [awaitAnswer, Session.receive, hlog, received]
    dsimp only
    rw [parsed]
    dsimp only
    rw [read_other noEvent foreign]
    exact hread
  | @quiet messages log error received timedOut early rest ih =>
    obtain ⟨response, s', fits, hread⟩ := @ih (s.note (.failed connection error))
      (by rw [← hlog]; rfl)
    have hearly : peer.late (s.note (.failed connection error)).log = false := by
      rw [← hlog] at early
      exact early
    refine ⟨response, s', fits, ?_⟩
    rw [awaitAnswer, Session.receive, hlog, received]
    dsimp only
    rw [if_pos timedOut, hearly]
    exact hread

/-- A request that is delivered an answer. -/
theorem vtsRequest_delivers {messageType : String} {data : JsonValue}
    {Reply : String → JsonValue → Prop} (hpeer : Answering peer)
    (h : ∀ requestId, Delivers peer connection requestId (Reply requestId) maxResponseMessages
      (s.log ++ [.sent connection ⟨requestId, messageType, data⟩])) :
    ∃ requestId response, Reply requestId response ∧
      (vtsRequest peer messageType data connection s).2 = readResponse response := by
  have hdelivers := h (vtsRequestStem ++ toString (satAdd s.requestSequence 1))
  rw [vtsRequest_eq, exchange, Session.send, hpeer.sends]
  obtain ⟨response, s', hreply, hawait⟩ := @awaitAnswer_delivers peer connection _ _
    (({ s with requestSequence := satAdd s.requestSequence 1 } : VtsSession).note
      (.sent connection ⟨_, messageType, data⟩)) maxResponseMessages hdelivers
  exact ⟨_, response, hreply, congrArg Prod.snd hawait⟩

end Requests

/-! ## The handshake -/

section Handshake

variable {config : VTubeStudioConfig} {peer : Peer VtsMessage} {connection : Nat} {s : VtsSession}

theorem talked_obtainToken (s : VtsSession) :
    Talked s (obtainToken config peer connection s).1 := by
  rw [obtainToken]
  cases s.own.token with
  | some token => exact Talked.refl s
  | none =>
    dsimp only
    have htalked := talked_vtsRequest peer connection "AuthenticationTokenRequest"
      (.object [("pluginName", .string config.pluginName),
        ("pluginDeveloper", .string config.pluginDeveloper)]) s
    split
    case h_1 hrequest =>
      rw [hrequest] at htalked
      exact htalked
    case h_2 hrequest =>
      rw [hrequest] at htalked
      split
      · exact htalked
      · exact htalked.of_eq rfl rfl

theorem talked_authenticate (s : VtsSession) :
    Talked s (authenticate config peer connection s).1 := by
  have htoken := @talked_obtainToken config peer connection s
  rw [authenticate]
  split
  case h_1 hobtained =>
    rw [hobtained] at htoken
    exact htoken
  case h_2 told token hobtained =>
    rw [hobtained] at htoken
    have htalked := talked_vtsRequest peer connection "AuthenticationRequest"
      (.object [("pluginName", .string config.pluginName),
        ("pluginDeveloper", .string config.pluginDeveloper),
        ("authenticationToken", .string token)]) told
    split
    case h_1 hrequest =>
      rw [hrequest] at htalked
      exact htoken.trans htalked
    case h_2 hrequest =>
      rw [hrequest] at htalked
      exact htoken.trans htalked

theorem talked_resubscribe (eventNames : List String) (s : VtsSession) :
    Talked s (resubscribe peer connection eventNames s).1 := by
  induction eventNames generalizing s with
  | nil => exact Talked.refl s
  | cons eventName eventNames ih =>
    have htalked := talked_vtsRequest peer connection "EventSubscriptionRequest"
      (subscription eventName) s
    rw [resubscribe]
    split
    case h_1 hrequest =>
      rw [hrequest] at htalked
      exact htalked
    case h_2 hrequest =>
      rw [hrequest] at htalked
      exact htalked.trans (ih _)

/-- A response that is no error is read as its data. -/
theorem readResponse_of_noError {response : JsonValue} (h : isApiError response = false) :
    readResponse response = .ok (responseData response) := by
  rw [readResponse, h]
  rfl

/-- A peer that answers tells the token, where it is not known yet. -/
theorem obtainToken_answering (hpeer : Answering peer) (s : VtsSession) :
    ∃ s' token, obtainToken config peer connection s = (s', .ok token) := by
  rw [obtainToken]
  cases s.own.token with
  | some token => exact ⟨s, token, rfl⟩
  | none =>
    dsimp only
    obtain ⟨requestId, response, hfair, hread⟩ := vtsRequest_delivers hpeer fun requestId ↦
      hpeer.answers s.log connection ⟨requestId, "AuthenticationTokenRequest",
        .object [("pluginName", .string config.pluginName),
          ("pluginDeveloper", .string config.pluginDeveloper)]⟩
    rw [Fair, if_pos rfl] at hfair
    obtain ⟨hok, token, hne, htoken⟩ := hfair
    rw [readResponse_of_noError hok] at hread
    rcases hrequest : vtsRequest peer "AuthenticationTokenRequest" _ connection s
      with ⟨told, result⟩
    rw [hrequest] at hread
    cases hread
    dsimp only
    rw [htoken, Option.filter_some, if_pos (decide_eq_true hne)]
    exact ⟨_, token, rfl⟩

/-- A peer that answers authenticates. -/
theorem authenticate_answering (hpeer : Answering peer) (s : VtsSession) :
    ∃ s', authenticate config peer connection s = (s', .ok ()) := by
  obtain ⟨told, token, htoken⟩ := @obtainToken_answering config peer connection hpeer s
  rw [authenticate, htoken]
  dsimp only
  obtain ⟨requestId, response, hfair, hread⟩ := vtsRequest_delivers hpeer fun requestId ↦
    hpeer.answers told.log connection ⟨requestId, "AuthenticationRequest",
      .object [("pluginName", .string config.pluginName),
        ("pluginDeveloper", .string config.pluginDeveloper),
        ("authenticationToken", .string token)]⟩
  rw [Fair, if_neg (show "AuthenticationRequest" ≠ "AuthenticationTokenRequest" by decide),
    if_pos rfl] at hfair
  rw [readResponse_of_noError hfair.1] at hread
  rcases hrequest : vtsRequest peer "AuthenticationRequest" _ connection told
    with ⟨authenticated, result⟩
  rw [hrequest] at hread
  cases hread
  dsimp only
  rw [hfair.2]
  exact ⟨authenticated, rfl⟩

/-- The peer accepts every remembered subscription. -/
theorem resubscribe_accepts (hpeer : Answering peer) {eventNames : List String}
    (h : ∀ eventName ∈ eventNames, Accepts peer s.log eventName) :
    ∃ s', resubscribe peer connection eventNames s = (s', .ok ()) := by
  induction eventNames generalizing s with
  | nil => exact ⟨s, rfl⟩
  | cons eventName eventNames ih =>
    obtain ⟨haccepts, hrest⟩ := List.forall_mem_cons.mp h
    obtain ⟨-, response, hok, hread⟩ := vtsRequest_delivers hpeer fun requestId ↦ by
      have hdelivers := haccepts [] connection requestId
      rwa [List.append_nil] at hdelivers
    rw [readResponse_of_noError hok] at hread
    have htalked := talked_vtsRequest peer connection "EventSubscriptionRequest"
      (subscription eventName) s
    rcases hrequest : vtsRequest peer "EventSubscriptionRequest" (subscription eventName)
      connection s with ⟨told, result⟩
    rw [hrequest] at hread htalked
    cases hread
    obtain ⟨new, hlog⟩ := htalked.log
    rw [resubscribe, hrequest]
    dsimp only at hlog ⊢
    apply ih
    intro other hother
    rw [hlog]
    exact (hrest other hother).later new

/-- The peer refuses one of the remembered subscriptions. -/
theorem resubscribe_refuses (hpeer : Answering peer) {eventNames : List String}
    (h : ∃ eventName ∈ eventNames, Refuses peer s.log eventName) :
    ∃ s' error, resubscribe peer connection eventNames s = (s', .error error) := by
  induction eventNames generalizing s with
  | nil =>
    obtain ⟨eventName, hmem, -⟩ := h
    cases hmem
  | cons eventName eventNames ih =>
    have htalked := talked_vtsRequest peer connection "EventSubscriptionRequest"
      (subscription eventName) s
    obtain ⟨new, hlog⟩ := htalked.log
    obtain ⟨refused, hmem, hrefuses⟩ := h
    rcases hrequest : vtsRequest peer "EventSubscriptionRequest" (subscription eventName)
      connection s with ⟨told, result⟩
    rw [hrequest] at hlog
    rw [resubscribe, hrequest]
    cases result with
    | error error => exact ⟨told, error, rfl⟩
    | ok data =>
      rcases List.mem_cons.mp hmem with rfl | hmem
      · obtain ⟨-, response, herror, hread⟩ :=
          vtsRequest_delivers hpeer fun requestId ↦ by
            have hdelivers := hrefuses [] connection requestId
            rwa [List.append_nil] at hdelivers
        rw [hrequest, readResponse, herror] at hread
        cases hread
      · dsimp only at hlog ⊢
        apply ih
        exact ⟨refused, hmem, hlog ▸ hrefuses.later new⟩

/-- **Connecting**, to a peer that answers and accepts what is remembered. -/
theorem ensureConnected_accepts (hpeer : Answering peer)
    (hretry : s.reconnect.nextRetryAtMs ≤ peer.nowMs s.log)
    (h : ∀ eventName ∈ s.own.subscriptions.toList, Accepts peer s.log eventName) :
    ∃ s', ensureConnected peer (vtsProtocol config peer) s = (s', .ok ()) := by
  rw [ensureConnected]
  split
  case isTrue => exact ⟨s, rfl⟩
  case isFalse =>
    dsimp only
    rw [ReconnectState.canAttempt, decide_eq_true hretry, Bool.not_true, if_neg Bool.false_ne_true,
      hpeer.connects]
    dsimp only
    obtain ⟨told, htold⟩ := @authenticate_answering config peer s.connections hpeer s.opened
    have htalked := @talked_authenticate config peer s.connections s.opened
    rw [htold] at htalked
    obtain ⟨new, hlog⟩ := htalked.log
    obtain ⟨s', hs'⟩ := @resubscribe_accepts peer s.connections told hpeer
      told.own.subscriptions.toList (by
        intro eventName hmem
        rw [htalked.subscriptions] at hmem
        rw [hlog, Session.opened, Session.note, List.append_assoc]
        exact (h eventName hmem).later _)
    rw [vtsProtocol]
    dsimp only
    rw [htold]
    dsimp only
    rw [hs']
    exact ⟨_, rfl⟩

/-- Without a connection, a remembered name that the peer refuses lets no attempt succeed. -/
theorem ensureConnected_refuses (hpeer : Answering peer) (htransport : s.transport = none)
    (h : ∃ eventName ∈ s.own.subscriptions.toList, Refuses peer s.log eventName) :
    ∃ s' error, ensureConnected peer (vtsProtocol config peer) s = (s', .error error) := by
  rw [ensureConnected, htransport, Option.isSome_none, if_neg Bool.false_ne_true]
  dsimp only
  split
  case isTrue => exact ⟨s, _, rfl⟩
  case isFalse =>
    rw [hpeer.connects]
    dsimp only
    obtain ⟨told, htold⟩ := @authenticate_answering config peer s.connections hpeer s.opened
    have htalked := @talked_authenticate config peer s.connections s.opened
    rw [htold] at htalked
    obtain ⟨new, hlog⟩ := htalked.log
    obtain ⟨s', error, hs'⟩ := @resubscribe_refuses peer s.connections told hpeer
      told.own.subscriptions.toList (by
        obtain ⟨eventName, hmem, hrefuses⟩ := h
        refine ⟨eventName, by rwa [htalked.subscriptions], ?_⟩
        rw [hlog, Session.opened, Session.note, List.append_assoc]
        exact hrefuses.later _)
    rw [vtsProtocol]
    dsimp only
    rw [htold]
    dsimp only
    rw [hs']
    exact ⟨_, error, rfl⟩

theorem subscriptions_ensureConnected (s : VtsSession) :
    (ensureConnected peer (vtsProtocol config peer) s).1.own.subscriptions =
      s.own.subscriptions := by
  have htalked : Talked s.opened
      ((vtsProtocol config peer).handshake s.connections s.opened).1 := by
    have hauthenticated := @talked_authenticate config peer s.connections s.opened
    rw [vtsProtocol]
    dsimp only
    split
    case h_1 hresult =>
      rw [hresult] at hauthenticated
      exact hauthenticated
    case h_2 hresult =>
      rw [hresult] at hauthenticated
      exact hauthenticated.trans (talked_resubscribe _ _)
  rw [ensureConnected]
  split
  case isTrue => rfl
  case isFalse =>
    dsimp only
    split
    case isTrue => rfl
    case isFalse =>
      cases peer.connect s.log with
      | some error => rfl
      | none =>
        dsimp only
        split
        case h_1 hresult =>
          rw [hresult] at htalked
          exact htalked.subscriptions
        case h_2 hresult =>
          rw [hresult] at htalked
          exact htalked.subscriptions

theorem subscriptions_request (messageType : String) (data : JsonValue) (s : VtsSession) :
    (request peer (vtsProtocol config peer) (vtsRequest peer messageType data)
      s).1.own.subscriptions = s.own.subscriptions := by
  rw [request]
  cases s.transport with
  | none => rfl
  | some connection =>
    have htalked := talked_vtsRequest peer connection messageType data
      { s with transport := none }
    dsimp only
    split
    case h_1 hresult =>
      rw [hresult] at htalked
      exact htalked.subscriptions
    case h_2 hresult =>
      rw [hresult] at htalked
      split_ifs
      · exact htalked.subscriptions
      · exact htalked.subscriptions

theorem subscriptions_pollTransport (s : VtsSession) :
    (pollTransport peer (vtsProtocol config peer) s).1.own.subscriptions =
      s.own.subscriptions := by
  have hclosed : (disconnect peer (vtsProtocol config peer) s).own.subscriptions =
      s.own.subscriptions := by
    rw [disconnect]
    cases s.transport <;> rfl
  rw [pollTransport]
  cases htransport : s.transport with
  | none => exact hclosed
  | some connection =>
    dsimp only
    rw [Session.receive]
    cases peer.receive s.log with
    | error error =>
      dsimp only
      split_ifs
      · rfl
      · rw [disconnect]
        dsimp only
        cases (s.note (.failed connection error)).transport <;> rfl
    | ok text =>
      dsimp only
      cases peer.parse text with
      | error error => rfl
      | ok value =>
        dsimp only
        cases (vtsProtocol config peer).parseEvent value <;> rfl

end Handshake

/-! ## Runs -/

/-- The names that calls subscribe to. -/
def subscribed : List (Call VtsAction String) → List String
  | [] => []
  | .subscribe eventName :: calls =>
    if trim eventName = "" then subscribed calls else trim eventName :: subscribed calls
  | _ :: calls => subscribed calls

section Runs

variable {config : VTubeStudioConfig} {host : VtsHost} {peer : Peer VtsMessage}

theorem subscriptions_execute (action : VtsAction) (s : VtsSession) :
    (vtsExecute config host peer action s).1.own.subscriptions = s.own.subscriptions := by
  have hconnected := @subscriptions_ensureConnected config peer s
  rw [vtsExecute]
  split
  case h_1 hresult =>
    rw [hresult] at hconnected
    exact hconnected
  case h_2 hresult =>
    rw [hresult] at hconnected
    split
    · exact hconnected
    · exact (subscriptions_request _ _ _).trans hconnected

theorem subscriptions_pollEvent (s : VtsSession) :
    (pollEvent peer (vtsProtocol config peer) s).1.own.subscriptions = s.own.subscriptions := by
  have hconnected := @subscriptions_ensureConnected config peer s
  rw [pollEvent]
  split
  case h_1 => rfl
  case h_2 =>
    split
    case h_1 hresult =>
      rw [hresult] at hconnected
      exact hconnected
    case h_2 hresult =>
      rw [hresult] at hconnected
      exact (subscriptions_pollTransport _).trans hconnected

theorem subscriptions_subscribe (eventName : String) (s : VtsSession) :
    (subscribeEvent config peer eventName s).1.own.subscriptions =
      if trim eventName = "" then s.own.subscriptions
      else s.own.subscriptions.insert (trim eventName) := by
  rw [subscribeEvent]
  split
  case isTrue => rfl
  case isFalse =>
    dsimp only
    split
    · rfl
    · exact subscriptions_request _ _ _

/-- **What is remembered**: a call adds its name, whether or not the peer accepts it. -/
theorem mem_subscriptions_perform (s : VtsSession) (call : Call VtsAction String)
    (eventName : String) :
    eventName ∈
        ((vTubeStudioAdapter config host peer).perform peer s call).1.own.subscriptions ↔
      eventName ∈ s.own.subscriptions ∨ eventName ∈ subscribed [call] := by
  have hsame : ∀ {s' : VtsSession}, s'.own.subscriptions = s.own.subscriptions →
      (eventName ∈ s'.own.subscriptions ↔
        eventName ∈ s.own.subscriptions ∨ eventName ∈ ([] : List String)) := by
    intro s' h
    rw [h, or_iff_left List.not_mem_nil]
  rw [Adapter.perform, vTubeStudioAdapter]
  cases call with
  | connect => exact hsame (subscriptions_ensureConnected (s.note .called))
  | execute action => exact hsame (subscriptions_execute action (s.note .called))
  | pollEvent => exact hsame (subscriptions_pollEvent (s.note .called))
  | nextRetryAtMs => exact hsame rfl
  | subscribe name =>
    rw [Adapter.answer]
    dsimp only
    rw [subscriptions_subscribe name (s.note .called), subscribed, subscribed]
    split
    · rw [or_iff_left List.not_mem_nil]
      rfl
    · rw [Std.ExtTreeSet.mem_insert, Std.LawfulEqCmp.compare_eq_iff_eq, List.mem_singleton,
        or_comm, eq_comm]
      rfl

theorem mem_subscriptions_run (calls : List (Call VtsAction String)) (s : VtsSession)
    (eventName : String) :
    eventName ∈
        (((vTubeStudioAdapter config host peer).machine peer).run s calls).own.subscriptions ↔
      eventName ∈ s.own.subscriptions ∨ eventName ∈ subscribed calls := by
  induction calls generalizing s with
  | nil => exact (or_iff_left List.not_mem_nil).symm
  | cons call calls ih =>
    have hcalls : eventName ∈ subscribed (call :: calls) ↔
        eventName ∈ subscribed [call] ∨ eventName ∈ subscribed calls := by
      cases call with
      | subscribe name =>
        rw [subscribed, subscribed, subscribed]
        split
        · rw [List.mem_nil_iff, false_or]
        · rw [List.mem_cons, List.mem_singleton]
      | _ => exact (or_iff_right List.not_mem_nil).symm
    rw [hcalls, ← or_assoc, ← @mem_subscriptions_perform config host peer s call eventName]
    exact ih _

/-- The state of an adapter after some calls. -/
def afterCalls (config : VTubeStudioConfig) (host : VtsHost) (peer : Peer VtsMessage)
    (calls : List (Call VtsAction String)) : VtsSession :=
  ((vTubeStudioAdapter config host peer).machine peer).run (.new (.new config)) calls

/-- **When an adapter reconnects**: as long as the peer accepts what the calls subscribed to,
every connect at or after the retry instant succeeds, whatever was rejected before; and none does
once the adapter is without a connection and has remembered a name that the peer refuses. -/
theorem reconnects_of_run (config : VTubeStudioConfig) (host : VtsHost) (peer : Peer VtsMessage)
    (hpeer : Answering peer) (calls : List (Call VtsAction String)) :
    ((afterCalls config host peer calls).reconnect.nextRetryAtMs ≤
          peer.nowMs ((afterCalls config host peer calls).note .called).log →
        (∀ eventName ∈ subscribed calls,
          Accepts peer (afterCalls config host peer calls).log eventName) →
        ∃ s', (vTubeStudioAdapter config host peer).perform peer
          (afterCalls config host peer calls) .connect = (s', .ok .done)) ∧
      ((afterCalls config host peer calls).transport = none →
        (∃ eventName ∈ subscribed calls,
          Refuses peer (afterCalls config host peer calls).log eventName) →
        ∃ s' error, (vTubeStudioAdapter config host peer).perform peer
          (afterCalls config host peer calls) .connect = (s', .error error)) := by
  have hmem : ∀ eventName,
      eventName ∈ (afterCalls config host peer calls).own.subscriptions.toList ↔
        eventName ∈ subscribed calls := by
    intro eventName
    rw [Std.ExtTreeSet.mem_toList, afterCalls, mem_subscriptions_run]
    exact or_iff_right Std.ExtTreeSet.not_mem_empty
  constructor
  · intro hretry haccepts
    obtain ⟨s', hs'⟩ := @ensureConnected_accepts config peer
      ((afterCalls config host peer calls).note .called) hpeer hretry
      fun eventName h ↦ (haccepts eventName ((hmem eventName).mp h)).later [.called]
    refine ⟨s', ?_⟩
    rw [Adapter.perform, Adapter.answer]
    exact congrArg (fun answered ↦ (answered.1, answered.2.map fun _ ↦ Answer.done)) hs'
  · rintro htransport ⟨eventName, h, hrefuses⟩
    obtain ⟨s', error, hs'⟩ := @ensureConnected_refuses config peer
      ((afterCalls config host peer calls).note .called) hpeer htransport
      ⟨eventName, (hmem eventName).mpr h, hrefuses.later [.called]⟩
    refine ⟨s', error, ?_⟩
    rw [Adapter.perform, Adapter.answer]
    exact congrArg (fun answered ↦ (answered.1, answered.2.map fun _ ↦ Answer.done)) hs'

end Runs

/-! ## A refused subscription -/

/-- An answer: an error or not, and the data that any request may ask for. -/
def answerFrame (messageType requestId : String) : JsonValue :=
  .object [("messageType", .string messageType), ("requestID", .string requestId),
    ("data", .object [("authenticationToken", .string "token"), ("authenticated", .bool true),
      ("errorID", .integer 8)])]

/-- A peer that answers at once, refuses some subscriptions, and hangs up on a poll. -/
def choosyPeer (refuses : VtsMessage → Bool) : Peer VtsMessage where
  connect _ := none
  send _ := none
  receive log :=
    match log.getLast? with
    | some (.sent _ message) =>
      .ok ((if refuses message then "!" else "=") ++ message.requestId)
    | _ => .error ⟨"connection closed", false⟩
  late _ := false
  nowMs log := 1000 * log.length
  patience _ := 0
  parse text :=
    match text.toList with
    | '!' :: requestId => .ok (answerFrame "APIError" (String.ofList requestId))
    | _ :: requestId => .ok (answerFrame "Response" (String.ofList requestId))
    | [] => .error "EOF while parsing a value at line 1 column 0"

/-- What the peer answers to a message. -/
theorem choosyPeer_delivers (refuses : VtsMessage → Bool) {Fits : JsonValue → Prop}
    (log : List (Action VtsMessage)) (connection : Nat) (message : VtsMessage)
    (h : Fits (answerFrame (if refuses message then "APIError" else "Response")
      message.requestId)) :
    Delivers (choosyPeer refuses) connection message.requestId Fits maxResponseMessages
      (log ++ [.sent connection message]) := by
  have hreceive : (choosyPeer refuses).receive (log ++ [.sent connection message]) =
      .ok ((if refuses message then "!" else "=") ++ message.requestId) := by
    rw [choosyPeer]
    dsimp only
    rw [List.getLast?_concat]
  have hparse : (choosyPeer refuses).parse ((if refuses message then "!" else "=") ++
      message.requestId) = .ok (answerFrame (if refuses message then "APIError" else "Response")
        message.requestId) := by
    rw [choosyPeer]
    dsimp only
    rw [String.toList_append]
    cases refuses message with
    | false =>
      rw [if_neg Bool.false_ne_true, if_neg Bool.false_ne_true,
        show "=".toList = ['='] from rfl]
      exact congrArg (fun id ↦ Except.ok (answerFrame "Response" id)) String.ofList_toList
    | true =>
      rw [if_pos rfl, if_pos rfl, show "!".toList = ['!'] from rfl]
      exact congrArg (fun id ↦ Except.ok (answerFrame "APIError" id)) String.ofList_toList
  refine .answer hreceive hparse ?_ rfl h
  cases refuses message <;> rfl

/-- A message that subscribes. -/
def isSubscription (message : VtsMessage) : Bool :=
  message.messageType = "EventSubscriptionRequest"

/-- A peer that refuses nothing but subscriptions answers every request. -/
theorem answering_choosyPeer {refuses : VtsMessage → Bool}
    (h : ∀ message, refuses message = true → isSubscription message = true) :
    Answering (choosyPeer refuses) where
  connects _ := rfl
  sends _ := rfl
  answers log connection message := by
    have hother : isSubscription message = false → refuses message = false := by
      intro hkind
      rw [← Bool.not_eq_true]
      intro hrefuses
      rw [h message hrefuses] at hkind
      cases hkind
    apply choosyPeer_delivers
    rw [Fair]
    by_cases htoken : message.messageType = "AuthenticationTokenRequest"
    · rw [if_pos htoken, hother (by rw [isSubscription, htoken]; rfl)]
      exact ⟨rfl, "token", by decide, rfl⟩
    by_cases hauthentication : message.messageType = "AuthenticationRequest"
    · rw [if_neg htoken, if_pos hauthentication,
        hother (by rw [isSubscription, hauthentication]; rfl)]
      exact ⟨rfl, rfl⟩
    · rw [if_neg htoken, if_neg hauthentication]
      intro _
      have herror : ∀ messageType, apiErrorId (answerFrame messageType message.requestId) = 8 :=
        fun _ ↦ rfl
      rw [herror]
      decide

def localVts : VTubeStudioConfig where
  endpoint := "ws://127.0.0.1:8001"
  pluginName := "plugin"
  pluginDeveloper := "developer"
  authenticationToken := none
  reconnect := .default

def plainVtsHost : VtsHost := ⟨id⟩

/-- Connect, subscribe, and lose the connection. -/
def subscribeAndLose : List (Call VtsAction String) :=
  [.connect, .subscribe "HandTrackingEvent", .pollEvent]

/-- A peer that accepts the subscription is connected to again. -/
theorem reconnects_of_run_accepted : ∃ s', (vTubeStudioAdapter localVts plainVtsHost
    (choosyPeer fun _ ↦ false)).perform (choosyPeer fun _ ↦ false)
      (afterCalls localVts plainVtsHost (choosyPeer fun _ ↦ false) subscribeAndLose) .connect =
        (s', .ok .done) := by
  apply (reconnects_of_run localVts plainVtsHost (choosyPeer fun _ ↦ false)
    (answering_choosyPeer fun _ h ↦ by cases h) subscribeAndLose).1
  · decide +kernel
  · intro eventName _ later connection requestId
    exact choosyPeer_delivers (fun _ ↦ false) _ connection
      ⟨requestId, "EventSubscriptionRequest", subscription eventName⟩ rfl

/-- **A refused subscription** keeps the session, and fails every connect after it is lost. -/
theorem refused_subscription_disables :
    ¬∀ (config : VTubeStudioConfig) (host : VtsHost) (peer : Peer VtsMessage), Answering peer →
      ∀ calls : List (Call VtsAction String),
        (afterCalls config host peer calls).reconnect.nextRetryAtMs ≤
            peer.nowMs ((afterCalls config host peer calls).note .called).log →
          ∃ s', (vTubeStudioAdapter config host peer).perform peer
            (afterCalls config host peer calls) .connect = (s', .ok .done) := by
  intro hall
  obtain ⟨s', hs'⟩ := hall localVts plainVtsHost (choosyPeer isSubscription)
    (answering_choosyPeer fun _ h ↦ h) subscribeAndLose (by decide +kernel)
  have hfailed : ((vTubeStudioAdapter localVts plainVtsHost (choosyPeer isSubscription)).perform
      (choosyPeer isSubscription) (afterCalls localVts plainVtsHost (choosyPeer isSubscription)
        subscribeAndLose) .connect).2.isOk = false := by decide +kernel
  rw [hs'] at hfailed
  cases hfailed

end Aivtuber.Adapters
