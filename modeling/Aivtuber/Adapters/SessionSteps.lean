import Aivtuber.Adapters.Transcript

/-!
# The steps of a websocket session

One lemma for each step of a session gives all that it does: for the wait for an answer
(`awaitAnswer_spec`), the connection (`ensureConnected_spec`), the request (`request_spec`) and the
poll (`pollTransport_spec`).
-/

namespace Aivtuber.Adapters

section Steps

variable {μ σ α : Type} {connection : Nat} {s s' s'' : Session μ σ} {new new' : List (Action μ)}
  {Orderly : Prop} {isAction : μ → Bool} {peer : Peer μ}
  {parseEvent : JsonValue → Option AdapterEvent} {waiting : Waiting α}

/-! ## Requests -/

/-- A reading that queues the events, and nothing else. -/
def Waiting.Hears (waiting : Waiting α) (parseEvent : JsonValue → Option AdapterEvent) : Prop :=
  ∀ value, match waiting.read value with
    | .event event => event = parseEvent value
    | .other | .answer _ => parseEvent value = none

/-- An answer that was read. -/
def Answered (peer : Peer μ) (waiting : Waiting α) (connection : Nat) (new : List (Action μ))
    (a : α) : Prop :=
  ∃ text value, Action.received connection text ∈ new ∧ peer.parse text = .ok value ∧
    waiting.read value = .answer (.ok a)

theorem Answered.mono {a : α} (h : Answered peer waiting connection new a)
    (hsub : new ⊆ new') : Answered peer waiting connection new' a := by
  obtain ⟨text, value, hmem, hread⟩ := h
  exact ⟨text, value, hsub hmem, hread⟩

/-- What is done while an answer is waited for. -/
structure Awaits (peer : Peer μ) (parseEvent : JsonValue → Option AdapterEvent)
    (waiting : Waiting α) (connection : Nat) (s : Session μ σ)
    (result : Session μ σ × Except EngineError α) (new : List (Action μ)) : Prop where
  talk : Talk connection s result.1 new
  sends : sends new = []
  events : result.1.events = s.events ++ heard (hearing peer parseEvent) new
  answer : ∀ a, result.2 = .ok a → Answered peer waiting connection new a

theorem awaitAnswer_spec (hwaiting : waiting.Hears parseEvent) (messages : Nat)
    (s : Session μ σ) : ∃ new, Awaits peer parseEvent waiting connection s
      (awaitAnswer peer waiting connection messages s) new := by
  induction messages generalizing s with
  | zero =>
    exact ⟨[], Talk.refl _ _, rfl, (List.append_nil _).symm, fun a h ↦ by cases h⟩
  | succ messages ih =>
    have hlater {s' : Session μ σ} {new : List (Action μ)} (htalk : Talk connection s s' new)
        (hsends : Adapters.sends new = [])
        (hevents : s'.events = s.events ++ heard (hearing peer parseEvent) new) :
        ∃ new, Awaits peer parseEvent waiting connection s
          (awaitAnswer peer waiting connection messages s') new := by
      obtain ⟨later, hawaits⟩ := ih s'
      refine ⟨new ++ later, htalk.trans hawaits.talk, ?_, ?_, fun a ha ↦ ?_⟩
      · rw [sends_append, hsends, hawaits.sends, List.append_nil]
      · rw [hawaits.events, hevents, heard_append, List.append_assoc]
      · exact (hawaits.answer a ha).mono (List.subset_append_right _ _)
    rw [awaitAnswer, Session.receive]
    cases hreceive : peer.receive s.log with
    | error error =>
      have htalk : Talk connection s (s.note (.failed connection error))
          [.failed connection error] :=
        ⟨rfl, fun action haction ↦ by rw [List.mem_singleton.mp haction]; rfl, rfl⟩
      have hstop (error' : EngineError) : ∃ new, Awaits peer parseEvent waiting connection s
          (s.note (.failed connection error), .error error') new :=
        ⟨_, htalk, rfl, (List.append_nil _).symm, fun a h ↦ by cases h⟩
      dsimp only
      split
      · split
        · exact hstop _
        · exact hlater htalk rfl (List.append_nil _).symm
      · exact hstop _
    | ok text =>
      have htalk : Talk connection s (s.note (.received connection text))
          [.received connection text] :=
        ⟨rfl, fun action haction ↦ by rw [List.mem_singleton.mp haction]; rfl, rfl⟩
      dsimp only
      cases hparse : peer.parse text with
      | error error =>
        refine ⟨_, htalk, rfl, ?_, fun a h ↦ by cases h⟩
        simp [heard, hearing, hparse, Except.toOption, Session.note]
      | ok value =>
        have hread := hwaiting value
        have hheard : heard (hearing peer parseEvent)
            [(Action.received connection text : Action μ)] = (parseEvent value).toList := by
          simp only [heard, hearing, hparse, Except.toOption, List.filterMap_cons,
            List.filterMap_nil, Option.bind_some]
          cases parseEvent value <;> rfl
        dsimp only
        cases hkind : waiting.read value with
        | event event =>
          rw [hkind] at hread
          subst hread
          exact hlater ⟨rfl, htalk.on, rfl⟩ rfl (by rw [hheard]; rfl)
        | other =>
          rw [hkind] at hread
          exact hlater htalk rfl (by rw [hheard, hread]; exact (List.append_nil _).symm)
        | answer result =>
          rw [hkind] at hread
          refine ⟨_, htalk, rfl, ?_, fun a ha ↦ ?_⟩
          · rw [hheard, hread]
            exact (List.append_nil _).symm
          · refine ⟨text, value, List.mem_singleton_self _, hparse, ?_⟩
            rw [hkind]
            exact congrArg Reading.answer ha

/-- What is done for a request: its message is sent once, before the answer is read. -/
structure Exchanges (peer : Peer μ) (parseEvent : JsonValue → Option AdapterEvent)
    (waiting : Waiting α) (connection : Nat) (message : μ) (s : Session μ σ)
    (result : Session μ σ × Except EngineError α) (new : List (Action μ)) : Prop where
  talk : Talk connection s result.1 (.sent connection message :: new)
  sends : sends new = []
  events : result.1.events = s.events ++ heard (hearing peer parseEvent) new
  answer : ∀ a, result.2 = .ok a → Answered peer waiting connection new a

theorem exchange_spec (hwaiting : waiting.Hears parseEvent) (message : μ) (s : Session μ σ) :
    ∃ new, Exchanges peer parseEvent waiting connection message s
      (exchange peer message waiting connection s) new := by
  have hsent : Talk connection s (s.note (.sent connection message)) [.sent connection message] :=
    ⟨rfl, fun action haction ↦ by rw [List.mem_singleton.mp haction]; rfl, rfl⟩
  rw [exchange, Session.send]
  cases peer.send s.log with
  | some error =>
    exact ⟨[], hsent, rfl, (List.append_nil _).symm, fun a h ↦ by cases h⟩
  | none =>
    obtain ⟨new, hawaits⟩ : ∃ new, Awaits peer parseEvent waiting connection
        (s.note (.sent connection message)) (awaitAnswer peer waiting connection _ _) new :=
      awaitAnswer_spec hwaiting maxResponseMessages _
    exact ⟨new, hsent.trans hawaits.talk, hawaits.sends, hawaits.events, hawaits.answer⟩

/-- What is said without an action, while the events that are heard are queued. -/
structure Says (peer : Peer μ) (parseEvent : JsonValue → Option AdapterEvent)
    (isAction : μ → Bool) (connection : Nat) (s s' : Session μ σ) (new : List (Action μ)) :
    Prop where
  talk : Talk connection s s' new
  sends : actionSends isAction new = []
  events : s'.events = s.events ++ heard (hearing peer parseEvent) new

theorem Says.refl (s : Session μ σ) : Says peer parseEvent isAction connection s s [] :=
  ⟨.refl connection s, rfl, (List.append_nil _).symm⟩

theorem Says.trans (h : Says peer parseEvent isAction connection s s' new)
    (h' : Says peer parseEvent isAction connection s' s'' new') :
    Says peer parseEvent isAction connection s s'' (new ++ new') where
  talk := h.talk.trans h'.talk
  sends := by rw [actionSends_append, h.sends, h'.sends, List.append_nil]
  events := by rw [h'.events, h.events, heard_append, List.append_assoc]

theorem Exchanges.said {message : μ} {result : Session μ σ × Except EngineError α}
    (h : Exchanges peer parseEvent waiting connection message s result new)
    (hquiet : isAction message = false) :
    Says peer parseEvent isAction connection s result.1 (.sent connection message :: new) where
  talk := h.talk
  sends := by
    have hsends : Adapters.sends (.sent connection message :: new) = [(connection, message)] := by
      change (connection, message) :: Adapters.sends new = _
      rw [h.sends]
    rw [actionSends, hsends]
    exact List.filter_cons_of_neg (by rw [hquiet]; exact Bool.false_ne_true)
  events := h.events

theorem requestWithTransport_said {stem : String} {message : String → μ}
    {waiting : String → Waiting α} (hwaiting : ∀ requestId, (waiting requestId).Hears parseEvent)
    (hquiet : ∀ requestId, isAction (message requestId) = false) (s : Session μ σ) :
    ∃ new, Says peer parseEvent isAction connection s
      (requestWithTransport peer stem message waiting connection s).1 new := by
  obtain ⟨new, hexchange⟩ : ∃ new, Exchanges peer parseEvent (waiting _) connection (message _)
      (s.nextRequestId stem).1
      (exchange peer (message _) (waiting _) connection (s.nextRequestId stem).1) new :=
    exchange_spec (hwaiting (s.nextRequestId stem).2) (message (s.nextRequestId stem).2) _
  have hsaid := hexchange.said (hquiet _)
  exact ⟨_, ⟨hsaid.talk.log, hsaid.talk.on, hsaid.talk.connections⟩, hsaid.sends, hsaid.events⟩

/-! ## Connections -/

variable {protocol : Protocol μ σ} {Greets : Nat → Session μ σ → Prop}

/-- A handshake talks on its connection, carries no action, and, when it is greeted properly,
queues the events that it hears. -/
def Protocol.Lawful (protocol : Protocol μ σ) (peer : Peer μ) (isAction : μ → Bool)
    (Greets : Nat → Session μ σ → Prop) : Prop :=
  ∀ connection s, ∃ new, Talk connection s (protocol.handshake connection s).1 new ∧
    actionSends isAction new = [] ∧ (Greets connection s →
      (protocol.handshake connection s).1.events =
        s.events ++ heard (hearing peer protocol.parseEvent) new)

/-- If a call connects, the peer greets properly. -/
def Greeted (peer : Peer μ) (Greets : Nat → Session μ σ → Prop) (s : Session μ σ) : Prop :=
  s.transport = none → s.reconnect.canAttempt (peer.nowMs s.log) = true →
    peer.connect s.log = none → Greets s.connections s.opened

/-- What is done to connect. -/
structure Connects (peer : Peer μ) (protocol : Protocol μ σ) (isAction : μ → Bool)
    (Greets : Nat → Session μ σ → Prop) (s : Session μ σ)
    (result : Session μ σ × Except EngineError Unit) (new : List (Action μ)) : Prop where
  did : Did (hearing peer protocol.parseEvent) (Greeted peer Greets s) s result.1 new
  sends : actionSends isAction new = []
  ok : ∀ u, result.2 = .ok u →
    ∃ c, result.1.transport = some c ∧ (s.transport = some c ∨ .connected c ∈ new)
  error : ∀ e, result.2 = .error e → result.1.transport = none

theorem ensureConnected_spec (hlawful : protocol.Lawful peer isAction Greets) (s : Session μ σ) :
    ∃ new, Connects peer protocol isAction Greets s (ensureConnected peer protocol s) new := by
  rw [ensureConnected]
  split
  case isTrue hsome =>
    obtain ⟨c, hc⟩ := Option.isSome_iff_exists.mp hsome
    exact ⟨[], .refl s, rfl, fun _ _ ↦ ⟨c, hc, Or.inl hc⟩, fun _ h ↦ by cases h⟩
  case isFalse hnone =>
    rw [Bool.not_eq_true, Option.isSome_eq_false_iff, Option.isNone_iff_eq_none] at hnone
    dsimp only
    split
    · exact ⟨[], .refl s, rfl, (fun _ h ↦ by cases h), fun _ _ ↦ hnone⟩
    case isFalse hattempt =>
      rw [Bool.not_eq_true, Bool.not_eq_false'] at hattempt
      cases hconnect : peer.connect s.log with
      | some error =>
        refine ⟨[.refused], ⟨rfl, fun htidy ↦ ?_, fun _ horder ↦ ?_⟩, rfl,
          (fun _ h ↦ by cases h), fun _ _ ↦ hnone⟩
        · exact Tidy.note htidy (fun _ huse ↦ huse) fun _ heq ↦ by cases heq
        · exact horder.append rfl rfl (List.append_nil _).symm
      | none =>
        obtain ⟨new, htalk, hsends, hevents⟩ := hlawful s.connections s.opened
        have hopened (htidy : s.IsTidy) : Tidy (protocol.handshake s.connections s.opened).1.log
            (protocol.handshake s.connections s.opened).1.connections (some s.connections) := by
          rw [htalk.log, htalk.connections]
          rw [Session.IsTidy, hnone] at htidy
          exact htidy.connect.talk htalk.on
        have horder (hgreeted : Greeted peer Greets s)
            (h : InOrder (hearing peer protocol.parseEvent) s) :
            InOrder (hearing peer protocol.parseEvent)
              (protocol.handshake s.connections s.opened).1 := by
          have hfresh : InOrder (hearing peer protocol.parseEvent) s.opened :=
            h.append rfl rfl (List.append_nil _).symm
          exact hfresh.append htalk.log htalk.returned (hevents (hgreeted hnone hattempt hconnect))
        have hlog : (protocol.handshake s.connections s.opened).1.log =
            s.log ++ (.connected s.connections :: new) := by
          rw [htalk.log]
          exact (List.append_cons _ _ _).symm
        dsimp only
        cases hhandshake : protocol.handshake s.connections s.opened with
        | mk told result =>
          rw [hhandshake] at hopened horder hlog
          cases result with
          | error error =>
            refine ⟨.connected s.connections :: new ++ [.closed s.connections],
              ⟨?_, fun htidy ↦ (hopened htidy).close, fun hgreeted h ↦ ?_⟩, ?_,
              (fun _ h ↦ by cases h), fun _ _ ↦ rfl⟩
            · rw [← List.append_assoc, ← hlog]
              rfl
            · exact (horder hgreeted h).append rfl rfl (List.append_nil _).symm
            · rw [actionSends_append]
              exact List.append_eq_nil_iff.mpr ⟨hsends, rfl⟩
          | ok u =>
            exact ⟨.connected s.connections :: new,
              ⟨hlog, fun htidy ↦ hopened htidy, fun hgreeted h ↦ horder hgreeted h⟩, hsends,
              fun _ _ ↦ ⟨s.connections, rfl, Or.inr List.mem_cons_self⟩,
              fun _ h ↦ by cases h⟩


/-- What a request does: its message is sent once, on the current connection. -/
structure Requests (peer : Peer μ) (parseEvent : JsonValue → Option AdapterEvent) (Orderly : Prop)
    (message : String → μ) (waiting : String → Waiting α) (connection : Nat) (s : Session μ σ)
    (result : Session μ σ × Except EngineError α) (requestId : String) (new after : List (Action μ)) :
    Prop where
  did : Did (hearing peer parseEvent) Orderly s result.1
    (.sent connection (message requestId) :: new ++ after)
  sends : sends (new ++ after) = []
  answer : ∀ a, result.2 = .ok a → Answered peer (waiting requestId) connection new a
  broken : ∀ e, result.2 = .error e → errorBreaksSession e = true → result.1.transport = none

theorem request_spec {stem : String} {message : String → μ} {waiting : String → Waiting α}
    (hwaiting : ∀ requestId, (waiting requestId).Hears protocol.parseEvent) {connection : Nat}
    (hconnection : s.transport = some connection) (Orderly : Prop) :
    ∃ requestId new after, Requests peer protocol.parseEvent Orderly message waiting connection s
      (request peer protocol (requestWithTransport peer stem message waiting) s)
      requestId new after := by
  obtain ⟨asked, requestId, hasked⟩ : ∃ asked requestId,
      ({ s with transport := none } : Session μ σ).nextRequestId stem = (asked, requestId) :=
    ⟨_, _, rfl⟩
  have hsame : asked.log = s.log ∧ asked.connections = s.connections ∧ asked.events = s.events := by
    cases hasked
    exact ⟨rfl, rfl, rfl⟩
  obtain ⟨new, hexchange⟩ : ∃ new, Exchanges peer protocol.parseEvent (waiting requestId) connection
      (message requestId) asked (exchange peer (message requestId) (waiting requestId) connection
        asked) new := exchange_spec (hwaiting requestId) _ _
  have hresult : requestWithTransport peer stem message waiting connection
      { s with transport := none } = exchange peer (message requestId) (waiting requestId)
        connection asked := by
    rw [requestWithTransport, hasked]
  have htidy (h : s.IsTidy) : Tidy (exchange peer (message requestId) (waiting requestId)
      connection asked).1.log (exchange peer (message requestId) (waiting requestId)
        connection asked).1.connections (some connection) := by
    rw [hexchange.talk.log, hexchange.talk.connections, hsame.1, hsame.2.1]
    rw [Session.IsTidy, hconnection] at h
    exact Tidy.talk h hexchange.talk.on
  have hlog : (exchange peer (message requestId) (waiting requestId) connection asked).1.log =
      s.log ++ (.sent connection (message requestId) :: new) := by
    rw [hexchange.talk.log, hsame.1]
  have hevents : (exchange peer (message requestId) (waiting requestId) connection
      asked).1.events = s.events ++ heard (hearing peer protocol.parseEvent)
        (.sent connection (message requestId) :: new) := by
    rw [hexchange.events, hsame.2.2]
    rfl
  have horder {s' : Session μ σ} (after : List (Action μ))
      (hlog' : s'.log = s.log ++ (.sent connection (message requestId) :: new ++ after))
      (hevents' : s'.events = (exchange peer (message requestId) (waiting requestId) connection
        asked).1.events) (hreturned : returned after = [])
      (hheard : heard (hearing peer protocol.parseEvent) after = [])
      (h : InOrder (hearing peer protocol.parseEvent) s) :
      InOrder (hearing peer protocol.parseEvent) s' := by
    refine h.append hlog' ?_ ?_
    · rw [returned_append, hreturned, hexchange.talk.returned]
      rfl
    · rw [hevents', hevents, heard_append, hheard, List.append_nil]
  rw [request, hconnection]
  dsimp only
  rw [hresult]
  have hanswer := hexchange.answer
  cases hdone : exchange peer (message requestId) (waiting requestId) connection asked with
  | mk told result =>
    rw [hdone] at htidy hlog horder hanswer
    cases result with
    | ok a =>
      refine ⟨requestId, new, [], ⟨?_, fun h ↦ htidy h, fun _ h ↦ ?_⟩, ?_, hanswer,
        fun _ h ↦ by cases h⟩
      · rw [List.append_nil]
        exact hlog
      · refine horder [] ?_ rfl rfl rfl h
        rw [List.append_nil]
        exact hlog
      · rw [List.append_nil]
        exact hexchange.sends
    | error error =>
      dsimp only
      split
      · refine ⟨requestId, new, [.closed connection], ⟨?_, fun h ↦ (htidy h).close,
          fun _ h ↦ ?_⟩, ?_, (fun _ h ↦ by cases h), fun _ _ _ ↦ rfl⟩
        · rw [← List.append_assoc, ← hlog]
          rfl
        · refine horder [.closed connection] ?_ rfl rfl rfl h
          rw [← List.append_assoc, ← hlog]
          rfl
        · rw [sends_append, hexchange.sends]
          rfl
      case isFalse hwhole =>
        refine ⟨requestId, new, [], ⟨?_, fun h ↦ htidy h, fun _ h ↦ ?_⟩, ?_,
          (fun _ h ↦ by cases h), fun e he hbreaks ↦ ?_⟩
        · rw [List.append_nil]
          exact hlog
        · refine horder [] ?_ rfl rfl rfl h
          rw [List.append_nil]
          exact hlog
        · rw [List.append_nil]
          exact hexchange.sends
        · cases he
          exact absurd hbreaks hwhole

theorem disconnect_did (Orderly : Prop) (s : Session μ σ) :
    ∃ new, Did (hearing peer protocol.parseEvent) Orderly s (disconnect peer protocol s) new ∧
      sends new = [] ∧ (disconnect peer protocol s).transport = none := by
  rw [disconnect]
  cases htransport : s.transport with
  | none => exact ⟨[], ⟨(List.append_nil _).symm, id, fun _ h ↦ h⟩, rfl, htransport⟩
  | some connection =>
    refine ⟨[.closed connection], ⟨rfl, fun htidy ↦ ?_, fun _ h ↦ ?_⟩, rfl, rfl⟩
    · rw [Session.IsTidy, htransport] at htidy
      exact Tidy.close htidy
    · exact h.append rfl rfl (List.append_nil _).symm

/-- A poll that connects, and whose handshake queues events, does not read another one. -/
def PollsInOrder (peer : Peer μ) (protocol : Protocol μ σ) (s : Session μ σ) : Prop :=
  s.transport = none → ∀ s', ensureConnected peer protocol s = (s', .ok ()) → s'.events ≠ [] →
    ∀ text, peer.receive s'.log = .ok text → hearing peer protocol.parseEvent text = none

theorem pollTransport_spec {Orderly : Prop} (s : Session μ σ)
    (horderly : Orderly → s.events ≠ [] → ∀ text, peer.receive s.log = .ok text →
      hearing peer protocol.parseEvent text = none) : ∃ new,
    Did (hearing peer protocol.parseEvent) Orderly s (pollTransport peer protocol s).1 new ∧
      sends new = [] ∧
    ∀ e, (pollTransport peer protocol s).2 = .error e → errorBreaksSession e = true →
      (pollTransport peer protocol s).1.transport = none := by
  rw [pollTransport]
  cases htransport : s.transport with
  | none =>
    obtain ⟨new, hdid, hsends, hnone⟩ : ∃ new, Did (hearing peer protocol.parseEvent) Orderly s
      (disconnect peer protocol s) new ∧ _ := disconnect_did _ s
    exact ⟨new, hdid, hsends, fun _ _ _ ↦ hnone⟩
  | some connection =>
    dsimp only
    rw [Session.receive]
    cases hreceive : peer.receive s.log with
    | error error =>
      have hfailed : Did (hearing peer protocol.parseEvent) Orderly s
          (s.note (.failed connection error)) [.failed connection error] :=
        .said htransport rfl rfl
      dsimp only
      split
      · exact ⟨_, hfailed, rfl, fun _ h ↦ by cases h⟩
      · obtain ⟨new, hdid, hsends, hnone⟩ : ∃ new, Did (hearing peer protocol.parseEvent)
            Orderly (s.note (.failed connection error)) (disconnect peer protocol _) new ∧ _ :=
          disconnect_did _ _
        refine ⟨_, hfailed.trans hdid, ?_, fun _ _ _ ↦ hnone⟩
        rw [sends_append, hsends]
        rfl
    | ok text =>
      have htidy (h : s.IsTidy) : (s.note (.received connection text)).IsTidy := by
        rw [Session.IsTidy, htransport] at h
        rw [Session.IsTidy, Session.note]
        dsimp only
        rw [htransport]
        exact h.talk fun action haction ↦ by rw [List.mem_singleton.mp haction]; rfl
      have hnoted (hsilent : hearing peer protocol.parseEvent text = none)
          (h : InOrder (hearing peer protocol.parseEvent) s) :
          InOrder (hearing peer protocol.parseEvent) (s.note (.received connection text)) := by
        refine h.append rfl rfl ?_
        simp [heard, hsilent, Session.note]
      dsimp only
      cases hparse : peer.parse text with
      | error error =>
        refine ⟨_, ⟨rfl, htidy, fun _ h ↦ hnoted ?_ h⟩, rfl, fun e he hbreaks ↦ ?_⟩
        · rw [hearing, hparse]
          rfl
        · cases he
          cases hbreaks
      | ok value =>
        have hhearing : hearing peer protocol.parseEvent text = protocol.parseEvent value := by
          rw [hearing, hparse]
          rfl
        dsimp only
        cases hevent : protocol.parseEvent value with
        | none =>
          exact ⟨_, ⟨rfl, htidy, fun _ h ↦ hnoted (hhearing.trans hevent) h⟩, rfl,
            fun _ h ↦ by cases h⟩
        | some event =>
          refine ⟨[.received connection text, .returned event], ⟨?_, fun h ↦ ?_,
            fun hkept h ↦ ?_⟩, rfl, fun _ h ↦ by cases h⟩
          · exact (List.append_assoc _ _ _)
          · exact Tidy.note (htidy h) (fun _ huse ↦ huse) fun _ heq ↦ by cases heq
          · have hempty : s.events = [] := by
              by_contra hwaiting
              have hnone := horderly hkept hwaiting text hreceive
              rw [hhearing, hevent] at hnone
              cases hnone
            rw [InOrder, hempty, List.append_nil] at h
            have hone : heard (hearing peer protocol.parseEvent)
                [(.received connection text : Action μ)] = [event] := by
              simp [heard, hhearing, hevent]
            change returned ((s.log ++ [.received connection text]) ++ [.returned event]) ++
              s.events = heard (hearing peer protocol.parseEvent)
                ((s.log ++ [.received connection text]) ++ [.returned event])
            rw [hempty, List.append_nil, returned_append, returned_append, heard_append,
              heard_append, h, hone]
            change _ ++ [] ++ [event] = _ ++ [event] ++ []
            rw [List.append_nil, List.append_nil]

end Steps

end Aivtuber.Adapters
