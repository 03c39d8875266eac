import Aivtuber.Adapters.SessionSteps

/-!
# The session protocol

What an adapter keeps to, whatever its peer does: an action is sent at most once, in the call that
executes it, on the connection that is current then; an execution succeeds only on the response to
its own request; and after an error that breaks the session there is no connection.  Events are
returned in the order in which they were heard as long as every call is orderly: a poll that
connects reads a frame of its own even where the handshake has queued events.
-/

namespace Aivtuber.Adapters

section Adapter

variable {μ σ α ς : Type}

/-- What is known of the messages of an adapter. -/
structure Vocabulary (μ σ α : Type) where
  isAction : μ → Bool
  /-- An action that is refused before a session is needed. -/
  refuses : α → Bool
  /-- The message carries the action under a request id. -/
  Carries : α → String → μ → Prop
  /-- The message is a success response to a request id. -/
  Succeeds : String → JsonValue → Prop
  /-- The peer greets as it should. -/
  Greets : Nat → Session μ σ → Prop

/-- An action is sent at most once, in the call that executes it, on the connection that is
current then. -/
def SentOnce (vocabulary : Vocabulary μ σ α) (pre : Session μ σ) (call : Call α ς)
    (new : List (Action μ)) : Prop :=
  actionSends vocabulary.isAction new = [] ∨ ∃ action requestId connection message,
    call = .execute action ∧ vocabulary.Carries action requestId message ∧
      actionSends vocabulary.isAction new = [(connection, message)] ∧
        (pre.transport = some connection ∨ .connected connection ∈ new)

/-- An execution that succeeds has read the success response to its own request, after it was
sent, on the same connection. -/
def SucceededBy (vocabulary : Vocabulary μ σ α) (peer : Peer μ) (action : α)
    (new : List (Action μ)) : Prop :=
  ∃ requestId connection message before after text value,
    new = before ++ .sent connection message :: after ∧
      vocabulary.Carries action requestId message ∧ .received connection text ∈ after ∧
        peer.parse text = .ok value ∧ vocabulary.Succeeds requestId value

/-- What a call keeps, whatever the peer does. -/
structure Kept (vocabulary : Vocabulary μ σ α) (peer : Peer μ)
    (e : Machine.Event (Session μ σ) (Call α ς) (Except EngineError Answer))
    (new : List (Action μ)) : Prop where
  log : e.post.log = e.pre.log ++ new
  once : SentOnce vocabulary e.pre e.input new
  succeeded : ∀ action a, e.input = .execute action → e.output = .ok a →
    SucceededBy vocabulary peer action new
  broken : ∀ error, e.output = .error error → errorBreaksSession error = true →
    e.post.transport = none

/-- A call in which events stay in order: if it connects, the peer greets as it should, and if it
polls, what the handshake queues is not overtaken. -/
def OrderlyCall (adapter : Adapter μ σ α ς) (vocabulary : Vocabulary μ σ α) (peer : Peer μ)
    (session : Session μ σ) : Call α ς → Prop
  | .connect => Greeted peer vocabulary.Greets session
  | .execute action => vocabulary.refuses action = false → Greeted peer vocabulary.Greets session
  | .pollEvent => session.events = [] →
      Greeted peer vocabulary.Greets session ∧ PollsInOrder peer adapter.protocol session
  | .subscribe _ | .nextRetryAtMs => True

/-- How an action is executed: it is refused, or a session is ensured for it, and then it is
refused, or requested once. -/
inductive Executes (adapter : Adapter μ σ α ς) (vocabulary : Vocabulary μ σ α) (peer : Peer μ)
    (action : α) (s : Session μ σ) : Prop where
  | refused (error : EngineError) (h : adapter.execute action s = (s, .error error))
      (hwhole : errorBreaksSession error = false)
  | unconnected (error : EngineError) (s' : Session μ σ) (haccepts : vocabulary.refuses action = false)
      (hconnect : ensureConnected peer adapter.protocol s = (s', .error error))
      (h : adapter.execute action s = (s', .error error))
  | invalid (error : EngineError) (s' : Session μ σ) (haccepts : vocabulary.refuses action = false)
      (hconnect : ensureConnected peer adapter.protocol s = (s', .ok ()))
      (h : adapter.execute action s = (s', .error error))
      (hwhole : errorBreaksSession error = false)
  | requested (s' : Session μ σ) (stem : String) (message : String → μ)
      (waiting : String → Waiting JsonValue) (haccepts : vocabulary.refuses action = false)
      (hconnect : ensureConnected peer adapter.protocol s = (s', .ok ()))
      (hwaiting : ∀ requestId, (waiting requestId).Hears adapter.protocol.parseEvent)
      (hcarries : ∀ requestId, vocabulary.Carries action requestId (message requestId) ∧
        vocabulary.isAction (message requestId) = true)
      (hsucceeds : ∀ requestId value a, (waiting requestId).read value = .answer (.ok a) →
        vocabulary.Succeeds requestId value)
      (h : adapter.execute action s =
        ((request peer adapter.protocol (requestWithTransport peer stem message waiting) s').1,
          (request peer adapter.protocol
            (requestWithTransport peer stem message waiting) s').2.map fun _ ↦ ()))

/-- An adapter that keeps to the session protocol. -/
structure Adapter.Lawful (adapter : Adapter μ σ α ς) (vocabulary : Vocabulary μ σ α)
    (peer : Peer μ) : Prop where
  protocol : adapter.protocol.Lawful peer vocabulary.isAction vocabulary.Greets
  execute : ∀ action s, Executes adapter vocabulary peer action s
  subscribe : ∀ subscription s, ∃ new,
    Did (hearing peer adapter.protocol.parseEvent) True s (adapter.subscribe subscription s).1 new ∧
      actionSends vocabulary.isAction new = [] ∧
        ∀ e, (adapter.subscribe subscription s).2 = .error e → errorBreaksSession e = true →
          (adapter.subscribe subscription s).1.transport = none

variable {adapter : Adapter μ σ α ς} {vocabulary : Vocabulary μ σ α} {peer : Peer μ}
  {Orderly Orderly' : Prop} {hear : String → Option AdapterEvent} {s s' : Session μ σ}
  {new : List (Action μ)}

theorem map_eq_error {ε β γ : Type} {f : β → γ} {x : Except ε β} {e : ε} :
    x.map f = .error e ↔ x = .error e := by
  cases x <;> simp [Except.map]

theorem map_eq_ok {ε β γ : Type} {f : β → γ} {x : Except ε β} {c : γ} :
    x.map f = .ok c ↔ ∃ b, x = .ok b ∧ f b = c := by
  cases x <;> simp [Except.map]

/-- What a poll does. -/
theorem pollEvent_spec (hlawful : adapter.protocol.Lawful peer vocabulary.isAction
      vocabulary.Greets) (s : Session μ σ) : ∃ new,
    Did (hearing peer adapter.protocol.parseEvent)
      (OrderlyCall adapter vocabulary peer s .pollEvent) s
      (pollEvent peer adapter.protocol s).1 new ∧
    actionSends vocabulary.isAction new = [] ∧
    ∀ e, (pollEvent peer adapter.protocol s).2 = .error e → errorBreaksSession e = true →
      (pollEvent peer adapter.protocol s).1.transport = none := by
  rw [pollEvent]
  cases hevents : s.events with
  | cons event events =>
    refine ⟨[.returned event], ⟨rfl, fun htidy ↦ ?_, fun _ h ↦ ?_⟩, rfl, fun _ h ↦ by cases h⟩
    · exact Tidy.note htidy (fun _ huse ↦ huse) fun _ heq ↦ by cases heq
    · rw [InOrder, hevents] at h
      change returned (s.log ++ [.returned event]) ++ events =
        heard _ (s.log ++ [.returned event])
      rw [returned_append, heard_append, ← h, List.append_assoc]
      exact (List.append_nil _).symm
  | nil =>
    obtain ⟨new, hconnects⟩ := ensureConnected_spec hlawful s
    have hok : ∀ s', ensureConnected peer adapter.protocol s = (s', .ok ()) →
        s.transport ≠ none → s'.events = [] := by
      intro s' h htransport
      rw [ensureConnected, if_pos (Option.isSome_iff_ne_none.mpr htransport)] at h
      cases h
      exact hevents
    have hpoll (horderly : OrderlyCall adapter vocabulary peer s .pollEvent) := horderly hevents
    cases hconnect : ensureConnected peer adapter.protocol s with
    | mk told result =>
      rw [hconnect] at hconnects
      cases result with
      | error error =>
        refine ⟨new, hconnects.did.mono fun horderly ↦ (hpoll horderly).1, hconnects.sends,
          fun e he _ ↦ ?_⟩
        cases he
        exact hconnects.error error rfl
      | ok u =>
        obtain ⟨read, hdid, hsends, hbroken⟩ : ∃ read,
            Did (hearing peer adapter.protocol.parseEvent)
              (OrderlyCall adapter vocabulary peer s .pollEvent) told
              (pollTransport peer adapter.protocol told).1 read ∧ sends read = [] ∧ _ := by
          refine pollTransport_spec told fun horderly hwaiting ↦ ?_
          have hnone : s.transport = none := by
            by_contra htransport
            exact hwaiting (hok told hconnect htransport)
          exact (hpoll horderly).2 hnone told hconnect hwaiting
        refine ⟨new ++ read, (hconnects.did.mono fun horderly ↦ (hpoll horderly).1).trans hdid,
          ?_, hbroken⟩
        rw [actionSends_append, hconnects.sends, actionSends_of_sends hsends]
        rfl

/-- What is done to answer a call. -/
structure Answers (adapter : Adapter μ σ α ς) (vocabulary : Vocabulary μ σ α) (peer : Peer μ)
    (s : Session μ σ) (call : Call α ς) (new : List (Action μ)) : Prop where
  did : Did (hearing peer adapter.protocol.parseEvent) (OrderlyCall adapter vocabulary peer s call)
    s (adapter.answer peer s call).1 new
  kept : Kept vocabulary peer
    ⟨s, call, (adapter.answer peer s call).1, (adapter.answer peer s call).2⟩ new

theorem answer_execute (hlawful : adapter.Lawful vocabulary peer) (action : α)
    (s : Session μ σ) : ∃ new, Answers adapter vocabulary peer s (.execute action) new := by
  obtain ⟨new, hconnects⟩ := ensureConnected_spec hlawful.protocol s
  have hanswer : adapter.answer peer s (.execute action) =
      ((adapter.execute action s).1, (adapter.execute action s).2.map fun _ ↦ .done) := rfl
  have hfailed {s' : Session μ σ} {error : EngineError} {new : List (Action μ)}
      (h : adapter.execute action s = (s', .error error))
      (hdid : Did (hearing peer adapter.protocol.parseEvent)
        (OrderlyCall adapter vocabulary peer s (.execute action)) s s' new)
      (hsends : actionSends vocabulary.isAction new = [])
      (hbroken : errorBreaksSession error = true → s'.transport = none) :
      Answers adapter vocabulary peer s (.execute action) new := by
    rw [h] at hanswer
    refine ⟨by rw [hanswer]; exact hdid, ?_, Or.inl hsends, ?_, ?_⟩
    · change (adapter.answer peer s (.execute action)).1.log = _
      rw [hanswer]
      exact hdid.log
    · intro _ a _ ha
      change (adapter.answer peer s (.execute action)).2 = _ at ha
      rw [hanswer] at ha
      cases ha
    · intro e he hbreaks
      change (adapter.answer peer s (.execute action)).2 = _ at he
      change (adapter.answer peer s (.execute action)).1.transport = none
      rw [hanswer] at he ⊢
      cases he
      exact hbroken hbreaks
  have horderly (haccepts : vocabulary.refuses action = false)
      (h : OrderlyCall adapter vocabulary peer s (.execute action)) :
      Greeted peer vocabulary.Greets s := h haccepts
  cases hlawful.execute action s with
  | refused error h hwhole =>
    refine ⟨[], hfailed h (.refl s) rfl fun hbreaks ↦ ?_⟩
    rw [hwhole] at hbreaks
    cases hbreaks
  | unconnected error s' haccepts hconnect h =>
    rw [hconnect] at hconnects
    exact ⟨new, hfailed h (hconnects.did.mono (horderly haccepts)) hconnects.sends
      fun _ ↦ hconnects.error error rfl⟩
  | invalid error s' haccepts hconnect h hwhole =>
    rw [hconnect] at hconnects
    refine ⟨new, hfailed h (hconnects.did.mono (horderly haccepts)) hconnects.sends
      fun hbreaks ↦ ?_⟩
    rw [hwhole] at hbreaks
    cases hbreaks
  | requested s' stem message waiting haccepts hconnect hwaiting hcarries hsucceeds h =>
    rw [hconnect] at hconnects
    obtain ⟨connection, hconnection, hcurrent⟩ := hconnects.ok () rfl
    obtain ⟨requestId, talked, after, hrequest⟩ : ∃ requestId talked after,
        Requests peer adapter.protocol.parseEvent
          (OrderlyCall adapter vocabulary peer s (.execute action)) message waiting connection s'
            (request peer adapter.protocol _ s') requestId talked after :=
      request_spec hwaiting hconnection _
    rw [h] at hanswer
    refine ⟨new ++ (.sent connection (message requestId) :: talked ++ after), ?_, ?_, ?_, ?_, ?_⟩
    · rw [hanswer]
      exact (hconnects.did.mono (horderly haccepts)).trans hrequest.did
    · change (adapter.answer peer s (.execute action)).1.log = _
      rw [hanswer]
      exact ((hconnects.did.mono (horderly haccepts)).trans hrequest.did).log
    · refine Or.inr ⟨action, requestId, connection, message requestId, rfl,
        (hcarries requestId).1, ?_, ?_⟩
      · have hsends : sends (.sent connection (message requestId) :: talked ++ after) =
            [(connection, message requestId)] := by
          rw [List.cons_append]
          change (connection, message requestId) :: sends (talked ++ after) = _
          rw [hrequest.sends]
        rw [actionSends_append, hconnects.sends, actionSends, hsends, List.nil_append]
        exact List.filter_cons_of_pos (hcarries requestId).2
      · exact hcurrent.imp_right (List.mem_append_left _)
    · rintro other a ⟨⟩ ha
      change (adapter.answer peer s (.execute action)).2 = _ at ha
      rw [hanswer] at ha
      obtain ⟨u, hu, -⟩ := map_eq_ok.mp ha
      obtain ⟨value, hvalue, -⟩ := map_eq_ok.mp hu
      obtain ⟨text, message', hmem, hparse, hread⟩ := hrequest.answer value hvalue
      exact ⟨requestId, connection, message requestId, new, talked ++ after, text, message', rfl,
        (hcarries requestId).1, List.mem_append_left _ hmem, hparse,
        hsucceeds requestId message' value hread⟩
    · intro e he hbreaks
      change (adapter.answer peer s (.execute action)).2 = _ at he
      change (adapter.answer peer s (.execute action)).1.transport = none
      rw [hanswer] at he ⊢
      exact hrequest.broken e (map_eq_error.mp (map_eq_error.mp he)) hbreaks

/-- Every call keeps to the session protocol. -/
theorem answer_spec (hlawful : adapter.Lawful vocabulary peer) (s : Session μ σ)
    (call : Call α ς) : ∃ new, Answers adapter vocabulary peer s call new := by
  have hother {new : List (Action μ)}
      (hdid : Did (hearing peer adapter.protocol.parseEvent)
        (OrderlyCall adapter vocabulary peer s call) s (adapter.answer peer s call).1 new)
      (hsends : actionSends vocabulary.isAction new = [])
      (hcall : ∀ action, call ≠ .execute action)
      (hbroken : ∀ e, (adapter.answer peer s call).2 = .error e → errorBreaksSession e = true →
        (adapter.answer peer s call).1.transport = none) :
      Answers adapter vocabulary peer s call new :=
    ⟨hdid, hdid.log, Or.inl hsends, fun action _ heq _ ↦ absurd heq (hcall action), hbroken⟩
  cases call with
  | connect =>
    obtain ⟨new, hconnects⟩ := ensureConnected_spec hlawful.protocol s
    exact ⟨new, hother hconnects.did hconnects.sends (fun _ heq ↦ by cases heq)
      fun e he _ ↦ hconnects.error e (map_eq_error.mp he)⟩
  | execute action => exact answer_execute hlawful action s
  | subscribe subscription =>
    obtain ⟨new, hdid, hsends, hbroken⟩ := hlawful.subscribe subscription s
    exact ⟨new, hother (hdid.mono fun _ ↦ trivial) hsends (fun _ heq ↦ by cases heq)
      fun e he ↦ hbroken e (map_eq_error.mp he)⟩
  | pollEvent =>
    obtain ⟨new, hdid, hsends, hbroken⟩ := pollEvent_spec hlawful.protocol s
    exact ⟨new, hother hdid hsends (fun _ heq ↦ by cases heq)
      fun e he ↦ hbroken e (map_eq_error.mp he)⟩
  | nextRetryAtMs =>
    exact ⟨[], hother (.refl s) rfl (fun _ heq ↦ by cases heq) fun e he ↦ by cases he⟩

/-- A call does what is done to answer it. -/
theorem Answers.perform {call : Call α ς}
    (h : Answers adapter vocabulary peer (s.note .called) call new) :
    Did (hearing peer adapter.protocol.parseEvent)
        (OrderlyCall adapter vocabulary peer (s.note .called) call) s
        ((adapter.machine peer).next s call) (.called :: new) ∧
      Kept vocabulary peer ((adapter.machine peer).event s call) (.called :: new) := by
  refine ⟨(Did.called s).trans h.did, ?_, ?_, fun action a hcall ha ↦ ?_, h.kept.broken⟩
  · exact h.kept.log.trans (List.append_assoc _ _ _)
  · rcases h.kept.once with hnone | ⟨action, requestId, connection, message, hcall, hcarries,
      hsends, hcurrent⟩
    · exact Or.inl hnone
    · exact Or.inr ⟨action, requestId, connection, message, hcall, hcarries, hsends,
        hcurrent.imp_right (List.mem_cons_of_mem _)⟩
  · obtain ⟨requestId, connection, message, before, after, text, value, hnew, hsucceeded⟩ :=
      h.kept.succeeded action a hcall ha
    exact ⟨requestId, connection, message, .called :: before, after, text, value, by rw [hnew]; rfl,
      hsucceeded⟩

/-- What holds of an adapter from the start of its life. -/
structure Adapter.Keeps (adapter : Adapter μ σ α ς) (vocabulary : Vocabulary μ σ α) (peer : Peer μ)
    (own : σ) : Prop where
  /-- Of every call, in every state. -/
  call : ∀ s call, ∃ new, Kept vocabulary peer ((adapter.machine peer).event s call) new
  /-- In every state that is reached. -/
  tidy : ∀ calls, ((adapter.machine peer).run (.new own) calls).IsTidy
  /-- In every state that is reached by orderly calls. -/
  order : ∀ calls, (adapter.machine peer).Meets (fun _ _ ↦ ())
    (fun _ e ↦ OrderlyCall adapter vocabulary peer (e.pre.note .called) e.input)
      (.new own) () calls →
      InOrder (hearing peer adapter.protocol.parseEvent)
        ((adapter.machine peer).run (.new own) calls)
  /-- As many polls as events wait return them. -/
  drain : ∀ s, returned ((adapter.machine peer).run s
    (List.replicate s.events.length .pollEvent)).log = returned s.log ++ s.events

theorem pollEvent_of_events {protocol : Protocol μ σ} {event : AdapterEvent}
    {events : List AdapterEvent} (h : s.events = event :: events) :
    pollEvent peer protocol s =
      ({ s.note (.returned event) with events }, .ok (some event)) := by
  rw [pollEvent, h]

theorem returned_run_polls (events : List AdapterEvent) (s : Session μ σ)
    (hevents : s.events = events) : returned ((adapter.machine peer).run s
      (List.replicate events.length .pollEvent)).log = returned s.log ++ events := by
  induction events generalizing s with
  | nil => exact (List.append_nil _).symm
  | cons event events ih =>
    have hpoll : (adapter.machine peer).next s .pollEvent =
        { (s.note .called).note (.returned event) with events } := by
      have hwaiting : (s.note .called).events = event :: events := hevents
      exact congrArg Prod.fst (pollEvent_of_events hwaiting)
    rw [List.length_cons, List.replicate_succ, Machine.run_cons, hpoll, ih _ rfl]
    change returned ((s.log ++ [.called]) ++ [.returned event]) ++ events = _
    rw [returned_append, returned_append, List.append_assoc, List.append_assoc]
    rfl

/-- **The session protocol.**  A lawful adapter keeps to it, in every run. -/
theorem Adapter.Lawful.keeps (hlawful : adapter.Lawful vocabulary peer) (own : σ) :
    adapter.Keeps vocabulary peer own where
  call s call := by
    obtain ⟨new, hanswers⟩ := answer_spec hlawful (s.note .called) call
    exact ⟨_, hanswers.perform.2⟩
  tidy calls := by
    refine (adapter.machine peer).run_invariant (fun s call htidy ↦ ?_) Tidy.empty calls
    obtain ⟨new, hanswers⟩ := answer_spec hlawful (s.note .called) call
    exact hanswers.perform.1.tidy htidy
  order calls hmeets := by
    have hstart : InOrder (hearing peer adapter.protocol.parseEvent)
        (.new own : Session μ σ) := rfl
    have hstep : ∀ s (_ : Unit) call, InOrder (hearing peer adapter.protocol.parseEvent) s →
        OrderlyCall adapter vocabulary peer (s.note .called) call →
          InOrder (hearing peer adapter.protocol.parseEvent)
            ((adapter.machine peer).next s call) := by
      intro s _ call horder horderly
      obtain ⟨new, hanswers⟩ := answer_spec hlawful (s.note .called) call
      exact hanswers.perform.1.order horderly horder
    exact (adapter.machine peer).invariant hstep hstart hmeets
  drain s := returned_run_polls s.events s rfl

end Adapter

/-! ## Invalid requests -/

section Rejects

variable {α β : Type} {x : Except EngineError α} {f : α → Except EngineError β}

/-- A computation that fails on invalid requests only. -/
def Rejects (x : Except EngineError α) : Prop := ∀ error, x = .error error →
  error.kind = .invalidRequest

theorem rejects_ok (a : α) : Rejects (.ok a) := fun _ h ↦ by cases h

theorem rejects_expect (message : String) (o : Option α) :
    Rejects (Check.expect ⟨.invalidRequest, message⟩ o) := by
  intro error h
  cases o with
  | none =>
    cases h
    rfl
  | some a => cases h

theorem rejects_ensure (message : String) (condition : Bool) :
    Rejects (Check.ensure ⟨.invalidRequest, message⟩ condition) := by
  intro error h
  cases condition with
  | false =>
    cases h
    rfl
  | true => cases h

theorem Rejects.bind (hx : Rejects x) (hf : ∀ a, Rejects (f a)) : Rejects (x >>= f) := by
  intro error h
  cases x with
  | error error' => exact hx error (by cases h; rfl)
  | ok a => exact hf a error h

theorem rejects_mapM {f : α → Except EngineError β} (hf : ∀ a, Rejects (f a)) {l : List α} :
    Rejects (l.mapM f) := by
  induction l with
  | nil => exact rejects_ok []
  | cons a l ih =>
    rw [List.mapM_cons]
    exact (hf a).bind fun _ ↦ ih.bind fun _ ↦ rejects_ok _

end Rejects

end Aivtuber.Adapters
