import Aivtuber.Base.Machine
import Aivtuber.Domain.Interfaces

/-!
# Websocket sessions

What the adapters of `crates/adapters/src` have in common: a transport that is opened, used and
closed, the reconnect backoff, the loop that waits for the answer to a request, and the queue of
the events that are read meanwhile.  The peer, the network and the clocks are any strategy: what
comes next may depend on all that happened (`Peer`).  All that is done with transports is kept in a
log, which no adapter reads.
-/

open Saturating

namespace Aivtuber.Adapters

/-- The error invalidates the session. -/
def errorBreaksSession (error : EngineError) : Bool :=
  error.kind = .timeout || error.kind = .unavailable || error.kind = .authentication

structure TransportError where
  message : String
  timedOut : Bool
deriving DecidableEq

structure AdapterEvent where
  source : String
  eventType : String
  data : JsonValue

structure ReconnectPolicy where
  initialDelayMs : Nat
  maxDelayMs : Nat

namespace ReconnectPolicy

def default : ReconnectPolicy := ⟨250, 5000⟩

def delayMs (policy : ReconnectPolicy) (failures : Nat) : Nat :=
  min (satMul policy.initialDelayMs (2 ^ min (failures - 1) 20)) policy.maxDelayMs

end ReconnectPolicy

structure ReconnectState where
  failures : Nat
  nextRetryAtMs : Nat

namespace ReconnectState

def canAttempt (reconnect : ReconnectState) (nowMs : Nat) : Bool := reconnect.nextRetryAtMs ≤ nowMs

def connected : ReconnectState := ⟨0, 0⟩

def failed (reconnect : ReconnectState) (nowMs : Nat) (policy : ReconnectPolicy) :
    ReconnectState :=
  let failures := min (reconnect.failures + 1) (2 ^ 32 - 1)
  ⟨failures, satAdd nowMs (policy.delayMs failures)⟩

end ReconnectState

/-! ## The peer -/

/-- What happens: a call begins, something is done with a transport, or an event is returned to
the caller. -/
inductive Action (μ : Type) where
  | called
  | connected (connection : Nat)
  | refused
  | sent (connection : Nat) (message : μ)
  | received (connection : Nat) (text : String)
  | failed (connection : Nat) (error : TransportError)
  | closed (connection : Nat)
  | returned (event : AdapterEvent)

/-- A connection is used. -/
def Action.On {μ : Type} (connection : Nat) : Action μ → Prop
  | .sent other _ | .received other _ | .failed other _ => other = connection
  | .called | .connected _ | .refused | .closed _ | .returned _ => False

/-- What lies outside of an adapter: its peer, the clocks, and the reader of JSON texts. -/
structure Peer (μ : Type) where
  connect : List (Action μ) → Option TransportError
  send : List (Action μ) → Option TransportError
  receive : List (Action μ) → Except TransportError String
  /-- The deadline of the request has passed. -/
  late : List (Action μ) → Bool
  nowMs : List (Action μ) → Nat
  /-- How often a receive is tried again before its deadline. -/
  patience : List (Action μ) → Nat
  parse : String → Except String JsonValue

def maxResponseMessages : Nat := 64

/-- The state of an adapter, and the log of what it did with transports. -/
structure Session (μ σ : Type) where
  log : List (Action μ)
  connections : Nat
  transport : Option Nat
  reconnect : ReconnectState
  requestSequence : Nat
  /-- Events that wait for a poll. -/
  events : List AdapterEvent
  own : σ

namespace Session

variable {μ σ α : Type}

def new (own : σ) : Session μ σ := ⟨[], 0, none, ⟨0, 0⟩, 0, [], own⟩

def note (session : Session μ σ) (action : Action μ) : Session μ σ :=
  { session with log := session.log ++ [action] }

/-- A fresh connection. -/
def opened (session : Session μ σ) : Session μ σ :=
  { session.note (.connected session.connections) with connections := session.connections + 1 }

def nextRequestId (session : Session μ σ) (stem : String) : Session μ σ × String :=
  let requestSequence := satAdd session.requestSequence 1
  ({ session with requestSequence }, stem ++ toString requestSequence)

variable (peer : Peer μ)

def send (session : Session μ σ) (connection : Nat) (message : μ) :
    Session μ σ × Except TransportError Unit :=
  (session.note (.sent connection message),
    match peer.send session.log with
    | some error => .error error
    | none => .ok ())

def receive (session : Session μ σ) (connection : Nat) :
    Session μ σ × Except TransportError String :=
  match peer.receive session.log with
  | .ok text => (session.note (.received connection text), .ok text)
  | .error error => (session.note (.failed connection error), .error error)

def receiveWithDeadline (connection retries : Nat) (session : Session μ σ) :
    Session μ σ × Except TransportError String :=
  match session.receive peer connection with
  | (session, .ok text) => (session, .ok text)
  | (session, .error error) =>
    if error.timedOut then
      match retries with
      | 0 =>
        (session, .error ⟨"websocket peer did not send a message within the deadline", true⟩)
      | retries + 1 => receiveWithDeadline connection retries session
    else (session, .error error)

def close (session : Session μ σ) (connection : Nat) : Session μ σ :=
  { session with log := session.log ++ [.closed connection], transport := none }

end Session

/-! ## Requests -/

/-- How a message is read by who waits for an answer. -/
inductive Reading (α : Type) where
  | event (event : Option AdapterEvent)
  | other
  | answer (result : Except EngineError α)

/-- What is waited for, and the errors of waiting. -/
structure Waiting (α : Type) where
  read : JsonValue → Reading α
  late : EngineError
  malformed : String → EngineError
  exhausted : EngineError

section Calls

variable {μ σ α : Type} (peer : Peer μ)

/-- The deadline bounds a silent peer, and the number of messages a peer that does not answer. -/
def awaitAnswer (waiting : Waiting α) (connection : Nat) : (messages : Nat) → Session μ σ →
    Session μ σ × Except EngineError α
  | 0, session => (session, .error waiting.exhausted)
  | messages + 1, session =>
    match session.receive peer connection with
    | (session, .error error) =>
      if error.timedOut then
        if peer.late session.log then (session, .error waiting.late)
        else awaitAnswer waiting connection messages session
      else (session, .error ⟨.unavailable, error.message⟩)
    | (session, .ok text) =>
      match peer.parse text with
      | .error error => (session, .error (waiting.malformed error))
      | .ok value =>
        match waiting.read value with
        | .event event =>
          awaitAnswer waiting connection messages
            { session with events := session.events ++ event.toList }
        | .other => awaitAnswer waiting connection messages session
        | .answer result => (session, result)

/-- Send a message, and wait. -/
def exchange (message : μ) (waiting : Waiting α) (connection : Nat) (session : Session μ σ) :
    Session μ σ × Except EngineError α :=
  match session.send peer connection message with
  | (session, .error error) => (session, .error ⟨.unavailable, error.message⟩)
  | (session, .ok ()) => awaitAnswer peer waiting connection maxResponseMessages session

/-- What differs between the adapters. -/
structure Protocol (μ σ : Type) where
  reconnect : ReconnectPolicy
  backoff : Nat → String
  refused : TransportError → String
  notConnected : String
  malformedEvent : String → String
  parseEvent : JsonValue → Option AdapterEvent
  /-- What is said on a fresh connection. -/
  handshake : Nat → Session μ σ → Session μ σ × Except EngineError Unit

variable (protocol : Protocol μ σ)

/-- A request under a fresh id. -/
def requestWithTransport (stem : String) (message : String → μ) (waiting : String → Waiting α)
    (connection : Nat) (session : Session μ σ) : Session μ σ × Except EngineError α :=
  let (session, requestId) := session.nextRequestId stem
  exchange peer (message requestId) (waiting requestId) connection session

def ensureConnected (session : Session μ σ) : Session μ σ × Except EngineError Unit :=
  if session.transport.isSome then (session, .ok ())
  else
    let nowMs := peer.nowMs session.log
    if !session.reconnect.canAttempt nowMs then
      (session, .error ⟨.unavailable, protocol.backoff session.reconnect.nextRetryAtMs⟩)
    else
      match peer.connect session.log with
      | some error =>
        ({ session.note .refused with
            reconnect := session.reconnect.failed nowMs protocol.reconnect },
          .error ⟨.unavailable, protocol.refused error⟩)
      | none =>
        let connection := session.connections
        match protocol.handshake connection session.opened with
        | (session, .error error) =>
          ({ session.close connection with
              reconnect := session.reconnect.failed nowMs protocol.reconnect }, .error error)
        | (session, .ok ()) =>
          ({ session with transport := some connection, reconnect := .connected }, .ok ())

/-- The transport is taken for a request, and put back unless the session broke. -/
def request (exchange : Nat → Session μ σ → Session μ σ × Except EngineError α)
    (session : Session μ σ) : Session μ σ × Except EngineError α :=
  match session.transport with
  | none => (session, .error ⟨.unavailable, protocol.notConnected⟩)
  | some connection =>
    match exchange connection { session with transport := none } with
    | (session, .ok value) => ({ session with transport := some connection }, .ok value)
    | (session, .error error) =>
      if errorBreaksSession error then
        ({ session.close connection with
            reconnect := session.reconnect.failed
              (peer.nowMs (session.close connection).log) protocol.reconnect },
          .error error)
      else ({ session with transport := some connection }, .error error)

def disconnect (session : Session μ σ) : Session μ σ :=
  let session := session.transport.elim session session.close
  { session with
    reconnect := session.reconnect.failed (peer.nowMs session.log) protocol.reconnect }

/-- Read the next frame of the current connection. -/
def pollTransport (session : Session μ σ) :
    Session μ σ × Except EngineError (Option AdapterEvent) :=
  match session.transport with
  | none => (disconnect peer protocol session, .error ⟨.unavailable, protocol.notConnected⟩)
  | some connection =>
    match session.receive peer connection with
    | (session, .error error) =>
      if error.timedOut then (session, .ok none)
      else (disconnect peer protocol session, .error ⟨.unavailable, error.message⟩)
    | (session, .ok text) =>
      match peer.parse text with
      | .error error => (session, .error ⟨.backend, protocol.malformedEvent error⟩)
      | .ok value =>
        match protocol.parseEvent value with
        | none => (session, .ok none)
        | some event => (session.note (.returned event), .ok (some event))

def pollEvent (session : Session μ σ) :
    Session μ σ × Except EngineError (Option AdapterEvent) :=
  match session.events with
  | event :: events => ({ session.note (.returned event) with events }, .ok (some event))
  | [] =>
    match ensureConnected peer protocol session with
    | (session, .error error) => (session, .error error)
    | (session, .ok ()) => pollTransport peer protocol session

end Calls

/-! ## Adapters -/

inductive Call (α ς : Type) where
  | connect
  | execute (action : α)
  | subscribe (subscription : ς)
  | pollEvent
  | nextRetryAtMs

inductive Answer where
  | done
  | event (event : Option AdapterEvent)
  | nextRetryAtMs (atMs : Nat)

/-- An adapter, and what its callers can do with it. -/
structure Adapter (μ σ α ς : Type) where
  protocol : Protocol μ σ
  execute : α → Session μ σ → Session μ σ × Except EngineError Unit
  subscribe : ς → Session μ σ → Session μ σ × Except EngineError Unit

section Adapter

variable {μ σ α ς : Type}

def Adapter.answer (adapter : Adapter μ σ α ς) (peer : Peer μ) (session : Session μ σ) :
    Call α ς → Session μ σ × Except EngineError Answer
  | .connect =>
    let (session, result) := ensureConnected peer adapter.protocol session
    (session, result.map fun _ ↦ .done)
  | .execute action =>
    let (session, result) := adapter.execute action session
    (session, result.map fun _ ↦ .done)
  | .subscribe subscription =>
    let (session, result) := adapter.subscribe subscription session
    (session, result.map fun _ ↦ .done)
  | .pollEvent =>
    let (session, result) := Adapters.pollEvent peer adapter.protocol session
    (session, result.map .event)
  | .nextRetryAtMs => (session, .ok (.nextRetryAtMs session.reconnect.nextRetryAtMs))

/-- A call is answered under the lock of the state. -/
def Adapter.perform (adapter : Adapter μ σ α ς) (peer : Peer μ) (session : Session μ σ)
    (call : Call α ς) : Session μ σ × Except EngineError Answer :=
  adapter.answer peer (session.note .called) call

def Adapter.machine (adapter : Adapter μ σ α ς) (peer : Peer μ) :
    Machine (Session μ σ) (Call α ς) (Except EngineError Answer) := ⟨adapter.perform peer⟩

end Adapter

end Aivtuber.Adapters
