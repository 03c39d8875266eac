import Aivtuber.Adapters.Obs
import Aivtuber.Adapters.Vts

/-!
# The sessions of the adapters

Both adapters keep to the session protocol, whatever their peers do (`sessions_keep_protocol`).  A
poll that connects can return an event ahead of the ones that its own handshake has queued
(`overtaken_not_inOrder`).
-/

namespace Aivtuber.Adapters

/-- **The session protocol of OBS and VTube Studio.**  For every peer and every run of calls, an
action is sent at most once, an execution succeeds on its own response only, and no broken
connection is used again; events are returned in the order in which they were heard as long as
every call is orderly. -/
theorem sessions_keep_protocol (obsConfig : ObsWebSocketConfig) (obsHost : ObsHost)
    (obsPeer : Peer ObsMessage) (vtsConfig : VTubeStudioConfig) (vtsHost : VtsHost)
    (vtsPeer : Peer VtsMessage) :
    (obsWebSocketAdapter obsConfig obsHost obsPeer).Keeps (obsVocabulary obsHost obsPeer) obsPeer
        obsConfig.eventSubscriptions ∧
      (vTubeStudioAdapter vtsConfig vtsHost vtsPeer).Keeps (vtsVocabulary vtsHost) vtsPeer
        (VtsState.new vtsConfig) :=
  ⟨obsWebSocketAdapter_lawful.keeps obsConfig.eventSubscriptions,
    vTubeStudioAdapter_lawful.keeps (VtsState.new vtsConfig)⟩

/-! ## An event that is overtaken -/

/-- A peer that accepts everything, and sends some frames. -/
def scriptedPeer {μ : Type} (frames : List (String × JsonValue)) : Peer μ where
  connect _ := none
  send _ := none
  receive log :=
    match frames[log.countP fun | .received _ _ => true | _ => false]? with
    | some frame => .ok frame.1
    | none => .error ⟨"websocket read timed out", true⟩
  late _ := false
  nowMs _ := 0
  patience _ := 0
  parse text :=
    match frames.lookup text with
    | some message => .ok message
    | none => .error "expected value at line 1 column 1"

def obsFrame (op : Int) (data : List (String × JsonValue)) : JsonValue :=
  .object [("op", .integer op), ("d", .object data)]

/-- An event comes between the Hello and the Identified, and one after them. -/
def overtaken : Peer ObsMessage := scriptedPeer
  [("\x7b\"op\":0,\"d\":\x7b\"rpcVersion\":1\x7d\x7d", obsFrame 0 [("rpcVersion", .integer 1)]),
    ("\x7b\"op\":5,\"d\":\x7b\"eventType\":\"StreamStarting\"\x7d\x7d",
      obsFrame 5 [("eventType", .string "StreamStarting")]),
    ("\x7b\"op\":2,\"d\":\x7b\x7d\x7d", obsFrame 2 []),
    ("\x7b\"op\":5,\"d\":\x7b\"eventType\":\"StreamStarted\"\x7d\x7d",
      obsFrame 5 [("eventType", .string "StreamStarted")])]

def localObs : ObsWebSocketConfig := ⟨"ws://127.0.0.1:4455", none, 1, none, .default⟩

def plainObsHost : ObsHost := ⟨id, id⟩

def overtakenCalls (calls : List (Call StreamAction Nat)) : ObsSession :=
  ((obsWebSocketAdapter localObs plainObsHost overtaken).machine overtaken).run (.new none) calls

def afterPolls (polls : Nat) : ObsSession := overtakenCalls (List.replicate polls .pollEvent)

/-- Where the adapter is connected before it is polled, the event that the handshake has queued
comes first. -/
theorem sessions_keep_protocol_connected :
    InOrder (hearing overtaken parseObsEvent) (overtakenCalls [.connect, .pollEvent, .pollEvent]) ∧
      (overtakenCalls [.connect]).events.map AdapterEvent.eventType = ["StreamStarting"] ∧
      (returned (overtakenCalls [.connect, .pollEvent, .pollEvent]).log).map
        AdapterEvent.eventType = ["StreamStarting", "StreamStarted"] := by
  refine ⟨(sessions_keep_protocol localObs plainObsHost overtaken
    ⟨"ws://127.0.0.1:8001", "plugin", "developer", none, .default⟩ ⟨id⟩
    (scriptedPeer [])).1.order _ ⟨?_, ?_, ?_, trivial⟩, by decide +kernel, by decide +kernel⟩
  · intro _ _ _ text htext
    cases htext
    decide +kernel
  · intro hevents
    exact absurd (congrArg List.isEmpty hevents) (by decide +kernel)
  · intro _
    refine ⟨fun htransport ↦ ?_, fun htransport ↦ ?_⟩
    all_goals exact absurd (congrArg Option.isSome htransport) (by decide +kernel)

/-- The first poll connects, and returns the event that came last. -/
theorem overtaken_not_inOrder :
    (heard (hearing overtaken parseObsEvent) (afterPolls 2).log).map AdapterEvent.eventType =
        ["StreamStarting", "StreamStarted"] ∧
      (returned (afterPolls 2).log).map AdapterEvent.eventType =
        ["StreamStarted", "StreamStarting"] ∧
      ¬ InOrder (hearing overtaken parseObsEvent) (afterPolls 2) := by
  have hheard : (heard (hearing overtaken parseObsEvent) (afterPolls 2).log).map
      AdapterEvent.eventType = ["StreamStarting", "StreamStarted"] := by
    decide +kernel
  have hreturned : (returned (afterPolls 2).log ++ (afterPolls 2).events).map
      AdapterEvent.eventType = ["StreamStarted", "StreamStarting"] := by
    decide +kernel
  refine ⟨hheard, by decide +kernel, fun horder ↦ ?_⟩
  rw [horder, hheard] at hreturned
  exact absurd hreturned (by decide)

end Aivtuber.Adapters
