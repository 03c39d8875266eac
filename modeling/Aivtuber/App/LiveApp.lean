import Aivtuber.App.GenerativeRuntime
import Aivtuber.App.PendingCommands
import Aivtuber.Runtime.Security

/-!
# The live application

`ProductionApp` of `crates/app/src/lib.rs` from the events to the adapters: what routes,
generations and operators do to the performer, and which of the commands that are queued
come to be executed.

A tick drains the completed generations, moves the scheduler on and executes what is due.
The steps of a run are its parts (`Op`), so that the generation worker may come between any
two of them.  The rounding of floats and the viseme resolver are parameters.
-/

open Saturating

namespace Aivtuber

structure LiveApp where
  security : SecurityRuntime
  /-- The reaction that replaces a text of the control plane. -/
  cachedReaction : Option String
  performer : CachedPerformer
  generative : Option GenerativeRuntime
  pendingAudio : List AudioPlaybackCommand
  pendingAvatar : List AvatarPlaybackCommand
  maxDispatchLatenessMs : Nat

/-- Why an event or a completion did not come to a performance. -/
inductive AppFailure where
  | store (error : AssetStoreError)
  | playback (error : CachedPlaybackError)
  | generation (message : String)

/-- What a generation is asked for. -/
structure GenerationRoute where
  fallbackVariantGroup : Option String
  /-- The instant at which the answer is of no use any more. -/
  providerDeadline : Nat
  /-- Too little time is left to start. -/
  tooLate : Bool
  /-- Why the budget denies it. -/
  denial : Option String

/-- What the router has decided about an event. -/
inductive PlaybackRoute where
  | silent
  | intent (intent : String)
  | assetId (assetId : String)
  | assetIdentity (assetId assetIdentity : String)
  /-- The text of a template, and the asset that a published text compiles to. -/
  | template (text : String) (compile : String → PerformanceAsset)
  | generate (route : GenerationRoute)

/-- An admitted event with its route. -/
structure ContentRequest where
  event : EventEnvelope
  timing : CachedPlaybackTiming
  route : PlaybackRoute

/-! ## Dispatch -/

namespace LiveApp

def new (security : SecurityRuntime) (cachedReaction : Option String)
    (performer : CachedPerformer) (generative : Option GenerativeRuntime)
    (maxDispatchLatenessMs : Nat) : LiveApp where
  security := security
  cachedReaction := cachedReaction
  performer := performer
  generative := generative
  pendingAudio := []
  pendingAvatar := []
  maxDispatchLatenessMs := maxDispatchLatenessMs

variable (app : LiveApp)

def dispatchAudio (nowMs : Nat) : LiveApp × List AudioPlaybackCommand :=
  let dispatched := dispatchPending app.performer.scheduler app.maxDispatchLatenessMs nowMs
    app.security.muted app.pendingAudio
  ({ app with pendingAudio := dispatched.1 }, dispatched.2)

/-- The avatar is never muted. -/
def dispatchAvatar (nowMs : Nat) : LiveApp × List AvatarPlaybackCommand :=
  let dispatched := dispatchPending app.performer.scheduler app.maxDispatchLatenessMs nowMs
    false app.pendingAvatar
  ({ app with pendingAvatar := dispatched.1 }, dispatched.2)

def advance (nowMs : Nat) : LiveApp :=
  { app with
    performer := { app.performer with scheduler := app.performer.scheduler.advanceTo nowMs } }

/-- The part of a tick after the drain. -/
def present (nowMs : Nat) : LiveApp × Dispatch :=
  let audio := (app.advance nowMs).dispatchAudio nowMs
  let avatar := audio.1.dispatchAvatar nowMs
  (avatar.1, { audio := audio.2, avatar := avatar.2 })

def purgeCancelledPending : LiveApp :=
  { app with
    pendingAudio := purgePending app.performer.scheduler app.pendingAudio
    pendingAvatar := purgePending app.performer.scheduler app.pendingAvatar }

/-! ## Performances -/

/-- A performance that was scheduled, with the commands that it has queued. -/
abbrev Performance := Option (CachedPlaybackOutcome × Dispatch)

/-- Take over what the performer has done. -/
def play (played : CachedPerformer × CachedPerformer.Played) :
    LiveApp × Except AppFailure Performance :=
  let app := { app with performer := played.1 }
  match played.2 with
  | .error error => (app, .error (.playback error))
  | .ok (outcome, dispatch) =>
    ({ app with
        pendingAudio := app.pendingAudio ++ dispatch.audio
        pendingAvatar := app.pendingAvatar ++ dispatch.avatar },
      .ok (some (outcome, dispatch)))

def publicOutputPolicy : PublicOutputPolicy := ⟨app.security.redactor, app.cachedReaction⟩

def recordOutput (output : PublicOutput) : LiveApp :=
  let entry := app.security.redactor.record none .output output.reason output.reason
  { app with security := app.security.pushAudit entry }

def recordGenerationCall (call : LlmCallRecord) : LiveApp :=
  let detail := "routing_reason=" ++ call.routingReason.asStr ++ " backend=" ++ call.backend.name ++
    " model_alias=" ++ call.backend.modelAlias.getD "-" ++
    " model_version=" ++ call.backend.modelVersion.getD "-"
  let entry := app.security.redactor.record (some call.eventId) .generation "llm_call" detail
  { app with security := app.security.pushAudit entry }

def recordGenerationCalls (calls : List LlmCallRecord) : LiveApp :=
  calls.foldl recordGenerationCall app

def recordWorkerOutputDecision (output : Option PublicOutput) : LiveApp :=
  output.elim app app.recordOutput

/-- The output lets this very text out. -/
def allowsText (output : PublicOutput) (text : String) : Bool :=
  (output.verdict = .allow || output.verdict = .redact) && output.text = some text

variable (rounding : ℚ → ℚ) (resolve : String → Except CachedPlaybackError VisemeTrack)

/-- Play an asset that was put into the hot tier, if it could be. -/
def playInserted (disk : Disk) (event : EventEnvelope) (assetId : String)
    (timing : CachedPlaybackTiming)
    (inserted : AssetStore × Except AssetStoreError PerformanceAsset) :
    LiveApp × Except AppFailure Performance :=
  let app := { app with performer := { app.performer with assets := inserted.1 } }
  match inserted.2 with
  | .error error => (app, .error (.store error))
  | .ok _ => app.play (app.performer.handleAssetId rounding resolve disk event assetId timing)

/-- A generated asset is published if the gate let its text out, and still does. -/
def publishGenerated (disk : Disk) (event : EventEnvelope) (asset : PerformanceAsset)
    (outputDecision : Option PublicOutput) (timing : CachedPlaybackTiming) :
    LiveApp × Except AppFailure Performance :=
  match asset.speech.bind (·.text) with
  | none => (app.recordWorkerOutputDecision outputDecision, .ok none)
  | some text =>
    if !outputDecision.any (allowsText · text) then
      (app.recordWorkerOutputDecision outputDecision, .ok none)
    else
      let rechecked := app.publicOutputPolicy.evaluate text
      if !allowsText rechecked text then (app.recordOutput rechecked, .ok none)
      else
        let app := app.recordWorkerOutputDecision outputDecision
        app.playInserted rounding resolve disk event asset.id timing
          (app.performer.assets.insertHot asset)

def commitGenerationResult (disk : Disk) (event : EventEnvelope) (result : GenerationResult)
    (outputDecision : Option PublicOutput) (timing : CachedPlaybackTiming) :
    LiveApp × Except AppFailure Performance :=
  let app := app.recordGenerationCalls result.llmCalls
  match result.disposition with
  | .generated asset => app.publishGenerated rounding resolve disk event asset outputDecision timing
  | .fallback (.cachedReaction _ assetId) =>
    let app := app.recordWorkerOutputDecision outputDecision
    app.play (app.performer.handleAssetId rounding resolve disk event assetId timing)
  | .fallback (.nonVerbalReaction _) | .cancelled _ =>
    (app.recordWorkerOutputDecision outputDecision, .ok none)

/-! ## Generations -/

def selectFallbackDirective (route : GenerationRoute) (seed : Nat) : FallbackDirective :=
  let reactionFamily := route.fallbackVariantGroup.getD "reaction.neutral"
  match app.performer.assets.selectVariantId reactionFamily seed [] with
  | some assetId => .cachedReaction reactionFamily assetId
  | none => .nonVerbalReaction reactionFamily

def recordDenial (event : EventEnvelope) (reason : String) : LiveApp :=
  let entry := app.security.redactor.record (some event.eventId) .generation "budget_denied"
    ("reason=" ++ reason)
  { app with security := app.security.pushAudit entry }

/-- The fallback, in place of a generation that is not submitted. -/
def commitFallback (disk : Disk) (event : EventEnvelope) (fallback : FallbackDirective)
    (timing : CachedPlaybackTiming) : LiveApp × Except AppFailure Performance :=
  app.commitGenerationResult rounding resolve disk event ⟨[], .fallback fallback⟩ none timing

def submitGeneration (disk : Disk) (event : EventEnvelope) (route : GenerationRoute)
    (timing : CachedPlaybackTiming) : LiveApp × Except AppFailure Performance :=
  let fallback := app.selectFallbackDirective route timing.seed
  if route.tooLate then app.commitFallback rounding resolve disk event fallback timing
  else
    match route.denial with
    | some reason =>
      (app.recordDenial event reason).commitFallback rounding resolve disk event fallback timing
    | none =>
      match app.generative with
      | none =>
        (app, .error (.generation "generative route requested without configured runtime"))
      | some generative =>
        let submitted :=
          generative.submit ⟨event, timing.seed⟩ fallback route.providerDeadline
        let app := { app with generative := some submitted.1 }
        match submitted.2 with
        | .ok _ => (app, .ok none)
        | .error _ => app.commitFallback rounding resolve disk event fallback timing

/-- What is kept of a completion that is stale or cancelled. -/
def recordDiscarded (completion : GenerationCompletion) : LiveApp :=
  let calls := completion.result.toOption.elim [] (·.llmCalls)
  (app.recordGenerationCalls calls).recordWorkerOutputDecision completion.outputDecision

/-- A round of `drain_generation_completions`, at an instant: what is stale or cancelled is
recorded, and everything else is committed. -/
def drainRound (disk : Disk) (nowMs now : Nat) :
    LiveApp × Option (GenerationCompletion × Bool) × Performance :=
  match app.generative with
  | none => (app, none, none)
  | some generative =>
    match generative.drainOne now with
    | (_, none) => (app, none, none)
    | (generative, some (completion, committed)) =>
      if !committed then
        let app := app.recordDiscarded completion
        ({ app with generative := some generative }, some (completion, false), none)
      else
        let result := match completion.result with
          | .ok result => result
          | .error _ => ⟨[], .fallback completion.fallback⟩
        let (app, handled) := app.commitGenerationResult rounding resolve disk
          completion.request.sourceEvent result completion.outputDecision
          ⟨nowMs, completion.request.seed⟩
        ({ app with generative := some generative }, some (completion, true),
          (handled.toOption).join)

/-! ## Events -/

/-- A template whose text is published is compiled once, and played from the hot tier. -/
def playTemplate (disk : Disk) (event : EventEnvelope) (text : String)
    (compile : String → PerformanceAsset) (timing : CachedPlaybackTiming) :
    LiveApp × Except AppFailure Performance :=
  let output := app.publicOutputPolicy.evaluate text
  let app := app.recordOutput output
  if output.verdict = .suppress || output.verdict = .replaceWithCached then (app, .ok none)
  else
    let asset := compile (output.text.getD text)
    let found := app.performer.assets.hotGet asset.id
    app.playInserted rounding resolve disk event asset.id timing
      (if found.2.isSome then (found.1, .ok asset) else found.1.insertHot asset)

/-- An admitted event: it cancels a generation of lower priority, and takes its route. -/
def handleEvent (disk : Disk) (request : ContentRequest) : LiveApp × Except AppFailure Performance :=
  let app := { app with
    generative := app.generative.map fun generative ↦
      { generative with cancellation := generative.cancellation.cancelForEvent request.event } }
  match request.route with
  | .silent => (app, .ok none)
  | .intent intent =>
    let event := { request.event with
      payload := request.event.payload.insert "intent" (.string intent) }
    app.play (app.performer.handleEvent rounding resolve disk event request.timing)
  | .assetId assetId =>
    app.play (app.performer.handleAssetId rounding resolve disk request.event assetId
      request.timing)
  | .assetIdentity assetId assetIdentity =>
    app.play (app.performer.handleAssetIdentity rounding resolve disk request.event assetId
      assetIdentity request.timing)
  | .template text compile =>
    app.playTemplate rounding resolve disk request.event text compile request.timing
  | .generate route =>
    app.submitGeneration rounding resolve disk request.event route request.timing

/-! ## The operator -/

def cancelActive : LiveApp :=
  { app with
    generative := app.generative.map fun generative ↦
      { generative with cancellation := generative.cancellation.cancelActive.1 } }

/-- What a control command does before the tick. -/
def applyControl (command : AuthenticatedControlCommand) (atMs : Nat) :
    Except RuntimeError (LiveApp × ControlOutcome) :=
  match app.security.handleControlWithScheduler command atMs app.performer.scheduler with
  | .error error => .error error
  | .ok (security, scheduler, outcome) =>
    let app := { app with security, performer := { app.performer with scheduler } }
    match outcome with
    | .stopped _ => .ok (app.cancelActive.purgeCancelledPending, outcome)
    | .muted => .ok (app.cancelActive, outcome)
    | .authenticatedOther => .ok (app, outcome)

/-- What a shutdown does before the tick. -/
def applyShutdown (atMs : Nat) : LiveApp :=
  let scheduler := (app.performer.scheduler.stopAll atMs).1
  { app with
    generative := app.generative.map GenerativeRuntime.shutdown
    performer := { app.performer with scheduler } }.purgeCancelledPending

/-! ## Runs -/

/-- A step of the composition thread, or of the generation worker. -/
inductive Op where
  | event (disk : Disk) (request : ContentRequest)
  | drain (disk : Disk) (nowMs now : Nat)
  | present (nowMs : Nat)
  | control (command : AuthenticatedControlCommand) (atMs : Nat)
  | shutdown (atMs : Nat)
  /-- An operation on the assets, outside of a performance. -/
  | assets (op : AssetStore.Op)
  | take
  | complete (result : Except String GenerationResult) (outputDecision : Option PublicOutput)

/-- What can be seen of a step. -/
structure Report where
  /-- The performance that it has scheduled. -/
  performance : Performance
  /-- The completion that it has drained, and whether it was committed. -/
  drained : Option (GenerationCompletion × Bool)
  /-- The commands that it has executed. -/
  executed : Dispatch
  /-- Everything was stopped. -/
  stopped : Bool

def Report.silent : Report := ⟨none, none, ⟨[], []⟩, false⟩

def perform : Op → LiveApp × Report
  | .event disk request =>
    let handled := app.handleEvent rounding resolve disk request
    (handled.1, { Report.silent with performance := handled.2.toOption.join })
  | .drain disk nowMs now =>
    let round := app.drainRound rounding resolve disk nowMs now
    (round.1, { Report.silent with drained := round.2.1, performance := round.2.2 })
  | .present nowMs =>
    let presented := app.present nowMs
    (presented.1, { Report.silent with executed := presented.2 })
  | .control command atMs =>
    match app.applyControl command atMs with
    | .error _ => (app, .silent)
    | .ok (app, .stopped _) => (app, { Report.silent with stopped := true })
    | .ok (app, _) => (app, .silent)
  | .shutdown atMs => (app.applyShutdown atMs, { Report.silent with stopped := true })
  | .assets op =>
    ({ app with performer := { app.performer with
        assets := (app.performer.assets.perform op).1 } }, .silent)
  | .take => ({ app with generative := app.generative.map GenerativeRuntime.take }, .silent)
  | .complete result outputDecision =>
    ({ app with generative := app.generative.map fun generative ↦
        generative.complete result outputDecision }, .silent)

def machine : Machine LiveApp Op Report :=
  ⟨fun app ↦ app.perform rounding resolve⟩

end LiveApp

end Aivtuber
