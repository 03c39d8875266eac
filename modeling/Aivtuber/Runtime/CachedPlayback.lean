import Aivtuber.Generative.Registry
import Aivtuber.Runtime.Visemes
import Aivtuber.Scheduler.Basic
import Aivtuber.Scheduler.Variation

/-!
# Cached playback

`CachedPerformer` of `crates/runtime/src/cached_playback.rs`: it resolves an asset, plans
it, and queues the audio and avatar commands of the plan that the scheduler accepts.  What
it returns are the commands for the two sinks.
-/

open Aivtuber.Check Aivtuber.Text Saturating
open Std (ExtTreeMap)

namespace Aivtuber

structure AudioPlaybackCommand where
  generation : Nat
  eventId : String
  assetId : String
  atMs : Nat
  audioRef : String
  durationMs : Nat
  speedFactor : ℚ
deriving DecidableEq, Repr

inductive AvatarAction where
  | expression (preset : String) (intensity : Float64)
  | gesture (preset : String) (amplitude : Float64)
  | gaze (target : String)
  | viseme (viseme : String) (weight : Float64)
deriving DecidableEq

structure AvatarPlaybackCommand where
  generation : Nat
  atMs : Nat
  action : AvatarAction
deriving DecidableEq

structure CachedPlaybackConfig where
  recentVariantWindow : Nat
  maxRecentVariantGroups : Nat
deriving DecidableEq, Repr

def CachedPlaybackConfig.default : CachedPlaybackConfig where
  recentVariantWindow := 1
  maxRecentVariantGroups := 256

structure CachedPlaybackTiming where
  atMs : Nat
  seed : Nat
deriving DecidableEq, Repr

structure CachedPlaybackOutcome where
  assetId : String
  cacheTier : CacheTier
  plan : PlannedPerformance
  variation : AppliedVariation

structure CachedPerformer where
  assets : AssetStore
  scheduler : Scheduler
  config : CachedPlaybackConfig
  recentByGroup : ExtTreeMap String (List String)
  recentGroupTouch : ExtTreeMap String Nat
  nextRecentGroupTouch : Nat
  recentGroupsHighWater : Nat
  recentGroupsEvicted : Nat

/-- The commands that a performance has queued. -/
structure Dispatch where
  audio : List AudioPlaybackCommand
  avatar : List AvatarPlaybackCommand

/-! ## The plan of an asset -/

def resolveAssetVisemes (asset : PerformanceAsset)
    (resolve : String → Except CachedPlaybackError VisemeTrack) :
    Except CachedPlaybackError (Option VisemeTrack) :=
  match asset.speech.bind fun speech ↦ speech.visemeRef.map fun visemeRef ↦ (speech, visemeRef) with
  | none => .ok none
  | some (speech, visemeRef) => do
    let track ← resolve visemeRef
    match speech.durationMs with
    | none => .ok (some track)
    | some durationMs => do
      ensure (.visemeDurationMismatch asset.id durationMs track.durationMs)
        (track.durationMs = durationMs)
      .ok (some track)

def playbackChannels (asset : PerformanceAsset) (visemes : Option VisemeTrack) :
    Finset BlendChannel :=
  (if (asset.speech.bind (·.audioRef)).isSome then {.audio} else ∅) ∪
    (if asset.expression.isSome || visemes.isSome then {.face} else ∅) ∪
    (if asset.gesture.isSome then {.body} else ∅) ∪ if asset.gaze.isSome then {.gaze} else ∅

/-- Where the timeline places a marker, or else the start. -/
def markerOffset (asset : PerformanceAsset) (marker : String) : Nat :=
  (asset.timeline.find? (·.event = marker)).elim 0 (·.atMs)

def assetBaseDurationMs (asset : PerformanceAsset) (visemes : Option VisemeTrack) : Nat :=
  let timelineEnd := ((asset.timeline.map (·.atMs)).max?).getD 0
  let interruptEnd := asset.interruptPointsMs.max?.getD 0
  let speechStart := markerOffset asset "speech.start"
  let speechEnd := (asset.speech.bind (·.durationMs)).elim 0 (satAdd speechStart)
  let visemeEnd := visemes.elim 0 fun track ↦ satAdd speechStart track.durationMs
  max (max (max timelineEnd interruptEnd) speechEnd) visemeEnd

def variationRange (asset : PerformanceAsset) : VariationRange where
  speedPct := (asset.variation.bind (·.speedPct)).elim 0 Float64.value
  amplitudePct := (asset.variation.bind (·.amplitudePct)).elim 0 Float64.value
  startDelayMs := (asset.variation.bind (·.startDelayMs)).getD 0

variable (rounding : ℚ → ℚ)

def assetVariation (asset : PerformanceAsset) (event : EventEnvelope)
    (timing : CachedPlaybackTiming) : AppliedVariation :=
  (applyVariation rounding (variationRange asset)
    (.new ((timing.seed + event.sequence) % 2 ^ 64))).1

def assetPlan (asset : PerformanceAsset) (visemes : Option VisemeTrack) (event : EventEnvelope)
    (timing : CachedPlaybackTiming) (variation : AppliedVariation) : PlannedPerformance :=
  let baseDurationMs := max (assetBaseDurationMs asset visemes) 1
  let interruptPointsMs :=
    asset.interruptPointsMs.map (scaleOffset rounding · variation.speedFactor)
  { eventId := event.eventId
    assetId := asset.id
    priority := priorityForEvent event.kind
    interruptible := !interruptPointsMs.isEmpty
    interruptPointsMs
    startAtMs := satAdd timing.atMs variation.startDelayMs
    durationMs := max (scaleOffset rounding baseDurationMs variation.speedFactor) 1
    generation := 0
    exclusive := false
    channels := playbackChannels asset visemes }

/-! ## The commands of a plan -/

def gazeName : GazeTarget → String
  | .camera => "camera"
  | .chat => "chat"
  | .game => "game"
  | .speaker => "speaker"
  | .away => "away"

/-- An amplitude at another strength, kept between zero and two. -/
def Float64.amplify (amplitude : Float64) (factor : ℚ) : Float64 :=
  match amplitude with
  | .finite value => .finite (max 0 (min 2 (rounding (value * factor))))
  | .infinite negative => .finite (if negative then 0 else 2)
  | .nan => .nan

/-- When the commands of a marker are due. -/
def markerAtMs (asset : PerformanceAsset) (plan : PlannedPerformance) (variation : AppliedVariation)
    (marker : String) : Nat :=
  satAdd plan.startAtMs (scaleOffset rounding (markerOffset asset marker) variation.speedFactor)

def audioCommand? (asset : PerformanceAsset) (plan : PlannedPerformance)
    (variation : AppliedVariation) : Option AudioPlaybackCommand := do
  let speech ← asset.speech
  let audioRef ← speech.audioRef
  let durationMs ← speech.durationMs
  some
    { generation := plan.generation
      eventId := plan.eventId
      assetId := plan.assetId
      atMs := markerAtMs rounding asset plan variation "speech.start"
      audioRef
      durationMs := scaleOffset rounding durationMs variation.speedFactor
      speedFactor := variation.speedFactor }

/-- The cues of a track, with the audio that it belongs to. -/
def visemeCommands (visemes : Option VisemeTrack) (variation : AppliedVariation)
    (audio : Option AudioPlaybackCommand) : List AvatarPlaybackCommand :=
  match audio, visemes with
  | some audio, some track =>
    track.cues.map fun cue ↦
      { generation := audio.generation
        atMs := satAdd audio.atMs (scaleOffset rounding cue.atMs variation.speedFactor)
        action := .viseme cue.viseme cue.weight }
  | _, _ => []

/-- An action of the avatar at its marker. -/
def avatarCommand (asset : PerformanceAsset) (plan : PlannedPerformance)
    (variation : AppliedVariation) (marker : String) (action : AvatarAction) :
    AvatarPlaybackCommand where
  generation := plan.generation
  atMs := markerAtMs rounding asset plan variation marker
  action := action

def dispatchAsset (asset : PerformanceAsset) (visemes : Option VisemeTrack)
    (plan : PlannedPerformance) (variation : AppliedVariation) : Dispatch :=
  let audio := audioCommand? rounding asset plan variation
  let at_ (marker : String) (action : AvatarAction) :=
    avatarCommand rounding asset plan variation marker action
  let avatar := visemeCommands rounding visemes variation audio ++
    (asset.expression.map fun expression ↦
      at_ "expression.start" (.expression expression.preset expression.intensity)).toList ++
    (asset.gesture.map fun gesture ↦
      at_ "gesture.start" (.gesture gesture.preset
        ((gesture.amplitude.getD (.finite 1)).amplify rounding variation.amplitudeFactor))).toList ++
    (asset.gaze.map fun gaze ↦ at_ "gaze.start" (.gaze (gazeName gaze))).toList
  { audio := audio.toList
    avatar := avatar.insertionSort (·.atMs ≤ ·.atMs) }

/-! ## The performer -/

namespace CachedPerformer

def new (assets : AssetStore) (scheduler : Scheduler) (config : CachedPlaybackConfig) :
    CachedPerformer where
  assets := assets
  scheduler := scheduler
  config := config
  recentByGroup := ∅
  recentGroupTouch := ∅
  nextRecentGroupTouch := 0
  recentGroupsHighWater := 0
  recentGroupsEvicted := 0

/-- The group that was touched longest ago is forgotten. -/
def evictRecentGroup (performer : CachedPerformer) : CachedPerformer :=
  let touch (group : String) : Nat := (performer.recentGroupTouch[group]?).getD 0
  match AssetStore.sortByRank touch performer.recentGroupTouch.keys with
  | [] => performer
  | victim :: _ =>
    { performer with
      recentByGroup := performer.recentByGroup.erase victim
      recentGroupTouch := performer.recentGroupTouch.erase victim
      recentGroupsEvicted := satAdd performer.recentGroupsEvicted 1 }

def recordRecent (performer : CachedPerformer) (group assetId : String) : CachedPerformer :=
  if performer.config.recentVariantWindow = 0 || performer.config.maxRecentVariantGroups = 0 then
    performer
  else
    let touch := performer.nextRecentGroupTouch
    let performer := { performer with nextRecentGroupTouch := satAdd touch 1 }
    let performer :=
      if !performer.recentByGroup.contains group &&
          performer.config.maxRecentVariantGroups ≤ performer.recentByGroup.size then
        performer.evictRecentGroup
      else performer
    let recent := (performer.recentByGroup[group]?).getD [] ++ [assetId]
    let recentByGroup := performer.recentByGroup.insert group
      (recent.drop (recent.length - performer.config.recentVariantWindow))
    { performer with
      recentByGroup
      recentGroupTouch := performer.recentGroupTouch.insert group touch
      recentGroupsHighWater := max performer.recentGroupsHighWater recentByGroup.size }

/-- What a playback returns: its outcome, and the commands for the sinks. -/
abbrev Played := Except CachedPlaybackError (CachedPlaybackOutcome × Dispatch)

variable (performer : CachedPerformer)
  (resolve : String → Except CachedPlaybackError VisemeTrack)

def scheduleAsset (event : EventEnvelope) (timing : CachedPlaybackTiming)
    (asset : PerformanceAsset) (cacheTier : CacheTier) : CachedPerformer × Played :=
  match resolveAssetVisemes asset resolve with
  | .error error => (performer, .error error)
  | .ok visemes =>
    let variation := assetVariation rounding asset event timing
    let plan := assetPlan rounding asset visemes event timing variation
    if plan.channels = ∅ then (performer, .error (.noPlayableTracks asset.id))
    else
      let scheduled := performer.scheduler.scheduleAt timing.atMs plan
      let performer := { performer with scheduler := scheduled.1 }
      match scheduled.2 with
      | .error rejection => (performer, .error (.scheduler rejection))
      | .ok plan =>
        (performer,
          .ok ({ assetId := asset.id, cacheTier, plan, variation },
            dispatchAsset rounding asset visemes plan variation))

/-- Play what was resolved, and note it as recent in its group. -/
def playResolved (event : EventEnvelope) (timing : CachedPlaybackTiming) (recentGroup : String)
    (asset : PerformanceAsset) (cacheTier : CacheTier) : CachedPerformer × Played :=
  match performer.scheduleAsset rounding resolve event timing asset cacheTier with
  | (performer, .error error) => (performer, .error error)
  | (performer, .ok played) => (performer.recordRecent recentGroup asset.id, .ok played)

/-- The event of a performance is valid, and no operator command. -/
def checkPlayable (event : EventEnvelope) : Except CachedPlaybackError Unit :=
  match event.validate with
  | .error error => .error (.invalidEvent error.display)
  | .ok () =>
    ensure (.invalidEvent "operator commands use the authenticated control path")
      (event.kind ≠ .operatorCommand)

def recentGroup (asset : PerformanceAsset) : String := asset.variantGroup.getD asset.intent

def handleEvent (disk : Disk) (event : EventEnvelope) (timing : CachedPlaybackTiming) :
    CachedPerformer × Played :=
  let intent? : Except CachedPlaybackError String := do
    checkPlayable event
    let intent ← expect .missingIntent (event.payload["intent"]?.bind JsonValue.asStr)
    ensure .missingIntent (!isBlank intent)
    .ok intent
  match intent? with
  | .error error => (performer, .error error)
  | .ok intent =>
    let selected := performer.assets.selectVariantWithTier disk intent
      ((timing.seed + event.sequence) % 2 ^ 64) ((performer.recentByGroup[intent]?).getD [])
    let performer := { performer with assets := selected.1 }
    match selected.2 with
    | .error error => (performer, .error (.assetStore error))
    | .ok (asset, cacheTier) =>
      performer.playResolved rounding resolve event timing intent asset cacheTier

/-- Play a selected asset, which may have to pass a check once it is resolved. -/
def playSelected (disk : Disk) (event : EventEnvelope) (assetId : String)
    (timing : CachedPlaybackTiming)
    (check : PerformanceAsset → Except CachedPlaybackError Unit) : CachedPerformer × Played :=
  let resolved := performer.assets.resolveWithTier disk assetId
  let performer := { performer with assets := resolved.1 }
  match resolved.2 with
  | .error error => (performer, .error (.assetStore error))
  | .ok (asset, cacheTier) =>
    match check asset with
    | .error error => (performer, .error error)
    | .ok () =>
      performer.playResolved rounding resolve event timing (recentGroup asset) asset cacheTier

def handleAssetId (disk : Disk) (event : EventEnvelope) (assetId : String)
    (timing : CachedPlaybackTiming) : CachedPerformer × Played :=
  let checked : Except CachedPlaybackError Unit := do
    checkPlayable event
    ensure (.invalidEvent "selected asset id must not be empty") (!isBlank assetId)
  match checked with
  | .error error => (performer, .error error)
  | .ok () => performer.playSelected rounding resolve disk event assetId timing fun _ ↦ .ok ()

/-- A semantic selection is played only if the asset is still the one that was retrieved. -/
def handleAssetIdentity (disk : Disk) (event : EventEnvelope) (assetId expectedIdentity : String)
    (timing : CachedPlaybackTiming) : CachedPerformer × Played :=
  let checked : Except CachedPlaybackError Unit := do
    checkPlayable event
    ensure (.invalidEvent "selected asset id and identity must not be empty")
      (!isBlank assetId && !isBlank expectedIdentity)
  match checked with
  | .error error => (performer, .error error)
  | .ok () =>
    performer.playSelected rounding resolve disk event assetId timing fun asset ↦
      ensure (.staleAssetIdentity assetId expectedIdentity asset.identity.stableKey)
        (asset.identity.stableKey = expectedIdentity)

/-! ## What a playback does -/

/-- A playback leaves the scheduler alone, or makes one request of it at `atMs`.  It queues
the commands of the plan that is accepted, and none otherwise. -/
structure Plays (atMs : Nat) (s s' : Scheduler)
    (performance : Option (CachedPlaybackOutcome × Dispatch)) : Prop where
  silent : performance = none →
    s' = s ∨ ∃ plan rejection, s.scheduleAt atMs plan = (s', .error rejection)
  accepted : ∀ outcome dispatch, performance = some (outcome, dispatch) →
    (∃ plan, s.scheduleAt atMs plan = (s', .ok outcome.plan)) ∧
      ∃ asset visemes, dispatch = dispatchAsset rounding asset visemes outcome.plan outcome.variation

variable {rounding} in
theorem Plays.refused {atMs : Nat} {s s' : Scheduler}
    (h : s' = s ∨ ∃ plan rejection, s.scheduleAt atMs plan = (s', .error rejection)) :
    Plays rounding atMs s s' none where
  silent _ := h
  accepted outcome dispatch hplayed := by cases hplayed

variable {rounding} in
theorem Plays.refl {atMs : Nat} (s : Scheduler) : Plays rounding atMs s s none :=
  .refused (.inl rfl)

theorem scheduleAsset_plays (event : EventEnvelope) (timing : CachedPlaybackTiming)
    (asset : PerformanceAsset) (cacheTier : CacheTier) :
    Plays rounding timing.atMs performer.scheduler
      (performer.scheduleAsset rounding resolve event timing asset cacheTier).1.scheduler
      (performer.scheduleAsset rounding resolve event timing asset cacheTier).2.toOption := by
  rw [scheduleAsset]
  split
  case h_1 => exact .refl _
  case h_2 visemes hvisemes =>
    dsimp only
    split
    · exact .refl _
    · split
      case h_1 rejection hrejected =>
        exact .refused (.inr ⟨_, rejection, Prod.ext rfl hrejected⟩)
      case h_2 plan haccepted =>
        refine ⟨nofun, fun outcome dispatch hplayed ↦ ?_⟩
        cases hplayed
        exact ⟨⟨_, Prod.ext rfl haccepted⟩, asset, visemes, rfl⟩

theorem recordRecent_scheduler (group assetId : String) :
    (performer.recordRecent group assetId).scheduler = performer.scheduler := by
  rw [recordRecent]
  split
  · rfl
  · dsimp only
    split
    · rw [evictRecentGroup]
      split
      · rfl
      · rfl
    · rfl

theorem playResolved_plays (event : EventEnvelope) (timing : CachedPlaybackTiming)
    (recentGroup : String) (asset : PerformanceAsset) (cacheTier : CacheTier) :
    Plays rounding timing.atMs performer.scheduler
      (performer.playResolved rounding resolve event timing recentGroup asset cacheTier).1.scheduler
      (performer.playResolved rounding resolve event timing recentGroup asset
        cacheTier).2.toOption := by
  have hplays := performer.scheduleAsset_plays rounding resolve event timing asset cacheTier
  rw [playResolved]
  split
  case h_1 scheduled error hscheduled =>
    rw [hscheduled] at hplays
    exact hplays
  case h_2 scheduled played hscheduled =>
    rw [hscheduled] at hplays
    dsimp only
    rw [recordRecent_scheduler]
    exact hplays

theorem playSelected_plays (disk : Disk) (event : EventEnvelope) (assetId : String)
    (timing : CachedPlaybackTiming)
    (check : PerformanceAsset → Except CachedPlaybackError Unit) :
    Plays rounding timing.atMs performer.scheduler
      (performer.playSelected rounding resolve disk event assetId timing check).1.scheduler
      (performer.playSelected rounding resolve disk event assetId timing check).2.toOption := by
  rw [playSelected]
  split
  case h_1 => exact .refl _
  case h_2 asset cacheTier hresolved =>
    split
    · exact .refl _
    · exact playResolved_plays rounding
        { performer with assets := (performer.assets.resolveWithTier disk assetId).1 } resolve event
        timing (recentGroup asset) asset cacheTier

theorem handleAssetId_plays (disk : Disk) (event : EventEnvelope) (assetId : String)
    (timing : CachedPlaybackTiming) :
    Plays rounding timing.atMs performer.scheduler
      (performer.handleAssetId rounding resolve disk event assetId timing).1.scheduler
      (performer.handleAssetId rounding resolve disk event assetId timing).2.toOption := by
  rw [handleAssetId]
  split
  · exact .refl _
  · exact performer.playSelected_plays rounding resolve disk event assetId timing _

theorem handleAssetIdentity_plays (disk : Disk) (event : EventEnvelope)
    (assetId expectedIdentity : String) (timing : CachedPlaybackTiming) :
    Plays rounding timing.atMs performer.scheduler
      (performer.handleAssetIdentity rounding resolve disk event assetId expectedIdentity
        timing).1.scheduler
      (performer.handleAssetIdentity rounding resolve disk event assetId expectedIdentity
        timing).2.toOption := by
  rw [handleAssetIdentity]
  split
  · exact .refl _
  · exact performer.playSelected_plays rounding resolve disk event assetId timing _

theorem handleEvent_plays (disk : Disk) (event : EventEnvelope) (timing : CachedPlaybackTiming) :
    Plays rounding timing.atMs performer.scheduler
      (performer.handleEvent rounding resolve disk event timing).1.scheduler
      (performer.handleEvent rounding resolve disk event timing).2.toOption := by
  rw [handleEvent]
  dsimp only
  split
  case h_1 => exact .refl _
  case h_2 intent hintent =>
    split
    case h_1 => exact .refl _
    case h_2 asset cacheTier hselected =>
      exact playResolved_plays rounding
        { performer with assets := (performer.assets.selectVariantWithTier disk intent _ _).1 }
        resolve event timing intent asset cacheTier

end CachedPerformer

end Aivtuber
