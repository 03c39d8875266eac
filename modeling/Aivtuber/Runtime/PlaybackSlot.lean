import Mathlib.Tactic.Linarith
import Aivtuber.Runtime.CachedPlayback
import Aivtuber.Scheduler.Preemption
import Aivtuber.Scheduler.Replay

/-!
# Playback in its slot

A plan and its commands are scaled and rounded one by one, over exact rationals here.  A scaled
marker is never behind the end of the plan, which is scaled from a duration behind every marker.
But the audio ends after two roundings, of its start and of its duration, where the plan ends after
one (`inSlot_iff_speechFits`).
-/

open Aivtuber.Check Saturating

namespace Aivtuber

/-! ## Rounded offsets -/

section Offsets

variable {factor : ℚ} {a b : Nat}

theorem scaleOffset_id (hfactor : 0 < factor) (offsetMs : Nat) :
    scaleOffset id offsetMs factor = min ⌊offsetMs * factor + 1 / 2⌋₊ u64Max := by
  rw [scaleOffset, if_neg (not_le.mpr hfactor), roundU64]
  rfl

theorem scaleOffset_mono (hfactor : 0 < factor) (h : a ≤ b) :
    scaleOffset id a factor ≤ scaleOffset id b factor := by
  rw [scaleOffset_id hfactor, scaleOffset_id hfactor]
  apply min_le_min_right
  apply Nat.floor_le_floor
  have hab : (a : ℚ) ≤ b := Nat.cast_le.mpr h
  have hscaled := mul_le_mul_of_nonneg_right hab hfactor.le
  linarith

theorem satAdd_mono_right {start : Nat} (h : a ≤ b) : satAdd start a ≤ satAdd start b :=
  satAdd_mono (le_refl _) h

end Offsets

/-! ## Factors -/

section Factors

variable {asset : PerformanceAsset}

theorem nextF64_nonneg (rng : SeededRng) : 0 ≤ rng.nextF64.1 := by
  rw [SeededRng.nextF64]
  positivity

/-- The speeds of a valid asset vary by a quarter at most. -/
theorem speedPct_of_validate (h : asset.validate = .ok ()) :
    0 ≤ (variationRange asset).speedPct ∧ (variationRange asset).speedPct ≤ 25 := by
  have hissues : asset.issues = [] := by
    rw [PerformanceAsset.validate] at h
    split at h
    case isTrue hempty => exact List.isEmpty_iff.mp hempty
    case isFalse => cases h
  simp only [PerformanceAsset.issues, List.append_eq_nil_iff] at hissues
  have hvariation := hissues.1.1.1.2
  rw [variationRange]
  cases hspec : asset.variation with
  | none => exact ⟨le_refl _, by norm_num⟩
  | some variation =>
    rw [hspec, Option.elim_some, VariationSpec.issues, List.append_eq_nil_iff,
      List.append_eq_nil_iff] at hvariation
    have hspeed := hvariation.1.1
    show 0 ≤ variation.speedPct.elim 0 Float64.value ∧
      variation.speedPct.elim 0 Float64.value ≤ 25
    cases hpct : variation.speedPct with
    | none => exact ⟨le_refl _, by norm_num⟩
    | some pct =>
      rw [hpct, Option.elim_some, validateNumberRange, issueUnless] at hspeed
      split at hspeed
      case isTrue hrange =>
        cases pct with
        | finite value =>
          rw [Float64.inRange, Bool.and_eq_true, decide_eq_true_eq, decide_eq_true_eq]
            at hrange
          simpa [Float64.value] using hrange
        | infinite negative => cases hrange
        | nan => cases hrange
      case isFalse => cases hspeed

theorem variationFactor_ge {draw pct : ℚ} (hdraw : 0 ≤ draw) (hlow : 0 ≤ pct) (hhigh : pct ≤ 25) :
    3 / 4 ≤ variationFactor id draw pct := by
  have hproduct := mul_nonneg hdraw hlow
  have hexpand : (draw * 2 - 1) * (pct / 100) = draw * pct / 50 - pct / 100 := by ring
  simp only [variationFactor, id]
  rw [hexpand]
  linarith

theorem applyVariation_speedFactor (spec : VariationRange) (rng : SeededRng) :
    (applyVariation id spec rng).1.speedFactor = variationFactor id rng.nextF64.1 spec.speedPct :=
  rfl

theorem speedFactor_of_validate (h : asset.validate = .ok ()) (event : EventEnvelope)
    (timing : CachedPlaybackTiming) : 3 / 4 ≤ (assetVariation id asset event timing).speedFactor := by
  obtain ⟨hlow, hhigh⟩ := speedPct_of_validate h
  rw [assetVariation, applyVariation_speedFactor]
  exact variationFactor_ge (nextF64_nonneg _) hlow hhigh

end Factors

/-! ## The slot -/

/-- The audio and the commands of the avatar are due from the start of the plan to its end. -/
structure Dispatch.InSlot (dispatch : Dispatch) (plan : PlannedPerformance) : Prop where
  audio : ∀ command ∈ dispatch.audio, plan.startAtMs ≤ command.atMs ∧
    satAdd command.atMs command.durationMs ≤ plan.endAtMs
  avatar : ∀ command ∈ dispatch.avatar, plan.startAtMs ≤ command.atMs ∧
    command.atMs ≤ plan.endAtMs

/-- The exact duration of an asset before it is scaled. -/
def baseMs (asset : PerformanceAsset) : Nat := max (assetBaseDurationMs asset none) 1

/-- The start and the duration of the audio, both rounded, are together no more than half a
millisecond over the exact scaled duration of the asset. -/
def SpeechFits (asset : PerformanceAsset) (factor : ℚ) : Prop :=
  ∀ speech durationMs, asset.speech = some speech → speech.audioRef.isSome = true →
    speech.durationMs = some durationMs →
      (⌊markerOffset asset "speech.start" * factor + 1 / 2⌋₊ : ℚ) +
          ⌊durationMs * factor + 1 / 2⌋₊ ≤ baseMs asset * factor + 1 / 2

section Slot

variable {asset : PerformanceAsset} {visemes : Option VisemeTrack} {factor : ℚ} {s d b : Nat}

theorem markerOffset_le_base (asset : PerformanceAsset) (visemes : Option VisemeTrack)
    (marker : String) : markerOffset asset marker ≤ assetBaseDurationMs asset visemes := by
  have htimeline : markerOffset asset marker ≤ ((asset.timeline.map (·.atMs)).max?).getD 0 := by
    rw [markerOffset]
    cases hfound : asset.timeline.find? (·.event = marker) with
    | none => exact Nat.zero_le _
    | some event =>
      have hmem : event.atMs ∈ asset.timeline.map (·.atMs) :=
        List.mem_map_of_mem (List.mem_of_find?_eq_some hfound)
      exact List.le_max?_getD_of_mem hmem
  rw [assetBaseDurationMs]
  exact htimeline.trans ((le_max_left _ _).trans ((le_max_left _ _).trans (le_max_left _ _)))

/-- Two roundings fit in a third one, on the clock or at its end. -/
theorem roundings_fit_iff (hfactor : 0 < factor) {start : Nat} (hb : 1 / 2 ≤ b * factor)
    (hend : satAdd start (max (scaleOffset id b factor) 1) ≠ u64Max) :
    satAdd (satAdd start (scaleOffset id s factor)) (scaleOffset id d factor) ≤
        satAdd start (max (scaleOffset id b factor) 1) ↔
      (⌊s * factor + 1 / 2⌋₊ : ℚ) + ⌊d * factor + 1 / 2⌋₊ ≤ b * factor + 1 / 2 := by
  have hone : 1 ≤ ⌊b * factor + 1 / 2⌋₊ := by
    rw [Nat.one_le_floor_iff]
    linarith
  have hcast : (⌊s * factor + 1 / 2⌋₊ : ℚ) + ⌊d * factor + 1 / 2⌋₊ ≤ b * factor + 1 / 2 ↔
      ⌊s * factor + 1 / 2⌋₊ + ⌊d * factor + 1 / 2⌋₊ ≤ ⌊b * factor + 1 / 2⌋₊ := by
    rw [Nat.le_floor_iff (by linarith)]
    push_cast
    rfl
  rw [hcast]
  simp only [scaleOffset_id hfactor] at hend ⊢
  have hclock : ⌊b * factor + 1 / 2⌋₊ ≤ u64Max := by
    simp only [satAdd] at hend
    omega
  rw [min_eq_left hclock, max_eq_left hone] at hend ⊢
  simp only [satAdd] at hend ⊢
  omega

/-- The plan that is accepted has the duration that was asked for. -/
theorem accepted_durationMs {scheduler : Scheduler} {requestAtMs : Nat}
    {plan accepted : PlannedPerformance}
    (h : (scheduler.scheduleAt requestAtMs plan).2 = .ok accepted) :
    accepted.durationMs = plan.durationMs := by
  rw [Scheduler.scheduleAt, Scheduler.scheduleNow] at h
  split at h
  case h_1 rejection hcontend => cases h
  case h_2 state hcontend =>
    have hcontended := (Scheduler.contend_ok hcontend).postponed
    have hresolved := (Scheduler.resolveQueue_spec requestAtMs state.1 state.2).postponed
    cases h
    show (Scheduler.resolveQueue _ _ _).2.durationMs = _
    rw [hresolved.plan_eq]
    show state.2.durationMs = _
    rw [hcontended.plan_eq]
    rfl

theorem cue_le_duration {durationMs index : Nat} {previous : Option Nat} {cues : List VisemeCue}
    (h : cuesIssue? durationMs index previous cues = none) :
    ∀ cue ∈ cues, cue.atMs ≤ durationMs := by
  induction cues generalizing index previous with
  | nil => exact fun cue hcue ↦ absurd hcue List.not_mem_nil
  | cons first cues ih =>
    rw [cuesIssue?] at h
    split at h
    · cases h
    · split at h
      · cases h
      · split at h
        · cases h
        · split at h
          · cases h
          case isFalse hlate =>
            rintro cue (_ | ⟨_, hcue⟩)
            · exact Nat.not_lt.mp hlate
            · exact ih h cue hcue

/-- The tracks of the store are valid. -/
theorem resolve_cues {store : LocalVisemeStore} {reference : String} {track : VisemeTrack}
    (h : store.resolve reference = .ok track) : ∀ cue ∈ track.cues, cue.atMs ≤ track.durationMs := by
  rw [LocalVisemeStore.resolve] at h
  split at h
  · cases h
  · split at h
    · cases h
    · split at h
      · cases h
      case h_2 read hread =>
        split at h
        · cases h
        case h_2 hvalid =>
          cases h
          rw [VisemeTrack.validate] at hvalid
          split at hvalid
          · cases hvalid
          · split at hvalid
            · cases hvalid
            case h_2 hcues => exact cue_le_duration hcues

/-- The track of an asset that has audio is as long as it, with all its cues in it. -/
theorem resolveAssetVisemes_cues {store : LocalVisemeStore} {speech : SpeechTrack}
    {durationMs : Nat} {track : VisemeTrack}
    (h : resolveAssetVisemes asset store.resolve = .ok (some track))
    (hspeech : asset.speech = some speech) (hduration : speech.durationMs = some durationMs) :
    track.durationMs = durationMs ∧ ∀ cue ∈ track.cues, cue.atMs ≤ durationMs := by
  rw [resolveAssetVisemes, hspeech, Option.bind_some] at h
  cases hreference : speech.visemeRef with
  | none =>
    rw [hreference] at h
    cases h
  | some reference =>
    rw [hreference, Option.map_some] at h
    dsimp only at h
    cases hresolve : store.resolve reference with
    | error error =>
      rw [hresolve] at h
      cases h
    | ok resolved =>
      rw [hresolve] at h
      have hcues := resolve_cues hresolve
      rw [hduration] at h
      obtain ⟨hsame, htrack⟩ := Check.unit_bind_eq_ok.mp h
      have hsame := of_decide_eq_true (Check.ensure_eq_ok.mp hsame)
      cases htrack
      exact ⟨hsame, fun cue hcue ↦ hsame ▸ hcues cue hcue⟩

/-- A valid asset with audio is as long with its track as without. -/
theorem baseMs_eq {store : LocalVisemeStore} {speech : SpeechTrack} {durationMs : Nat}
    (h : resolveAssetVisemes asset store.resolve = .ok visemes)
    (hspeech : asset.speech = some speech) (hduration : speech.durationMs = some durationMs) :
    max (assetBaseDurationMs asset visemes) 1 = baseMs asset := by
  have hbase : assetBaseDurationMs asset visemes = assetBaseDurationMs asset none := by
    cases visemes with
    | none => rfl
    | some track =>
      obtain ⟨hsame, -⟩ := resolveAssetVisemes_cues h hspeech hduration
      rw [assetBaseDurationMs, assetBaseDurationMs, hspeech, Option.bind_some, hduration]
      simp only [Option.elim_some, Option.elim_none, hsame, Nat.max_zero]
      rw [Nat.max_assoc, Nat.max_self]
  rw [hbase]
  rfl

/-- The actions of the avatar at their markers are in the slot. -/
theorem avatarCommand_inSlot (hfactor : 0 < factor) {plan : PlannedPerformance}
    {variation : AppliedVariation} (hvariation : variation.speedFactor = factor)
    (hduration : plan.durationMs =
      max (scaleOffset id (max (assetBaseDurationMs asset visemes) 1) factor) 1)
    (hstart : plan.startAtMs ≤ u64Max) (marker : String) (action : AvatarAction) :
    plan.startAtMs ≤ (avatarCommand id asset plan variation marker action).atMs ∧
      (avatarCommand id asset plan variation marker action).atMs ≤ plan.endAtMs := by
  show plan.startAtMs ≤ markerAtMs id asset plan variation marker ∧
    markerAtMs id asset plan variation marker ≤ plan.endAtMs
  rw [markerAtMs, PlannedPerformance.endAtMs, hduration, hvariation]
  refine ⟨le_satAdd hstart, satAdd_mono_right ?_⟩
  refine (scaleOffset_mono hfactor ?_).trans (le_max_left _ _)
  exact (markerOffset_le_base asset visemes marker).trans (le_max_left _ _)

theorem audioCommand?_eq_some {plan : PlannedPerformance} {variation : AppliedVariation}
    {command : AudioPlaybackCommand} :
    audioCommand? id asset plan variation = some command ↔
      ∃ speech audioRef durationMs, asset.speech = some speech ∧ speech.audioRef = some audioRef ∧
        speech.durationMs = some durationMs ∧ command =
          { generation := plan.generation
            eventId := plan.eventId
            assetId := plan.assetId
            atMs := markerAtMs id asset plan variation "speech.start"
            audioRef
            durationMs := scaleOffset id durationMs variation.speedFactor
            speedFactor := variation.speedFactor } := by
  simp only [audioCommand?, Option.bind_eq_bind, Option.bind_eq_some_iff, Option.some_inj]
  constructor
  · rintro ⟨speech, hspeech, audioRef, href, durationMs, hduration, hcommand⟩
    exact ⟨speech, audioRef, durationMs, hspeech, href, hduration, hcommand.symm⟩
  · rintro ⟨speech, audioRef, durationMs, hspeech, href, hduration, hcommand⟩
    exact ⟨speech, hspeech, audioRef, href, durationMs, hduration, hcommand.symm⟩

variable {store : LocalVisemeStore} {plan : PlannedPerformance} {variation : AppliedVariation}

/-- The audio ends in the slot exactly if its roundings fit. -/
theorem audio_inSlot_iff (hfactor : 3 / 4 ≤ variation.speedFactor)
    (hduration : plan.durationMs = max (scaleOffset id (baseMs asset) variation.speedFactor) 1)
    {durationMs : Nat} (hend : plan.endAtMs ≠ u64Max) :
    satAdd (markerAtMs id asset plan variation "speech.start")
        (scaleOffset id durationMs variation.speedFactor) ≤ plan.endAtMs ↔
      (⌊markerOffset asset "speech.start" * variation.speedFactor + 1 / 2⌋₊ : ℚ) +
        ⌊durationMs * variation.speedFactor + 1 / 2⌋₊ ≤
          baseMs asset * variation.speedFactor + 1 / 2 := by
  have hpos : 0 < variation.speedFactor := lt_of_lt_of_le (by norm_num) hfactor
  have hbase : (1 : ℚ) ≤ baseMs asset := by
    rw [Nat.one_le_cast, baseMs]
    exact le_max_right _ _
  rw [PlannedPerformance.endAtMs, hduration] at hend ⊢
  exact roundings_fit_iff hpos (by nlinarith) hend

/-- **A dispatch in its slot**, for the plan of a resolved asset. -/
theorem dispatchAsset_inSlot_iff
    (hresolved : resolveAssetVisemes asset store.resolve = .ok visemes)
    (hfactor : 3 / 4 ≤ variation.speedFactor)
    (hduration : plan.durationMs =
      max (scaleOffset id (max (assetBaseDurationMs asset visemes) 1) variation.speedFactor) 1)
    (hstart : plan.startAtMs ≤ u64Max) :
    (dispatchAsset id asset visemes plan variation).InSlot plan ↔
      plan.endAtMs = u64Max ∨ SpeechFits asset variation.speedFactor := by
  have hpos : 0 < variation.speedFactor := lt_of_lt_of_le (by norm_num) hfactor
  constructor
  · intro hslot
    by_cases hend : plan.endAtMs = u64Max
    · exact .inl hend
    · refine .inr fun speech durationMs hspeech href hspeechDuration ↦ ?_
      obtain ⟨audioRef, href⟩ := Option.isSome_iff_exists.mp href
      rw [baseMs_eq hresolved hspeech hspeechDuration] at hduration
      have hcommand : audioCommand? id asset plan variation = some _ := audioCommand?_eq_some.mpr
        ⟨speech, audioRef, durationMs, hspeech, href, hspeechDuration, rfl⟩
      exact (audio_inSlot_iff hfactor hduration hend).mp
        (hslot.audio _ (Option.mem_toList.mpr hcommand)).2
  · intro hfits
    have haudio : ∀ command, audioCommand? id asset plan variation = some command →
        plan.startAtMs ≤ command.atMs ∧ satAdd command.atMs command.durationMs ≤ plan.endAtMs := by
      intro command hcommand
      obtain ⟨speech, audioRef, durationMs, hspeech, href, hspeechDuration, rfl⟩ :=
        audioCommand?_eq_some.mp hcommand
      refine ⟨le_satAdd hstart, ?_⟩
      rw [baseMs_eq hresolved hspeech hspeechDuration] at hduration
      by_cases hend : plan.endAtMs = u64Max
      · rw [hend]
        exact satAdd_le_max _ _
      · refine (audio_inSlot_iff hfactor hduration hend).mpr ?_
        exact (hfits.resolve_left hend) speech durationMs hspeech (by rw [href]; rfl)
          hspeechDuration
    refine ⟨fun command hcommand ↦ haudio command (Option.mem_toList.mp hcommand), ?_⟩
    intro command hcommand
    have hmarked := avatarCommand_inSlot hpos rfl hduration hstart
    rw [dispatchAsset, (List.perm_insertionSort _ _).mem_iff] at hcommand
    simp only [List.mem_append, Option.mem_toList, Option.map_eq_some_iff] at hcommand
    obtain ((hcue | ⟨expression, -, rfl⟩) | ⟨gesture, -, rfl⟩) | ⟨gaze, -, rfl⟩ := hcommand
    · cases haudioCommand : audioCommand? id asset plan variation with
      | none =>
        rw [haudioCommand, visemeCommands] at hcue
        · cases hcue
        · rintro _ _ ⟨⟩
      | some audio =>
        cases visemes with
        | none => 
          rw [haudioCommand] at hcue
          cases hcue
        | some track =>
          rw [haudioCommand, visemeCommands, List.mem_map] at hcue
          obtain ⟨cue, hmem, rfl⟩ := hcue
          obtain ⟨hfrom, hto⟩ := haudio audio haudioCommand
          obtain ⟨speech, audioRef, durationMs, hspeech, -, hspeechDuration, rfl⟩ :=
            audioCommand?_eq_some.mp haudioCommand
          obtain ⟨-, hcues⟩ := resolveAssetVisemes_cues hresolved hspeech hspeechDuration
          refine ⟨hfrom.trans (le_satAdd (satAdd_le_max _ _)), le_trans ?_ hto⟩
          exact satAdd_mono_right (scaleOffset_mono hpos (hcues cue hmem))
    · exact hmarked _ _
    · exact hmarked _ _
    · exact hmarked _ _

end Slot

/-- **Playback in its slot.**  What is queued for a plan of a valid asset is in the slot exactly
when the roundings of the speech fit, or when the slot ends with the clock. -/
theorem inSlot_iff_speechFits (performer : CachedPerformer) (store : LocalVisemeStore)
    (event : EventEnvelope) (timing : CachedPlaybackTiming) (asset : PerformanceAsset)
    (cacheTier : CacheTier) {outcome : CachedPlaybackOutcome} {dispatch : Dispatch}
    (hvalid : asset.validate = .ok ())
    (hplayed : (performer.scheduleAsset id store.resolve event timing asset cacheTier).2 =
      .ok (outcome, dispatch))
    (hstart : outcome.plan.startAtMs ≤ u64Max) :
    dispatch.InSlot outcome.plan ↔
      outcome.plan.endAtMs = u64Max ∨ SpeechFits asset outcome.variation.speedFactor := by
  rw [CachedPerformer.scheduleAsset] at hplayed
  split at hplayed
  case h_1 => cases hplayed
  case h_2 visemes hresolved =>
    dsimp only at hplayed
    split at hplayed
    · cases hplayed
    · split at hplayed
      · cases hplayed
      case h_2 plan haccepted =>
        cases hplayed
        refine dispatchAsset_inSlot_iff hresolved (speedFactor_of_validate hvalid event timing) ?_
          hstart
        exact accepted_durationMs haccepted

/-- An asset with 28 ms of speech after a pause of 28 ms, at a speed that varies by a quarter. -/
def lateSpeech : PerformanceAsset where
  schemaVersion := performanceAssetSchemaVersion
  id := "phrase.late"
  intent := "greet"
  assetClass := .phrase
  variantGroup := none
  speech := some ⟨none, some "audio/late.wav", some 28, none⟩
  expression := none
  gesture := none
  gaze := none
  timeline := [⟨28, "speech.start", none⟩]
  interruptPointsMs := []
  variation := some ⟨some (.finite 25), none, none⟩
  compatibility := ⟨"1", none, none, none, none⟩
  semanticEmbedding := none
  provenance := none

/-- The playback of the asset at the time zero, with the seed zero. -/
def latePlayback : CachedPerformer.Played :=
  (CachedPerformer.scheduleAsset id
    (.new (.new "assets" ⟨"1", none, none, none, none⟩ fun _ ↦ 0) (.new .default) .default)
    (LocalVisemeStore.resolve ⟨"visemes", fun path ↦ .error (.io path "not found")⟩)
    (recordedMessage "chat.1" 0) ⟨0, 0⟩ lateSpeech .memory).2

/-- What the playback does: it ends 50 ms after its start, where its plan ends after 49 ms. -/
theorem latePlayback_eq : ∃ outcome dispatch, latePlayback = .ok (outcome, dispatch) ∧
    outcome.plan.startAtMs ≤ u64Max ∧ outcome.plan.endAtMs = 49 ∧
      ∃ command ∈ dispatch.audio, satAdd command.atMs command.durationMs = 50 := by
  have hplayed : (match latePlayback with
      | .ok (outcome, dispatch) => decide (outcome.plan.startAtMs ≤ u64Max) &&
          decide (outcome.plan.endAtMs = 49) &&
            dispatch.audio.any fun command ↦ satAdd command.atMs command.durationMs = 50
      | .error _ => false) = true := by
    decide +kernel
  cases hlate : latePlayback with
  | error error =>
    rw [hlate] at hplayed
    cases hplayed
  | ok played =>
    rw [hlate] at hplayed
    obtain ⟨outcome, dispatch⟩ := played
    simp only [Bool.and_eq_true, decide_eq_true_eq, List.any_eq_true] at hplayed
    exact ⟨outcome, dispatch, rfl, hplayed.1.1, hplayed.1.2, hplayed.2⟩

theorem lateSpeech_valid : lateSpeech.validate = .ok () := by
  have hissues : lateSpeech.issues.isEmpty = true := by decide +kernel
  rw [PerformanceAsset.validate, if_pos hissues]

theorem latePlayback_slot : ∃ outcome dispatch, latePlayback = .ok (outcome, dispatch) ∧
    (dispatch.InSlot outcome.plan ↔
      outcome.plan.endAtMs = u64Max ∨ SpeechFits lateSpeech outcome.variation.speedFactor) := by
  obtain ⟨outcome, dispatch, hplayed, hstart, -⟩ := latePlayback_eq
  exact ⟨outcome, dispatch, hplayed, inSlot_iff_speechFits _ _ _ _ _ _ lateSpeech_valid hplayed hstart⟩

/-- The audio of a valid asset ends a millisecond after its slot. -/
theorem speech_overruns : lateSpeech.validate = .ok () ∧
    ∃ outcome dispatch, latePlayback = .ok (outcome, dispatch) ∧ ¬ dispatch.InSlot outcome.plan := by
  obtain ⟨outcome, dispatch, hplayed, -, hend, command, hcommand, hlate⟩ := latePlayback_eq
  refine ⟨lateSpeech_valid, outcome, dispatch, hplayed, fun hslot ↦ ?_⟩
  have hbound := (hslot.audio command hcommand).2
  rw [hlate, hend] at hbound
  omega

end Aivtuber
