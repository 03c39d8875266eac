import Aivtuber.App.LiveApp

/-!
# The steps of the live application

What each step of the application does to its parts.  Events and committed completions
perform at most once: they make at most one request of the scheduler, and queue exactly the
commands of the plan that it accepts (`Performs`).  All that a step does with generations are
operations of the generative runtime (`runtimeOps`).
-/

open Saturating

namespace Aivtuber

namespace LiveApp

/-! ## Performing -/

/-- What handling an event or a completion does, its generations aside. -/
structure Performs (rounding : ℚ → ℚ) (atMs : Nat) (app app' : LiveApp)
    (performance : Performance) : Prop where
  generative : app'.generative = app.generative
  muted : app'.security.muted = app.security.muted
  maxDispatchLatenessMs : app'.maxDispatchLatenessMs = app.maxDispatchLatenessMs
  pendingAudio : app'.pendingAudio = app.pendingAudio ++ performance.elim [] (·.2.audio)
  pendingAvatar : app'.pendingAvatar = app.pendingAvatar ++ performance.elim [] (·.2.avatar)
  plays : CachedPerformer.Plays rounding atMs app.performer.scheduler app'.performer.scheduler
    performance

/-- Two states between which nothing was performed, and no generation touched. -/
structure SameStage (app app' : LiveApp) : Prop where
  generative : app'.generative = app.generative
  muted : app'.security.muted = app.security.muted
  maxDispatchLatenessMs : app'.maxDispatchLatenessMs = app.maxDispatchLatenessMs
  pendingAudio : app'.pendingAudio = app.pendingAudio
  pendingAvatar : app'.pendingAvatar = app.pendingAvatar
  scheduler : app'.performer.scheduler = app.performer.scheduler

/-- The same application with other generations. -/
def withGenerative (app : LiveApp) (generative : Option GenerativeRuntime) : LiveApp :=
  { app with generative }

section Performing

variable {rounding : ℚ → ℚ} {atMs : Nat} {app app' app'' : LiveApp} {performance : Performance}

theorem SameStage.refl (app : LiveApp) : SameStage app app := ⟨rfl, rfl, rfl, rfl, rfl, rfl⟩

theorem SameStage.trans (h : SameStage app app') (h' : SameStage app' app'') :
    SameStage app app'' where
  generative := h'.generative.trans h.generative
  muted := h'.muted.trans h.muted
  maxDispatchLatenessMs := h'.maxDispatchLatenessMs.trans h.maxDispatchLatenessMs
  pendingAudio := h'.pendingAudio.trans h.pendingAudio
  pendingAvatar := h'.pendingAvatar.trans h.pendingAvatar
  scheduler := h'.scheduler.trans h.scheduler

theorem SameStage.silent (h : SameStage app app') : Performs rounding atMs app app' none where
  generative := h.generative
  muted := h.muted
  maxDispatchLatenessMs := h.maxDispatchLatenessMs
  pendingAudio := h.pendingAudio.trans (List.append_nil _).symm
  pendingAvatar := h.pendingAvatar.trans (List.append_nil _).symm
  plays := h.scheduler ▸ .refl _

theorem SameStage.performs (h : SameStage app app')
    (h' : Performs rounding atMs app' app'' performance) :
    Performs rounding atMs app app'' performance where
  generative := h'.generative.trans h.generative
  muted := h'.muted.trans h.muted
  maxDispatchLatenessMs := h'.maxDispatchLatenessMs.trans h.maxDispatchLatenessMs
  pendingAudio := h.pendingAudio ▸ h'.pendingAudio
  pendingAvatar := h.pendingAvatar ▸ h'.pendingAvatar
  plays := h.scheduler ▸ h'.plays

theorem SameStage.withGenerative (h : SameStage app app') (generative : Option GenerativeRuntime) :
    SameStage (app.withGenerative generative) (app'.withGenerative generative) :=
  ⟨rfl, h.muted, h.maxDispatchLatenessMs, h.pendingAudio, h.pendingAvatar, h.scheduler⟩

theorem Performs.withGenerative (h : Performs rounding atMs app app' performance)
    (generative : Option GenerativeRuntime) : Performs rounding atMs
      (app.withGenerative generative) (app'.withGenerative generative) performance :=
  ⟨rfl, h.muted, h.maxDispatchLatenessMs, h.pendingAudio, h.pendingAvatar, h.plays⟩

/-- The generations that it was measured from are those that it leaves. -/
theorem Performs.withGenerative_self {generative : Option GenerativeRuntime}
    (h : Performs rounding atMs (app.withGenerative generative) app' performance) :
    Performs rounding atMs (app.withGenerative app'.generative) app' performance := by
  have hgenerative : app'.generative = generative := h.generative
  rwa [hgenerative]

theorem play_performs {played : CachedPerformer × CachedPerformer.Played}
    (h : CachedPerformer.Plays rounding atMs app.performer.scheduler played.1.scheduler
      played.2.toOption) :
    Performs rounding atMs app (app.play played).1 (app.play played).2.toOption.join := by
  rw [play]
  split
  case h_1 error herror =>
    rw [herror] at h
    exact ⟨rfl, rfl, rfl, (List.append_nil _).symm, (List.append_nil _).symm, h⟩
  case h_2 outcome dispatch haccepted =>
    rw [haccepted] at h
    exact ⟨rfl, rfl, rfl, rfl, rfl, h⟩

theorem recordOutput_sameStage (app : LiveApp) (output : PublicOutput) :
    SameStage app (app.recordOutput output) := ⟨rfl, rfl, rfl, rfl, rfl, rfl⟩

theorem recordDenial_sameStage (app : LiveApp) (event : EventEnvelope) (reason : String) :
    SameStage app (app.recordDenial event reason) := ⟨rfl, rfl, rfl, rfl, rfl, rfl⟩

theorem recordGenerationCall_sameStage (app : LiveApp) (call : LlmCallRecord) :
    SameStage app (app.recordGenerationCall call) := ⟨rfl, rfl, rfl, rfl, rfl, rfl⟩

theorem recordGenerationCalls_sameStage (app : LiveApp) (calls : List LlmCallRecord) :
    SameStage app (app.recordGenerationCalls calls) := by
  induction calls generalizing app with
  | nil => exact .refl app
  | cons call calls ih => exact (app.recordGenerationCall_sameStage call).trans (ih _)

theorem recordWorkerOutputDecision_sameStage (app : LiveApp) (output : Option PublicOutput) :
    SameStage app (app.recordWorkerOutputDecision output) := by
  cases output with
  | none => exact .refl app
  | some output => exact app.recordOutput_sameStage output

theorem recordDiscarded_sameStage (app : LiveApp) (completion : GenerationCompletion) :
    SameStage app (app.recordDiscarded completion) :=
  (app.recordGenerationCalls_sameStage _).trans (recordWorkerOutputDecision_sameStage _ _)

variable (rounding) (resolve : String → Except CachedPlaybackError VisemeTrack)

theorem playInserted_performs (app : LiveApp) (disk : Disk) (event : EventEnvelope)
    (assetId : String) (timing : CachedPlaybackTiming)
    (inserted : AssetStore × Except AssetStoreError PerformanceAsset) :
    Performs rounding timing.atMs app
      (app.playInserted rounding resolve disk event assetId timing inserted).1
      (app.playInserted rounding resolve disk event assetId timing inserted).2.toOption.join := by
  obtain ⟨assets, result⟩ := inserted
  have hassets : SameStage app { app with performer := { app.performer with assets } } :=
    ⟨rfl, rfl, rfl, rfl, rfl, rfl⟩
  cases result with
  | error error => exact hassets.silent
  | ok =>
    refine hassets.performs (play_performs ?_)
    exact CachedPerformer.handleAssetId_plays rounding _ resolve disk event assetId timing

theorem publishGenerated_performs (app : LiveApp) (disk : Disk) (event : EventEnvelope)
    (asset : PerformanceAsset) (outputDecision : Option PublicOutput)
    (timing : CachedPlaybackTiming) :
    Performs rounding timing.atMs app
      (app.publishGenerated rounding resolve disk event asset outputDecision timing).1
      (app.publishGenerated rounding resolve disk event asset outputDecision
        timing).2.toOption.join := by
  have hrecorded := app.recordWorkerOutputDecision_sameStage outputDecision
  rw [publishGenerated]
  split
  · exact hrecorded.silent
  · split
    · exact hrecorded.silent
    · dsimp only
      split
      · exact (app.recordOutput_sameStage _).silent
      · exact hrecorded.performs (playInserted_performs rounding resolve _ disk event asset.id
          timing _)

theorem commitGenerationResult_performs (app : LiveApp) (disk : Disk) (event : EventEnvelope)
    (result : GenerationResult) (outputDecision : Option PublicOutput)
    (timing : CachedPlaybackTiming) :
    Performs rounding timing.atMs app
      (app.commitGenerationResult rounding resolve disk event result outputDecision timing).1
      (app.commitGenerationResult rounding resolve disk event result outputDecision
        timing).2.toOption.join := by
  refine (app.recordGenerationCalls_sameStage result.llmCalls).performs ?_
  rw [commitGenerationResult]
  split
  · exact publishGenerated_performs rounding resolve _ disk event _ outputDecision timing
  · refine (recordWorkerOutputDecision_sameStage _ outputDecision).performs ?_
    exact play_performs (CachedPerformer.handleAssetId_plays rounding _ resolve disk event _ timing)
  · exact (recordWorkerOutputDecision_sameStage _ outputDecision).silent
  · exact (recordWorkerOutputDecision_sameStage _ outputDecision).silent

theorem playTemplate_performs (app : LiveApp) (disk : Disk) (event : EventEnvelope) (text : String)
    (compile : String → PerformanceAsset) (timing : CachedPlaybackTiming) :
    Performs rounding timing.atMs app
      (app.playTemplate rounding resolve disk event text compile timing).1
      (app.playTemplate rounding resolve disk event text compile timing).2.toOption.join := by
  have houtput := app.recordOutput_sameStage (app.publicOutputPolicy.evaluate text)
  rw [playTemplate]
  dsimp only
  split
  · exact houtput.silent
  · exact houtput.performs (playInserted_performs rounding resolve _ disk event _ timing _)

end Performing

/-! ## Generations -/

/-- What a step does with the generative runtime. -/
def runtimeOps (app : LiveApp) : Op → List GenerativeRuntime.Op
  | .event _ request =>
    .cancelForEvent request.event ::
      match request.route with
      | .generate route =>
        if route.tooLate || route.denial.isSome then []
        else [.submit ⟨request.event, request.timing.seed⟩
          (app.selectFallbackDirective route request.timing.seed) route.providerDeadline]
      | _ => []
  | .drain _ _ now => [.drain now]
  | .control command atMs =>
    match app.applyControl command atMs with
    | .ok (_, .stopped _) | .ok (_, .muted) => [.cancelActive]
    | _ => []
  | .shutdown _ => [.shutdown]
  | .take => [.take]
  | .complete result outputDecision => [.complete result outputDecision]
  | .present _ | .assets _ => []

/-- The generative runtime after a step. -/
def nextGenerative (app : LiveApp) (op : Op) : Option GenerativeRuntime :=
  app.generative.map (GenerativeRuntime.machine.run · (app.runtimeOps op))

section Generations

variable (rounding : ℚ → ℚ) (resolve : String → Except CachedPlaybackError VisemeTrack)
variable (app : LiveApp)

/-- A step that does nothing with the generations. -/
theorem withGenerative_run_nil :
    app.withGenerative (app.generative.map (GenerativeRuntime.machine.run · [])) = app := by
  simp [withGenerative]

theorem commitFallback_performs (disk : Disk) (event : EventEnvelope)
    (fallback : FallbackDirective) (timing : CachedPlaybackTiming) :
    Performs rounding timing.atMs app
      (app.commitFallback rounding resolve disk event fallback timing).1
      (app.commitFallback rounding resolve disk event fallback timing).2.toOption.join :=
  commitGenerationResult_performs rounding resolve app disk event _ none timing

theorem submitGeneration_performs (disk : Disk) (event : EventEnvelope) (route : GenerationRoute)
    (timing : CachedPlaybackTiming) :
    Performs rounding timing.atMs
      (app.withGenerative (app.generative.map (GenerativeRuntime.machine.run ·
        (if route.tooLate || route.denial.isSome then []
          else [.submit ⟨event, timing.seed⟩ (app.selectFallbackDirective route timing.seed)
            route.providerDeadline]))))
      (app.submitGeneration rounding resolve disk event route timing).1
      (app.submitGeneration rounding resolve disk event route timing).2.toOption.join := by
  rw [submitGeneration]
  dsimp only
  cases htooLate : route.tooLate with
  | true =>
    rw [if_pos rfl, Bool.true_or, if_pos rfl, withGenerative_run_nil]
    exact app.commitFallback_performs rounding resolve disk event _ timing
  | false =>
    rw [if_neg Bool.false_ne_true, Bool.false_or]
    cases hdenial : route.denial with
    | some reason =>
      rw [Option.isSome_some, if_pos rfl, withGenerative_run_nil]
      exact (app.recordDenial_sameStage event reason).performs
        (commitFallback_performs rounding resolve _ disk event _ timing)
    | none =>
      rw [Option.isSome_none, if_neg Bool.false_ne_true]
      cases hgenerative : app.generative with
      | none => exact SameStage.silent ⟨hgenerative, rfl, rfl, rfl, rfl, rfl⟩
      | some generative =>
        dsimp only
        split
        · exact (SameStage.refl _).silent
        · exact commitFallback_performs rounding resolve _ disk event _ timing

theorem handleEvent_performs (disk : Disk) (request : ContentRequest) :
    Performs rounding request.timing.atMs
      (app.withGenerative (app.nextGenerative (.event disk request)))
      (app.handleEvent rounding resolve disk request).1
      (app.handleEvent rounding resolve disk request).2.toOption.join := by
  obtain ⟨event, timing, route⟩ := request
  -- what the event cancels comes before anything that its route does
  have hcancel : ∀ ops, app.generative.map (GenerativeRuntime.machine.run ·
      (.cancelForEvent event :: ops)) =
        (app.generative.map fun generative ↦ { generative with
          cancellation := generative.cancellation.cancelForEvent event }).map
            (GenerativeRuntime.machine.run · ops) := by
    intro ops
    rw [Option.map_map]
    rfl
  rw [handleEvent, nextGenerative, runtimeOps, hcancel]
  dsimp only
  generalize app.generative.map (fun generative ↦ { generative with
    cancellation := generative.cancellation.cancelForEvent event }) = generative
  have hnil : generative.map (GenerativeRuntime.machine.run · []) = generative := by simp
  cases route with
  | silent =>
    rw [hnil]
    exact (SameStage.refl _).silent
  | intent intent =>
    rw [hnil]
    exact play_performs (CachedPerformer.handleEvent_plays rounding _ resolve disk _ timing)
  | assetId assetId =>
    rw [hnil]
    exact play_performs (CachedPerformer.handleAssetId_plays rounding _ resolve disk event assetId
      timing)
  | assetIdentity assetId assetIdentity =>
    rw [hnil]
    exact play_performs (CachedPerformer.handleAssetIdentity_plays rounding _ resolve disk event
      assetId assetIdentity timing)
  | template text compile =>
    rw [hnil]
    exact playTemplate_performs rounding resolve _ disk event text compile timing
  | generate route =>
    have hsubmit := (app.withGenerative generative).submitGeneration_performs rounding resolve disk
      event route timing
    exact hsubmit

theorem drainRound_performs (disk : Disk) (nowMs now : Nat) :
    Performs rounding nowMs (app.withGenerative (app.nextGenerative (.drain disk nowMs now)))
      (app.drainRound rounding resolve disk nowMs now).1
      (app.drainRound rounding resolve disk nowMs now).2.2 := by
  rw [drainRound, nextGenerative, runtimeOps]
  cases hgenerative : app.generative with
  | none => exact SameStage.silent ⟨hgenerative, rfl, rfl, rfl, rfl, rfl⟩
  | some generative =>
    have hrun : GenerativeRuntime.machine.run generative [.drain now] =
      (generative.drainOne now).1 := rfl
    dsimp only [Option.map_some]
    rw [hrun]
    split
    case h_1 taken hnone =>
      have htaken : taken = generative := by
        rw [GenerativeRuntime.drainOne] at hnone
        split at hnone
        · exact (congrArg Prod.fst hnone).symm
        · cases congrArg Prod.snd hnone
      rw [hnone, htaken]
      exact SameStage.silent ⟨hgenerative, rfl, rfl, rfl, rfl, rfl⟩
    case h_2 taken completion committed hsome =>
      rw [hsome]
      split
      · exact ((app.recordDiscarded_sameStage completion).withGenerative (some taken)).silent
      · exact (app.commitGenerationResult_performs rounding resolve disk _ _ _
          ⟨nowMs, completion.request.seed⟩).withGenerative (some taken)

end Generations

/-! ## Steps -/

/-- The instant that a step brings with it. -/
def Op.atMs? : Op → Option Nat
  | .event _ request => some request.timing.atMs
  | .drain _ nowMs _ | .present nowMs => some nowMs
  | .control _ atMs | .shutdown atMs => some atMs
  | .assets _ | .take | .complete _ _ => none

/-- Everything on the timeline is stopped, and the queues are purged. -/
structure Stops (atMs : Nat) (app app' : LiveApp) : Prop where
  scheduler : app'.performer.scheduler = (app.performer.scheduler.stopAll atMs).1
  pendingAudio : app'.pendingAudio = purgePending app'.performer.scheduler app.pendingAudio
  pendingAvatar : app'.pendingAvatar = purgePending app'.performer.scheduler app.pendingAvatar

/-- The timeline and the queues stay. -/
structure Stays (app app' : LiveApp) : Prop where
  scheduler : app'.performer.scheduler = app.performer.scheduler
  pendingAudio : app'.pendingAudio = app.pendingAudio
  pendingAvatar : app'.pendingAvatar = app.pendingAvatar

/-- The step is the part of a tick that presents. -/
def Op.Presents : Op → Prop
  | .present _ => True
  | _ => False

/-- What a step can do to the timeline and to the queues. -/
inductive Effect (rounding : ℚ → ℚ) (app : LiveApp) (op : Op) : LiveApp → Report → Prop
  | performs {app' : LiveApp} {report : Report} {atMs : Nat} (hop : ¬ op.Presents)
      (hat : op.atMs? = some atMs)
      (h : Performs rounding atMs (app.withGenerative app'.generative) app' report.performance)
      (hexecuted : report.executed = ⟨[], []⟩) (hstopped : report.stopped = false) :
      Effect rounding app op app' report
  | presents (nowMs : Nat) (hop : op = .present nowMs) : Effect rounding app op
      (app.present nowMs).1 { Report.silent with executed := (app.present nowMs).2 }
  | stops {app' : LiveApp} {atMs : Nat} (hop : ¬ op.Presents) (hat : op.atMs? = some atMs)
      (h : Stops atMs app app') :
      Effect rounding app op app' { Report.silent with stopped := true }
  | stays {app' : LiveApp} (hop : ¬ op.Presents) (h : Stays app app') :
      Effect rounding app op app' .silent

section Steps

variable (rounding : ℚ → ℚ) (resolve : String → Except CachedPlaybackError VisemeTrack)
variable (app : LiveApp)

/-- What a control command does that is applied. -/
theorem applyControl_cases {command : AuthenticatedControlCommand} {atMs : Nat} {app' : LiveApp}
    {outcome : ControlOutcome} (h : app.applyControl command atMs = .ok (app', outcome)) :
    ((∃ cancelled, outcome = .stopped cancelled) ∧ Stops atMs app app') ∨
      ((∀ cancelled, outcome ≠ .stopped cancelled) ∧ Stays app app') := by
  rw [applyControl] at h
  split at h
  case h_1 => cases h
  case h_2 security scheduler outcome₀ hcontrol =>
    obtain ⟨performed, entry, rfl, hperformed⟩ := SecurityRuntime.handleControl_performed hcontrol
    cases hperformed with
    | stop =>
      cases h
      exact .inl ⟨⟨_, rfl⟩, rfl, rfl, rfl⟩
    | mute =>
      cases h
      exact .inr ⟨nofun, rfl, rfl, rfl⟩
    | other =>
      cases h
      exact .inr ⟨nofun, rfl, rfl, rfl⟩

/-- **The effect of a step.** -/
theorem perform_effect (op : Op) :
    Effect rounding app op (app.perform rounding resolve op).1
      (app.perform rounding resolve op).2 := by
  cases op with
  | event disk request =>
    have hperforms := app.handleEvent_performs rounding resolve disk request
    exact .performs id rfl hperforms.withGenerative_self rfl rfl
  | drain disk nowMs now =>
    have hperforms := app.drainRound_performs rounding resolve disk nowMs now
    exact .performs id rfl hperforms.withGenerative_self rfl rfl
  | present nowMs => exact .presents nowMs rfl
  | control command atMs =>
    rw [perform]
    split
    · exact .stays id ⟨rfl, rfl, rfl⟩
    case h_2 app' cancelled hstopped =>
      rcases app.applyControl_cases hstopped with ⟨-, h⟩ | ⟨hother, -⟩
      · exact .stops id rfl h
      · exact absurd rfl (hother cancelled)
    case h_3 app' outcome hother happlied =>
      rcases app.applyControl_cases happlied with ⟨⟨cancelled, rfl⟩, -⟩ | ⟨-, h⟩
      · exact absurd rfl (hother cancelled)
      · exact .stays id h
  | shutdown atMs => exact .stops id rfl ⟨rfl, rfl, rfl⟩
  | assets op => exact .stays id ⟨rfl, rfl, rfl⟩
  | take => exact .stays id ⟨rfl, rfl, rfl⟩
  | complete result outputDecision => exact .stays id ⟨rfl, rfl, rfl⟩

/-- What a step can do to the queue of a sink. -/
inductive QueueEffect {α : Type} [PlaybackCommand α] (app app' : LiveApp) (op : Op) (muted : Bool)
    (pending pending' executed queued : List α) : Prop
  | queues (h : pending' = pending ++ queued) (hexecuted : executed = [])
  | dispatches (nowMs : Nat) (hop : op = .present nowMs) (hqueued : queued = [])
      (h : (pending', executed) = dispatchPending app'.performer.scheduler
        app.maxDispatchLatenessMs nowMs muted pending)
  | purges (h : pending' = purgePending app'.performer.scheduler pending) (hexecuted : executed = [])
      (hqueued : queued = [])

theorem QueueEffect.subperm {α : Type} [PlaybackCommand α] {app app' : LiveApp} {op : Op}
    {muted : Bool} {pending pending' executed queued : List α}
    (h : QueueEffect app app' op muted pending pending' executed queued) :
    (executed ++ pending').Subperm (pending ++ queued) := by
  cases h with
  | queues h hexecuted => rw [hexecuted, h, List.nil_append]
  | dispatches nowMs hop hqueued h =>
    obtain ⟨rfl, rfl⟩ := Prod.mk.inj h
    rw [hqueued, List.append_nil]
    exact dispatchPending_subperm _ _ _ _ _
  | purges h hexecuted hqueued =>
    rw [hexecuted, hqueued, h, List.append_nil, List.nil_append]
    exact purgePending_subperm _ _

section Queues

variable {rounding} {app} {app' : LiveApp} {op : Op} {report : Report}

theorem Effect.audio (h : Effect rounding app op app' report) :
    QueueEffect app app' op app.security.muted app.pendingAudio app'.pendingAudio
      report.executed.audio (report.performance.elim [] (·.2.audio)) := by
  cases h with
  | performs hop hat h hexecuted hstopped => exact .queues h.pendingAudio (by rw [hexecuted])
  | presents nowMs hop => exact .dispatches nowMs hop rfl rfl
  | stops hop hat h => exact .purges h.pendingAudio rfl rfl
  | stays hop h => exact .queues (h.pendingAudio.trans (List.append_nil _).symm) rfl

theorem Effect.avatar (h : Effect rounding app op app' report) :
    QueueEffect app app' op false app.pendingAvatar app'.pendingAvatar
      report.executed.avatar (report.performance.elim [] (·.2.avatar)) := by
  cases h with
  | performs hop hat h hexecuted hstopped => exact .queues h.pendingAvatar (by rw [hexecuted])
  | presents nowMs hop => exact .dispatches nowMs hop rfl rfl
  | stops hop hat h => exact .purges h.pendingAvatar rfl rfl
  | stays hop h => exact .queues (h.pendingAvatar.trans (List.append_nil _).symm) rfl

end Queues

/-- A command that stops or mutes cancels the active generation. -/
theorem generative_applyControl {command : AuthenticatedControlCommand} {atMs : Nat}
    {app' : LiveApp} {outcome : ControlOutcome}
    (h : app.applyControl command atMs = .ok (app', outcome)) :
    app'.generative =
      if outcome = .authenticatedOther then app.generative else app.cancelActive.generative := by
  rw [applyControl] at h
  split at h
  case h_1 => cases h
  case h_2 security scheduler outcome₀ hcontrol =>
    cases outcome₀ with
    | stopped cancelled | muted | authenticatedOther =>
      cases h
      rfl

theorem generative_next_control (command : AuthenticatedControlCommand) (atMs : Nat) :
    ((machine rounding resolve).next app (.control command atMs)).generative =
      app.nextGenerative (.control command atMs) := by
  show (app.perform rounding resolve (.control command atMs)).1.generative = _
  rw [perform, nextGenerative, runtimeOps]
  cases hcontrol : app.applyControl command atMs with
  | error error =>
    show app.generative = app.generative.map (GenerativeRuntime.machine.run · [])
    simp
  | ok applied =>
    obtain ⟨app', outcome⟩ := applied
    have hgenerative := app.generative_applyControl hcontrol
    cases outcome with
    | stopped cancelled | muted => exact hgenerative
    | authenticatedOther =>
      refine hgenerative.trans ?_
      show app.generative = app.generative.map (GenerativeRuntime.machine.run · [])
      simp

/-- The generations after a step. -/
theorem generative_next (op : Op) :
    ((machine rounding resolve).next app op).generative = app.nextGenerative op := by
  cases op with
  | event disk request => exact (app.handleEvent_performs rounding resolve disk request).generative
  | drain disk nowMs now =>
    exact (app.drainRound_performs rounding resolve disk nowMs now).generative
  | present nowMs | assets op =>
    show app.generative = app.generative.map (GenerativeRuntime.machine.run · [])
    simp
  | control command atMs => exact app.generative_next_control rounding resolve command atMs
  | shutdown atMs => rfl
  | take => rfl
  | complete result outputDecision => rfl

/-- A monitor of the generative runtime, over the steps of the application. -/
def watchGenerative {γ : Type}
    (u : γ → Machine.Event GenerativeRuntime GenerativeRuntime.Op GenerativeRuntime.Outcome → γ)
    (g : γ) (e : Machine.Event LiveApp Op Report) : γ :=
  e.pre.generative.elim g fun runtime ↦
    GenerativeRuntime.machine.watch u runtime g (e.pre.runtimeOps e.input)

/-- What every operation of the generative runtime preserves, every step does. -/
theorem watchGenerative_next {γ : Type}
    {u : γ → Machine.Event GenerativeRuntime GenerativeRuntime.Op GenerativeRuntime.Outcome → γ}
    {P : GenerativeRuntime → γ → Prop}
    (hstep : ∀ runtime g op, P runtime g → P (GenerativeRuntime.machine.next runtime op)
      (u g (GenerativeRuntime.machine.event runtime op)))
    {g : γ} (h : ∀ runtime, app.generative = some runtime → P runtime g) (op : Op) :
    ∀ runtime, ((machine rounding resolve).next app op).generative = some runtime →
      P runtime (watchGenerative u g ((machine rounding resolve).event app op)) := by
  intro runtime' hruntime'
  rw [generative_next, nextGenerative, Option.map_eq_some_iff] at hruntime'
  obtain ⟨runtime, hruntime, rfl⟩ := hruntime'
  have hwatch : watchGenerative u g ((machine rounding resolve).event app op) =
      GenerativeRuntime.machine.watch u runtime g (app.runtimeOps op) := by
    show app.generative.elim g _ = _
    rw [hruntime]
    rfl
  rw [hwatch]
  exact GenerativeRuntime.machine.watch_invariant hstep (h runtime hruntime) _

end Steps

end LiveApp

end Aivtuber
