import Aivtuber.App.GenerativeRuntime

/-!
# The current generation

The generation that was submitted last stays `Registered` until it is drained or cancelled,
so that its completion is committed and a cancellation reaches it, with one exception.  When
an earlier generation of the same event is drained, the registry takes the event for
finished: the later generation is not current any more, and no cancellation finds it.
-/

open Saturating

namespace Aivtuber

namespace GenerativeRuntime

open GenerationCancellationRegistry (isCancelled_finish)

/-- The registration of the generation stands. -/
structure Registered (runtime : GenerativeRuntime) (work : GenerationWork) : Prop where
  activeGenerationId : runtime.activeGenerationId = some work.generationId
  active : ∃ active, runtime.cancellation.active = some active ∧ active.eventId = work.eventId ∧
    active.token = work.cancellation

/-- A generation that nothing has cancelled, in a runtime that is not shutting down. -/
structure Wanted (runtime : GenerativeRuntime) (work : GenerationWork) : Prop where
  notCancelled : runtime.cancellation.isCancelled work.cancellation = false
  notShuttingDown : runtime.shuttingDown = false

/-- Its completion would be current, and a cancellation of active generations reaches it. -/
structure Reached (runtime : GenerativeRuntime) (work : GenerationWork) : Prop where
  current : runtime.isCurrent work.generationId work.eventId = true
  cancellable :
    runtime.cancellation.cancelActive.1.isCancelled work.cancellation = true

section Registration

variable {runtime : GenerativeRuntime} {work : GenerationWork}

theorem isCurrent_iff {generationId : Nat} {eventId : String} :
    runtime.isCurrent generationId eventId = true ↔
      runtime.activeGenerationId = some generationId ∧
        ∃ active, runtime.cancellation.active = some active ∧ active.eventId = eventId := by
  rw [isCurrent, Bool.and_eq_true, decide_eq_true_eq, decide_eq_true_eq,
    GenerationCancellationRegistry.activeEventId, Option.map_eq_some_iff]

theorem registered_iff_reached (h : runtime.cancellation.isCancelled work.cancellation = false) :
    runtime.Registered work ↔ runtime.Reached work := by
  constructor
  · rintro ⟨hid, active, hactive, hevent, htoken⟩
    refine ⟨isCurrent_iff.mpr ⟨hid, active, hactive, hevent⟩, ?_⟩
    rw [GenerationCancellationRegistry.isCancelled_cancelActive, hactive]
    simp [htoken]
  · rintro ⟨hcurrent, hcancellable⟩
    obtain ⟨hid, active, hactive, hevent⟩ := isCurrent_iff.mp hcurrent
    rw [GenerationCancellationRegistry.isCancelled_cancelActive, h, Bool.or_false, hactive]
      at hcancellable
    exact ⟨hid, active, hactive, hevent, by simpa using hcancellable⟩

/-- A drained generation takes the registration with it when it has the event, or the
number, of the registered one. -/
theorem Registered.finish_iff (h : runtime.Registered work) (generationId : Nat)
    (eventId : String) : (runtime.finish generationId eventId).Registered work ↔
      eventId ≠ work.eventId ∧ generationId ≠ work.generationId := by
  obtain ⟨hid, active, hactive, hevent, htoken⟩ := h
  constructor
  · rintro ⟨hid', active', hactive', hevent', htoken'⟩
    constructor
    · rintro rfl
      simp [finish, GenerationCancellationRegistry.finish, hactive, hevent] at hactive'
    · rintro rfl
      simp [finish, hid] at hid'
  · rintro ⟨hother, hnumber⟩
    have hkept : (runtime.cancellation.finish eventId).active = some active := by
      rw [GenerationCancellationRegistry.finish, if_neg]
      · exact hactive
      · simp [hactive, hevent, Ne.symm hother]
    refine ⟨?_, active, hkept, hevent, htoken⟩
    rw [finish, hid, if_neg]
    intro heq
    exact hnumber (Option.some.inj heq).symm

theorem Registered.taken (h : runtime.Registered work) {mailbox : List GenerationCompletion} :
    Registered { runtime with mailbox } work := ⟨h.activeGenerationId, h.active⟩

end Registration

/-! ## The monitor -/

abbrev RuntimeEvent := Machine.Event GenerativeRuntime Op Outcome

/-- The generation that was submitted last, until its completion is drained. -/
def trackLatest (latest : Option GenerationWork) (e : RuntimeEvent) : Option GenerationWork :=
  match e.input, e.output with
  | .submit request fallback providerDeadline, .submitted (.ok _) =>
    some (e.pre.newWork request fallback providerDeadline)
  | .drain _, .drained (some (completion, _)) =>
    if latest.any (·.cancellation = completion.cancellation) then none else latest
  | _, _ => latest

/-- The completion that a step drains, and the instant at which it does. -/
def drained? (e : RuntimeEvent) : Option (GenerationCompletion × Nat) :=
  match e.input with
  | .drain now => e.pre.mailbox.head?.map fun completion ↦ (completion, now)
  | _ => none

/-- The generation submitted last is committed when it is drained, unless it is cancelled,
too late, or the runtime is shutting down, and it is reached until then. -/
structure Retained (latest : Option GenerationWork) (e : RuntimeEvent) : Prop where
  committed : ∀ work completion now, latest = some work → drained? e = some (completion, now) →
    completion.cancellation = work.cancellation → e.pre.Wanted work →
    now < work.providerDeadline → e.output = .drained (some (completion, true))
  reached : ∀ work, trackLatest latest e = some work → e.post.Wanted work → e.post.Reached work
  /-- Nothing has cancelled a generation when its submission returns. -/
  wanted : ∀ generationId, e.output = .submitted (.ok generationId) →
    ∃ work, trackLatest latest e = some work ∧ e.post.Wanted work

/-- No earlier generation is drained that has the event of the one submitted last, or its
number, which only the last ones of `2 ^ 64` share. -/
def Unshadowed (latest : Option GenerationWork) (e : RuntimeEvent) : Prop :=
  ∀ work completion now, latest = some work → drained? e = some (completion, now) →
    completion.cancellation ≠ work.cancellation → e.pre.Wanted work →
    completion.eventId ≠ work.eventId ∧ completion.generationId ≠ work.generationId

/-- The tokens in use were created, and the pipeline has the work submitted last once. -/
structure Numbered (runtime : GenerativeRuntime) (latest : Option GenerationWork) : Prop where
  pipeline : ∀ work ∈ runtime.pipeline, work.cancellation < runtime.tokens
  active : ∀ active, runtime.cancellation.active = some active → active.token < runtime.tokens
  cancelled : ∀ token, runtime.cancellation.isCancelled token = true → token < runtime.tokens
  latest : ∀ work, latest = some work → work.cancellation < runtime.tokens ∧
    ∀ other ∈ runtime.pipeline, other.cancellation = work.cancellation → other = work

/-- What holds in every state that is reached while the generation submitted last is. -/
structure Tracked (runtime : GenerativeRuntime) (latest : Option GenerationWork) : Prop where
  numbered : runtime.Numbered latest
  registered : ∀ work, latest = some work → runtime.Wanted work → runtime.Registered work

theorem new_tracked (queueCapacity : Nat) : (new queueCapacity).Tracked none where
  numbered :=
    { pipeline := fun _ hwork ↦ absurd hwork List.not_mem_nil
      active := fun _ ↦ nofun
      cancelled := fun _ ↦ nofun
      latest := fun _ ↦ nofun }
  registered _ := nofun

/-! ## Steps -/

/-- What a step without a submission, a round of draining or a shutdown does. -/
structure Continued (runtime runtime' : GenerativeRuntime) : Prop where
  pipeline : runtime'.pipeline ⊆ runtime.pipeline
  tokens : runtime.tokens ≤ runtime'.tokens
  active : runtime'.cancellation.active = runtime.cancellation.active
  activeGenerationId : runtime'.activeGenerationId = runtime.activeGenerationId
  shuttingDown : runtime'.shuttingDown = runtime.shuttingDown
  cancelled : ∀ token, runtime.cancellation.isCancelled token = true →
    runtime'.cancellation.isCancelled token = true
  /-- What is cancelled was registered, or belongs to a submission that was refused. -/
  cancelled_cases : ∀ token, runtime'.cancellation.isCancelled token = true →
    runtime.cancellation.isCancelled token = true ∨
      runtime.cancellation.active.any (·.token = token) = true ∨ token < runtime'.tokens

section Steps

variable {runtime runtime' : GenerativeRuntime} {latest : Option GenerationWork}
  {work : GenerationWork}

theorem Continued.refl (runtime : GenerativeRuntime) : runtime.Continued runtime :=
  ⟨List.Subset.refl _, Nat.le_refl _, rfl, rfl, rfl, fun _ h ↦ h, fun _ h ↦ .inl h⟩

theorem Continued.wanted (h : runtime.Continued runtime') (hwanted : runtime'.Wanted work) :
    runtime.Wanted work where
  notCancelled := by
    rw [Bool.eq_false_iff]
    intro hcancelled
    exact Bool.eq_false_iff.mp hwanted.notCancelled (h.cancelled _ hcancelled)
  notShuttingDown := h.shuttingDown ▸ hwanted.notShuttingDown

theorem Continued.registered (h : runtime.Continued runtime') (hwork : runtime.Registered work) :
    runtime'.Registered work where
  activeGenerationId := h.activeGenerationId.trans hwork.activeGenerationId
  active := h.active ▸ hwork.active

theorem Numbered.of_le (h : runtime.Numbered latest)
    (hpipeline : runtime'.pipeline ⊆ runtime.pipeline) (htokens : runtime.tokens ≤ runtime'.tokens)
    (hactive : ∀ active, runtime'.cancellation.active = some active →
      runtime.cancellation.active = some active)
    (hcancelled : ∀ token, runtime'.cancellation.isCancelled token = true →
      runtime.cancellation.isCancelled token = true ∨
        runtime.cancellation.active.any (·.token = token) = true ∨ token < runtime'.tokens) :
    runtime'.Numbered latest where
  pipeline work hwork := Nat.lt_of_lt_of_le (h.pipeline work (hpipeline hwork)) htokens
  active active hsome := Nat.lt_of_lt_of_le (h.active active (hactive active hsome)) htokens
  cancelled token hset := by
    rcases hcancelled token hset with hbefore | hany | hnew
    · exact Nat.lt_of_lt_of_le (h.cancelled token hbefore) htokens
    · obtain ⟨active, hsome, htoken⟩ := (Option.any_eq_true _ _).mp hany
      exact of_decide_eq_true htoken ▸ Nat.lt_of_lt_of_le (h.active active hsome) htokens
    · exact hnew
  latest work hlatest := by
    obtain ⟨hfresh, hunique⟩ := h.latest work hlatest
    exact ⟨Nat.lt_of_lt_of_le hfresh htokens, fun other hother ↦ hunique other (hpipeline hother)⟩

theorem Continued.numbered (h : runtime.Continued runtime') (hnumbered : runtime.Numbered latest) :
    runtime'.Numbered latest :=
  hnumbered.of_le h.pipeline h.tokens (fun _ hactive ↦ h.active ▸ hactive) h.cancelled_cases

theorem take_continued (runtime : GenerativeRuntime) : runtime.Continued runtime.take := by
  have hpipeline : runtime.take.pipeline ⊆ runtime.pipeline := pipeline_take
  rw [take] at hpipeline ⊢
  split at hpipeline
  all_goals exact ⟨hpipeline, Nat.le_refl _, rfl, rfl, rfl, fun _ h ↦ h, fun _ h ↦ .inl h⟩

theorem complete_continued (runtime : GenerativeRuntime) (result : Except String GenerationResult)
    (outputDecision : Option PublicOutput) :
    runtime.Continued (runtime.complete result outputDecision) := by
  have hpipeline : (runtime.complete result outputDecision).pipeline ⊆ runtime.pipeline :=
    pipeline_complete result outputDecision
  rw [complete] at hpipeline ⊢
  split at hpipeline
  · exact ⟨hpipeline, Nat.le_refl _, rfl, rfl, rfl, fun _ h ↦ h, fun _ h ↦ .inl h⟩
  · split at hpipeline
    all_goals
      rename_i hroom
      simp only [hroom, if_true, if_false]
      exact ⟨hpipeline, Nat.le_refl _, rfl, rfl, rfl, fun _ h ↦ h, fun _ h ↦ .inl h⟩

open GenerationCancellationRegistry in
theorem cancelForEvent_continued (runtime : GenerativeRuntime) (event : EventEnvelope) :
    runtime.Continued
      { runtime with cancellation := runtime.cancellation.cancelForEvent event } where
  pipeline := List.Subset.refl _
  tokens := Nat.le_refl _
  active := active_cancelForEvent event
  activeGenerationId := rfl
  shuttingDown := rfl
  cancelled _ h := isCancelled_of_cancelForEvent event h
  cancelled_cases _ h := (isCancelled_cancelForEvent event h).symm.imp_right .inl

open GenerationCancellationRegistry in
theorem cancelActive_continued (runtime : GenerativeRuntime) :
    runtime.Continued
      { runtime with cancellation := runtime.cancellation.cancelActive.1 } where
  pipeline := List.Subset.refl _
  tokens := Nat.le_refl _
  active := active_cancelActive
  activeGenerationId := rfl
  shuttingDown := rfl
  cancelled _ h := by
    rw [isCancelled_cancelActive, h, Bool.or_true]
  cancelled_cases _ h := by
    rw [isCancelled_cancelActive, Bool.or_eq_true] at h
    exact h.symm.imp_right .inl

/-- What a submission leaves that is queued. -/
def accept (runtime : GenerativeRuntime) (work : GenerationWork) : GenerativeRuntime :=
  { runtime with
    queue := runtime.queue ++ [work]
    tokens := runtime.tokens + 1
    nextGenerationId := work.generationId
    cancellation := runtime.cancellation.activate work.request.sourceEvent work.cancellation
    activeGenerationId := some work.generationId }

/-- What a submission leaves that is refused. -/
def refuse (runtime : GenerativeRuntime) (work : GenerationWork) : GenerativeRuntime :=
  { runtime with
    tokens := runtime.tokens + 1
    nextGenerationId := work.generationId
    cancellation := runtime.cancellation.cancel work.cancellation }

theorem submit_cases (runtime : GenerativeRuntime) (request : GenerationRequest)
    (fallback : FallbackDirective) (providerDeadline : Nat) :
    let work := runtime.newWork request fallback providerDeadline
    (runtime.submit request fallback providerDeadline =
        (runtime.accept work, .ok work.generationId) ∧ runtime.shuttingDown = false) ∨
      ∃ error, runtime.submit request fallback providerDeadline =
        (runtime.refuse work, .error error) := by
  dsimp only
  rw [submit, trySubmit]
  dsimp only
  split_ifs with hshuttingDown hroom
  · exact .inr ⟨.shuttingDown, rfl⟩
  · exact .inl ⟨rfl, Bool.eq_false_iff.mpr hshuttingDown⟩
  · exact .inr ⟨.saturated, rfl⟩

theorem event_submit {request : GenerationRequest} {fallback : FallbackDirective}
    {providerDeadline : Nat} {result : Except GenerationSubmitError Nat}
    (h : runtime.submit request fallback providerDeadline = (runtime', result)) :
    machine.event runtime (.submit request fallback providerDeadline) =
      ⟨runtime, .submit request fallback providerDeadline, runtime', .submitted result⟩ := by
  show (⟨_, _, (runtime.submit request fallback providerDeadline).1,
    .submitted (runtime.submit request fallback providerDeadline).2⟩ : RuntimeEvent) = _
  rw [h]

theorem refuse_continued (runtime : GenerativeRuntime) (request : GenerationRequest)
    (fallback : FallbackDirective) (providerDeadline : Nat) :
    runtime.Continued (runtime.refuse (runtime.newWork request fallback providerDeadline)) where
  pipeline := List.Subset.refl _
  tokens := Nat.le_succ _
  active := rfl
  activeGenerationId := rfl
  shuttingDown := rfl
  cancelled _ h := by
    rw [refuse, GenerationCancellationRegistry.isCancelled_cancel, h, Bool.or_true]
  cancelled_cases _ h := by
    rw [refuse, GenerationCancellationRegistry.isCancelled_cancel, Bool.or_eq_true,
      decide_eq_true_eq] at h
    rcases h with rfl | h
    · exact .inr (.inr (Nat.lt_succ_self _))
    · exact .inl h

theorem mem_pipeline_accept {other : GenerationWork} :
    other ∈ (runtime.accept work).pipeline ↔ other ∈ runtime.pipeline ∨ other = work := by
  rw [mem_pipeline, mem_pipeline, accept, List.mem_append, List.mem_singleton, or_assoc, or_assoc]

theorem accept_registered (runtime : GenerativeRuntime) (work : GenerationWork) :
    (runtime.accept work).Registered work :=
  ⟨rfl, ⟨work.eventId, priorityForEvent work.request.sourceEvent.kind, work.cancellation⟩, rfl, rfl,
    rfl⟩

/-- A new token is not the one of the generation that is replaced. -/
theorem Numbered.accept_notCancelled (h : runtime.Numbered latest) {work : GenerationWork}
    (htoken : work.cancellation = runtime.tokens) :
    (runtime.accept work).cancellation.isCancelled work.cancellation = false := by
  rw [accept, GenerationCancellationRegistry.isCancelled_activate, Bool.or_eq_false_iff]
  constructor
  · rw [Bool.eq_false_iff]
    intro hany
    obtain ⟨active, hactive, heq⟩ := (Option.any_eq_true _ _).mp hany
    have hlt := h.active active hactive
    rw [of_decide_eq_true heq, htoken] at hlt
    exact Nat.lt_irrefl _ hlt
  · rw [Bool.eq_false_iff]
    intro hcancelled
    have hlt := h.cancelled _ hcancelled
    rw [htoken] at hlt
    exact Nat.lt_irrefl _ hlt

theorem Numbered.accept (h : runtime.Numbered latest) {work : GenerationWork}
    (htoken : work.cancellation = runtime.tokens) :
    (runtime.accept work).Numbered (some work) where
  pipeline other hother := by
    rcases mem_pipeline_accept.mp hother with hbefore | rfl
    · exact Nat.lt_succ_of_lt (h.pipeline other hbefore)
    · exact htoken ▸ Nat.lt_succ_self _
  active active hactive := by
    cases hactive
    exact htoken ▸ Nat.lt_succ_self _
  cancelled token hcancelled := by
    rw [GenerativeRuntime.accept, GenerationCancellationRegistry.isCancelled_activate,
      Bool.or_eq_true] at hcancelled
    rcases hcancelled with hany | hbefore
    · obtain ⟨active, hactive, heq⟩ := (Option.any_eq_true _ _).mp hany
      exact of_decide_eq_true heq ▸ Nat.lt_succ_of_lt (h.active active hactive)
    · exact Nat.lt_succ_of_lt (h.cancelled token hbefore)
  latest latest hlatest := by
    cases hlatest
    refine ⟨htoken ▸ Nat.lt_succ_self _, fun other hother hsame ↦ ?_⟩
    rcases mem_pipeline_accept.mp hother with hbefore | rfl
    · have hlt := h.pipeline other hbefore
      rw [hsame, htoken] at hlt
      exact absurd hlt (Nat.lt_irrefl _)
    · rfl

/-- A step that continues, and submits and drains nothing, retains the latest. -/
theorem Tracked.retained (h : runtime.Tracked latest) {e : RuntimeEvent}
    (hcontinued : runtime.Continued e.post) (htrack : trackLatest latest e = latest)
    (hdrained : drained? e = none) (houtput : ∀ id, e.output ≠ .submitted (.ok id)) :
    Retained latest e where
  committed _ _ _ _ hsome := by rw [hdrained] at hsome; cases hsome
  reached work hlatest hwanted := by
    rw [htrack] at hlatest
    have hregistered := h.registered work hlatest (hcontinued.wanted hwanted)
    exact (registered_iff_reached hwanted.notCancelled).mp (hcontinued.registered hregistered)
  wanted id hid := absurd hid (houtput id)

/-- A submission that is accepted is registered, and nothing has cancelled it. -/
theorem Numbered.retained_submit (h : runtime.Numbered latest)
    (hopen : runtime.shuttingDown = false) {request : GenerationRequest}
    {fallback : FallbackDirective} {providerDeadline generationId : Nat} :
    Retained latest ⟨runtime, .submit request fallback providerDeadline,
      runtime.accept (runtime.newWork request fallback providerDeadline),
      .submitted (.ok generationId)⟩ where
  committed _ _ _ _ := nofun
  reached work hlatest hwanted := by
    cases hlatest
    exact (registered_iff_reached hwanted.notCancelled).mp (runtime.accept_registered _)
  wanted _ _ := ⟨_, rfl, h.accept_notCancelled rfl, hopen⟩

theorem unshadowed_of_none {e : RuntimeEvent} (hdrained : drained? e = none) :
    Unshadowed latest e := by
  intro work completion now _ hsome
  rw [hdrained] at hsome
  cases hsome

theorem event_drain_nil (h : runtime.mailbox = []) (now : Nat) :
    machine.event runtime (.drain now) = ⟨runtime, .drain now, runtime, .drained none⟩ := by
  show (⟨_, _, (runtime.drainOne now).1, .drained (runtime.drainOne now).2⟩ : RuntimeEvent) = _
  rw [drainOne, h]

theorem event_drain {completion : GenerationCompletion} {mailbox : List GenerationCompletion}
    (h : runtime.mailbox = completion :: mailbox) (now : Nat) :
    machine.event runtime (.drain now) =
      ⟨runtime, .drain now,
        { runtime with mailbox }.finish completion.generationId completion.eventId,
        .drained (some (completion, !runtime.staleOrCancelled completion now))⟩ := by
  show (⟨_, _, (runtime.drainOne now).1, .drained (runtime.drainOne now).2⟩ : RuntimeEvent) = _
  rw [drainOne, h]
  rfl

theorem finish_wanted_iff {mailbox : List GenerationCompletion} {generationId : Nat}
    {eventId : String} :
    ({ runtime with mailbox }.finish generationId eventId).Wanted work ↔ runtime.Wanted work := by
  constructor
  · rintro ⟨hnot, hopen⟩
    exact ⟨by rwa [finish, isCancelled_finish] at hnot, hopen⟩
  · rintro ⟨hnot, hopen⟩
    exact ⟨by rwa [finish, isCancelled_finish], hopen⟩

/-- The completion of the latest generation is not stale. -/
theorem Tracked.not_stale (h : runtime.Tracked (some work)) {completion : GenerationCompletion}
    (hmem : completion ∈ runtime.mailbox) (hsame : completion.cancellation = work.cancellation)
    (hwanted : runtime.Wanted work) {now : Nat} (hnow : now < work.providerDeadline) :
    runtime.staleOrCancelled completion now = false := by
  have hpipeline : completion.toGenerationWork ∈ runtime.pipeline :=
    mem_pipeline.mpr (.inl ⟨completion, hmem, rfl⟩)
  obtain rfl := (h.numbered.latest work rfl).2 _ hpipeline hsame
  have hregistered := h.registered _ rfl hwanted
  have hcurrent := ((registered_iff_reached hwanted.notCancelled).mp hregistered).current
  rw [staleOrCancelled, hwanted.notShuttingDown, hcurrent, hwanted.notCancelled,
    decide_eq_false (Nat.not_le_of_lt hnow)]
  rfl

theorem trackLatest_drain {completion : GenerationCompletion} {now : Nat} {committed : Bool} :
    trackLatest latest ⟨runtime, .drain now, runtime', .drained (some (completion, committed))⟩ =
        some work ↔
      latest = some work ∧ completion.cancellation ≠ work.cancellation := by
  rw [trackLatest]
  cases latest with
  | none => simp
  | some latest =>
    by_cases hsame : latest.cancellation = completion.cancellation
    · simp only [Option.any_some, hsame, decide_true, if_true]
      constructor
      · nofun
      · rintro ⟨heq, hne⟩
        cases heq
        exact absurd hsame.symm hne
    · simp only [Option.any_some, hsame, decide_false]
      constructor
      · intro heq
        cases heq
        exact ⟨rfl, Ne.symm hsame⟩
      · exact And.left

/-- A round of draining keeps the latest generation exactly when it takes no registration
with it. -/
theorem Tracked.retained_drain_iff (h : runtime.Tracked latest)
    {completion : GenerationCompletion} {mailbox : List GenerationCompletion}
    (hmailbox : runtime.mailbox = completion :: mailbox) (now : Nat) :
    Retained latest (machine.event runtime (.drain now)) ↔
      Unshadowed latest (machine.event runtime (.drain now)) := by
  rw [event_drain hmailbox]
  have hdrained : ∀ {post output}, drained? ⟨runtime, .drain now, post, output⟩ =
      some (completion, now) := by
    intro post output
    rw [drained?, hmailbox]
    rfl
  constructor
  · intro hretained work drained now' hlatest hsome hne hwanted
    cases hdrained.symm.trans hsome
    have hreached := hretained.reached work (trackLatest_drain.mpr ⟨hlatest, hne⟩)
      (finish_wanted_iff.mpr hwanted)
    have hregistered := (registered_iff_reached ?_).mpr hreached
    · exact (h.registered work hlatest hwanted).taken.finish_iff _ _ |>.mp hregistered
    · exact (finish_wanted_iff.mpr hwanted).notCancelled
  · intro hunshadowed
    refine ⟨fun work drained now' hlatest hsome hsame hwanted hnow ↦ ?_, fun work htrack hwanted ↦ ?_,
      fun _ ↦ nofun⟩
    · cases hdrained.symm.trans hsome
      subst hlatest
      have hmem : completion ∈ runtime.mailbox := hmailbox ▸ List.mem_cons_self
      rw [h.not_stale hmem hsame hwanted hnow]
      rfl
    · obtain ⟨hlatest, hne⟩ := trackLatest_drain.mp htrack
      have hwanted' := finish_wanted_iff.mp hwanted
      have hother := hunshadowed work completion now hlatest hdrained hne hwanted'
      refine (registered_iff_reached hwanted.notCancelled).mp ?_
      exact (h.registered work hlatest hwanted').taken.finish_iff _ _ |>.mpr hother

theorem Tracked.retained_iff (h : runtime.Tracked latest) (op : Op) :
    Retained latest (machine.event runtime op) ↔ Unshadowed latest (machine.event runtime op) := by
  cases op with
  | drain now =>
    cases hmailbox : runtime.mailbox with
    | nil =>
      have hdrained : ∀ {post output}, drained? ⟨runtime, .drain now, post, output⟩ = none := by
        intro post output
        rw [drained?, hmailbox]
        rfl
      rw [event_drain_nil hmailbox]
      exact iff_of_true (h.retained (.refl runtime) rfl hdrained fun _ ↦ nofun)
        (unshadowed_of_none hdrained)
    | cons completion mailbox => exact h.retained_drain_iff hmailbox now
  | submit request fallback providerDeadline =>
    refine iff_of_true ?_ (unshadowed_of_none rfl)
    rcases runtime.submit_cases request fallback providerDeadline with
      ⟨hok, hopen⟩ | ⟨error, herror⟩
    · rw [event_submit hok]
      exact h.numbered.retained_submit hopen
    · rw [event_submit herror]
      exact h.retained (runtime.refuse_continued request fallback providerDeadline) rfl
        rfl fun _ ↦ nofun
  | cancelForEvent event =>
    refine iff_of_true ?_ (unshadowed_of_none rfl)
    exact h.retained (runtime.cancelForEvent_continued event) rfl rfl fun _ ↦ nofun
  | cancelActive =>
    refine iff_of_true ?_ (unshadowed_of_none rfl)
    exact h.retained runtime.cancelActive_continued rfl rfl fun _ ↦ nofun
  | take =>
    refine iff_of_true ?_ (unshadowed_of_none rfl)
    exact h.retained runtime.take_continued rfl rfl fun _ ↦ nofun
  | complete result outputDecision =>
    refine iff_of_true ?_ (unshadowed_of_none rfl)
    exact h.retained (runtime.complete_continued result outputDecision) rfl rfl
      fun _ ↦ nofun
  | shutdown =>
    refine iff_of_true ?_ (unshadowed_of_none rfl)
    refine ⟨fun _ _ _ _ ↦ nofun, fun work _ hwanted ↦ ?_, fun _ ↦ nofun⟩
    cases hwanted.notShuttingDown

theorem active_finish {registry : GenerationCancellationRegistry} {eventId : String}
    {active : ActiveGeneration} (h : (registry.finish eventId).active = some active) :
    registry.active = some active := by
  rw [GenerationCancellationRegistry.finish] at h
  split at h
  · cases h
  · exact h

/-- The tokens are in order after every step. -/
theorem Numbered.next (h : runtime.Numbered latest) (op : Op) :
    (machine.next runtime op).Numbered (trackLatest latest (machine.event runtime op)) := by
  cases op with
  | submit request fallback providerDeadline =>
    show (machine.event runtime (.submit request fallback providerDeadline)).post.Numbered _
    rcases runtime.submit_cases request fallback providerDeadline with
      ⟨hok, -⟩ | ⟨error, herror⟩
    · rw [event_submit hok]
      exact h.accept rfl
    · rw [event_submit herror]
      exact (runtime.refuse_continued request fallback providerDeadline).numbered h
  | cancelForEvent event => exact (runtime.cancelForEvent_continued event).numbered h
  | cancelActive => exact runtime.cancelActive_continued.numbered h
  | take => exact runtime.take_continued.numbered h
  | complete result outputDecision =>
    exact (runtime.complete_continued result outputDecision).numbered h
  | drain now =>
    show (machine.event runtime (.drain now)).post.Numbered _
    cases hmailbox : runtime.mailbox with
    | nil =>
      rw [event_drain_nil hmailbox]
      exact h
    | cons completion mailbox =>
      have hpipeline : ({ runtime with mailbox }.finish completion.generationId
          completion.eventId).pipeline ⊆ runtime.pipeline := by
        have hsubset : (runtime.drainOne now).1.pipeline ⊆ runtime.pipeline :=
          pipeline_drainOne now
        rwa [drainOne, hmailbox] at hsubset
      rw [event_drain hmailbox]
      have hnumbered := h.of_le hpipeline (Nat.le_refl _) (fun _ ↦ active_finish)
        fun _ hset ↦ .inl (by rwa [finish, isCancelled_finish] at hset)
      exact ⟨hnumbered.pipeline, hnumbered.active, hnumbered.cancelled,
        fun work hlatest ↦ hnumbered.latest work (trackLatest_drain.mp hlatest).1⟩
  | shutdown =>
    have hcontinued := runtime.cancelActive_continued
    exact h.of_le (List.Subset.refl _) (Nat.le_refl _)
      (fun _ hactive ↦ hcontinued.active ▸ hactive) hcontinued.cancelled_cases

/-- The invariant of the runs in which the latest generation is retained. -/
theorem Tracked.next (h : runtime.Tracked latest) (op : Op)
    (hretained : Retained latest (machine.event runtime op)) :
    (machine.next runtime op).Tracked (trackLatest latest (machine.event runtime op)) where
  numbered := h.numbered.next op
  registered work hlatest hwanted :=
    (registered_iff_reached hwanted.notCancelled).mpr (hretained.reached work hlatest hwanted)

end Steps

/-! ## Runs -/

/-- **No current generation is lost** exactly in the runs in which no earlier generation is
drained that has the event of the one submitted last. -/
theorem retained_iff_unshadowed (queueCapacity : Nat) (ops : List Op) :
    machine.Meets trackLatest Retained (new queueCapacity) none ops ↔
      machine.Meets trackLatest Unshadowed (new queueCapacity) none ops :=
  machine.meets_congr_of_watch (fun _ _ op h hretained ↦ h.next op hretained)
    (fun _ _ op h ↦ h.retained_iff op) (new_tracked queueCapacity) ops

/-- A message of a viewer. -/
def viewerMessage : EventEnvelope where
  schemaVersion := eventSchemaVersion
  eventId := "chat-1"
  correlationId := "chat-1"
  sequence := 1
  observedAt := "2024-01-01T00:00:00Z"
  source := "chat"
  sourceClass := .publicChat
  plane := .content
  trustLevel := .untrusted
  kind := .chatMessage
  actorId := none
  priorityHint := none
  authorization := none
  payload := ∅

/-- Two generations of one event, which the provider answers one after the other. -/
def resubmission : List Op :=
  let submit : Op := .submit ⟨viewerMessage, 0⟩ (.nonVerbalReaction "idle") 100
  let answer : Op := .complete (.error "unavailable") none
  [submit, .take, submit, answer, .drain 1, .take, answer, .drain 2]

/-- The outcome discards no completion. -/
def Outcome.commits : Outcome → Bool
  | .drained (some (_, committed)) => committed
  | _ => true

/-- Of two generations of one event, the second is discarded. -/
theorem resubmission_lost : ¬ machine.Meets trackLatest Retained (new 1) none resubmission := by
  intro h
  have hcommitted := h.2.2.2.2.2.2.2.1.committed _ _ _ rfl rfl rfl ⟨rfl, rfl⟩ (by decide)
  have hverdict := congrArg Outcome.commits hcommitted
  revert hverdict
  decide

end GenerativeRuntime

end Aivtuber
