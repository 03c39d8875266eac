import Aivtuber.App.GenerationCurrency

/-!
# The fence of cancelled generations

A generation stands from its submission until another is submitted, an event of higher
priority comes, an operator stops or mutes, or the runtime shuts down.  Whatever else is in
the pipeline is `Barred`: its completion is discarded when it is drained, in whatever order
the worker publishes it.

A generation may be barred by its number alone, so that this lasts as long as the
numbers do.
-/

open Saturating

namespace Aivtuber

namespace GenerativeRuntime

open GenerationCancellationRegistry (isCancelled_finish)

/-- The event cancels a generation of the work. -/
def outranks (event : EventEnvelope) (work : GenerationWork) : Bool :=
  (priorityForEvent event.kind).rank < (priorityForEvent work.request.sourceEvent.kind).rank

/-- The generation that was submitted last, until something cancels it. -/
def trackStanding (standing : Option GenerationWork) (e : RuntimeEvent) : Option GenerationWork :=
  match e.input, e.output with
  | .submit request fallback providerDeadline, .submitted (.ok _) =>
    some (e.pre.newWork request fallback providerDeadline)
  | .cancelForEvent event, _ => standing.filter fun work ↦ !outranks event work
  | .cancelActive, _ | .shutdown, _ => none
  | _, _ => standing

/-- The completion of the work would be discarded, and will be. -/
def Barred (runtime : GenerativeRuntime) (work : GenerationWork) : Prop :=
  runtime.cancellation.isCancelled work.cancellation = true ∨
    runtime.activeGenerationId ≠ some work.generationId ∨ runtime.cancellation.active = none

/-- What holds in every state while the generation stands. -/
structure Fenced (runtime : GenerativeRuntime) (standing : Option GenerationWork) : Prop where
  counted : runtime.nextGenerationId = min runtime.tokens u64Max
  numbered : ∀ work ∈ runtime.pipeline, work.generationId ≤ runtime.nextGenerationId
  /-- What is registered is the generation that stands, if one does. -/
  registered : ∀ work active, standing = some work → runtime.cancellation.active = some active →
    active.token = work.cancellation ∧
      active.priority = priorityForEvent work.request.sourceEvent.kind
  barred : runtime.tokens ≤ u64Max → ∀ work ∈ runtime.pipeline,
    standing = some work ∨ runtime.Barred work

theorem new_fenced (queueCapacity : Nat) : (new queueCapacity).Fenced none where
  counted := rfl
  numbered _ hwork := absurd hwork List.not_mem_nil
  registered _ _ := nofun
  barred _ _ hwork := absurd hwork List.not_mem_nil

section Steps

variable {runtime runtime' : GenerativeRuntime} {standing : Option GenerationWork}
  {work : GenerationWork}

/-- What is drained of a barred generation is discarded. -/
theorem Barred.stale {completion : GenerationCompletion}
    (h : runtime.Barred completion.toGenerationWork) (now : Nat) :
    runtime.staleOrCancelled completion now = true := by
  have hcurrent : runtime.cancellation.isCancelled completion.cancellation = true ∨
      runtime.isCurrent completion.generationId completion.eventId = false := by
    refine h.imp_right fun h ↦ Bool.eq_false_iff.mpr fun hcurrent ↦ ?_
    obtain ⟨hid, active, hactive, -⟩ := isCurrent_iff.mp hcurrent
    rcases h with hother | hnone
    · exact hother hid
    · rw [hnone] at hactive
      cases hactive
  rw [staleOrCancelled]
  rcases hcurrent with hcancelled | hcurrent
  · rw [hcancelled, Bool.or_true, Bool.true_or]
  · rw [hcurrent, Bool.not_false, Bool.or_true, Bool.true_or, Bool.true_or]

theorem Continued.barred (h : runtime.Continued runtime') (hwork : runtime.Barred work) :
    runtime'.Barred work := by
  rcases hwork with hcancelled | hother | hnone
  · exact .inl (h.cancelled _ hcancelled)
  · exact .inr (.inl (h.activeGenerationId ▸ hother))
  · exact .inr (.inr (h.active ▸ hnone))

/-- A step that gives out no number. -/
structure Unnumbered (runtime runtime' : GenerativeRuntime) : Prop where
  tokens : runtime'.tokens = runtime.tokens
  nextGenerationId : runtime'.nextGenerationId = runtime.nextGenerationId

theorem Fenced.continued (h : runtime.Fenced standing) (hcontinued : runtime.Continued runtime')
    (hnumbers : runtime.Unnumbered runtime') : runtime'.Fenced standing where
  counted := by rw [hnumbers.nextGenerationId, hnumbers.tokens, h.counted]
  numbered work hwork := hnumbers.nextGenerationId ▸ h.numbered work (hcontinued.pipeline hwork)
  registered work active hstanding hactive :=
    h.registered work active hstanding (hcontinued.active ▸ hactive)
  barred htokens work hwork :=
    (h.barred (hnumbers.tokens ▸ htokens) work (hcontinued.pipeline hwork)).imp_right
      hcontinued.barred

/-- A generation that stands no more is barred by what has cancelled it. -/
theorem Fenced.cancel (h : runtime.Fenced standing) {standing' : Option GenerationWork}
    (hcontinued : runtime.Continued runtime') (hnumbers : runtime.Unnumbered runtime')
    (hkept : ∀ work, standing' = some work → standing = some work)
    (hcancelled : ∀ work active, standing = some work → standing' ≠ some work →
      runtime.cancellation.active = some active → active.token = work.cancellation →
      active.priority = priorityForEvent work.request.sourceEvent.kind →
      runtime'.cancellation.isCancelled work.cancellation = true) :
    runtime'.Fenced standing' where
  counted := (h.continued hcontinued hnumbers).counted
  numbered := (h.continued hcontinued hnumbers).numbered
  registered work active hstanding := (h.continued hcontinued hnumbers).registered work active
    (hkept work hstanding)
  barred htokens work hwork := by
    rcases (h.continued hcontinued hnumbers).barred htokens work hwork with hstanding | hbarred
    · by_cases hstill : standing' = some work
      · exact .inl hstill
      · right
        cases hactive : runtime.cancellation.active with
        | none => exact .inr (.inr (hcontinued.active.trans hactive))
        | some active =>
          obtain ⟨htoken, hpriority⟩ := h.registered work active hstanding hactive
          exact .inl (hcancelled work active hstanding hstill hactive htoken hpriority)
    · exact .inr hbarred

theorem take_unnumbered (runtime : GenerativeRuntime) : runtime.Unnumbered runtime.take := by
  rw [take]
  split
  · exact ⟨rfl, rfl⟩
  · exact ⟨rfl, rfl⟩

theorem complete_unnumbered (runtime : GenerativeRuntime) (result : Except String GenerationResult)
    (outputDecision : Option PublicOutput) :
    runtime.Unnumbered (runtime.complete result outputDecision) := by
  rw [complete]
  split
  · exact ⟨rfl, rfl⟩
  · split
    · exact ⟨rfl, rfl⟩
    · exact ⟨rfl, rfl⟩

theorem counted_succ (h : runtime.Fenced standing) :
    satAdd runtime.nextGenerationId 1 = min (runtime.tokens + 1) u64Max := by
  rw [h.counted, satAdd_min]

/-- The number of a new generation is above those of all before it. -/
theorem Fenced.lt_newWork (h : runtime.Fenced standing) (htokens : runtime.tokens + 1 ≤ u64Max)
    {other : GenerationWork} (hother : other ∈ runtime.pipeline) :
    other.generationId < satAdd runtime.nextGenerationId 1 := by
  have hnumbered := h.numbered other hother
  have hcounted := h.counted
  rw [counted_succ h]
  omega

theorem Fenced.accept (h : runtime.Fenced standing) (hcancellation : work.cancellation = runtime.tokens)
    (hnumber : work.generationId = satAdd runtime.nextGenerationId 1) :
    (runtime.accept work).Fenced (some work) where
  counted := hnumber.trans (counted_succ h)
  numbered other hother := by
    show other.generationId ≤ work.generationId
    rcases mem_pipeline_accept.mp hother with hbefore | rfl
    · have hnumbered := h.numbered other hbefore
      have hcounted := h.counted
      rw [hnumber, counted_succ h]
      omega
    · exact Nat.le_refl _
  registered other active hstanding hactive := by
    cases hstanding
    cases hactive
    exact ⟨rfl, rfl⟩
  barred htokens other hother := by
    rcases mem_pipeline_accept.mp hother with hbefore | rfl
    · refine .inr (.inr (.inl fun hsame ↦ ?_))
      have hlt := h.lt_newWork htokens hbefore
      rw [← hnumber, Option.some.inj hsame] at hlt
      exact Nat.lt_irrefl _ hlt
    · exact .inl rfl

theorem Fenced.refuse (h : runtime.Fenced standing) (request : GenerationRequest)
    (fallback : FallbackDirective) (providerDeadline : Nat) :
    (runtime.refuse (runtime.newWork request fallback providerDeadline)).Fenced standing where
  counted := counted_succ h
  numbered work hwork := by
    have hnumbered := h.numbered work hwork
    have hcounted := h.counted
    show work.generationId ≤ satAdd runtime.nextGenerationId 1
    rw [counted_succ h]
    omega
  registered := h.registered
  barred htokens work hwork :=
    (h.barred (Nat.le_of_succ_le htokens) work hwork).imp_right
      (runtime.refuse_continued request fallback providerDeadline).barred

/-- Draining a completion bars no less than before. -/
theorem Barred.finish (h : runtime.Barred work) {mailbox : List GenerationCompletion}
    (generationId : Nat) (eventId : String) :
    ({ runtime with mailbox }.finish generationId eventId).Barred work := by
  rcases h with hcancelled | hother | hnone
  · left
    rwa [GenerativeRuntime.finish, isCancelled_finish]
  · refine .inr (.inl fun hsame ↦ hother ?_)
    rw [GenerativeRuntime.finish] at hsame
    dsimp only at hsame
    split at hsame
    · cases hsame
    · exact hsame
  · refine .inr (.inr ?_)
    cases hactive : ({ runtime with mailbox }.finish generationId eventId).cancellation.active with
    | none => rfl
    | some active => cases hnone.symm.trans (active_finish hactive)

theorem Fenced.drain (h : runtime.Fenced standing) (now : Nat) :
    (runtime.drainOne now).1.Fenced standing := by
  have hpipeline : (runtime.drainOne now).1.pipeline ⊆ runtime.pipeline := pipeline_drainOne now
  rw [drainOne] at hpipeline ⊢
  split at hpipeline
  · exact h
  case h_2 completion mailbox hmailbox =>
    refine ⟨h.counted, fun work hwork ↦ h.numbered work (hpipeline hwork), ?_, ?_⟩
    · exact fun work active hstanding hactive ↦
        h.registered work active hstanding (active_finish hactive)
    · exact fun htokens work hwork ↦
        (h.barred htokens work (hpipeline hwork)).imp_right fun hbarred ↦ hbarred.finish _ _

theorem Fenced.next (h : runtime.Fenced standing) (op : Op) :
    (machine.next runtime op).Fenced (trackStanding standing (machine.event runtime op)) := by
  cases op with
  | submit request fallback providerDeadline =>
    show (machine.event runtime (.submit request fallback providerDeadline)).post.Fenced _
    rcases runtime.submit_cases request fallback providerDeadline with
      ⟨hok, -⟩ | ⟨error, herror⟩
    · rw [event_submit hok]
      exact h.accept rfl rfl
    · rw [event_submit herror]
      exact h.refuse request fallback providerDeadline
  | cancelForEvent event =>
    refine h.cancel (runtime.cancelForEvent_continued event) ⟨rfl, rfl⟩ (fun work hkept ↦ ?_) ?_
    · exact (Option.filter_eq_some_iff.mp hkept).1
    · intro work active hstanding hdropped hactive htoken hpriority
      have houtranks : outranks event work = true := by
        rw [← Bool.not_eq_false]
        intro hnot
        refine hdropped (Option.filter_eq_some_iff.mpr ⟨hstanding, ?_⟩)
        rw [hnot, Bool.not_false]
      show (runtime.cancellation.cancelForEvent event).isCancelled work.cancellation = true
      rw [GenerationCancellationRegistry.cancelForEvent, hactive]
      dsimp only
      rw [if_pos (hpriority ▸ of_decide_eq_true houtranks), htoken]
      simp
  | cancelActive =>
    refine h.cancel runtime.cancelActive_continued ⟨rfl, rfl⟩ (fun _ hkept ↦ ?_) ?_
    · cases hkept
    intro work active _ _ hactive htoken _
    show runtime.cancellation.cancelActive.1.isCancelled work.cancellation = true
    rw [GenerationCancellationRegistry.isCancelled_cancelActive, hactive]
    simp [htoken]
  | take => exact h.continued runtime.take_continued runtime.take_unnumbered
  | complete result outputDecision =>
    exact h.continued (runtime.complete_continued result outputDecision)
      (runtime.complete_unnumbered result outputDecision)
  | drain now => exact h.drain now
  | shutdown =>
    refine ⟨h.counted, h.numbered, fun work active hstanding ↦ ?_, fun _ work hwork ↦ ?_⟩
    · cases hstanding
    · refine .inr (.inr (.inl fun hsame ↦ ?_))
      cases hsame

/-- Tokens are only created. -/
theorem tokens_le_next (runtime : GenerativeRuntime) (op : Op) :
    runtime.tokens ≤ (machine.next runtime op).tokens := by
  cases op with
  | submit request fallback providerDeadline =>
    show runtime.tokens ≤ (runtime.submit request fallback providerDeadline).1.tokens
    rcases runtime.submit_cases request fallback providerDeadline with
      ⟨hok, -⟩ | ⟨error, herror⟩
    · rw [hok]
      exact Nat.le_succ _
    · rw [herror]
      exact Nat.le_succ _
  | take => exact runtime.take_unnumbered.tokens.ge
  | complete result outputDecision =>
    exact (runtime.complete_unnumbered result outputDecision).tokens.ge
  | drain now =>
    show runtime.tokens ≤ (runtime.drainOne now).1.tokens
    rw [drainOne]
    split
    · exact Nat.le_refl _
    · exact Nat.le_refl _
  | cancelForEvent | cancelActive | shutdown => exact Nat.le_refl _

/-- The generation that stands was submitted when `tokens` tokens had been created, or later. -/
structure Since (tokens : Nat) (runtime : GenerativeRuntime) (standing : Option GenerationWork) :
    Prop where
  created : tokens ≤ runtime.tokens
  standing : ∀ work, standing = some work → tokens ≤ work.cancellation

theorem Since.next {tokens : Nat} (h : Since tokens runtime standing) (op : Op) :
    Since tokens (machine.next runtime op) (trackStanding standing (machine.event runtime op)) where
  created := h.created.trans (runtime.tokens_le_next op)
  standing work hstanding := by
    cases op with
    | submit request fallback providerDeadline =>
      rcases runtime.submit_cases request fallback providerDeadline with
        ⟨hok, -⟩ | ⟨error, herror⟩
      · rw [event_submit hok] at hstanding
        cases hstanding
        exact h.created
      · rw [event_submit herror] at hstanding
        exact h.standing work hstanding
    | cancelForEvent event =>
      exact h.standing work (Option.filter_eq_some_iff.mp hstanding).1
    | cancelActive | shutdown => cases hstanding
    | take | complete | drain => exact h.standing work hstanding

/-- **Only the generation that stands is committed.** -/
theorem Fenced.committed (h : runtime.Fenced standing) (htokens : runtime.tokens ≤ u64Max)
    {now : Nat} {completion : GenerationCompletion}
    (hdrained : (runtime.drainOne now).2 = some (completion, true)) :
    standing = some completion.toGenerationWork ∧
      runtime.cancellation.isCancelled completion.cancellation = false ∧
      now < completion.providerDeadline ∧ runtime.shuttingDown = false := by
  rw [drainOne] at hdrained
  split at hdrained
  · cases hdrained
  case h_2 drained mailbox hmailbox =>
    obtain ⟨rfl, hverdict⟩ := Prod.mk.inj (Option.some.inj hdrained)
    have hfresh : runtime.staleOrCancelled drained now = false := by
      rwa [Bool.not_eq_true'] at hverdict
    have hpipeline : drained.toGenerationWork ∈ runtime.pipeline :=
      mem_pipeline.mpr (.inl ⟨drained, hmailbox ▸ List.mem_cons_self, rfl⟩)
    have hstanding : standing = some drained.toGenerationWork := by
      refine (h.barred htokens _ hpipeline).resolve_right fun hbarred ↦ ?_
      exact absurd (hbarred.stale now) (Bool.eq_false_iff.mp hfresh)
    rw [staleOrCancelled, Bool.or_eq_false_iff, Bool.or_eq_false_iff, Bool.or_eq_false_iff]
      at hfresh
    obtain ⟨⟨⟨hopen, -⟩, hlive⟩, hearly⟩ := hfresh
    exact ⟨hstanding, hlive, Nat.lt_of_not_le (of_decide_eq_false hearly), hopen⟩

end Steps

/-! ## Exhausted numbers

When the last number is given out, a generation that has lost its registration to an earlier
one of the same event gets it back with the next submission of that event. -/

/-- What a message of the viewer does that asks for a generation. -/
def askOps (fallback : FallbackDirective) : List Op :=
  [.cancelForEvent viewerMessage, .submit ⟨viewerMessage, 0⟩ fallback 100]

/-- The queue is full, and the worker idle. -/
structure Crowded (runtime : GenerativeRuntime) (work : GenerationWork) : Prop where
  queueCapacity : runtime.queueCapacity = 1
  shuttingDown : runtime.shuttingDown = false
  queue : runtime.queue = [work]
  inFlight : runtime.inFlight = none
  mailbox : runtime.mailbox = []

/-- The worker is at a generation with the last number, which is not registered any more. -/
structure Orphaned (runtime : GenerativeRuntime) (work : GenerationWork) : Prop where
  queueCapacity : runtime.queueCapacity = 1
  shuttingDown : runtime.shuttingDown = false
  queue : runtime.queue = []
  inFlight : runtime.inFlight = some work
  mailbox : runtime.mailbox = []
  active : runtime.cancellation.active = none
  nextGenerationId : runtime.nextGenerationId = u64Max
  generationId : work.generationId = u64Max
  eventId : work.eventId = viewerMessage.eventId
  notCancelled : runtime.cancellation.isCancelled work.cancellation = false
  created : work.cancellation < runtime.tokens
  deadline : 0 < work.providerDeadline

section Exhaustion

variable {runtime : GenerativeRuntime} {work : GenerationWork} {latest : Option GenerationWork}
  (fallback : FallbackDirective) (result : Except String GenerationResult)

/-- A full queue refuses, which costs a number. -/
theorem Crowded.ask (h : runtime.Crowded work) :
    (machine.run runtime (askOps fallback)).Crowded work ∧
      (machine.run runtime (askOps fallback)).tokens = runtime.tokens + 1 := by
  obtain ⟨queueCapacity, shuttingDown, queue, inFlight, mailbox, cancellation, tokens,
    nextGenerationId, activeGenerationId⟩ := runtime
  obtain ⟨rfl, rfl, rfl, rfl, rfl⟩ := h
  exact ⟨⟨rfl, rfl, rfl, rfl, rfl⟩, rfl⟩

theorem Crowded.orphaned (h : runtime.Crowded work) (hevent : work.eventId = viewerMessage.eventId)
    (hnumbered : runtime.Numbered latest) (hnext : runtime.nextGenerationId = u64Max) :
    ∃ orphan, (machine.run runtime
      (.take :: askOps fallback ++ [.complete result none, .drain 0, .take])).Orphaned orphan := by
  have htaken := (hnumbered.next .take).next (.cancelForEvent viewerMessage)
  obtain ⟨queueCapacity, shuttingDown, queue, inFlight, mailbox, cancellation, tokens,
    nextGenerationId, activeGenerationId⟩ := runtime
  obtain ⟨rfl, rfl, rfl, rfl, rfl⟩ := h
  obtain rfl : nextGenerationId = u64Max := hnext
  have hlive := htaken.accept_notCancelled
    (rfl : (newWork _ ⟨viewerMessage, 0⟩ fallback 100).cancellation = _)
  refine ⟨_, rfl, rfl, rfl, rfl, rfl, ?_, rfl, rfl, rfl, ?_, Nat.lt_succ_self _, Nat.succ_pos 99⟩
  · -- the drain has taken the event of the orphan for finished
    show (GenerationCancellationRegistry.finish _ work.eventId).active = none
    rw [GenerationCancellationRegistry.finish, hevent, if_pos]
    rfl
  · show (GenerationCancellationRegistry.finish _ work.eventId).isCancelled _ = false
    rw [isCancelled_finish]
    exact hlive

/-- The generation that is submitted next is another one, and stands. -/
theorem Orphaned.standing (h : runtime.Orphaned work) (standing : Option GenerationWork) :
    ∃ other, machine.watch trackStanding runtime standing (askOps fallback) = some other ∧
      other.cancellation = runtime.tokens := by
  obtain ⟨queueCapacity, shuttingDown, queue, inFlight, mailbox, cancellation, tokens,
    nextGenerationId, activeGenerationId⟩ := runtime
  obtain ⟨rfl, rfl, rfl, rfl, rfl⟩ := h
  exact ⟨_, rfl, rfl⟩

theorem drainOne_cons {completion : GenerationCompletion} {mailbox : List GenerationCompletion}
    (h : runtime.mailbox = completion :: mailbox) (now : Nat) :
    (runtime.drainOne now).2 = some (completion, !runtime.staleOrCancelled completion now) := by
  rw [drainOne, h]
  rfl

/-- Yet the orphan is committed after that submission. -/
theorem Orphaned.committed (h : runtime.Orphaned work) :
    ((machine.run runtime (askOps fallback ++ [.complete result none])).drainOne 0).2 =
      some ({ work with result, outputDecision := none }, true) := by
  obtain ⟨queueCapacity, shuttingDown, queue, inFlight, mailbox, ⟨active, cancelled⟩, tokens,
    nextGenerationId, activeGenerationId⟩ := runtime
  obtain ⟨rfl, rfl, rfl, rfl, rfl, rfl, hnext, hnumber, hevent, hnotCancelled, hcreated, hdeadline⟩ :=
    h
  obtain rfl : nextGenerationId = u64Max := hnext
  generalize hlater : machine.run _ (askOps fallback ++ [.complete result none]) = later
  have hmailbox : later.mailbox = [{ work with result, outputDecision := none }] := hlater ▸ rfl
  have hopen : later.shuttingDown = false := hlater ▸ rfl
  have hcurrent : later.isCurrent u64Max viewerMessage.eventId = true := hlater ▸ rfl
  have hlive : later.cancellation.isCancelled work.cancellation = false := hlater ▸ hnotCancelled
  rw [drainOne_cons hmailbox, staleOrCancelled, hopen, hlive, hnumber]
  show some (_, !(false || !later.isCurrent u64Max work.eventId || false ||
    decide (work.providerDeadline ≤ 0))) = _
  rw [hevent, hcurrent, decide_eq_false (Nat.not_le_of_lt hdeadline)]
  rfl

end Exhaustion

end GenerativeRuntime

end Aivtuber
