import Aivtuber.App.LiveFence
import Aivtuber.Scheduler.Clock
import Mathlib.Tactic.MkIffOfInductiveProp

/-!
# The playout of a performance

What becomes of the commands of a performance that nothing cuts, when every millisecond is
ticked from its start on.  A tick moves the scheduler on before it looks at the queues, and
the scheduler retires an item at the very millisecond at which it ends.  So the commands that
are due before the end are executed, at their instant, and those that are due at the end or
later are dropped.
-/

open Saturating

namespace Aivtuber

open PlaybackCommand

/-! ## One sink -/

/-- What has become of the commands that a performance has given to a sink, before the
millisecond `next` is ticked.  The output was muted at the milliseconds `mutedAt`. -/
structure Settled {α : Type} [PlaybackCommand α] [DecidableEq α] (plan : PlannedPerformance)
    (given : List α) (next : Nat) (mutedAt : List Nat) (pending executed : List α) : Prop where
  muted_lt : ∀ atMs ∈ mutedAt, atMs < next
  waiting : ∀ command, generation command = plan.generation → atMs command < plan.endAtMs →
    next ≤ atMs command →
      pending.count command = given.count command ∧ executed.count command = 0
  played : ∀ command, generation command = plan.generation → atMs command < plan.endAtMs →
    atMs command < next → pending.count command = 0 ∧
      executed.count command = if atMs command ∈ mutedAt then 0 else given.count command
  late : ∀ command, generation command = plan.generation → plan.endAtMs ≤ atMs command →
    executed.count command = 0

section Sink

variable {α : Type} [PlaybackCommand α] [DecidableEq α] {plan : PlannedPerformance}
  {given pending executed : List α} {next : Nat} {mutedAt : List Nat} {scheduler : Scheduler}

/-- Commands of other performances make no difference. -/
theorem Settled.queues (h : Settled plan given next mutedAt pending executed) {queued : List α}
    (hothers : ∀ command ∈ queued, generation command ≠ plan.generation) :
    Settled plan given next mutedAt (pending ++ queued) executed := by
  have hcount : ∀ command : α, generation command = plan.generation →
      (pending ++ queued).count command = pending.count command := by
    intro command hgeneration
    rw [List.count_append, List.count_eq_zero.mpr fun hmem ↦ hothers command hmem hgeneration,
      Nat.add_zero]
  refine ⟨h.muted_lt, fun command hgeneration ↦ ?_, fun command hgeneration ↦ ?_, h.late⟩
  · rw [hcount command hgeneration]
    exact h.waiting command hgeneration
  · rw [hcount command hgeneration]
    exact h.played command hgeneration

/-- A purge keeps what is still to be played. -/
theorem Settled.purges (h : Settled plan given next mutedAt pending executed)
    (hkept : next < plan.endAtMs → ∀ commandAtMs,
      commandNotCancelled scheduler plan.generation commandAtMs = true) :
    Settled plan given next mutedAt (purgePending scheduler pending) executed := by
  refine ⟨h.muted_lt, fun command hgeneration hend hnext ↦ ?_,
    fun command hgeneration hend hnext ↦ ?_, h.late⟩
  · obtain ⟨hpending, hexecuted⟩ := h.waiting command hgeneration hend hnext
    refine ⟨?_, hexecuted⟩
    rw [purgePending, List.count_filter, hpending]
    rw [hgeneration]
    exact hkept (hnext.trans_lt hend) _
  · obtain ⟨hpending, hexecuted⟩ := h.played command hgeneration hend hnext
    refine ⟨Nat.le_zero.mp (hpending ▸ ?_), hexecuted⟩
    exact List.filter_sublist.count_le command

theorem count_filter_sorted (p : α → Bool) (command : α) :
    ((pending.insertionSort (atMs · ≤ atMs ·)).filter p).count command =
      if p command then pending.count command else 0 := by
  have hsort := List.perm_insertionSort (fun c d : α ↦ atMs c ≤ atMs d) pending
  split
  case isTrue hp => rw [List.count_filter hp, hsort.count_eq]
  case isFalse hp =>
    rw [List.count_eq_zero]
    intro hmem
    exact hp (List.mem_filter.mp hmem).2

theorem commandIsLive_of_lt {generation commandAtMs nowMs maxLatenessMs : Nat}
    (h : nowMs < commandAtMs) :
    commandIsLive scheduler generation commandAtMs nowMs maxLatenessMs = false := by
  rw [commandIsLive, if_pos]
  rw [decide_eq_true h, Bool.true_or]

/-- A command is on time at its instant. -/
theorem commandIsLive_self (generation nowMs maxLatenessMs : Nat) :
    commandIsLive scheduler generation nowMs nowMs maxLatenessMs =
      commandNotCancelled scheduler generation nowMs := by
  rw [commandIsLive, if_neg]
  simp

theorem commandIsLive_of_cancelled {generation commandAtMs nowMs maxLatenessMs : Nat}
    (h : commandNotCancelled scheduler generation commandAtMs = false) :
    commandIsLive scheduler generation commandAtMs nowMs maxLatenessMs = false := by
  rw [commandIsLive, h, ite_self]

/-- A tick executes what is due at its instant, before the performance ends. -/
theorem Settled.dispatches (h : Settled plan given next mutedAt pending executed) (muted : Bool)
    (maxLatenessMs : Nat)
    (hlive : next < plan.endAtMs → ∀ commandAtMs,
      commandNotCancelled scheduler plan.generation commandAtMs = true)
    (hgone : plan.endAtMs ≤ next → ∀ commandAtMs,
      commandNotCancelled scheduler plan.generation commandAtMs = false) :
    Settled plan given (next + 1) (if muted then next :: mutedAt else mutedAt)
      (dispatchPending scheduler maxLatenessMs next muted pending).1
      (executed ++ (dispatchPending scheduler maxLatenessMs next muted pending).2) := by
  dsimp only [dispatchPending]
  refine ⟨fun atMs hatMs ↦ ?_, fun command hgeneration hend hnext ↦ ?_,
    fun command hgeneration hend hnext ↦ ?_, fun command hgeneration hend ↦ ?_⟩
  · split at hatMs
    · rcases List.mem_cons.mp hatMs with rfl | hbefore
      · exact Nat.lt_succ_self _
      · exact Nat.lt_succ_of_lt (h.muted_lt atMs hbefore)
    · exact Nat.lt_succ_of_lt (h.muted_lt atMs hatMs)
  · -- not due yet
    obtain ⟨hpending, hexecuted⟩ := h.waiting command hgeneration hend (Nat.le_of_succ_le hnext)
    rw [List.count_append, count_filter_sorted, count_filter_sorted, commandIsLive_of_lt hnext,
      hexecuted, hpending, decide_eq_true (Nat.lt_of_succ_le hnext)]
    exact ⟨rfl, rfl⟩
  · rw [List.count_append, count_filter_sorted, count_filter_sorted,
      decide_eq_false (Nat.not_lt_of_le (Nat.le_of_lt_succ hnext)), hgeneration]
    refine ⟨rfl, ?_⟩
    rcases Nat.lt_succ_iff_lt_or_eq.mp hnext with hbefore | rfl
    · -- played already
      obtain ⟨hpending, hexecuted⟩ := h.played command hgeneration hend hbefore
      have hother : ¬ atMs command = next := Nat.ne_of_lt hbefore
      rw [hpending, hexecuted, ite_self, Nat.add_zero]
      cases muted with
      | true => simp [hother]
      | false => rfl
    · -- due at this tick
      obtain ⟨hpending, hexecuted⟩ := h.waiting command hgeneration hend (Nat.le_refl _)
      rw [hpending, hexecuted, commandIsLive_self, hlive hend, Nat.zero_add]
      cases muted with
      | true => simp
      | false =>
        have hunmuted : atMs command ∉ mutedAt :=
          fun hmuted ↦ Nat.lt_irrefl _ (h.muted_lt _ hmuted)
        simp [hunmuted]
  · -- due when the performance is over
    rw [List.count_append, count_filter_sorted, h.late command hgeneration hend, hgeneration]
    have hdead : commandIsLive scheduler plan.generation (atMs command) next maxLatenessMs = false := by
      rcases Nat.lt_or_ge next (atMs command) with hwaiting | hdue
      · exact commandIsLive_of_lt hwaiting
      · exact commandIsLive_of_cancelled (hgone (hend.trans hdue) _)
    rw [hdead]
    rfl

end Sink

/-! ## The commands of a plan -/

section Commands

variable {rounding : ℚ → ℚ} {asset : PerformanceAsset} {visemes : Option VisemeTrack}
  {plan : PlannedPerformance} {variation : AppliedVariation}

theorem le_satAdd_of_lt {a b : Nat} (h : satAdd a b < u64Max) : a ≤ satAdd a b := by
  rw [satAdd] at h ⊢
  omega

theorem audioCommand_spec {command : AudioPlaybackCommand}
    (h : audioCommand? rounding asset plan variation = some command) :
    command.generation = plan.generation ∧
      command.atMs = markerAtMs rounding asset plan variation "speech.start" := by
  simp only [audioCommand?, Option.bind_eq_bind, Option.bind_eq_some_iff] at h
  obtain ⟨speech, -, audioRef, -, durationMs, -, hcommand⟩ := h
  cases hcommand
  exact ⟨rfl, rfl⟩

theorem mem_dispatchAsset_audio {command : AudioPlaybackCommand}
    (h : command ∈ (dispatchAsset rounding asset visemes plan variation).audio) :
    command.generation = plan.generation ∧
      (command.atMs < u64Max → plan.startAtMs ≤ command.atMs) := by
  obtain ⟨hgeneration, hatMs⟩ := audioCommand_spec (Option.mem_toList.mp h)
  rw [hatMs]
  exact ⟨hgeneration, le_satAdd_of_lt⟩

theorem mem_visemeCommands {audio : Option AudioPlaybackCommand} {command : AvatarPlaybackCommand}
    (h : command ∈ visemeCommands rounding visemes variation audio) :
    ∃ played ∈ audio, command.generation = played.generation ∧
      (command.atMs < u64Max → played.atMs ≤ command.atMs) := by
  cases audio with
  | none => cases h
  | some played =>
    cases visemes with
    | none => cases h
    | some track =>
      obtain ⟨cue, -, rfl⟩ := List.mem_map.mp h
      exact ⟨played, rfl, rfl, le_satAdd_of_lt⟩

theorem mem_dispatchAsset_avatar {command : AvatarPlaybackCommand}
    (h : command ∈ (dispatchAsset rounding asset visemes plan variation).avatar) :
    command.generation = plan.generation ∧
      (command.atMs < u64Max → plan.startAtMs ≤ command.atMs) := by
  have hmarker : ∀ {β : Type} {source : Option β} {marker : String} {action : β → AvatarAction},
      command ∈ (source.map fun value ↦
        avatarCommand rounding asset plan variation marker (action value)).toList →
      command.generation = plan.generation ∧
        (command.atMs < u64Max → plan.startAtMs ≤ command.atMs) := by
    intro β source marker action hmem
    obtain ⟨value, -, rfl⟩ := Option.map_eq_some_iff.mp (Option.mem_toList.mp hmem)
    exact ⟨rfl, le_satAdd_of_lt⟩
  have hmem := (List.perm_insertionSort _ _).mem_iff.mp h
  rw [List.mem_append, List.mem_append, List.mem_append] at hmem
  rcases hmem with ((hviseme | hexpression) | hgesture) | hgaze
  · obtain ⟨played, hplayed, hgeneration, hle⟩ := mem_visemeCommands hviseme
    obtain ⟨hplayedGeneration, hatMs⟩ := audioCommand_spec hplayed
    refine ⟨hgeneration.trans hplayedGeneration, fun hlt ↦ ?_⟩
    have hplayedAt := hle hlt
    rw [hatMs] at hplayedAt
    exact (le_satAdd_of_lt (hplayedAt.trans_lt hlt)).trans hplayedAt
  · exact hmarker hexpression
  · exact hmarker hgesture
  · exact hmarker hgaze

end Commands

namespace LiveApp

open GenerativeRuntime (viewerMessage)

/-! ## The monitor -/

/-- What was executed since the start of a performance. -/
structure Playout where
  /-- The next millisecond to be ticked. -/
  next : Nat
  executed : Dispatch
  /-- The milliseconds that were ticked while the output was muted. -/
  mutedAt : List Nat

def watchPlayout (playout : Playout) (e : AppEvent) : Playout :=
  match e.input with
  | .present nowMs =>
    { next := nowMs + 1
      executed :=
        { audio := playout.executed.audio ++ e.output.executed.audio
          avatar := playout.executed.avatar ++ e.output.executed.avatar }
      mutedAt := if e.pre.security.muted then nowMs :: playout.mutedAt else playout.mutedAt }
  | _ => playout

/-- The instant that a step presents. -/
def Op.presented? : Op → Option Nat
  | .present nowMs => some nowMs
  | _ => none

/-- Every millisecond is ticked, and the performance is not cut before its end. -/
@[mk_iff]
structure Uninterrupted (plan : PlannedPerformance) (playout : Playout) (e : AppEvent) : Prop where
  ticked : ∀ nowMs ∈ e.input.presented?, nowMs = playout.next
  /-- No other step is ahead of the ticks. -/
  timely : ∀ atMs ∈ e.input.atMs?, atMs ≤ playout.next
  uncut : e.post.performer.scheduler.nowMs < plan.endAtMs →
    ∃ item ∈ e.post.performer.scheduler.items, item.plan = plan ∧ item.cancelAtMs = none

/-- Each command of the performance is executed as often as it was queued. -/
@[mk_iff]
structure PlaysAll (dispatch : Dispatch) (playout : Playout) : Prop where
  audio : ∀ command ∈ dispatch.audio,
    playout.executed.audio.count command = dispatch.audio.count command
  avatar : ∀ command ∈ dispatch.avatar,
    playout.executed.avatar.count command = dispatch.avatar.count command

/-- Each command is due before the performance ends, and the output is not muted when an
audio command is due. -/
structure EndsLast (plan : PlannedPerformance) (dispatch : Dispatch) (playout : Playout) : Prop where
  audio : ∀ command ∈ dispatch.audio,
    command.atMs < plan.endAtMs ∧ command.atMs ∉ playout.mutedAt
  avatar : ∀ command ∈ dispatch.avatar, command.atMs < plan.endAtMs

section Decidable

variable {plan : PlannedPerformance} {dispatch : Dispatch} {playout : Playout}

instance {e : AppEvent} : Decidable (Uninterrupted plan playout e) :=
  decidable_of_iff _ (uninterrupted_iff plan playout e).symm

instance : Decidable (PlaysAll dispatch playout) :=
  decidable_of_iff _ (playsAll_iff dispatch playout).symm

end Decidable

/-! ## What holds while it plays -/

/-- Between the steps of a run that plays out the performance. -/
structure Playing (plan : PlannedPerformance) (dispatch : Dispatch) (app : LiveApp)
    (playout : Playout) : Prop where
  tidy : app.performer.scheduler.Tidy
  numbered : plan.generation ≤ app.performer.scheduler.generation
  own : ∀ item ∈ app.performer.scheduler.items, item.plan.generation = plan.generation →
    item.plan = plan
  clock : app.performer.scheduler.nowMs ≤ playout.next
  audio : Settled plan dispatch.audio playout.next playout.mutedAt app.pendingAudio
    playout.executed.audio
  avatar : Settled plan dispatch.avatar playout.next [] app.pendingAvatar playout.executed.avatar

section Steps

variable {rounding : ℚ → ℚ} {plan : PlannedPerformance} {dispatch : Dispatch}
  {app app' : LiveApp} {op : Op} {report : Report} {playout : Playout}

/-- What a playback asks of the scheduler. -/
theorem requests_of_plays {atMs : Nat} {s s' : Scheduler}
    {performance : Option (CachedPlaybackOutcome × Dispatch)}
    (h : CachedPerformer.Plays rounding atMs s s' performance) (hs : s.Tidy) :
    (s' = s ∧ performance = none) ∨ s.Requests atMs s' (performance.map (·.1.plan)) := by
  cases performance with
  | none =>
    rcases h.silent rfl with hsame | ⟨plan, rejection, hrejected⟩
    · exact .inl ⟨hsame, rfl⟩
    · have hrequests := Scheduler.scheduleAt_requests hs atMs plan
      rw [hrejected] at hrequests
      exact .inr hrequests
  | some performed =>
    obtain ⟨⟨plan, haccepted⟩, -⟩ := h.accepted _ _ rfl
    have hrequests := Scheduler.scheduleAt_requests hs atMs plan
    rw [haccepted] at hrequests
    exact .inr hrequests

/-- The commands of a performance have its number. -/
theorem generation_of_plays {atMs : Nat} {s s' : Scheduler} {outcome : CachedPlaybackOutcome}
    {queued : Dispatch}
    (h : CachedPerformer.Plays rounding atMs s s' (some (outcome, queued))) :
    (∀ command ∈ queued.audio, command.generation = outcome.plan.generation) ∧
      ∀ command ∈ queued.avatar, command.generation = outcome.plan.generation := by
  obtain ⟨-, asset, visemes, rfl⟩ := h.accepted _ _ rfl
  exact ⟨fun command hmem ↦ (mem_dispatchAsset_audio hmem).1,
    fun command hmem ↦ (mem_dispatchAsset_avatar hmem).1⟩

/-- The number of a plan that is accepted is above all numbers before, but for the last. -/
theorem lt_generation_of_requests {atMs : Nat} {s s' : Scheduler} {plan : PlannedPerformance}
    (h : s.Requests atMs s' (some plan)) {generation : Nat} (hnumbered : generation ≤ s.generation)
    (hlast : generation < u64Max) : generation < plan.generation := by
  rw [(h.accepted plan rfl).1, satAdd]
  omega

theorem watchPlayout_eq (hop : ¬ op.Presents) :
    watchPlayout playout ⟨app, op, app', report⟩ = playout := by
  cases op with
  | present nowMs => exact absurd trivial hop
  | event | drain | control | shutdown | assets | take | complete => rfl

/-- While the performance is not over, its commands are live. -/
theorem Uninterrupted.live {e : AppEvent} (h : Uninterrupted plan playout e)
    (hs : e.post.performer.scheduler.Tidy)
    (hnow : e.post.performer.scheduler.nowMs < plan.endAtMs) (commandAtMs : Nat) :
    commandNotCancelled e.post.performer.scheduler plan.generation commandAtMs = true := by
  obtain ⟨item, hitem, rfl, huncut⟩ := h.uncut hnow
  refine List.any_eq_true.mpr ⟨item, hitem, ?_⟩
  have hstatus : (decide (item.status = .queued) || decide (item.status = .playing)) = true := by
    rcases hs item hitem with hplaying | ⟨hqueued, -⟩
    · rw [hplaying]
      rfl
    · rw [hqueued]
      rfl
  rw [hstatus, huncut]
  simp

/-- Another performance, if one is scheduled, is none of its business. -/
theorem Playing.performs (h : Playing plan dispatch app playout) (hlast : plan.generation < u64Max)
    {atMs : Nat} {generative : Option GenerativeRuntime} {performance : Performance}
    (hperforms : Performs rounding atMs (app.withGenerative generative) app' performance)
    (hatMs : atMs ≤ playout.next) (htidy : app'.performer.scheduler.Tidy) :
    Playing plan dispatch app' playout := by
  have haudio : app'.pendingAudio = app.pendingAudio ++ _ := hperforms.pendingAudio
  have havatar : app'.pendingAvatar = app.pendingAvatar ++ _ := hperforms.pendingAvatar
  have hplays := hperforms.plays
  rcases requests_of_plays hplays h.tidy with ⟨hsame, rfl⟩ | hrequests
  · have hscheduler : app'.performer.scheduler = app.performer.scheduler := hsame
    refine ⟨htidy, hscheduler ▸ h.numbered, hscheduler ▸ h.own, hscheduler ▸ h.clock, ?_, ?_⟩
    · rw [haudio]
      exact h.audio.queues fun _ hmem ↦ absurd hmem List.not_mem_nil
    · rw [havatar]
      exact h.avatar.queues fun _ hmem ↦ absurd hmem List.not_mem_nil
  · have hclock : app'.performer.scheduler.nowMs ≤ playout.next := by
      rw [hrequests.nowMs]
      exact max_le hatMs h.clock
    cases performance with
    | none =>
      refine ⟨htidy, ?_, fun item hitem hgeneration ↦ ?_, hclock, ?_, ?_⟩
      · exact (hrequests.rejected rfl).symm ▸ h.numbered
      · obtain ⟨item₀, hitem₀, hplan⟩ := (hrequests.plans item hitem).resolve_left nofun
        exact hplan ▸ h.own item₀ hitem₀ (hplan ▸ hgeneration)
      · rw [haudio]
        exact h.audio.queues fun _ hmem ↦ absurd hmem List.not_mem_nil
      · rw [havatar]
        exact h.avatar.queues fun _ hmem ↦ absurd hmem List.not_mem_nil
    | some performed =>
      obtain ⟨outcome, queued⟩ := performed
      have hlt := lt_generation_of_requests hrequests h.numbered hlast
      obtain ⟨hgenerationAudio, hgenerationAvatar⟩ := generation_of_plays hplays
      refine ⟨htidy, ?_, fun item hitem hgeneration ↦ ?_, hclock, ?_, ?_⟩
      · rw [(hrequests.accepted outcome.plan rfl).2.1]
        exact hlt.le
      · rcases hrequests.plans item hitem with haccepted | ⟨item₀, hitem₀, hplan⟩
        · have hplan : outcome.plan = item.plan := Option.some.inj haccepted
          rw [← hplan] at hgeneration
          exact absurd hgeneration (Nat.ne_of_gt hlt)
        · exact hplan ▸ h.own item₀ hitem₀ (hplan ▸ hgeneration)
      · rw [haudio]
        refine h.audio.queues fun command hmem ↦ ?_
        exact (hgenerationAudio command hmem).trans_ne (Nat.ne_of_gt hlt)
      · rw [havatar]
        refine h.avatar.queues fun command hmem ↦ ?_
        exact (hgenerationAvatar command hmem).trans_ne (Nat.ne_of_gt hlt)

/-- **One step of a playout.** -/
theorem Playing.next (h : Playing plan dispatch app playout) (hstart : plan.startAtMs ≤ u64Max)
    (hlast : plan.generation < u64Max) (heffect : Effect rounding app op app' report)
    (hstep : Uninterrupted plan playout ⟨app, op, app', report⟩) :
    Playing plan dispatch app' (watchPlayout playout ⟨app, op, app', report⟩) := by
  have htidy := heffect.tidy h.tidy
  have hlive := hstep.live htidy
  cases heffect with
  | stays hop hstays =>
    rw [watchPlayout_eq hop]
    refine ⟨htidy, ?_, ?_, ?_, ?_, ?_⟩
    · exact hstays.scheduler ▸ h.numbered
    · exact hstays.scheduler ▸ h.own
    · exact hstays.scheduler ▸ h.clock
    · exact hstays.pendingAudio ▸ h.audio
    · exact hstays.pendingAvatar ▸ h.avatar
  | performs hop hat hperforms hexecuted hstopped =>
    rw [watchPlayout_eq hop]
    exact h.performs hlast hperforms (hstep.timely _ hat) htidy
  | @stops _ atMs hop hat hstops =>
    rw [watchPlayout_eq hop]
    have hsteps := Scheduler.stopAll_steps h.tidy atMs
    have hclock : app'.performer.scheduler.nowMs ≤ playout.next := by
      rw [hstops.scheduler, Scheduler.stopAll_nowMs]
      exact max_le (hstep.timely _ hat) h.clock
    refine ⟨htidy, ?_, fun item hitem hgeneration ↦ ?_, hclock, ?_, ?_⟩
    · rw [hstops.scheduler, hsteps.generation_eq]
      exact h.numbered
    · rw [hstops.scheduler] at hitem
      obtain ⟨item₀, hitem₀, hplan⟩ := hsteps.plans_subset item hitem
      exact hplan ▸ h.own item₀ hitem₀ (hplan ▸ hgeneration)
    · rw [hstops.pendingAudio]
      exact h.audio.purges fun hend ↦ hlive (hclock.trans_lt hend)
    · rw [hstops.pendingAvatar]
      exact h.avatar.purges fun hend ↦ hlive (hclock.trans_lt hend)
  | presents nowMs hop =>
    obtain rfl : op = .present nowMs := hop
    obtain rfl : nowMs = playout.next := hstep.ticked nowMs rfl
    have hsteps := Scheduler.advanceTo_steps h.tidy playout.next
    have hnow : (app.present playout.next).1.performer.scheduler.nowMs = playout.next :=
      (app.performer.scheduler.advanceTo_spec playout.next).nowMs.trans (max_eq_left h.clock)
    have hown : ∀ item ∈ (app.present playout.next).1.performer.scheduler.items,
        item.plan.generation = plan.generation → item.plan = plan := by
      intro item hitem hgeneration
      obtain ⟨item₀, hitem₀, hplan⟩ := hsteps.plans_subset item hitem
      exact hplan ▸ h.own item₀ hitem₀ (hplan ▸ hgeneration)
    -- the scheduler has retired the performance by the tick at its end
    have hgone : plan.endAtMs ≤ playout.next → ∀ commandAtMs,
        commandNotCancelled (app.present playout.next).1.performer.scheduler plan.generation
          commandAtMs = false := by
      intro hend commandAtMs
      rw [Bool.eq_false_iff]
      intro hnotCancelled
      obtain ⟨item, hitem, hmatches⟩ := List.any_eq_true.mp hnotCancelled
      rw [Bool.and_eq_true, Bool.and_eq_true, decide_eq_true_eq] at hmatches
      have hplan := hown item hitem hmatches.1.1
      have hrunning := Scheduler.lt_endAtMs_of_mem_advanceTo h.tidy playout.next hitem
        (hplan ▸ hstart)
      rw [hplan] at hrunning
      exact absurd (hnow ▸ hrunning : playout.next < plan.endAtMs) (Nat.not_lt_of_le hend)
    refine ⟨htidy, ?_, hown, hnow.trans_le (Nat.le_succ _), ?_, ?_⟩
    · exact hsteps.generation_eq.symm ▸ h.numbered
    · exact h.audio.dispatches app.security.muted app.maxDispatchLatenessMs
        (fun hend ↦ hlive (hnow.trans_lt hend)) hgone
    · exact h.avatar.dispatches false app.maxDispatchLatenessMs
        (fun hend ↦ hlive (hnow.trans_lt hend)) hgone

/-- Numbers in use were given out. -/
structure Ordered (app : LiveApp) : Prop where
  tidy : app.performer.scheduler.Tidy
  bound : app.performer.scheduler.generation ≤ u64Max
  items : ∀ item ∈ app.performer.scheduler.items,
    item.plan.generation ≤ app.performer.scheduler.generation
  audio : ∀ command ∈ app.pendingAudio, command.generation ≤ app.performer.scheduler.generation
  avatar : ∀ command ∈ app.pendingAvatar, command.generation ≤ app.performer.scheduler.generation

theorem start_ordered (setup : Setup) : Ordered (start setup) where
  tidy := Scheduler.new_tidy setup.scheduler
  bound := Nat.zero_le _
  items _ hitem := absurd hitem List.not_mem_nil
  audio _ hcommand := absurd hcommand List.not_mem_nil
  avatar _ hcommand := absurd hcommand List.not_mem_nil

/-- What a queue holds was there, or was queued. -/
theorem QueueEffect.mem {α : Type} [PlaybackCommand α] {muted : Bool}
    {pending pending' executed queued : List α}
    (h : QueueEffect app app' op muted pending pending' executed queued) {command : α}
    (hcommand : command ∈ pending') : command ∈ pending ∨ command ∈ queued :=
  List.mem_append.mp (h.subperm.subset (List.mem_append_right executed hcommand))

theorem Ordered.of_le (h : Ordered app) (htidy : app'.performer.scheduler.Tidy)
    (hbound : app'.performer.scheduler.generation ≤ u64Max)
    (hle : app.performer.scheduler.generation ≤ app'.performer.scheduler.generation)
    (hitems : ∀ item ∈ app'.performer.scheduler.items,
      item.plan.generation ≤ app'.performer.scheduler.generation ∨
        ∃ item₀ ∈ app.performer.scheduler.items, item₀.plan = item.plan)
    (haudio : ∀ command ∈ app'.pendingAudio, command ∈ app.pendingAudio ∨
      command.generation ≤ app'.performer.scheduler.generation)
    (havatar : ∀ command ∈ app'.pendingAvatar, command ∈ app.pendingAvatar ∨
      command.generation ≤ app'.performer.scheduler.generation) : Ordered app' where
  tidy := htidy
  bound := hbound
  items item hitem := by
    rcases hitems item hitem with hnew | ⟨item₀, hitem₀, hplan⟩
    · exact hnew
    · exact hplan ▸ (h.items item₀ hitem₀).trans hle
  audio command hcommand := (haudio command hcommand).elim
    (fun hbefore ↦ (h.audio command hbefore).trans hle) id
  avatar command hcommand := (havatar command hcommand).elim
    (fun hbefore ↦ (h.avatar command hbefore).trans hle) id

/-- A step that schedules nothing. -/
theorem Ordered.of_steps (h : Ordered app) (heffect : Effect rounding app op app' report)
    (hsteps : app.performer.scheduler.Steps app'.performer.scheduler)
    (hsilent : report.performance = none) : Ordered app' := by
  have haudio := heffect.audio
  have havatar := heffect.avatar
  rw [hsilent] at haudio havatar
  refine h.of_le (heffect.tidy h.tidy) (hsteps.generation_eq ▸ h.bound) hsteps.generation_eq.ge
    (fun item hitem ↦ .inr (hsteps.plans_subset item hitem)) (fun command hcommand ↦ .inl ?_)
    fun command hcommand ↦ .inl ?_
  · exact (haudio.mem hcommand).resolve_right List.not_mem_nil
  · exact (havatar.mem hcommand).resolve_right List.not_mem_nil

/-- A step that asks for a performance. -/
theorem Ordered.of_requests (h : Ordered app) (heffect : Effect rounding app op app' report)
    {atMs : Nat} (hplays : CachedPerformer.Plays rounding atMs app.performer.scheduler
      app'.performer.scheduler report.performance)
    (hrequests : app.performer.scheduler.Requests atMs app'.performer.scheduler
      (report.performance.map (·.1.plan))) : Ordered app' := by
  have haudio := heffect.audio
  have havatar := heffect.avatar
  cases hperformance : report.performance with
  | none =>
    rw [hperformance] at haudio havatar hrequests
    have hgeneration := hrequests.rejected rfl
    refine h.of_le (heffect.tidy h.tidy) (hgeneration ▸ h.bound) hgeneration.ge
      (fun item hitem ↦ .inr ((hrequests.plans item hitem).resolve_left nofun))
      (fun command hcommand ↦ .inl ?_) fun command hcommand ↦ .inl ?_
    · exact (haudio.mem hcommand).resolve_right List.not_mem_nil
    · exact (havatar.mem hcommand).resolve_right List.not_mem_nil
  | some performed =>
    obtain ⟨outcome, queued⟩ := performed
    rw [hperformance] at haudio havatar hrequests hplays
    obtain ⟨hnumber, hgeneration, -⟩ := hrequests.accepted outcome.plan rfl
    obtain ⟨hqueuedAudio, hqueuedAvatar⟩ := generation_of_plays hplays
    refine h.of_le (heffect.tidy h.tidy) ?_ ?_ (fun item hitem ↦ ?_)
      (fun command hcommand ↦ ?_) fun command hcommand ↦ ?_
    · rw [hgeneration, hnumber]
      exact satAdd_le_max _ _
    · rw [hgeneration, hnumber]
      exact le_satAdd h.bound
    · refine (hrequests.plans item hitem).imp_left fun haccepted ↦ ?_
      have hplan : outcome.plan = item.plan := Option.some.inj haccepted
      rw [← hplan, hgeneration]
    · refine (haudio.mem hcommand).imp_right fun hqueued ↦ ?_
      rw [hgeneration]
      exact (hqueuedAudio command hqueued).le
    · refine (havatar.mem hcommand).imp_right fun hqueued ↦ ?_
      rw [hgeneration]
      exact (hqueuedAvatar command hqueued).le

theorem Ordered.next (h : Ordered app) (heffect : Effect rounding app op app' report) :
    Ordered app' := by
  have hself := heffect
  cases heffect with
  | stays hop hstays =>
    refine h.of_steps hself ?_ rfl
    rw [hstays.scheduler]
    exact Scheduler.Steps.refl _
  | stops hop hat hstops =>
    refine h.of_steps hself ?_ rfl
    rw [hstops.scheduler]
    exact Scheduler.stopAll_steps h.tidy _
  | presents nowMs hop => exact h.of_steps hself (Scheduler.advanceTo_steps h.tidy nowMs) rfl
  | performs hop hat hperforms hexecuted hstopped =>
    have hplays := hperforms.plays
    rcases requests_of_plays hplays h.tidy with ⟨hsame, hsilent⟩ | hrequests
    · have hscheduler : app'.performer.scheduler = app.performer.scheduler := hsame
      refine h.of_steps hself ?_ hsilent
      rw [hscheduler]
      exact Scheduler.Steps.refl _
    · exact h.of_requests hself hplays hrequests

/-- What a performance gives to a sink is still to be played at its start. -/
theorem Settled.start {α : Type} [PlaybackCommand α] [DecidableEq α] {pending given : List α}
    (hbefore : ∀ command ∈ pending, generation command ≠ plan.generation)
    (hgiven : ∀ command ∈ given, atMs command < u64Max → plan.startAtMs ≤ atMs command) :
    Settled plan given plan.startAtMs [] (pending ++ given) [] := by
  have hcount : ∀ command : α, generation command = plan.generation →
      (pending ++ given).count command = given.count command := by
    intro command hgeneration
    rw [List.count_append, List.count_eq_zero.mpr fun hmem ↦ hbefore command hmem hgeneration,
      Nat.zero_add]
  refine ⟨fun _ hmem ↦ absurd hmem List.not_mem_nil, fun command hgeneration _ _ ↦ ?_,
    fun command hgeneration hend hlt ↦ ?_, fun _ _ _ ↦ rfl⟩
  · exact ⟨hcount command hgeneration, rfl⟩
  · have hnone : given.count command = 0 := by
      rw [List.count_eq_zero]
      intro hmem
      have hstart := hgiven command hmem (hend.trans_le plan.endAtMs_le_max)
      exact absurd hlt (Nat.not_lt_of_le hstart)
    rw [hcount command hgeneration, hnone, ite_self]
    exact ⟨rfl, rfl⟩

/-- A performance that is scheduled is ready to be played out. -/
theorem Ordered.playing (h : Ordered app) (heffect : Effect rounding app op app' report)
    {outcome : CachedPlaybackOutcome}
    (hperformance : report.performance = some (outcome, dispatch))
    (hlast : outcome.plan.generation < u64Max) :
    Playing outcome.plan dispatch app' ⟨outcome.plan.startAtMs, ⟨[], []⟩, []⟩ := by
  have htidy := heffect.tidy h.tidy
  cases heffect with
  | stays | stops | presents => cases hperformance
  | performs hop hat hperforms hexecuted hstopped =>
    have haudio : app'.pendingAudio = app.pendingAudio ++ _ := hperforms.pendingAudio
    have havatar : app'.pendingAvatar = app.pendingAvatar ++ _ := hperforms.pendingAvatar
    have hplays := hperforms.plays
    rw [hperformance] at haudio havatar hplays
    have hrequests : app.performer.scheduler.Requests _ app'.performer.scheduler
        (some outcome.plan) :=
      (requests_of_plays hplays h.tidy).resolve_left fun hsame ↦ nomatch hsame.2
    obtain ⟨hnumber, hgeneration, hclock⟩ := hrequests.accepted outcome.plan rfl
    -- every number that was given out before is another one
    have hother : app.performer.scheduler.generation < outcome.plan.generation := by
      rw [hnumber, satAdd] at hlast ⊢
      omega
    obtain ⟨-, asset, visemes, rfl⟩ := hplays.accepted _ _ rfl
    refine ⟨htidy, hgeneration.ge, fun item hitem hsame ↦ ?_, hclock, ?_, ?_⟩
    · rcases hrequests.plans item hitem with haccepted | ⟨item₀, hitem₀, hplan⟩
      · exact (Option.some.inj haccepted).symm
      · rw [← hplan] at hsame
        exact absurd hsame (Nat.ne_of_lt ((h.items item₀ hitem₀).trans_lt hother))
    · rw [haudio]
      refine Settled.start (fun command hmem ↦ ?_) fun command hmem ↦ ?_
      · exact Nat.ne_of_lt ((h.audio command hmem).trans_lt hother)
      · exact (mem_dispatchAsset_audio hmem).2
    · rw [havatar]
      refine Settled.start (fun command hmem ↦ ?_) fun command hmem ↦ ?_
      · exact Nat.ne_of_lt ((h.avatar command hmem).trans_lt hother)
      · exact (mem_dispatchAsset_avatar hmem).2

/-- The commands that a step queues have the number of its performance. -/
theorem Effect.generation (heffect : Effect rounding app op app' report)
    {outcome : CachedPlaybackOutcome} (hperformance : report.performance = some (outcome, dispatch)) :
    (∀ command ∈ dispatch.audio, command.generation = outcome.plan.generation) ∧
      ∀ command ∈ dispatch.avatar, command.generation = outcome.plan.generation := by
  cases heffect with
  | stays | stops | presents => cases hperformance
  | performs hop hat hperforms hexecuted hstopped =>
    exact generation_of_plays (hperformance ▸ hperforms.plays)

theorem reachable_ordered (rounding : ℚ → ℚ)
    (resolve : String → Except CachedPlaybackError VisemeTrack) (setup : Setup) (ops : List Op) :
    Ordered ((machine rounding resolve).run (start setup) ops) :=
  (machine rounding resolve).run_invariant
    (fun app op h ↦ h.next (perform_effect rounding resolve app op)) (start_ordered setup) ops

/-- An audio command that was due before the end is executed, unless it was muted away. -/
theorem Playing.audio_played (h : Playing plan dispatch app playout)
    (hover : plan.endAtMs < playout.next) {command : AudioPlaybackCommand}
    (hgeneration : command.generation = plan.generation) (hend : command.atMs < plan.endAtMs) :
    playout.executed.audio.count command =
      if command.atMs ∈ playout.mutedAt then 0 else dispatch.audio.count command :=
  (h.audio.played command hgeneration hend (hend.trans hover)).2

/-- **When the performance is over**, all of it was played if it ended last. -/
theorem Playing.playsAll_iff (h : Playing plan dispatch app playout)
    (hover : plan.endAtMs < playout.next)
    (haudio : ∀ command ∈ dispatch.audio, command.generation = plan.generation)
    (havatar : ∀ command ∈ dispatch.avatar, command.generation = plan.generation) :
    PlaysAll dispatch playout ↔ EndsLast plan dispatch playout := by
  constructor
  · intro hplays
    refine ⟨fun command hmem ↦ ?_, fun command hmem ↦ ?_⟩
    · have hcount := hplays.audio command hmem
      have hpos := List.count_pos_iff.mpr hmem
      have hend : command.atMs < plan.endAtMs := by
        refine Nat.lt_of_not_le fun hlate ↦ ?_
        rw [h.audio.late command (haudio command hmem) hlate] at hcount
        exact absurd hcount (Nat.ne_of_lt hpos)
      refine ⟨hend, fun hmuted ↦ ?_⟩
      rw [h.audio_played hover (haudio command hmem) hend, if_pos hmuted] at hcount
      exact absurd hcount (Nat.ne_of_lt hpos)
    · have hcount := hplays.avatar command hmem
      refine Nat.lt_of_not_le fun hlate ↦ ?_
      rw [h.avatar.late command (havatar command hmem) hlate] at hcount
      exact absurd hcount (Nat.ne_of_lt (List.count_pos_iff.mpr hmem))
  · intro hlast
    refine ⟨fun command hmem ↦ ?_, fun command hmem ↦ ?_⟩
    · obtain ⟨hend, hunmuted⟩ := hlast.audio command hmem
      rw [h.audio_played hover (haudio command hmem) hend, if_neg hunmuted]
    · have hend := hlast.avatar command hmem
      have hplayed := (h.avatar.played command (havatar command hmem) hend (hend.trans hover)).2
      rwa [if_neg List.not_mem_nil] at hplayed

end Steps

/-! ## A whole performance -/

/-- A greeting of two milliseconds that is spoken with visemes. -/
def greeting : PerformanceAsset where
  schemaVersion := performanceAssetSchemaVersion
  id := "greeting"
  intent := "greeting"
  assetClass := .phrase
  variantGroup := none
  speech := some ⟨none, some "greeting.wav", some 2, some "greeting.json"⟩
  expression := none
  gesture := none
  gaze := none
  timeline := []
  interruptPointsMs := []
  variation := none
  compatibility := ⟨"1", none, none, none, none⟩
  semanticEmbedding := none
  provenance := none

/-- The mouth opens at once, and closes at an instant of the greeting. -/
def greetingVisemes (closesAtMs : Nat) : VisemeTrack where
  schemaVersion := visemeTrackSchemaVersion
  durationMs := 2
  cues := [⟨0, "aa", .finite 1⟩, ⟨closesAtMs, "sil", .finite 0⟩]

def visemeStore (closesAtMs : Nat) : LocalVisemeStore :=
  ⟨"visemes", fun _ ↦ .ok (greetingVisemes closesAtMs)⟩

/-- The viewer is greeted. -/
def greet : Op := .event emptyDisk ⟨viewerMessage, ⟨0, 0⟩, .assetId "greeting"⟩

/-- The performance of the greeting. -/
def greeted (closesAtMs : Nat) : Performance :=
  let resolve := (visemeStore closesAtMs).resolve
  (((machine id resolve).run (start bareSetup) [.assets (.insertHot greeting)]).perform id resolve
    greet).2.performance

/-- A tick at each millisecond of the greeting. -/
def ticks : List Op :=
  (List.range 3).flatMap fun nowMs ↦ [.drain emptyDisk nowMs nowMs, .present nowMs]

/-- **Every command of an uninterrupted performance plays** exactly when all of them are due
before its end, and the output is not muted when an audio command is due. -/
theorem plays_out_iff (rounding : ℚ → ℚ)
    (resolve : String → Except CachedPlaybackError VisemeTrack) (setup : Setup) (before : List Op)
    (op : Op) {outcome : CachedPlaybackOutcome} {dispatch : Dispatch}
    (hperformance : (((machine rounding resolve).run (start setup) before).perform rounding resolve
      op).2.performance = some (outcome, dispatch))
    (hstart : outcome.plan.startAtMs ≤ u64Max) (hlast : outcome.plan.generation < u64Max)
    (later : List Op)
    (huninterrupted : (machine rounding resolve).Meets watchPlayout (Uninterrupted outcome.plan)
      ((machine rounding resolve).run (start setup) (before ++ [op]))
      ⟨outcome.plan.startAtMs, ⟨[], []⟩, []⟩ later) :
    let playout := (machine rounding resolve).watch watchPlayout
      ((machine rounding resolve).run (start setup) (before ++ [op]))
      ⟨outcome.plan.startAtMs, ⟨[], []⟩, []⟩ later
    outcome.plan.endAtMs < playout.next →
      (PlaysAll dispatch playout ↔ EndsLast outcome.plan dispatch playout) := by
  dsimp only
  intro hover
  have heffect := perform_effect rounding resolve ((machine rounding resolve).run (start setup) before)
    op
  have hordered := reachable_ordered rounding resolve setup before
  rw [(machine rounding resolve).run_concat] at huninterrupted hover ⊢
  have hplaying := (machine rounding resolve).invariant
    (fun app playout op h hstep ↦ Playing.next h hstart hlast (perform_effect rounding resolve app op)
      hstep) (hordered.playing heffect hperformance hlast) huninterrupted
  obtain ⟨haudio, havatar⟩ := heffect.generation hperformance
  exact hplaying.playsAll_iff hover haudio havatar

theorem greeted_isSome : (greeted 1).isSome = true := by decide +kernel

theorem greeting_plays_out_iff :
    let resolve := (visemeStore 1).resolve
    let played := (greeted 1).get greeted_isSome
    let playout := (machine id resolve).watch watchPlayout
      ((machine id resolve).run (start bareSetup) ([.assets (.insertHot greeting)] ++ [greet]))
      ⟨played.1.plan.startAtMs, ⟨[], []⟩, []⟩ ticks
    played.1.plan.endAtMs < playout.next →
      (PlaysAll played.2 playout ↔ EndsLast played.1.plan played.2 playout) :=
  plays_out_iff id (visemeStore 1).resolve bareSetup [.assets (.insertHot greeting)] greet
    (Option.some_get greeted_isSome).symm (by decide +kernel) (by decide +kernel) ticks
    (by decide +kernel)

/-- A cue at the very end of a greeting is not executed. -/
theorem last_cue_dropped :
    let resolve := (visemeStore 2).resolve
    greeting.validate = .ok () ∧ (greetingVisemes 2).validate = .ok () ∧
      ∃ outcome dispatch, greeted 2 = some (outcome, dispatch) ∧
        let app := (machine id resolve).run (start bareSetup)
          [.assets (.insertHot greeting), greet]
        let playout : Playout := ⟨outcome.plan.startAtMs, ⟨[], []⟩, []⟩
        (machine id resolve).Meets watchPlayout (Uninterrupted outcome.plan) app playout ticks ∧
          outcome.plan.endAtMs < ((machine id resolve).watch watchPlayout app playout ticks).next ∧
          ¬ PlaysAll dispatch ((machine id resolve).watch watchPlayout app playout ticks) := by
  have hgreeted : (greeted 2).isSome = true := by decide +kernel
  refine ⟨by decide +kernel, by decide +kernel, _, _, (Option.some_get hgreeted).symm, ?_⟩
  decide +kernel

end LiveApp

end Aivtuber
