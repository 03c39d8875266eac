import Aivtuber.App.GenerationFence
import Aivtuber.App.LiveSteps
import Aivtuber.Scheduler.Run

/-!
# Stops and supersession

Two fences of the live application.  A completion is committed only if its generation still
stands, and one that is discarded changes nothing that is played.  After a stop the queues
are empty and no generation stands, so that whatever is executed or committed was queued or
submitted after it.

The numbers of generations end at `2 ^ 64`, and the last one is given to every later
generation.  From there on a superseded generation may pass both fences.
-/

open Saturating

namespace Aivtuber

namespace LiveApp

/-- What the application is composed of at its start. -/
structure Setup where
  security : SecurityRuntime
  cachedReaction : Option String
  assets : AssetStore
  playback : CachedPlaybackConfig
  scheduler : SchedulerConfig
  /-- The capacity of the generation queue, if there is a generative runtime. -/
  queueCapacity : Option Nat
  maxDispatchLatenessMs : Nat

def start (setup : Setup) : LiveApp :=
  .new setup.security setup.cachedReaction (.new setup.assets (.new setup.scheduler) setup.playback)
    (setup.queueCapacity.map .new) setup.maxDispatchLatenessMs

/-- How many generations were submitted, refused ones included. -/
def submissions (app : LiveApp) : Nat := app.generative.elim 0 (·.tokens)

abbrev AppEvent := Machine.Event LiveApp Op Report

/-- The generation that stands. -/
abbrev watchStanding : Option GenerationWork → AppEvent → Option GenerationWork :=
  watchGenerative GenerativeRuntime.trackStanding

/-! ## The timeline is tidy -/

section Tidy

variable {rounding : ℚ → ℚ} {app app' : LiveApp} {op : Op} {report : Report}

theorem plays_tidy {atMs : Nat} {s s' : Scheduler}
    {performance : Option (CachedPlaybackOutcome × Dispatch)}
    (h : CachedPerformer.Plays rounding atMs s s' performance) (hs : s.Tidy) : s'.Tidy := by
  have hrequest : ∀ plan, (s.scheduleAt atMs plan).1.Tidy :=
    fun plan ↦ (Scheduler.scheduleAt_effect hs atMs plan).tidy hs
  cases performance with
  | none =>
    rcases h.silent rfl with rfl | ⟨plan, rejection, hrejected⟩
    · exact hs
    · have htidy := hrequest plan
      rwa [hrejected] at htidy
  | some performed =>
    obtain ⟨⟨plan, haccepted⟩, -⟩ := h.accepted _ _ rfl
    have htidy := hrequest plan
    rwa [haccepted] at htidy

theorem Effect.tidy (h : Effect rounding app op app' report) (hs : app.performer.scheduler.Tidy) :
    app'.performer.scheduler.Tidy := by
  cases h with
  | performs hop hat h => exact plays_tidy h.plays hs
  | presents nowMs hop => exact (Scheduler.advanceTo_steps hs nowMs).tidy hs
  | stops hop hat h => exact h.scheduler ▸ (Scheduler.stopAll_steps hs _).tidy hs
  | stays hop h => exact h.scheduler ▸ hs

variable (rounding) (resolve : String → Except CachedPlaybackError VisemeTrack)

theorem reachable_tidy (setup : Setup) (ops : List Op) :
    ((machine rounding resolve).run (start setup) ops).performer.scheduler.Tidy := by
  refine (machine rounding resolve).run_invariant (P := fun app ↦ app.performer.scheduler.Tidy)
    (fun app op hs ↦ ?_) (Scheduler.new_tidy setup.scheduler) ops
  exact (perform_effect rounding resolve app op).tidy hs

end Tidy

/-! ## Commands of a run -/

/-- The commands that were executed. -/
def executed (reports : List Report) : Dispatch where
  audio := reports.flatMap (·.executed.audio)
  avatar := reports.flatMap (·.executed.avatar)

/-- The commands that performances have queued. -/
def queued (reports : List Report) : Dispatch where
  audio := reports.flatMap fun report ↦ report.performance.elim [] (·.2.audio)
  avatar := reports.flatMap fun report ↦ report.performance.elim [] (·.2.avatar)

/-- The completions that were committed. -/
def committedCompletions (reports : List Report) : List GenerationCompletion :=
  reports.filterMap fun report ↦
    report.drained.bind fun drained ↦ if drained.2 then some drained.1 else none

theorem mem_committedCompletions_cons {report : Report} {reports : List Report}
    {completion : GenerationCompletion} : completion ∈ committedCompletions (report :: reports) ↔
      report.drained = some (completion, true) ∨ completion ∈ committedCompletions reports := by
  obtain ⟨performance, drained, executed, stopped⟩ := report
  rcases drained with _ | ⟨drained, _ | _⟩
  · simp [committedCompletions]
  · simp [committedCompletions]
  · show completion ∈ drained :: committedCompletions reports ↔ _
    rw [List.mem_cons]
    refine or_congr_left ⟨fun h ↦ h ▸ rfl, fun h ↦ ?_⟩
    cases h
    rfl

/-- A run executes what was pending at its start, and what it has queued. -/
theorem executed_subperm (rounding : ℚ → ℚ)
    (resolve : String → Except CachedPlaybackError VisemeTrack) (app : LiveApp) (ops : List Op) :
    (executed ((machine rounding resolve).outputs app ops)).audio.Subperm
        (app.pendingAudio ++ (queued ((machine rounding resolve).outputs app ops)).audio) ∧
      (executed ((machine rounding resolve).outputs app ops)).avatar.Subperm
        (app.pendingAvatar ++ (queued ((machine rounding resolve).outputs app ops)).avatar) :=
  ⟨Machine.flatMap_outputs_subperm _
      (fun app op ↦ (perform_effect rounding resolve app op).audio.subperm) app ops,
    Machine.flatMap_outputs_subperm _
      (fun app op ↦ (perform_effect rounding resolve app op).avatar.subperm) app ops⟩

/-! ## Rounds of draining -/

section Rounds

variable {rounding : ℚ → ℚ} {resolve : String → Except CachedPlaybackError VisemeTrack}
variable {app : LiveApp} {disk : Disk} {nowMs now : Nat}

/-- The completion of a round is the one that the runtime takes, with its verdict. -/
theorem drainRound_drained {drained : GenerationCompletion × Bool}
    (h : (app.drainRound rounding resolve disk nowMs now).2.1 = some drained) :
    ∃ runtime, app.generative = some runtime ∧ (runtime.drainOne now).2 = some drained := by
  rw [drainRound] at h
  split at h
  case h_1 => cases h
  case h_2 runtime hruntime =>
    refine ⟨runtime, hruntime, ?_⟩
    split at h
    case h_1 => cases h
    case h_2 taken completion verdict hround =>
      rw [hround]
      split at h
      case isTrue hdiscarded =>
        cases h
        rw [Bool.not_eq_true'] at hdiscarded
        rw [hdiscarded]
      case isFalse hcommitted =>
        cases h
        rw [Bool.not_eq_true', Bool.not_eq_false] at hcommitted
        rw [hcommitted]

/-- A round that discards. -/
theorem drainRound_discarded {completion : GenerationCompletion}
    (h : (app.drainRound rounding resolve disk nowMs now).2.1 = some (completion, false)) :
    ∃ generative, app.drainRound rounding resolve disk nowMs now =
      ({ app.recordDiscarded completion with generative }, some (completion, false), none) := by
  rw [drainRound] at h ⊢
  split at h
  case h_1 => cases h
  case h_2 runtime hruntime =>
    split at h
    case h_1 => cases h
    case h_2 taken drained verdict hround =>
      split at h
      case isTrue hdiscarded =>
        cases h
        exact ⟨some taken, if_pos hdiscarded⟩
      case isFalse hcommitted => cases h

theorem eq_drain_of_drained {op : Op} {drained : GenerationCompletion × Bool}
    (h : (app.perform rounding resolve op).2.drained = some drained) :
    ∃ disk nowMs now, op = .drain disk nowMs now := by
  cases op with
  | drain disk nowMs now => exact ⟨disk, nowMs, now, rfl⟩
  | control command atMs =>
    rw [perform] at h
    split at h
    · cases h
    · cases h
    · cases h
  | event | present | shutdown | assets | take | complete => cases h

end Rounds

/-- Nothing that is played, or could be, changes in the step. -/
structure Untouched (e : AppEvent) : Prop where
  performer : e.post.performer = e.pre.performer
  pendingAudio : e.post.pendingAudio = e.pre.pendingAudio
  pendingAvatar : e.post.pendingAvatar = e.pre.pendingAvatar
  performance : e.output.performance = none
  executed : e.output.executed = ⟨[], []⟩

theorem recordDiscarded_performer (app : LiveApp) (completion : GenerationCompletion) :
    (app.recordDiscarded completion).performer = app.performer := by
  have hcalls : ∀ (calls : List LlmCallRecord) (app : LiveApp),
      (app.recordGenerationCalls calls).performer = app.performer := by
    intro calls
    induction calls with
    | nil => exact fun _ ↦ rfl
    | cons call calls ih => exact fun app ↦ ih (app.recordGenerationCall call)
  rw [recordDiscarded, recordWorkerOutputDecision]
  cases completion.outputDecision with
  | none => exact hcalls _ _
  | some output => exact hcalls _ _

variable (rounding : ℚ → ℚ) (resolve : String → Except CachedPlaybackError VisemeTrack)

/-- What is drained and discarded touches nothing. -/
theorem drain_untouched (app : LiveApp) (disk : Disk) (nowMs now : Nat)
    {completion : GenerationCompletion}
    (h : (app.drainRound rounding resolve disk nowMs now).2.1 = some (completion, false)) :
    Untouched ((machine rounding resolve).event app (.drain disk nowMs now)) := by
  obtain ⟨generative, hround⟩ := drainRound_discarded h
  have hstage := app.recordDiscarded_sameStage completion
  have hpost : ((machine rounding resolve).event app (.drain disk nowMs now)).post =
      { app.recordDiscarded completion with generative } := congrArg Prod.fst hround
  refine ⟨?_, ?_, ?_, congrArg (·.2.2) hround, rfl⟩
  · rw [hpost]
    exact app.recordDiscarded_performer completion
  · rw [hpost]
    exact hstage.pendingAudio
  · rw [hpost]
    exact hstage.pendingAvatar

/-! ## Supersession -/

/-- The runtime has not cancelled the generation, its deadline has not passed, and the
runtime is not shutting down. -/
def Timely (app : LiveApp) (work : GenerationWork) (now : Nat) : Prop :=
  ∃ runtime, app.generative = some runtime ∧
    runtime.cancellation.isCancelled work.cancellation = false ∧ now < work.providerDeadline ∧
      runtime.shuttingDown = false

/-- Only the generation that stands is committed, and whatever else happens to generations
that are submitted touches nothing. -/
structure CommitsStanding (standing : Option GenerationWork) (e : AppEvent) : Prop where
  committed : ∀ disk nowMs now completion, e.input = .drain disk nowMs now →
    e.output.drained = some (completion, true) →
      standing = some completion.toGenerationWork ∧ e.pre.Timely completion.toGenerationWork now
  discarded : ∀ completion, e.output.drained = some (completion, false) → Untouched e
  /-- The worker. -/
  take : e.input = .take → Untouched e
  complete : ∀ result outputDecision, e.input = .complete result outputDecision → Untouched e

/-- The fences of the generative runtime, where there is one. -/
def Fenced (tokens : Nat) (app : LiveApp) (standing : Option GenerationWork) : Prop :=
  ∀ runtime, app.generative = some runtime →
    runtime.Fenced standing ∧ GenerativeRuntime.Since tokens runtime standing

theorem start_fenced (setup : Setup) : Fenced 0 (start setup) none := by
  intro runtime hruntime
  obtain ⟨capacity, -, rfl⟩ := Option.map_eq_some_iff.mp hruntime
  exact ⟨GenerativeRuntime.new_fenced capacity, Nat.zero_le _, fun _ ↦ nofun⟩

section Fences

variable {rounding resolve} {tokens : Nat} {app : LiveApp} {standing : Option GenerationWork}

theorem Fenced.next (h : Fenced tokens app standing) (op : Op) :
    Fenced tokens ((machine rounding resolve).next app op)
      (watchStanding standing ((machine rounding resolve).event app op)) :=
  app.watchGenerative_next rounding resolve
    (P := fun runtime standing ↦
      runtime.Fenced standing ∧ GenerativeRuntime.Since tokens runtime standing)
    (fun _ _ op h ↦ ⟨h.1.next op, h.2.next op⟩) h op

/-- A completion that is committed is of the generation that stands. -/
theorem Fenced.committed (h : Fenced tokens app standing) (hsubmissions : app.submissions ≤ u64Max)
    {disk : Disk} {nowMs now : Nat} {completion : GenerationCompletion}
    (hdrained : (app.drainRound rounding resolve disk nowMs now).2.1 = some (completion, true)) :
    standing = some completion.toGenerationWork ∧ app.Timely completion.toGenerationWork now ∧
      tokens ≤ completion.cancellation := by
  obtain ⟨runtime, hruntime, hround⟩ := drainRound_drained hdrained
  have htokens : runtime.tokens ≤ u64Max := by
    rw [submissions, hruntime] at hsubmissions
    exact hsubmissions
  obtain ⟨hfenced, hsince⟩ := h runtime hruntime
  obtain ⟨hstanding, hlive, hearly, hopen⟩ := hfenced.committed htokens hround
  exact ⟨hstanding, ⟨runtime, hruntime, hlive, hearly, hopen⟩, hsince.standing _ hstanding⟩

theorem Fenced.commitsStanding (h : Fenced tokens app standing)
    (hsubmissions : app.submissions ≤ u64Max) (op : Op) :
    CommitsStanding standing ((machine rounding resolve).event app op) where
  committed disk nowMs now completion hinput hdrained := by
    obtain rfl : op = .drain disk nowMs now := hinput
    obtain ⟨hstanding, htimely, -⟩ := h.committed hsubmissions hdrained
    exact ⟨hstanding, htimely⟩
  discarded completion hdrained := by
    obtain ⟨disk, nowMs, now, rfl⟩ := eq_drain_of_drained hdrained
    exact drain_untouched rounding resolve app disk nowMs now hdrained
  take hinput := by
    obtain rfl : op = .take := hinput
    exact ⟨rfl, rfl, rfl, rfl, rfl⟩
  complete result outputDecision hinput := by
    obtain rfl : op = .complete result outputDecision := hinput
    exact ⟨rfl, rfl, rfl, rfl, rfl⟩

/-- Numbers of submissions only grow. -/
theorem submissions_le_run (ops : List Op) :
    app.submissions ≤ ((machine rounding resolve).run app ops).submissions := by
  refine (machine rounding resolve).run_invariant (P := fun app' ↦
    app.submissions ≤ app'.submissions) (fun app' op h ↦ h.trans ?_) (Nat.le_refl _) ops
  rw [submissions, submissions, generative_next, nextGenerative]
  cases app'.generative with
  | none => exact Nat.le_refl _
  | some runtime =>
    refine GenerativeRuntime.machine.run_invariant (P := fun runtime' ↦
      runtime.tokens ≤ runtime'.tokens) (fun runtime' op h ↦ ?_) (Nat.le_refl _) _
    exact h.trans (runtime'.tokens_le_next op)

/-- What is committed in a run was submitted when `tokens` tokens had been created, or later. -/
theorem Fenced.committed_since (h : Fenced tokens app standing) {ops : List Op}
    (hsubmissions : ((machine rounding resolve).run app ops).submissions ≤ u64Max) :
    ∀ completion ∈ committedCompletions ((machine rounding resolve).outputs app ops),
      tokens ≤ completion.cancellation := by
  induction ops generalizing app standing with
  | nil => exact fun _ hcompletion ↦ absurd hcompletion List.not_mem_nil
  | cons op ops ih =>
    intro completion hcompletion
    rcases mem_committedCompletions_cons.mp hcompletion with hdrained | hlater
    · obtain ⟨disk, nowMs, now, rfl⟩ := eq_drain_of_drained hdrained
      exact (h.committed ((submissions_le_run _).trans hsubmissions) hdrained).2.2
    · exact ih (h.next op) hsubmissions completion hlater

end Fences

/-! ## Exhausted numbers -/

section Exhaustion

open GenerativeRuntime (Crowded Orphaned askOps viewerMessage)

/-- An application without assets. -/
def bareSetup : Setup where
  security :=
    { maxAuditRecords := 16, contentQueue := [], muted := false, redactor := .new [], audit := []
      auditHighWater := 0, auditEvicted := 0 }
  cachedReaction := none
  assets := .new "assets" ⟨"1", none, none, none, none⟩ fun _ ↦ 1
  playback := .default
  scheduler := .default
  queueCapacity := some 1
  maxDispatchLatenessMs := 250

def emptyDisk : Disk where
  descriptors := .ok []
  read path := .error (.io path "not found")
  createRoot := .ok ()
  pathExists _ := false
  write _ := .ok ()
  remove _ := .ok ()

def noVisemes (visemeRef : String) : Except CachedPlaybackError VisemeTrack :=
  .error (.invalidVisemeReference visemeRef)

/-- The viewer asks for a generation. -/
def ask : Op := .event emptyDisk ⟨viewerMessage, ⟨0, 0⟩, .generate ⟨none, 100, false, none⟩⟩

def answer : Op := .complete (.error "unavailable") none

def round : Op := .drain emptyDisk 0 0

/-- The numbers are used up while the worker is idle.  Then the generation of the queue is
drained, and with it the registration of the one submitted after it. -/
def exhaustion : List Op := List.replicate (2 ^ 64 + 1) ask ++ [.take, ask, answer, round, .take]

variable (rounding : ℚ → ℚ) (resolve : String → Except CachedPlaybackError VisemeTrack)

theorem generative_next_some {app : LiveApp} {runtime : GenerativeRuntime}
    (h : app.generative = some runtime) (op : Op) :
    ((machine rounding resolve).next app op).generative =
      some (GenerativeRuntime.machine.run runtime (app.runtimeOps op)) := by
  rw [generative_next, nextGenerative, h]
  rfl

theorem flood_crowded (n : Nat) :
    ∃ runtime work, ((machine rounding resolve).run (start bareSetup)
        (List.replicate (n + 1) ask)).generative = some runtime ∧
      Crowded runtime work ∧ work.eventId = viewerMessage.eventId ∧ runtime.tokens = n + 1 := by
  induction n with
  | zero =>
    have hnext := generative_next_some rounding resolve
      (rfl : (start bareSetup).generative = some (.new 1)) ask
    exact ⟨_, _, hnext, ⟨rfl, rfl, rfl, rfl, rfl⟩, rfl, rfl⟩
  | succ n ih =>
    obtain ⟨runtime, work, hruntime, hcrowded, hevent, htokens⟩ := ih
    rw [List.replicate_succ', (machine rounding resolve).run_concat]
    refine ⟨_, work, generative_next_some rounding resolve hruntime ask, ?_⟩
    obtain ⟨hcrowded', htokens'⟩ := hcrowded.ask
      (selectFallbackDirective _ ⟨none, 100, false, none⟩ 0)
    exact ⟨hcrowded', hevent, htokens'.trans (by rw [htokens])⟩

/-- Tokens are in order in every reachable state. -/
theorem reachable_numbered (ops : List Op) {runtime : GenerativeRuntime}
    (hruntime : ((machine rounding resolve).run (start bareSetup) ops).generative = some runtime) :
    ∃ latest, runtime.Numbered latest := by
  refine ⟨(machine rounding resolve).watch (watchGenerative GenerativeRuntime.trackLatest)
    (start bareSetup) none ops, ?_⟩
  refine (machine rounding resolve).watch_invariant
    (P := fun app latest ↦ ∀ runtime, app.generative = some runtime → runtime.Numbered latest)
    (fun app latest op h ↦ ?_) (fun runtime hstart ↦ ?_) ops runtime hruntime
  · exact app.watchGenerative_next rounding resolve (fun _ _ op h ↦ h.next op) h op
  · cases hstart
    exact (GenerativeRuntime.new_tracked 1).numbered

theorem exhaustion_orphaned :
    ∃ runtime orphan, ((machine rounding resolve).run (start bareSetup) exhaustion).generative =
      some runtime ∧ Orphaned runtime orphan := by
  obtain ⟨runtime, work, hruntime, hcrowded, hevent, htokens⟩ :=
    flood_crowded rounding resolve (2 ^ 64)
  have hfenced : Fenced 0 _ _ := (machine rounding resolve).watch_invariant (P := Fenced 0)
    (fun _ _ op h ↦ h.next op) (start_fenced bareSetup) (List.replicate (2 ^ 64 + 1) ask)
  obtain ⟨latest, hnumbered⟩ := reachable_numbered rounding resolve _ hruntime
  have hnext : runtime.nextGenerationId = u64Max := by
    rw [(hfenced runtime hruntime).1.counted, htokens]
    exact Nat.min_eq_right (by decide)
  rw [exhaustion, (machine rounding resolve).run_append]
  generalize (machine rounding resolve).run (start bareSetup) (List.replicate (2 ^ 64 + 1) ask) =
    app at hruntime
  have htaken := generative_next_some rounding resolve hruntime .take
  have hasked := generative_next_some rounding resolve htaken ask
  have hanswered := generative_next_some rounding resolve hasked answer
  have hdrained := generative_next_some rounding resolve hanswered round
  obtain ⟨orphan, horphaned⟩ := hcrowded.orphaned
    (selectFallbackDirective _ ⟨none, 100, false, none⟩ 0) (.error "unavailable") hevent hnumbered
    hnext
  exact ⟨_, orphan, generative_next_some rounding resolve hdrained .take, horphaned⟩

/-- What the runtime drains, the application does. -/
theorem drained_of_drainOne {app : LiveApp} {runtime : GenerativeRuntime}
    (hruntime : app.generative = some runtime) {drained : GenerationCompletion × Bool}
    (h : (runtime.drainOne 0).2 = some drained) :
    (app.perform rounding resolve round).2.drained = some drained := by
  obtain ⟨completion, verdict⟩ := drained
  show (app.drainRound rounding resolve emptyDisk 0 0).2.1 = _
  rw [drainRound, hruntime]
  dsimp only
  split
  case h_1 taken hnone =>
    rw [hnone] at h
    cases h
  case h_2 taken completion' verdict' hsome =>
    rw [hsome] at h
    cases h
    cases verdict with
    | false => rfl
    | true => rfl

/-- The orphan is committed after the next submission. -/
theorem orphan_committed {app : LiveApp} {runtime : GenerativeRuntime} {orphan : GenerationWork}
    (hruntime : app.generative = some runtime) (horphaned : Orphaned runtime orphan) :
    (((machine rounding resolve).run app [ask, answer]).perform rounding resolve round).2.drained =
      some (⟨orphan, .error "unavailable", none⟩, true) := by
  have hasked := generative_next_some rounding resolve hruntime ask
  have hanswered := generative_next_some rounding resolve hasked answer
  exact drained_of_drainOne rounding resolve hanswered
    (horphaned.committed (selectFallbackDirective _ ⟨none, 100, false, none⟩ 0) (.error "unavailable"))

/-- Another generation stands by then. -/
theorem other_stands {app : LiveApp} {runtime : GenerativeRuntime} {orphan : GenerationWork}
    (hruntime : app.generative = some runtime) (horphaned : Orphaned runtime orphan)
    (standing : Option GenerationWork) :
    (machine rounding resolve).watch watchStanding app standing [ask, answer] ≠ some orphan := by
  obtain ⟨other, hother, htoken⟩ := horphaned.standing
    (selectFallbackDirective app ⟨none, 100, false, none⟩ 0) standing
  have hasked : watchStanding standing ((machine rounding resolve).event app ask) = some other := by
    show app.generative.elim standing _ = _
    rw [hruntime]
    exact hother
  have hanswered : (machine rounding resolve).watch watchStanding app standing [ask, answer] =
      some other := by
    show ((machine rounding resolve).next app ask).generative.elim (watchStanding standing
      ((machine rounding resolve).event app ask)) _ = _
    rw [hasked, generative_next_some rounding resolve hruntime ask]
    rfl
  rw [hanswered]
  rintro heq
  obtain rfl := Option.some.inj heq
  exact Nat.lt_irrefl _ (htoken ▸ horphaned.created)

def operatorStop : EventEnvelope where
  schemaVersion := eventSchemaVersion
  eventId := "operator-1"
  correlationId := "operator-1"
  sequence := 1
  observedAt := "2024-01-01T00:00:00Z"
  source := "control"
  sourceClass := .operator
  plane := .control
  trustLevel := .trusted
  kind := .operatorCommand
  actorId := none
  priorityHint := none
  authorization := some ⟨"operator", .operatorUi, {.performerStop}⟩
  payload := Std.ExtTreeMap.insert ∅ "action" (.string "stop")

def stopCommand : AuthenticatedControlCommand where
  event := operatorStop
  authority := ⟨"operator", .operatorUi, {.performerStop}⟩
  valid :=
    { schemaVersion := rfl
      eventId := by decide
      correlationId := by decide
      observedAt := by decide +kernel
      source := by decide
      priorityHint := nofun
      kind := ⟨rfl, rfl, rfl, _, rfl, by decide, by decide⟩ }
  operatorCommand := rfl
  authorized := rfl

def stop : Op := .control stopCommand 0

theorem stop_applied (app : LiveApp) : ∃ stopped cancelled,
    app.applyControl stopCommand 0 = .ok (stopped, .stopped cancelled) := by
  have hcontrol := SecurityRuntime.handleControl_stop app.security app.performer.scheduler 0
    (show stopCommand.event.payload["action"]? = _ by simp [stopCommand, operatorStop])
    (show .performerStop ∈ stopCommand.authority.capabilities by decide)
  rw [applyControl, hcontrol]
  exact ⟨_, _, rfl⟩
/-- A stop does not find the orphan. -/
theorem stop_orphaned {app : LiveApp} {runtime : GenerativeRuntime} {orphan : GenerationWork}
    (hruntime : app.generative = some runtime) (horphaned : Orphaned runtime orphan) :
    ((machine rounding resolve).next app stop).generative = some runtime := by
  obtain ⟨stopped, cancelled, happlied⟩ := stop_applied app
  rw [generative_next_some rounding resolve hruntime stop, stop, runtimeOps, happlied]
  obtain ⟨queueCapacity, shuttingDown, queue, inFlight, mailbox, ⟨active, flags⟩, tokens,
    nextGenerationId, activeGenerationId⟩ := runtime
  obtain rfl : active = none := horphaned.active
  rfl

end Exhaustion

/-- **Supersession safety.**  In every run, as long as fewer than `2 ^ 64` generations were
submitted, only the generation that stands is committed, before its deadline. -/
theorem commits_standing (setup : Setup) (ops : List Op) :
    (machine rounding resolve).Meets watchStanding
      (fun standing e ↦ e.pre.submissions ≤ u64Max → CommitsStanding standing e)
      (start setup) none ops :=
  (machine rounding resolve).meets_of_watch (P := Fenced 0) (fun _ _ op h ↦ h.next op)
    (fun _ _ op h hsubmissions ↦ h.commitsStanding hsubmissions op) (start_fenced setup) ops

/-- With the numbers used up, a superseded generation is committed. -/
theorem superseded_committed : ¬ (machine id noVisemes).Meets watchStanding
    CommitsStanding (start bareSetup) none (exhaustion ++ [ask, answer, round]) := by
  intro h
  obtain ⟨runtime, orphan, hruntime, horphaned⟩ := exhaustion_orphaned id noVisemes
  have hlater := ((machine id noVisemes).meets_append.mp h).2
  generalize (machine id noVisemes).run (start bareSetup) exhaustion = app at hruntime hlater
  generalize (machine id noVisemes).watch watchStanding (start bareSetup) none exhaustion = standing
    at hlater
  obtain ⟨-, -, hround, -⟩ := hlater
  obtain ⟨hstanding, -⟩ := hround.committed emptyDisk 0 0 _ rfl
    (orphan_committed id noVisemes hruntime horphaned)
  exact other_stands id noVisemes hruntime horphaned standing hstanding

/-! ## Stops -/

section Stops

variable {rounding resolve} {app : LiveApp} {op : Op}

/-- No generation stands after a stop. -/
theorem watchStanding_stopped (standing : Option GenerationWork)
    (hstopped : (app.perform rounding resolve op).2.stopped = true) {runtime : GenerativeRuntime}
    (hruntime : app.generative = some runtime) :
    watchStanding standing ((machine rounding resolve).event app op) = none := by
  show app.generative.elim standing _ = none
  rw [hruntime]
  cases op with
  | control command atMs =>
    rw [perform] at hstopped
    split at hstopped
    case h_1 => cases hstopped
    case h_2 app' cancelled happlied =>
      show GenerativeRuntime.machine.watch _ runtime standing
        (app.runtimeOps (.control command atMs)) = none
      rw [runtimeOps, happlied]
      rfl
    case h_3 => cases hstopped
  | shutdown atMs => rfl
  | event | drain | present | assets | take | complete => cases hstopped

/-- Nothing is pending after a stop. -/
theorem Effect.pending_stopped {app' : LiveApp} {report : Report}
    (h : Effect rounding app op app' report) (hs : app.performer.scheduler.Tidy)
    (hstopped : report.stopped = true) : app'.pendingAudio = [] ∧ app'.pendingAvatar = [] := by
  cases h with
  | performs hop hat h hexecuted hnot =>
    rw [hnot] at hstopped
    cases hstopped
  | presents | stays => cases hstopped
  | @stops _ atMs hop hat h =>
    have hitems : app'.performer.scheduler.items = [] :=
      h.scheduler ▸ Scheduler.stopAll_items hs atMs
    rw [h.pendingAudio, h.pendingAvatar]
    exact ⟨purgePending_eq_nil hitems _, purgePending_eq_nil hitems _⟩

/-- After a stop the fences of the generative runtime are closed. -/
theorem fenced_stopped {standing : Option GenerationWork} (h : Fenced 0 app standing)
    (hstopped : (app.perform rounding resolve op).2.stopped = true) :
    Fenced ((machine rounding resolve).next app op).submissions
      ((machine rounding resolve).next app op) none := by
  intro runtime hruntime
  have hfenced := (h.next op runtime hruntime).1
  have hbefore : ∃ before, app.generative = some before := by
    rw [generative_next, nextGenerative, Option.map_eq_some_iff] at hruntime
    obtain ⟨before, hbefore, -⟩ := hruntime
    exact ⟨before, hbefore⟩
  obtain ⟨before, hbefore⟩ := hbefore
  rw [watchStanding_stopped standing hstopped hbefore] at hfenced
  refine ⟨hfenced, ?_, fun _ hnone ↦ ?_⟩
  · rw [submissions, hruntime]
    exact Nat.le_refl _
  · cases hnone

end Stops

/-- **The stop fence.**  Whatever is executed after a stop was queued after it, and, as long
as fewer than `2 ^ 64` generations were submitted, whatever is committed was submitted after
it. -/
theorem stop_fence (setup : Setup) (before : List Op) (op : Op) (later : List Op)
    (hstopped : (((machine rounding resolve).run (start setup) before).perform rounding resolve
      op).2.stopped = true) :
    let stopped := (machine rounding resolve).run (start setup) (before ++ [op])
    let reports := (machine rounding resolve).outputs stopped later
    (executed reports).audio.Subperm (queued reports).audio ∧
      (executed reports).avatar.Subperm (queued reports).avatar ∧
      (((machine rounding resolve).run stopped later).submissions ≤ u64Max →
        ∀ completion ∈ committedCompletions reports,
          stopped.submissions ≤ completion.cancellation) := by
  dsimp only
  have htidy := reachable_tidy rounding resolve setup before
  have hfenced : Fenced 0 ((machine rounding resolve).run (start setup) before) _ :=
    (machine rounding resolve).watch_invariant (P := Fenced 0) (fun _ _ op h ↦ h.next op)
      (start_fenced setup) before
  rw [(machine rounding resolve).run_concat]
  obtain ⟨haudio, havatar⟩ :
      ((machine rounding resolve).next _ op).pendingAudio = [] ∧
        ((machine rounding resolve).next _ op).pendingAvatar = [] :=
    (perform_effect rounding resolve _ op).pending_stopped htidy hstopped
  have hexecuted := executed_subperm rounding resolve
    ((machine rounding resolve).next ((machine rounding resolve).run (start setup) before) op) later
  rw [haudio, havatar, List.nil_append, List.nil_append] at hexecuted
  exact ⟨hexecuted.1, hexecuted.2, fun hsubmissions ↦
    (fenced_stopped hfenced hstopped).committed_since hsubmissions⟩

theorem stop_fence_shutdown :
    let stopped := (machine id noVisemes).run (start bareSetup) ([ask] ++ [.shutdown 5])
    let reports := (machine id noVisemes).outputs stopped [.take, answer, round, .present 6]
    (executed reports).audio.Subperm (queued reports).audio ∧
      (executed reports).avatar.Subperm (queued reports).avatar ∧
      (((machine id noVisemes).run stopped [.take, answer, round, .present 6]).submissions ≤ u64Max →
        ∀ completion ∈ committedCompletions reports,
          stopped.submissions ≤ completion.cancellation) :=
  stop_fence id noVisemes bareSetup [ask] (.shutdown 5) [.take, answer, round, .present 6] rfl

/-- With the numbers used up, a generation is committed after a stop that came after its
submission. -/
theorem stopped_generation_committed :
    let app := (machine id noVisemes).run (start bareSetup) exhaustion
    let stopped := (machine id noVisemes).next app stop
    (app.perform id noVisemes stop).2.stopped = true ∧
      ∃ completion ∈ committedCompletions
          ((machine id noVisemes).outputs stopped [ask, answer, round]),
        completion.cancellation < stopped.submissions := by
  obtain ⟨runtime, orphan, hruntime, horphaned⟩ := exhaustion_orphaned id noVisemes
  dsimp only
  generalize (machine id noVisemes).run (start bareSetup) exhaustion = app at hruntime
  have hstopped := stop_orphaned id noVisemes hruntime horphaned
  refine ⟨?_, ⟨orphan, .error "unavailable", none⟩, ?_, ?_⟩
  · obtain ⟨stopped, cancelled, happlied⟩ := stop_applied app
    rw [stop, perform, happlied]
  · generalize (machine id noVisemes).next app stop = later at hstopped
    have hround := orphan_committed id noVisemes hstopped horphaned
    refine mem_committedCompletions_cons.mpr (.inr ?_)
    refine mem_committedCompletions_cons.mpr (.inr ?_)
    exact mem_committedCompletions_cons.mpr (.inl hround)
  · rw [submissions, hstopped]
    exact horphaned.created
end LiveApp

end Aivtuber
