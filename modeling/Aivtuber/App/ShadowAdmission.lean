import Aivtuber.App.Budget
import Aivtuber.App.ShadowQuiescence

/-!
# Admission of shadow jobs

`commit_shadow_budget` of `crates/app/src/lib.rs`: a staged job is charged to the budget
governor and then committed.  Only the composer fills the queue, so a job that was staged
finds room at its commit: the governor alone refuses it, before anything is charged.
-/

open Pool Saturating

namespace Aivtuber

def BudgetAdmission.shadow : BudgetAdmission where
  priority := .shadow
  estimatedTtsChars := 0
  estimatedCostMilliunits := 0

/-- The orchestrator and the governor of an application. -/
structure ShadowHost (ρ : Type) where
  orchestrator : ShadowOrchestrator ρ
  budget : Option GenerativeBudgetGovernor

namespace ShadowHost

variable {ρ : Type}

inductive Action (ρ : Type) where
  | pool (action : ShadowOrchestrator.Action ρ)
  | commitShadowBudget (atMs : Nat)
  /-- What the rest of the application does to the governor. -/
  | govern (budget : Option GenerativeBudgetGovernor)

/-- Whether the staged job is admitted.  Its reservation is settled for nothing at once, and
dropped. -/
def admitShadow (budget : Option GenerativeBudgetGovernor) (atMs : Nat) :
    Option GenerativeBudgetGovernor × Bool :=
  match budget with
  | none => (none, true)
  | some governor =>
    match governor.tryAdmit .shadow atMs with
    | (governor, .ok reservation) =>
      let (reservation, governor) := reservation.settle governor 0 0
      (some (reservation.drop governor), true)
    | (governor, .error _) => (some governor, false)

/-- The budget and the verdict for a staged job. -/
def verdict (host : ShadowHost ρ) (atMs : Nat) : Option GenerativeBudgetGovernor × Bool :=
  if host.orchestrator.config.chargeShadowToBudget then admitShadow host.budget atMs
  else (host.budget, true)

/-- The budget, and the first step of the commit. -/
def commitShadowBudget (host : ShadowHost ρ) (atMs : Nat) :
    ShadowHost ρ × Option (ShadowReply ρ) :=
  if host.orchestrator.isIdle && host.orchestrator.staged.isSome then
    let verdict := host.verdict atMs
    ({ orchestrator := (host.orchestrator.commitWithBudget verdict.2).1, budget := verdict.1 },
      (host.orchestrator.commitWithBudget verdict.2).2)
  else (host, none)

def step (host : ShadowHost ρ) : Action ρ → ShadowHost ρ × Option (ShadowReply ρ)
  | .pool action =>
    ({ host with orchestrator := (host.orchestrator.step action).1 },
      (host.orchestrator.step action).2)
  | .commitShadowBudget atMs => host.commitShadowBudget atMs
  | .govern budget => ({ host with budget }, none)

def machine : Machine (ShadowHost ρ) (Action ρ) (Option (ShadowReply ρ)) := ⟨step⟩

def new (config : ShadowOrchestratorConfig) (budget : Option GenerativeBudgetGovernor) :
    ShadowHost ρ where
  orchestrator := .new config
  budget := budget

end ShadowHost

/-! ## Room in the queue -/

/-- The composer is not about to push, to refuse or to close the queue. -/
def ShadowComposer.isCalm {ρ : Type} : ShadowComposer ρ → Bool
  | noted _ | refused _ | closing => false
  | _ => true

namespace ShadowOrchestrator

variable {ρ : Type} {orchestrator : ShadowOrchestrator ρ}

def hasRoom (orchestrator : ShadowOrchestrator ρ) : Prop :=
  orchestrator.queue.length < orchestrator.config.queueCapacity

/-- A job that is staged, or on its way to the queue, has its place there. -/
structure Roomy (orchestrator : ShadowOrchestrator ρ) : Prop where
  closed : orchestrator.closed = true → orchestrator.shuttingDown = true
  closing : orchestrator.composer = .closing → orchestrator.shuttingDown = true
  staged : orchestrator.staged.isSome = true → orchestrator.hasRoom
  shuttingDown : orchestrator.staged.isSome = true → orchestrator.shuttingDown = true →
    orchestrator.composer = .closing ∨ orchestrator.composer = .cancelling
  noted : ∀ job, orchestrator.composer = .noted job →
    orchestrator.closed = false ∧ orchestrator.hasRoom ∧ orchestrator.staged = none
  refused : ∀ refusal, orchestrator.composer ≠ .refused refusal

theorem new_roomy (config : ShadowOrchestratorConfig) :
    (new config : ShadowOrchestrator ρ).Roomy :=
  ⟨nofun, nofun, nofun, nofun, fun _ ↦ nofun, fun _ ↦ nofun⟩

/-- A calm composer. -/
theorem Roomy.of_calm {orchestrator : ShadowOrchestrator ρ}
    (hcalm : orchestrator.composer.isCalm = true)
    (hclosed : orchestrator.closed = true → orchestrator.shuttingDown = true)
    (hstaged : orchestrator.staged.isSome = true → orchestrator.hasRoom)
    (hshuttingDown : orchestrator.staged.isSome = true → orchestrator.shuttingDown = true →
      orchestrator.composer = .closing ∨ orchestrator.composer = .cancelling) :
    orchestrator.Roomy where
  closed := hclosed
  closing hcomposer := by
    rw [hcomposer] at hcalm
    cases hcalm
  staged := hstaged
  shuttingDown := hshuttingDown
  noted job hcomposer := by
    rw [hcomposer] at hcalm
    cases hcalm
  refused refusal hcomposer := by
    rw [hcomposer] at hcalm
    cases hcalm

/-- A calm composer with no staged job. -/
theorem Roomy.of_unstaged (hstaged : orchestrator.staged = none)
    (hclosed : orchestrator.closed = true → orchestrator.shuttingDown = true)
    (hcalm : orchestrator.composer.isCalm = true) : orchestrator.Roomy := by
  apply of_calm hcalm hclosed
  all_goals
    rw [hstaged]
    exact nofun

/-- A calm composer that leaves the queue and the staged job alone. -/
theorem Roomy.keep (h : orchestrator.Roomy) {orchestrator' : ShadowOrchestrator ρ}
    (hconfig : orchestrator'.config = orchestrator.config)
    (hshuttingDown : orchestrator'.shuttingDown = orchestrator.shuttingDown)
    (hclosed : orchestrator'.closed = orchestrator.closed)
    (hstaged : orchestrator'.staged = orchestrator.staged)
    (hqueue : orchestrator'.queue = orchestrator.queue)
    (hbefore : orchestrator.composer ≠ .closing ∧ orchestrator.composer ≠ .cancelling)
    (hcalm : orchestrator'.composer.isCalm = true) : orchestrator'.Roomy := by
  apply of_calm hcalm
  · rw [hshuttingDown, hclosed]
    exact h.closed
  · rw [hstaged, hasRoom, hqueue, hconfig]
    exact h.staged
  · rw [hstaged, hshuttingDown]
    intro hsome hdown
    rcases h.shuttingDown hsome hdown with hcomposer | hcomposer
    · exact absurd hcomposer hbefore.1
    · exact absurd hcomposer hbefore.2

theorem Roomy.of_kept (h : orchestrator.Roomy) {orchestrator' : ShadowOrchestrator ρ}
    (hkept : orchestrator.Kept orchestrator') : orchestrator'.Roomy := by
  have hroom : orchestrator.hasRoom → orchestrator'.hasRoom := by
    intro hroom
    rw [hasRoom, hkept.config]
    exact Nat.lt_of_le_of_lt hkept.queue.length_le hroom
  refine ⟨?_, ?_, ?_, ?_, ?_, ?_⟩
  · rw [hkept.shuttingDown, hkept.closed]
    exact h.closed
  · rw [hkept.shuttingDown, hkept.composer]
    exact h.closing
  · rw [hkept.staged]
    exact fun hsome ↦ hroom (h.staged hsome)
  · rw [hkept.staged, hkept.shuttingDown, hkept.composer]
    exact h.shuttingDown
  · rw [hkept.composer, hkept.closed, hkept.staged]
    intro job hjob
    obtain ⟨hclosed, hhas, hstaged⟩ := h.noted job hjob
    exact ⟨hclosed, hroom hhas, hstaged⟩
  · rw [hkept.composer]
    exact h.refused

/-- An idle composer with a staged job is not in a shutdown. -/
theorem Roomy.open (h : orchestrator.Roomy) (hidle : orchestrator.composer = .idle)
    (hstaged : orchestrator.staged.isSome = true) : orchestrator.closed = false := by
  rw [← Bool.not_eq_true]
  intro hclosed
  have hstopping := h.shuttingDown hstaged (h.closed hclosed)
  rw [hidle] at hstopping
  rcases hstopping with hcomposer | hcomposer
  all_goals cases hcomposer

theorem Roomy.commitWithBudget (h : orchestrator.Roomy) (hidle : orchestrator.composer = .idle)
    (admitted : Bool) : (orchestrator.commitWithBudget admitted).1.Roomy := by
  rw [ShadowOrchestrator.commitWithBudget]
  split
  · split
    case h_1 => exact h
    case h_2 job hstaged =>
      have hsome : orchestrator.staged.isSome = true := by rw [hstaged]; rfl
      refine ⟨h.closed, fun hclosing ↦ ?_, fun hnone ↦ ?_, fun hnone ↦ ?_, fun _ _ ↦ ?_,
        fun _ hrefused ↦ ?_⟩
      · cases hclosing
      · cases hnone
      · cases hnone
      · exact ⟨h.open hidle hsome, h.staged hsome, rfl⟩
      · cases hrefused
  · exact of_unstaged rfl h.closed rfl

theorem Roomy.stage (h : orchestrator.Roomy) (hidle : orchestrator.composer = .idle)
    (event : EventEnvelope) : (orchestrator.stage event).1.Roomy := by
  have hskip : ∀ reason,
      ({ orchestrator with staged := none }.skip reason : _ × Option (ShadowReply ρ)).1.Roomy :=
    fun _ ↦ of_unstaged rfl h.closed rfl
  rw [ShadowOrchestrator.stage]
  split
  · exact hskip _
  · split_ifs
    case pos => exact hskip _
    case pos => exact h
    case pos => exact hskip _
    case neg hopen _ hfull =>
      refine of_calm ?_ h.closed (fun _ ↦ Nat.lt_of_not_le hfull) fun _ hdown ↦ absurd hdown hopen
      rw [show _ = orchestrator.composer from rfl, hidle]
      rfl

theorem Roomy.call (h : orchestrator.Roomy) (hidle : orchestrator.composer = .idle)
    (call : ShadowCall) : (orchestrator.call call).1.Roomy := by
  have hcalm : orchestrator.composer.isCalm = true := by
    rw [hidle]
    rfl
  have hbefore : orchestrator.composer ≠ .closing ∧ orchestrator.composer ≠ .cancelling := by
    rw [hidle]
    exact ⟨fun h ↦ (by cases h), fun h ↦ (by cases h)⟩
  cases call with
  | stage event => exact h.stage hidle event
  | commitWithBudget admitted => exact h.commitWithBudget hidle admitted
  | discardStaged => exact of_unstaged rfl h.closed hcalm
  | supersedeSource event =>
    rw [ShadowOrchestrator.call, supersede]
    split
    · exact h
    · exact h.keep rfl rfl rfl rfl rfl hbefore hcalm
  | drain =>
    rw [ShadowOrchestrator.call]
    split
    · exact h.keep rfl rfl rfl rfl rfl hbefore rfl
    · exact h
  | snapshot => exact h.keep rfl rfl rfl rfl rfl hbefore rfl
  | shutdown =>
    refine ⟨fun _ ↦ rfl, fun _ ↦ rfl, h.staged, fun _ _ ↦ Or.inl rfl, fun _ hnoted ↦ ?_,
      fun _ hrefused ↦ ?_⟩
    · cases hnoted
    · cases hrefused

theorem Roomy.composerStep (h : orchestrator.Roomy) :
    (orchestrator.composerStep orchestrator.composer).1.Roomy := by
  cases hcomposer : orchestrator.composer with
  | idle => exact h
  | noted job =>
    obtain ⟨hclosed, hroom, hstaged⟩ := h.noted job hcomposer
    rw [ShadowOrchestrator.composerStep, tryPushSuperseding, hclosed, if_neg Bool.false_ne_true]
    split
    · exact h
    · rw [if_neg (Nat.not_le_of_lt hroom)]
      refine of_unstaged hstaged (fun hclosed ↦ ?_) rfl
      cases hclosed
  | refused refusal => exact absurd hcomposer (h.refused refusal)
  | closing =>
    refine of_calm rfl (fun _ ↦ h.closing hcomposer) h.staged fun _ _ ↦ Or.inr rfl
  | cancelling => exact of_unstaged rfl h.closed rfl
  | joining =>
    rw [ShadowOrchestrator.composerStep]
    split
    · refine h.keep rfl rfl rfl rfl rfl ?_ rfl
      rw [hcomposer]
      exact ⟨fun h ↦ (by cases h), fun h ↦ (by cases h)⟩
    · exact h
  | admitted | skipping | received | released | readPending | readInFlight =>
    refine h.keep rfl rfl rfl rfl rfl ?_ rfl
    rw [hcomposer]
    exact ⟨fun h ↦ (by cases h), fun h ↦ (by cases h)⟩

theorem Roomy.next (h : orchestrator.Roomy) (action : Action ρ) :
    (machine.next orchestrator action).Roomy := by
  cases action with
  | call call =>
    show (step orchestrator (.call call)).1.Roomy
    rw [step]
    split
    case isTrue hidle => exact h.call (isIdle_iff.mp hidle) call
    case isFalse => exact h
  | proceed => exact h.composerStep
  | work i evaluation =>
    show ((orchestrator.workers[i]?).elim orchestrator
      (orchestrator.workerStep i evaluation)).Roomy
    cases orchestrator.workers[i]? with
    | none => exact h
    | some worker => exact h.of_kept (workerStep_kept orchestrator i evaluation worker)

/-- No update of the counters is half done. -/
structure Quiet (orchestrator : ShadowOrchestrator ρ) : Prop where
  ahead : orchestrator.composer.ahead = 0
  behind : orchestrator.composer.behind = 0
  workers : ∀ worker ∈ orchestrator.workers, worker.halfDone = 0

/-- What was admitted is pending, in flight, awaiting its drain, drained or dropped. -/
theorem Counted.conserved (h : orchestrator.Counted) (hquiet : orchestrator.Quiet) :
    (orchestrator.counters.submitted : Int) = orchestrator.counters.pending +
      orchestrator.counters.inFlight + orchestrator.counters.awaitingDrain +
      orchestrator.counters.completed + orchestrator.counters.droppedCompletionMailboxFull := by
  have hsubmitted := h.submitted
  rw [hquiet.ahead, hquiet.behind, load_eq_zero hquiet.workers] at hsubmitted
  rw [ShadowCounters.tracked] at hsubmitted
  omega

/-- The orchestrator after a refusal: the reason is counted and noted, and nothing is staged. -/
def afterRefusal (orchestrator : ShadowOrchestrator ρ) (reason : ShadowSkipReason) :
    ShadowOrchestrator ρ :=
  { orchestrator with
    counters := orchestrator.counters.noteSkipped reason
    staged := none
    lastSubmission := some (.skipped reason) }

theorem skip_eq_afterRefusal (hidle : orchestrator.composer = .idle) (reason : ShadowSkipReason) :
    { orchestrator with staged := none }.skip reason =
      (orchestrator.afterRefusal reason, some (.submission (.skipped reason))) := by
  rw [skip, afterRefusal, hidle]

theorem stage_refused (hidle : orchestrator.composer = .idle) {event : EventEnvelope}
    {reason : ShadowSkipReason}
    (hout : (orchestrator.stage event).2 = some (.submission (.skipped reason))) :
    (orchestrator.stage event).1 = orchestrator.afterRefusal reason := by
  have hskip : ∀ reason', (({ orchestrator with staged := none }.skip reason').2 :
      Option (ShadowReply ρ)) = some (.submission (.skipped reason)) →
      ({ orchestrator with staged := none }.skip reason' : _ × Option (ShadowReply ρ)).1 =
        orchestrator.afterRefusal reason := by
    intro reason' hout'
    obtain rfl : reason' = reason := by
      rw [skip] at hout'
      simpa using hout'
    rw [skip_eq_afterRefusal hidle]
  rw [stage] at hout ⊢
  split at hout
  · exact hskip _ hout
  · split_ifs at hout ⊢
    · exact hskip _ hout
    · exact hskip _ hout
    · cases hout

end ShadowOrchestrator

/-! ## Refusals -/

namespace ShadowHost

variable {ρ : Type}

abbrev HostEvent (ρ : Type) :=
  Machine.Event (ShadowHost ρ) (Action ρ) (Option (ShadowReply ρ))

/-- What holds of every step. -/
structure Accounted (_ : Unit) (e : HostEvent ρ) : Prop where
  conserved : e.post.orchestrator.Quiet →
    (e.post.orchestrator.counters.submitted : Int) = e.post.orchestrator.counters.pending +
      e.post.orchestrator.counters.inFlight + e.post.orchestrator.counters.awaitingDrain +
      e.post.orchestrator.counters.completed +
      e.post.orchestrator.counters.droppedCompletionMailboxFull
  /-- A refused stage counts its reason, and leaves the budget alone. -/
  stage : ∀ event reason, e.input = .pool (.call (.stage event)) →
    e.output = some (.submission (.skipped reason)) →
    e.post = { e.pre with orchestrator := e.pre.orchestrator.afterRefusal reason }
  /-- The queue refuses no staged job. -/
  queue : ∀ refusal, e.post.orchestrator.composer ≠ .refused refusal
  denied : e.input = .pool (.call (.commitWithBudget false)) →
    e.pre.orchestrator.composer = .idle →
    e.post = { e.pre with orchestrator := e.pre.orchestrator.afterRefusal .budgetDenied }
  /-- A refused commit is one that the governor denies, which charges nothing. -/
  commit : ∀ atMs reason, e.input = .commitShadowBudget atMs →
    e.output = some (.submission (.skipped reason)) →
    ∃ governor denial, e.pre.budget = some governor ∧ reason = .budgetDenied ∧
      e.post = { orchestrator := e.pre.orchestrator.afterRefusal .budgetDenied
                 budget := some ((governor.trimWindows atMs).deny denial) }
  /-- With nothing staged a commit does nothing. -/
  unstaged : ∀ atMs, e.input = .commitShadowBudget atMs → e.pre.orchestrator.staged = none →
    e.post = e.pre

theorem commitShadowBudget_orchestrator (host : ShadowHost ρ) (atMs : Nat) :
    (host.commitShadowBudget atMs).1.orchestrator = host.orchestrator ∨
      host.orchestrator.composer = .idle ∧ ∃ admitted,
        (host.commitShadowBudget atMs).1.orchestrator =
          (host.orchestrator.commitWithBudget admitted).1 := by
  rw [commitShadowBudget]
  split
  case isTrue hready =>
    rw [Bool.and_eq_true] at hready
    exact Or.inr ⟨ShadowOrchestrator.isIdle_iff.mp hready.1, _, rfl⟩
  case isFalse => exact Or.inl rfl

theorem tryAdmit_eq_error {governor governor' : GenerativeBudgetGovernor}
    {admission : BudgetAdmission} {nowMs : Nat} {reason : BudgetDenialReason}
    (h : governor.tryAdmit admission nowMs = (governor', .error reason)) :
    governor' = (governor.trimWindows nowMs).deny reason := by
  rw [GenerativeBudgetGovernor.tryAdmit] at h
  split_ifs at h
  · cases (Prod.mk.inj h).2
  · cases (Prod.mk.inj h).2
  · dsimp only at h
    split at h
    · obtain ⟨rfl, hreason⟩ := Prod.mk.inj h
      rw [Except.error.inj hreason]
    · cases (Prod.mk.inj h).2

/-- A job that is not admitted was denied by a governor, which trims and counts. -/
theorem admitShadow_denied {budget : Option GenerativeBudgetGovernor} {atMs : Nat}
    (h : (admitShadow budget atMs).2 = false) :
    ∃ governor denial, budget = some governor ∧
      (admitShadow budget atMs).1 = some ((governor.trimWindows atMs).deny denial) := by
  cases budget with
  | none => cases h
  | some governor =>
    rw [admitShadow] at h ⊢
    split at h
    case h_1 => cases h
    case h_2 governor' denial hadmit =>
      refine ⟨governor, denial, rfl, ?_⟩
      rw [tryAdmit_eq_error hadmit]

/-- A commit that is refused was denied by the governor. -/
theorem commitShadowBudget_refused {host : ShadowHost ρ} {atMs : Nat} {reason : ShadowSkipReason}
    (hout : (host.commitShadowBudget atMs).2 = some (.submission (.skipped reason))) :
    ∃ governor denial, host.budget = some governor ∧ reason = .budgetDenied ∧
      (host.commitShadowBudget atMs).1 =
        { orchestrator := host.orchestrator.afterRefusal .budgetDenied
          budget := some ((governor.trimWindows atMs).deny denial) } := by
  rw [commitShadowBudget] at hout ⊢
  split at hout
  case isFalse => cases hout
  case isTrue hready =>
    rw [if_pos hready]
    rw [Bool.and_eq_true, ShadowOrchestrator.isIdle_iff] at hready
    obtain ⟨hidle, hstaged⟩ := hready
    obtain ⟨job, hjob⟩ := Option.isSome_iff_exists.mp hstaged
    dsimp only at hout ⊢
    cases hadmitted : (host.verdict atMs).2 with
    | true =>
      -- an admitted job is noted, and its commit goes on
      rw [hadmitted, ShadowOrchestrator.commitWithBudget, if_pos rfl, hjob] at hout
      cases hout
    | false =>
      rw [hadmitted, show host.orchestrator.commitWithBudget false = _ from
        ShadowOrchestrator.skip_eq_afterRefusal hidle .budgetDenied] at hout
      obtain rfl : ShadowSkipReason.budgetDenied = reason := by simpa using hout
      rw [verdict] at hadmitted ⊢
      split at hadmitted
      case isTrue hcharge =>
        obtain ⟨governor, denial, hbudget, htrimmed⟩ := admitShadow_denied hadmitted
        refine ⟨governor, denial, hbudget, rfl, ?_⟩
        rw [if_pos hcharge, htrimmed, show host.orchestrator.commitWithBudget false = _ from
          ShadowOrchestrator.skip_eq_afterRefusal hidle .budgetDenied]
      case isFalse => cases hadmitted

/-- The invariant of the host. -/
structure Sound (host : ShadowHost ρ) (_ : Unit) : Prop where
  counted : host.orchestrator.Counted
  roomy : host.orchestrator.Roomy

theorem Sound.next {host : ShadowHost ρ} (h : host.Sound ()) (action : Action ρ) :
    (machine.next host action).Sound () := by
  cases action with
  | pool action => exact ⟨h.counted.next action, h.roomy.next action⟩
  | commitShadowBudget atMs =>
    show (host.commitShadowBudget atMs).1.Sound ()
    rcases host.commitShadowBudget_orchestrator atMs with hsame | ⟨hidle, admitted, hcommit⟩
    · refine ⟨?_, ?_⟩
      · rw [hsame]
        exact h.counted
      · rw [hsame]
        exact h.roomy
    · refine ⟨?_, ?_⟩
      · rw [hcommit]
        exact h.counted.call hidle (.commitWithBudget admitted)
      · rw [hcommit]
        exact h.roomy.commitWithBudget hidle admitted
  | govern budget => exact ⟨h.counted, h.roomy⟩

theorem Sound.accounted {host : ShadowHost ρ} (h : host.Sound ()) (action : Action ρ) :
    Accounted () (machine.event host action) := by
  have hnext := h.next action
  refine ⟨hnext.counted.conserved, ?_, hnext.roomy.refused, ?_, ?_, ?_⟩
  · rintro event reason rfl hout
    have hstep : (host.orchestrator.step (.call (.stage event))).2 =
        some (.submission (.skipped reason)) := hout
    show { host with orchestrator := (host.orchestrator.step (.call (.stage event))).1 } = _
    rw [ShadowOrchestrator.step] at hstep ⊢
    split at hstep
    case isTrue hidle =>
      rw [if_pos hidle]
      rw [ShadowOrchestrator.isIdle_iff] at hidle
      rw [show (host.orchestrator.call (.stage event)).1 = _ from
        ShadowOrchestrator.stage_refused hidle hstep]
      rfl
    case isFalse => cases hstep
  · rintro rfl hidle
    have hidle : host.orchestrator.composer = .idle := hidle
    show { host with orchestrator := (host.orchestrator.step (.call (.commitWithBudget false))).1 } =
      _
    rw [ShadowOrchestrator.step, if_pos (ShadowOrchestrator.isIdle_iff.mpr hidle)]
    rw [show (host.orchestrator.call (.commitWithBudget false)) = _ from
      ShadowOrchestrator.skip_eq_afterRefusal hidle _]
    rfl
  · rintro atMs reason rfl hout
    exact commitShadowBudget_refused hout
  · rintro atMs rfl hunstaged
    show (host.commitShadowBudget atMs).1 = host
    have hunstaged : host.orchestrator.staged = none := hunstaged
    rw [commitShadowBudget, hunstaged, if_neg (by simp)]

/-- **Conservation of shadow jobs.**  In every quiet state what was admitted is pending, in
flight, awaiting its drain, drained or dropped; and a refusal leaves nothing behind but its
count. -/
theorem shadow_accounted (config : ShadowOrchestratorConfig)
    (budget : Option GenerativeBudgetGovernor) (actions : List (Action ρ)) :
    machine.Meets (fun _ _ ↦ ()) Accounted (new config budget : ShadowHost ρ) () actions :=
  machine.meets_of_watch (fun _ _ action h ↦ h.next action)
    (fun _ _ action h ↦ h.accounted action)
    (⟨ShadowOrchestrator.new_counted config, ShadowOrchestrator.new_roomy config⟩ :
      (new config budget : ShadowHost ρ).Sound ()) actions

/-- Shadow work is switched off. -/
def disabledPool : ShadowOrchestratorConfig where
  enabled := false
  sampleRatePer10k := 1000
  seed := 0
  eventKinds := []
  maxConcurrent := 1
  queueCapacity := 8
  chargeShadowToBudget := false

/-- A governor whose one slot is taken. -/
def busyGovernor : GenerativeBudgetGovernor :=
  ((GenerativeBudgetGovernor.new { GenerativeBudgetPolicy.default with
      enabled := true
      maxConcurrentGenerations := some 1
      chargeShadowToBudget := true }).tryAdmit ⟨.ordinary, 0, 0⟩ 0).1

/-- A refused stage is counted, and so is the denial of a refused commit. -/
theorem refusals_counted :
    let disabled : ShadowHost Unit := new disabledPool none
    let stage := disabled.step (.pool (.call (.stage ShadowOrchestrator.chatEvent)))
    let charged : ShadowHost Unit := machine.run
      (new { ShadowOrchestrator.lonePool with chargeShadowToBudget := true } (some busyGovernor))
      [.pool (.call (.stage ShadowOrchestrator.chatEvent))]
    let commit := charged.step (.commitShadowBudget 0)
    (stage.2 = some (.submission (.skipped .disabled)) ∧
      stage.1.orchestrator.counters ≠ disabled.orchestrator.counters) ∧
    commit.2 = some (.submission (.skipped .budgetDenied)) ∧
      commit.1.budget.map GenerativeBudgetGovernor.deniedTotal ≠
        charged.budget.map GenerativeBudgetGovernor.deniedTotal := by
  decide +kernel

end ShadowHost

end Aivtuber
