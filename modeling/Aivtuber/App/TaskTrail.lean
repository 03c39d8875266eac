import Aivtuber.App.TaskPartition
import Aivtuber.Base.Retention

/-!
# The trail of the tasks

Every transition that a task of a plane goes through is recorded, in a collector that forgets the
oldest (`TaskTransitionCollector` of `crates/telemetry/src/task_transition.rs`).  The trail of a run
holds all of them, those of a sweep that fails half-way included.  It is gapless: each transition
is an edge of the life of a task (`Leads`) and starts where the ones before it left its task, and
the active tasks stand where the trail leaves them.  What is recorded is the end of the trail
(`trail_kept`).
-/

open Std (ExtTreeMap)
open Saturating (u64Max)
open Retention (Buffer recordAll)

namespace Aivtuber

/-! ## The life of a task -/

def TaskStateKind.isWaiting : TaskStateKind → Bool
  | .waitingApproval | .waitingDependency => true
  | _ => false

/-- The edges of the life of a task, by their reasons. -/
def Leads (reason : TaskTransitionReason) (source target : TaskStateKind) : Prop :=
  match reason with
  | .planningStarted => source = .accepted ∧ target = .planning
  | .planReady => source = .planning ∧ target = .ready
  | .approvalPending | .dependencyPending => source = .ready ∧ target.isWaiting = true
  | .commitmentSatisfied => source.isWaiting = true ∧ target = .ready
  | .stepStarted => source = .ready ∧ target = .executing
  | .stepFinished => source = .executing ∧ (target = .ready ∨ target = .verifying)
  | .retryScheduled => source = .executing ∧ target = .ready
  | .replanStarted => (source = .ready ∨ source = .verifying) ∧ target = .planning
  | .verificationPassed => source = .verifying ∧ target = .completed
  | .verificationFailed => source = .verifying ∧ target = .failed
  | .verificationNotProven | .verificationStale => source = .verifying ∧ target = .notVerified
  | .verificationCancelled => source = .verifying ∧ target = .cancelled
  | .cancelled => source.isTerminal = false ∧ target = .cancelled
  | .taskExpired => source.isTerminal = false ∧ target = .expired
  | .commitmentExpired => source.isWaiting = true ∧ target = .notVerified

theorem isWaiting_kind (commitment : PendingCommitment) :
    (TaskState.waiting commitment).kind.isWaiting = true := by
  rw [TaskState.kind]
  cases commitment.kind <;> rfl

namespace AgentTask

theorem leads_verdict (result : VerificationResult) :
    Leads (verdict result).2.2 .verifying (verdict result).2.1.kind := by
  rw [verdict]
  cases result.outcome <;> exact ⟨rfl, rfl⟩

/-- What the reply of an operation tells about the course of its task: a transition leads from its
state to the next along an edge, under its id, time and generation; without one, they all stay. -/
structure Traced (task task' : AgentTask) (r : Reply) : Prop where
  noted : ∀ transition, r.transition? = some transition →
    Leads transition.reason transition.source transition.target ∧
    transition.taskId = task.id ∧
    (transition.source = task.state.kind ∧ transition.target = task'.state.kind) ∧
    (task.updatedAtMs ≤ transition.atMs ∧ transition.atMs = task'.updatedAtMs) ∧
    task.generation ≤ transition.generation ∧ transition.generation = task'.generation
  quiet : r.transition? = none → task'.state.kind = task.state.kind ∧
    task'.updatedAtMs = task.updatedAtMs ∧ task'.generation = task.generation

section Traced

variable {task task' : AgentTask} {nowMs : Nat} {op : Op} {r : Reply}

/-- A transition from the next generation, or from the same. -/
theorem Traced.of_note {transition : TaskTransition} (hr : r.transition? = some transition)
    (hleads : Leads transition.reason transition.source transition.target)
    (hid : transition.taskId = task.id)
    (hstate : transition.source = task.state.kind ∧ transition.target = task'.state.kind)
    (htime : task.updatedAtMs ≤ transition.atMs ∧ transition.atMs = task'.updatedAtMs)
    (hgeneration : task.generation ≤ transition.generation ∧
      transition.generation = task'.generation) : Traced task task' r where
  noted other hother := by
    obtain rfl : transition = other := Option.some.inj (hr.symm.trans hother)
    exact ⟨hleads, hid, hstate, htime, hgeneration⟩
  quiet hnone := by
    rw [hr] at hnone
    cases hnone

theorem Expires.traced {transition : TaskTransition} (h : task.Expires nowMs task' transition)
    (hr : r.transition? = some transition) : Traced task task' r := by
  cases h with
  | lifetime hactive hbump =>
    exact .of_note hr ⟨hactive, rfl⟩ rfl ⟨rfl, rfl⟩ ⟨hbump.monotonic, rfl⟩ ⟨Nat.le_succ _, rfl⟩
  | commitment _ hwaiting hbump =>
    obtain ⟨commitment, hstate⟩ := hwaiting
    have hleads : task.state.kind.isWaiting = true := by rw [hstate, isWaiting_kind]
    exact .of_note hr ⟨hleads, rfl⟩ rfl ⟨rfl, rfl⟩ ⟨hbump.monotonic, rfl⟩ ⟨Nat.le_succ _, rfl⟩

theorem Effect.traced (h : Effect task nowMs op task' r) : Traced task task' r := by
  cases h with
  | addStep | recordObservation | idle => exact ⟨fun _ hr ↦ (by cases hr), fun _ ↦ ⟨rfl, rfl, rfl⟩⟩
  | resumeExpired _ hexpires | expire hexpires => exact hexpires.traced rfl
  | beginPlanning hstate hmono | markReady hstate hmono =>
    have hkind := congrArg TaskState.kind hstate
    exact .of_note rfl ⟨hkind, rfl⟩ rfl ⟨rfl, rfl⟩ ⟨hmono, rfl⟩ ⟨le_rfl, rfl⟩
  | waitFor _ _ _ commitment _ hstate hmono _ _ hreason =>
    have hkind := congrArg TaskState.kind hstate
    refine .of_note rfl ?_ rfl ⟨rfl, rfl⟩ ⟨hmono, rfl⟩ ⟨le_rfl, rfl⟩
    rcases hreason with rfl | rfl
    · exact ⟨hkind, isWaiting_kind commitment⟩
    · exact ⟨hkind, isWaiting_kind commitment⟩
  | resume commitment hstate hmono =>
    have hwaiting : task.state.kind.isWaiting = true := by rw [hstate, isWaiting_kind]
    exact .of_note rfl ⟨hwaiting, rfl⟩ rfl ⟨rfl, rfl⟩ ⟨hmono, rfl⟩ ⟨le_rfl, rfl⟩
  | beginExecution _ _ hstate hbump =>
    have hkind := congrArg TaskState.kind hstate
    exact .of_note rfl ⟨hkind, rfl⟩ rfl ⟨rfl, rfl⟩ ⟨hbump.monotonic, rfl⟩ ⟨Nat.le_succ _, rfl⟩
  | finishStep _ _ next hstate hmono hnext =>
    have hkind := congrArg TaskState.kind hstate
    refine .of_note rfl ⟨hkind, ?_⟩ rfl ⟨rfl, rfl⟩ ⟨hmono, rfl⟩ ⟨le_rfl, rfl⟩
    change next.kind = .ready ∨ next.kind = .verifying
    rw [hnext]
    split
    case isTrue => exact .inr rfl
    case isFalse => exact .inl rfl
  | retryCurrentStep _ _ hstate hbump =>
    have hkind := congrArg TaskState.kind hstate
    exact .of_note rfl ⟨hkind, rfl⟩ rfl ⟨rfl, rfl⟩ ⟨hbump.monotonic, rfl⟩ ⟨Nat.le_succ _, rfl⟩
  | replan hstate hbump =>
    refine .of_note rfl ⟨?_, rfl⟩ rfl ⟨rfl, rfl⟩ ⟨hbump.monotonic, rfl⟩ ⟨Nat.le_succ _, rfl⟩
    rcases hstate with hstate | ⟨generation, hstate⟩
    · exact .inl (congrArg TaskState.kind hstate)
    · exact .inr (congrArg TaskState.kind hstate)
  | verify _ result hstate hmono =>
    refine .of_note rfl ?_ rfl ⟨rfl, rfl⟩ ⟨hmono, rfl⟩ ⟨le_rfl, rfl⟩
    have hkind : task.state.kind = .verifying := congrArg TaskState.kind hstate
    change Leads (verdict result).2.2 task.state.kind (verdict result).2.1.kind
    rw [hkind]
    exact leads_verdict result
  | cancel _ hactive hbump =>
    exact .of_note rfl ⟨hactive, rfl⟩ rfl ⟨rfl, rfl⟩ ⟨hbump.monotonic, rfl⟩ ⟨Nat.le_succ _, rfl⟩

end Traced

end AgentTask

namespace TaskPlane

/-! ## Trails -/

/-- The transition that a task of an id stands at, unless it ended. -/
def standing (trail : List TaskTransition) (id : TaskId) : Option TaskTransition :=
  (trail.filter (·.taskId = id)).getLast?.filter (!·.target.isTerminal)

/-- A transition follows the one that its task stood at; a task starts as accepted. -/
structure Follows (last : Option TaskTransition) (next : TaskTransition) : Prop where
  leads : Leads next.reason next.source next.target
  source : next.source = last.elim .accepted (·.target)
  atMs : ∀ previous, last = some previous → previous.atMs ≤ next.atMs
  generation : ∀ previous, last = some previous → previous.generation ≤ next.generation

/-- Every transition follows the ones before it. -/
def Gapless (trail : List TaskTransition) : Prop :=
  ∀ before transition after, trail = before ++ transition :: after →
    Follows (standing before transition.taskId) transition

/-- An active task stands where the trail leaves it; of a task that is not active, none is left. -/
def Stands : Option TaskTransition → Option AgentTask → Prop
  | none, none => True
  | some _, none => False
  | none, some task => task.state.kind = .accepted
  | some last, some task => task.state.kind = last.target ∧ task.updatedAtMs = last.atMs ∧
      task.generation = last.generation

theorem standing_concat (trail : List TaskTransition) (transition : TaskTransition) (id : TaskId) :
    standing (trail ++ [transition]) id =
      if transition.taskId = id then
        if transition.target.isTerminal then none else some transition
      else standing trail id := by
  rw [standing, List.filter_append]
  split
  case isTrue hid =>
    rw [List.filter_singleton, decide_eq_true hid, cond_true, List.getLast?_concat]
    cases hterminal : transition.target.isTerminal <;> simp [hterminal]
  case isFalse hid =>
    rw [List.filter_singleton, decide_eq_false hid, cond_false, List.append_nil]
    rfl

theorem gapless_nil : Gapless [] := by
  intro before transition after h
  cases before <;> cases h

theorem Gapless.concat {trail : List TaskTransition} (h : Gapless trail)
    {transition : TaskTransition}
    (hfollows : Follows (standing trail transition.taskId) transition) :
    Gapless (trail ++ [transition]) := by
  intro before found after heq
  rcases List.eq_nil_or_concat after with rfl | ⟨after', last, rfl⟩
  · obtain ⟨rfl, hlast⟩ := List.append_inj' heq rfl
    cases hlast
    exact hfollows
  · rw [List.concat_eq_append, ← List.cons_append, ← List.append_assoc] at heq
    exact h before found after' (List.append_inj' heq rfl).1

/-- What an active task does next follows. -/
theorem Stands.follows {last : Option TaskTransition} {task task' : AgentTask}
    {r : AgentTask.Reply} {transition : TaskTransition} (h : Stands last (some task))
    (htraced : task.Traced task' r) (hr : r.transition? = some transition) :
    Follows last transition := by
  obtain ⟨hleads, -, ⟨hsource, -⟩, ⟨htime, -⟩, hgeneration, -⟩ := htraced.noted transition hr
  cases last with
  | none => exact ⟨hleads, hsource.trans h, fun _ hp ↦ (by cases hp), fun _ hp ↦ (by cases hp)⟩
  | some previous =>
    obtain ⟨hkind, hat, hgen⟩ := h
    refine ⟨hleads, hsource.trans hkind, fun other hother ↦ ?_, fun other hother ↦ ?_⟩
    · cases hother
      exact hat ▸ htime
    · cases hother
      exact hgen ▸ hgeneration

/-- A task that does nothing worth a transition stands where it stood. -/
theorem Stands.quiet {last : Option TaskTransition} {task task' : AgentTask}
    (h : Stands last (some task)) (hkind : task'.state.kind = task.state.kind)
    (htime : task'.updatedAtMs = task.updatedAtMs)
    (hgeneration : task'.generation = task.generation) : Stands last (some task') := by
  cases last with
  | none => exact hkind.trans h
  | some previous => exact ⟨hkind.trans h.1, htime.trans h.2.1, hgeneration.trans h.2.2⟩

/-! ## The collector -/

/-- What a collector of transitions holds, as a buffer. -/
def transitionBuffer (collector : TaskTransitionCollector) : Buffer TaskTransition :=
  ⟨collector.records, collector.maxRecords, collector.highWater, collector.evicted⟩

/-- Both forget the same. -/
theorem transitionBuffer_record (collector : TaskTransitionCollector)
    (transition : TaskTransition) :
    transitionBuffer (collector.record transition) =
      (transitionBuffer collector).record transition := rfl

/-! ## Steps -/

/-- The trail explains the plane, whose configuration stays. -/
structure Trail (plane : TaskPlane) (config : TaskPlaneConfig) (trail : List TaskTransition) :
    Prop where
  settings : plane.config = config
  gapless : Gapless trail
  stands : ∀ id : TaskId, Stands (standing trail id) plane.active[id]?
  log : transitionBuffer plane.transitions = recordAll config.maxTransitionRecords trail

/-- The transitions of a result. -/
def replied : Except TaskPlaneError AgentTask.Reply → List TaskTransition
  | .ok r => r.transition?.toList
  | .error _ => []

/-- The transitions of a sweep. -/
def swept (nowMs : Nat) : List TaskId → TaskPlane → List TaskTransition
  | [], _ => []
  | id :: ids, plane =>
    match plane.act id nowMs .expireIfNeeded with
    | (_, .error _) => []
    | (plane, .ok r) => r.transition?.toList ++ swept nowMs ids plane

/-- All transitions of a run, in their order. -/
def observeTrail (trail : List TaskTransition) (e : PlaneEvent) : List TaskTransition :=
  trail ++
    match e.input, e.output with
    | .expire nowMs, _ => swept nowMs e.pre.active.keys e.pre
    | _, .ok (.task r) => r.transition?.toList
    | _, _ => []

section Steps

variable {plane : TaskPlane} {trail : List TaskTransition} {ended : List TaskId} {id : TaskId}
  {task : AgentTask} {nowMs : Nat} {config : TaskPlaneConfig}

theorem new_trail (h : new config = .ok plane) : plane.Trail plane.config [] := by
  obtain ⟨config', -, h⟩ := Check.bind_eq_ok.mp h
  cases h
  refine ⟨rfl, gapless_nil, fun id ↦ ?_, rfl⟩
  rw [ExtTreeMap.getElem?_empty]
  trivial

/-- An active task goes on without a transition. -/
theorem Trail.quiet (h : plane.Trail config trail)
    (hstands : Stands (standing trail id) (some task)) :
    Trail { plane with active := plane.active.insert id task } config trail := by
  refine ⟨h.settings, h.gapless, fun other ↦ ?_, h.log⟩
  rw [ExtTreeMap.getElem?_insert]
  split
  case isTrue heq =>
    rw [← Std.LawfulEqCmp.compare_eq_iff_eq.mp heq]
    exact hstands
  case isFalse => exact h.stands other

theorem acceptTransition_transitions (plane : TaskPlane) (transition : TaskTransition) :
    (plane.acceptTransition transition).transitions = plane.transitions.record transition ∧
      (plane.acceptTransition transition).config = plane.config := by
  rw [acceptTransition]
  dsimp only
  split
  · split <;> exact ⟨rfl, rfl⟩
  · exact ⟨rfl, rfl⟩

theorem acceptTransition_active {transition : TaskTransition}
    (hfound : plane.active[transition.taskId]? = some task) (other : TaskId) :
    (plane.acceptTransition transition).active[other]? =
      if transition.taskId = other ∧ transition.target.isTerminal = true then none
      else plane.active[other]? := by
  rw [acceptTransition]
  dsimp only
  split
  case isTrue hterminal =>
    rw [hfound]
    dsimp only
    rw [ExtTreeMap.getElem?_erase]
    simp only [Std.LawfulEqCmp.compare_eq_iff_eq, hterminal, and_true]
  case isFalse hrunning => rw [if_neg fun hand ↦ hrunning hand.2]

/-- An active task goes through a transition. -/
theorem Trail.accept (h : plane.Trail config trail) {task' : AgentTask} {r : AgentTask.Reply}
    {transition : TaskTransition} (hfound : plane.active[id]? = some task) (hid : task.id = id)
    (htraced : task.Traced task' r) (hr : r.transition? = some transition) :
    Trail (acceptTransition { plane with active := plane.active.insert id task' } transition) config
      (trail ++ [transition]) := by
  have hstood := h.stands id
  rw [hfound] at hstood
  obtain ⟨-, htask, ⟨-, htarget⟩, ⟨-, htime⟩, -, hgeneration⟩ := htraced.noted transition hr
  rw [hid] at htask
  have hinserted : (plane.active.insert id task')[transition.taskId]? = some task' := by
    rw [htask, ExtTreeMap.getElem?_insert_self]
  obtain ⟨htransitions, hconfig⟩ := acceptTransition_transitions
    { plane with active := plane.active.insert id task' } transition
  refine ⟨hconfig.trans h.settings, ?_, fun other ↦ ?_, ?_⟩
  · refine h.gapless.concat ?_
    rw [htask]
    exact hstood.follows htraced hr
  · rw [acceptTransition_active hinserted, standing_concat, htask]
    by_cases hother : id = other
    · rw [if_pos hother]
      cases hterminal : transition.target.isTerminal with
      | true =>
        rw [if_pos rfl, if_pos ⟨hother, rfl⟩]
        trivial
      | false =>
        rw [if_neg Bool.false_ne_true, if_neg fun hand ↦ Bool.false_ne_true hand.2]
        dsimp only
        rw [← hother, ExtTreeMap.getElem?_insert_self]
        exact ⟨htarget.symm, htime.symm, hgeneration.symm⟩
    · rw [if_neg hother, if_neg fun hand ↦ hother hand.1]
      dsimp only
      rw [ExtTreeMap.getElem?_insert, if_neg fun heq ↦
        hother (Std.LawfulEqCmp.compare_eq_iff_eq.mp heq)]
      exact h.stands other
  · rw [htransitions, transitionBuffer_record, Retention.recordAll_concat]
    exact congrArg (Buffer.record · transition) h.log

/-- **A step of a task.**  The trail goes on by what the call replies. -/
theorem Trail.act (h : plane.Trail config trail) (hpartition : plane.Partition ended) (id : TaskId)
    (nowMs : Nat) (op : AgentTask.Op) :
    Trail (plane.act id nowMs op).1 config (trail ++ replied (plane.act id nowMs op).2) := by
  rw [TaskPlane.act]
  cases htask : plane.activeTask id with
  | error error =>
    rw [replied, List.append_nil]
    exact h
  | ok task =>
    have hfound := activeTask_eq_ok.mp htask
    have hstood := h.stands id
    rw [hfound] at hstood
    have houtcome := AgentTask.perform_outcome task nowMs op
    dsimp only
    generalize task.perform nowMs op = result at houtcome
    cases houtcome with
    | refused error =>
      dsimp only
      rw [replied, List.append_nil]
      exact h.quiet hstood
    | exhausted retries replans =>
      dsimp only
      rw [replied, List.append_nil]
      exact h.quiet (hstood.quiet rfl rfl rfl)
    | @done task' r heffect =>
      have htraced := heffect.traced
      dsimp only
      cases hr : r.transition? with
      | none =>
        rw [replied, hr, Option.toList_none, List.append_nil, Option.elim_none]
        obtain ⟨hkind, htime, hgeneration⟩ := htraced.quiet hr
        exact h.quiet (hstood.quiet hkind htime hgeneration)
      | some transition =>
        rw [replied, hr, Option.toList_some, Option.elim_some]
        exact h.accept hfound (hpartition.active id task hfound).1 htraced hr

/-- A sweep goes from task to task. -/
theorem Trail.expireLoop (nowMs : Nat) (ids : List TaskId) (h : plane.Trail config trail)
    (hpartition : plane.Partition ended) (expired : Nat) :
    Trail (TaskPlane.expireLoop nowMs ids plane expired).1 config
      (trail ++ swept nowMs ids plane) := by
  induction ids generalizing plane trail ended expired with
  | nil =>
    rw [swept, List.append_nil]
    exact h
  | cons id ids ih =>
    have hact := h.act hpartition id nowMs .expireIfNeeded
    have hpost := hpartition.acts id nowMs .expireIfNeeded
    rw [TaskPlane.expireLoop, swept]
    generalize plane.act id nowMs .expireIfNeeded = result at hact hpost ⊢
    obtain ⟨plane', reply⟩ := result
    cases reply with
    | error error => exact hact
    | ok r =>
      dsimp only
      rw [← List.append_assoc]
      exact ih hact hpost _

theorem Trail.createTask (h : plane.Trail config trail) (id : TaskId) (requestedOutcome : String)
    (createdAtMs : Nat) (limits : TaskLimits) :
    Trail (plane.createTask id requestedOutcome createdAtMs limits).1 config trail := by
  rw [TaskPlane.createTask]
  split
  case isTrue => exact h
  case isFalse hunknown =>
    split
    case isTrue => exact h
    case isFalse =>
      cases hnew : AgentTask.new id requestedOutcome createdAtMs limits with
      | error error => exact h
      | ok task =>
        refine h.quiet ?_
        rw [Bool.not_eq_true, Option.isSome_eq_false_iff, Option.isNone_iff_eq_none] at hunknown
        -- an id that is not known stands nowhere
        have hstood := h.stands id
        rw [(Option.or_eq_none_iff.mp hunknown).1] at hstood
        cases hlast : standing trail id with
        | some last =>
          rw [hlast] at hstood
          exact hstood.elim
        | none => exact congrArg TaskState.kind (AgentTask.new_state hnew)

theorem Trail.commitVerification (h : plane.Trail config trail) (hpartition : plane.Partition ended)
    (id : TaskId) (expectedGeneration : Nat) (result : VerificationResult) (nowMs : Nat) :
    Trail (plane.commitVerification id expectedGeneration result nowMs).1 config
      (trail ++ replied (plane.commitVerification id expectedGeneration result nowMs).2) := by
  rw [TaskPlane.commitVerification]
  cases plane.activeTask id with
  | error error =>
    rw [replied, List.append_nil]
    exact h
  | ok task =>
    dsimp only
    split
    · rw [replied, List.append_nil]
      exact h
    · exact h.act hpartition id nowMs _

/-- The answer to a call of a task holds what the task replied. -/
theorem observeTrail_answer {op : Op} (hop : ∀ nowMs, op ≠ .expire nowMs)
    {result : TaskPlane × Except TaskPlaneError AgentTask.Reply}
    (hresult : plane.perform op = answer .task result) :
    observeTrail trail (machine.event plane op) = trail ++ replied result.2 := by
  refine congrArg (trail ++ ·) ?_
  change (match op, (plane.perform op).2 with
    | .expire nowMs, _ => swept nowMs plane.active.keys plane
    | _, .ok (.task r) => r.transition?.toList
    | _, _ => []) = _
  rw [hresult]
  obtain ⟨post, reply⟩ := result
  cases op with
  | expire nowMs => exact absurd rfl (hop nowMs)
  | _ => cases reply <;> rfl

theorem map_eq_ok {ε α β : Type} {f : α → β} {x : Except ε α} {b : β} (h : x.map f = .ok b) :
    ∃ a, f a = b := by
  cases x with
  | error error => cases h
  | ok a => exact ⟨a, Except.ok.inj h⟩

/-- A call that no task answers leaves the trail alone. -/
theorem observeTrail_silent {op : Op} (hop : ∀ nowMs, op ≠ .expire nowMs)
    (hsilent : ∀ r, (plane.perform op).2 ≠ .ok (.task r)) :
    observeTrail trail (machine.event plane op) = trail := by
  refine Eq.trans (congrArg (trail ++ ·) ?_) (List.append_nil trail)
  change (match op, (plane.perform op).2 with
    | .expire nowMs, _ => swept nowMs plane.active.keys plane
    | _, .ok (.task r) => r.transition?.toList
    | _, _ => []) = _
  split
  · exact absurd rfl (hop _)
  · rename_i heq
    exact absurd heq (hsilent _)
  · rfl

/-- **A step.**  Whatever is called, the trail explains the plane. -/
theorem Trail.next (h : plane.Trail config trail) (hpartition : plane.Partition ended) (op : Op) :
    (machine.next plane op).Trail config (observeTrail trail (machine.event plane op)) := by
  have hact : ∀ id nowMs op', (∀ nowMs, op ≠ .expire nowMs) →
      plane.perform op = answer .task (plane.act id nowMs op') →
      (machine.next plane op).Trail config (observeTrail trail (machine.event plane op)) := by
    intro id nowMs op' hop hperform
    rw [observeTrail_answer hop hperform]
    change Trail (plane.perform op).1 config _
    rw [hperform]
    exact h.act hpartition id nowMs op'
  cases op with
  | createTask id requestedOutcome createdAtMs limits =>
    rw [observeTrail_silent (fun _ ↦ by simp) fun r hr ↦ ?_]
    · exact h.createTask id requestedOutcome createdAtMs limits
    · obtain ⟨a, ha⟩ := map_eq_ok hr
      cases ha
  | executionSnapshot id =>
    rw [observeTrail_silent (fun _ ↦ by simp) fun r hr ↦ ?_]
    · exact h
    · obtain ⟨a, ha⟩ := map_eq_ok hr
      cases ha
  | executeTool id expectedGeneration =>
    rw [observeTrail_silent (fun _ ↦ by simp) fun r hr ↦ ?_]
    · exact h
    · obtain ⟨a, ha⟩ := map_eq_ok hr
      cases ha
  | commitVerification id expectedGeneration result nowMs =>
    rw [observeTrail_answer (fun _ ↦ by simp) rfl]
    exact h.commitVerification hpartition id expectedGeneration result nowMs
  | expire nowMs => exact h.expireLoop nowMs _ hpartition 0
  | _ => exact hact _ _ _ (fun _ ↦ by simp) rfl

end Steps

/-! ## Runs -/

/-- **The trail of the tasks.**  Along every run from a new plane, each transition is an edge of the
life of a task, and starts where the ones before it left its task, no earlier and under no lower
generation; the active tasks stand where the trail leaves them, and nothing else does.  The
collector holds the end of the trail, and counts what it forgot. -/
theorem trail_kept {config : TaskPlaneConfig} {plane : TaskPlane} (h : new config = .ok plane)
    (ops : List Op) :
    let trail := machine.watch observeTrail plane [] ops
    let post := machine.run plane ops
    Gapless trail ∧
    (∀ id : TaskId, Stands (standing trail id) post.active[id]?) ∧
    post.transitions.records = trail.rtake plane.config.maxTransitionRecords ∧
    post.transitions.highWater = min plane.config.maxTransitionRecords trail.length ∧
    post.transitions.evicted =
      min (trail.length - plane.config.maxTransitionRecords) u64Max := by
  intro trail post
  obtain ⟨htrail, -⟩ : post.Trail plane.config trail ∧ ∃ ended, post.Partition ended := by
    refine machine.watch_invariant (P := fun post trail ↦
      post.Trail plane.config trail ∧ ∃ ended, post.Partition ended) ?_
      ⟨new_trail h, [], new_partition h⟩ ops
    rintro post trail op ⟨htrail, ended, hpartition⟩
    exact ⟨htrail.next hpartition op, _, hpartition.next op⟩
  refine ⟨htrail.gapless, htrail.stands, ?_, ?_, ?_⟩
  · exact (congrArg Buffer.items htrail.log).trans (Retention.recordAll_items _ _)
  · exact (congrArg Buffer.highWater htrail.log).trans (Retention.recordAll_highWater _ _)
  · exact (congrArg Buffer.evicted htrail.log).trans (Retention.recordAll_evicted _ _)

/-- Two tasks of one id, the second of which a sweep ends. -/
theorem trail_kept_narrow :
    let ops : List Op := [.createTask first "work" 0 .default, .cancel first "stop" 1,
      .createTask second "other" 2 .default, .cancel second "stop" 3,
      .createTask first "again" 4 .default, .beginPlanning first 5, .expire 900004]
    let trail := machine.watch observeTrail narrowPlane [] ops
    let post := machine.run narrowPlane ops
    Gapless trail ∧
    (∀ id : TaskId, Stands (standing trail id) post.active[id]?) ∧
    post.transitions.records = trail.rtake narrowPlane.config.maxTransitionRecords ∧
    post.transitions.highWater = min narrowPlane.config.maxTransitionRecords trail.length ∧
    post.transitions.evicted =
      min (trail.length - narrowPlane.config.maxTransitionRecords) u64Max :=
  trail_kept narrowPlane_new _

end TaskPlane

end Aivtuber
