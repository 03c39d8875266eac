import Aivtuber.App.TaskPlane

/-!
# Incarnations of a task id

A task id names one object at a time, but a terminal task is forgotten once enough
others have ended, and then its id can be given to a new object, whose generations
start again at zero.  A `Census` counts the objects of each id and remembers which of
them each snapshot was taken of.

Only the current generation of an active task is accepted, and a task at work has a
positive one.  So what was seen of an earlier object is accepted for a later one only if
an id was reused after a snapshot with a positive generation: the two objects then
reach the same generations (`late_result_accepted`).  The fence of a tool execution reads
the generation alone, and passes for generation zero as well, which is no work.
-/

open Aivtuber.Check

namespace Aivtuber

namespace TaskPlane

/-- The operations of a task plane. -/
inductive Op where
  | createTask (id : TaskId) (requestedOutcome : String) (createdAtMs : Nat) (limits : TaskLimits)
  | beginPlanning (id : TaskId) (nowMs : Nat)
  | addStep (id : TaskId) (description : String)
  | markReady (id : TaskId) (nowMs : Nat)
  | waitFor (id : TaskId) (kind : PendingCommitmentKind) (summary : String) (ttlMs nowMs : Nat)
  | resume (id : TaskId) (nowMs : Nat)
  | beginExecution (id : TaskId) (stepIndex nowMs : Nat)
  | recordToolEvidence (id : TaskId) (observedGeneration : Nat) (result : ToolExecutionResult)
      (verification : ToolVerificationOutcome)
  | finishStep (id : TaskId) (nowMs : Nat)
  | retryCurrentStep (id : TaskId) (nowMs : Nat)
  | replan (id : TaskId) (nowMs : Nat)
  | cancel (id : TaskId) (reason : String) (nowMs : Nat)
  | executionSnapshot (id : TaskId)
  /-- The end of a tool execution, whose task is read again through a snapshot. -/
  | executeTool (id : TaskId) (expectedGeneration : Nat)
  | commitVerification (id : TaskId) (expectedGeneration : Nat) (result : VerificationResult)
      (nowMs : Nat)
  | expire (nowMs : Nat)

/-- What an operation returns when it succeeds. -/
inductive Answer where
  | created
  | task (reply : AgentTask.Reply)
  | snapshot (snapshot : ToolCommitStateSnapshot)
  | tool (snapshot : ToolCommitStateSnapshot) (refusal : Option ToolVerificationOutcome)
  | expired (count : Nat)

/-- The same result, as an answer. -/
def answer {α : Type} (f : α → Answer) (result : TaskPlane × Except TaskPlaneError α) :
    TaskPlane × Except TaskPlaneError Answer := (result.1, result.2.map f)

/-- The fence of a tool execution, at the moment when its task is read again. -/
def fence (expectedGeneration : Nat) (snapshot : ToolCommitStateSnapshot) : Answer :=
  .tool snapshot (ToolCommitFence.refusal
    { expectedGeneration
      observedGeneration := snapshot.observedGeneration
      cancelled := snapshot.cancelled })

def perform (plane : TaskPlane) : Op → TaskPlane × Except TaskPlaneError Answer
  | .createTask id requestedOutcome createdAtMs limits =>
    answer (fun _ ↦ .created) (plane.createTask id requestedOutcome createdAtMs limits)
  | .beginPlanning id nowMs => answer .task (plane.beginPlanning id nowMs)
  | .addStep id description => answer .task (plane.addStep id description)
  | .markReady id nowMs => answer .task (plane.markReady id nowMs)
  | .waitFor id kind summary ttlMs nowMs => answer .task (plane.waitFor id kind summary ttlMs nowMs)
  | .resume id nowMs => answer .task (plane.resume id nowMs)
  | .beginExecution id stepIndex nowMs => answer .task (plane.beginExecution id stepIndex nowMs)
  | .recordToolEvidence id observedGeneration result verification =>
    answer .task (plane.recordToolEvidence id observedGeneration result verification)
  | .finishStep id nowMs => answer .task (plane.finishStep id nowMs)
  | .retryCurrentStep id nowMs => answer .task (plane.retryCurrentStep id nowMs)
  | .replan id nowMs => answer .task (plane.replan id nowMs)
  | .cancel id reason nowMs => answer .task (plane.cancel id reason nowMs)
  | .executionSnapshot id => (plane, (plane.executionSnapshot id).map .snapshot)
  | .executeTool id expectedGeneration =>
    (plane, (plane.executionSnapshot id).map (fence expectedGeneration))
  | .commitVerification id expectedGeneration result nowMs =>
    answer .task (plane.commitVerification id expectedGeneration result nowMs)
  | .expire nowMs => answer .expired (plane.expire nowMs)

/-- A task plane, driven by a host. -/
def machine : Machine TaskPlane Op (Except TaskPlaneError Answer) := ⟨perform⟩

/-! ## The census -/

/-- A snapshot that was taken of the object of an id that was created as number
`incarnation`. -/
structure Sighting where
  id : TaskId
  incarnation : Nat
  generation : Nat

structure Census where
  /-- How many objects of an id have been created. -/
  births : TaskId → Nat
  sightings : List Sighting

/-- The census of a new plane. -/
def Census.empty : Census := ⟨fun _ ↦ 0, []⟩

abbrev PlaneEvent := Machine.Event TaskPlane Op (Except TaskPlaneError Answer)

/-- The census with a snapshot of the object that bears an id now. -/
def Census.see (census : Census) (id : TaskId) (snapshot : ToolCommitStateSnapshot) : Census :=
  { census with
    sightings := ⟨id, census.births id, snapshot.observedGeneration⟩ :: census.sightings }

/-- The census after one more step. -/
def Census.observe (census : Census) (e : PlaneEvent) : Census :=
  match e.input, e.output with
  | .createTask id _ _ _, .ok _ =>
    { census with births := Function.update census.births id (census.births id + 1) }
  | .executionSnapshot id, .ok (.snapshot snapshot) => census.see id snapshot
  | .executeTool id _, .ok (.tool snapshot _) => census.see id snapshot
  | _, _ => census

/-- The id and the generation that a step accepts work for. -/
def accepted (e : PlaneEvent) : Option (TaskId × Nat) :=
  match e.input, e.output with
  | .recordToolEvidence id observedGeneration _ _, .ok _ => some (id, observedGeneration)
  | .commitVerification id expectedGeneration _ _, .ok _ => some (id, expectedGeneration)
  | .executeTool id expectedGeneration, .ok (.tool _ none) => some (id, expectedGeneration)
  | _, _ => none

/-- What is accepted was not seen on another object of its id. -/
def incarnationSafe (census : Census) (e : PlaneEvent) : Bool :=
  match accepted e with
  | some (id, generation) => census.sightings.all fun sighting ↦
      !(sighting.id = id && sighting.generation = generation) ||
        sighting.incarnation = census.births id
  | none => true

/-- No id is given to a new object after a snapshot of work on an earlier one, and no tool
is executed for generation zero. -/
def freshId (census : Census) (e : PlaneEvent) : Bool :=
  match e.input, e.output with
  | .createTask id _ _ _, .ok _ => census.sightings.all fun sighting ↦
      !(sighting.id = id && 0 < sighting.generation)
  | .executeTool _ expectedGeneration, _ => 0 < expectedGeneration
  | _, _ => true

/-! ## What every active task keeps -/

/-- A property that new tasks have and that no call takes away. -/
structure KeptByCalls (Q : AgentTask → Prop) : Prop where
  new : ∀ {id : TaskId} {requestedOutcome : String} {createdAtMs : Nat} {limits : TaskLimits}
    {task : AgentTask}, AgentTask.new id requestedOutcome createdAtMs limits = .ok task → Q task
  perform : ∀ (task : AgentTask) (nowMs : Nat) (op : AgentTask.Op),
    Q task → Q (task.perform nowMs op).1

/-- Every active task has the property. -/
def ActiveAll (Q : AgentTask → Prop) (plane : TaskPlane) : Prop :=
  ∀ (id : TaskId) (task : AgentTask), plane.active[id]? = some task → Q task

section ActiveAll

variable {plane : TaskPlane} {Q : AgentTask → Prop}

theorem activeTask_eq_ok {id : TaskId} {task : AgentTask} :
    plane.activeTask id = .ok task ↔ plane.active[id]? = some task := by
  rw [activeTask]
  split
  case h_1 found h => rw [h, Except.ok.injEq, Option.some_inj]
  case h_2 h =>
    rw [h]
    split <;> simp

theorem new_activeAll {config : TaskPlaneConfig} (h : new config = .ok plane) :
    ActiveAll Q plane := by
  obtain ⟨config', -, h⟩ := bind_eq_ok.mp h
  cases h
  intro id task htask
  simp at htask

theorem ActiveAll.insert (h : ActiveAll Q plane) (id : TaskId) {task : AgentTask}
    (htask : Q task) : ActiveAll Q { plane with active := plane.active.insert id task } := by
  intro other found hfound
  rw [Std.ExtTreeMap.getElem?_insert] at hfound
  split at hfound
  case isTrue =>
    cases hfound
    exact htask
  case isFalse => exact h other found hfound

theorem ActiveAll.acceptTransition (h : ActiveAll Q plane) (transition : TaskTransition) :
    ActiveAll Q (plane.acceptTransition transition) := by
  rw [TaskPlane.acceptTransition]
  dsimp only
  split
  case isTrue =>
    split
    case h_1 => exact h
    case h_2 =>
      intro other found hfound
      rw [Std.ExtTreeMap.getElem?_erase] at hfound
      split at hfound
      case isTrue => cases hfound
      case isFalse => exact h other found hfound
  case isFalse => exact h

theorem ActiveAll.acceptTransition? (h : ActiveAll Q plane) :
    ∀ transition : Option TaskTransition,
      ActiveAll Q (transition.elim plane plane.acceptTransition)
  | none => h
  | some transition => h.acceptTransition transition

theorem ActiveAll.act (hQ : KeptByCalls Q) (h : ActiveAll Q plane) (id : TaskId) (nowMs : Nat)
    (op : AgentTask.Op) : ActiveAll Q (plane.act id nowMs op).1 := by
  rw [TaskPlane.act]
  cases htask : plane.activeTask id with
  | error error => exact h
  | ok task =>
    have hinsert := h.insert id (hQ.perform task nowMs op (h id task (activeTask_eq_ok.mp htask)))
    dsimp only
    cases (task.perform nowMs op).2 with
    | error error => exact hinsert
    | ok reply => exact hinsert.acceptTransition? reply.transition?

theorem ActiveAll.createTask (hQ : KeptByCalls Q) (h : ActiveAll Q plane) (id : TaskId)
    (requestedOutcome : String) (createdAtMs : Nat) (limits : TaskLimits) :
    ActiveAll Q (plane.createTask id requestedOutcome createdAtMs limits).1 := by
  rw [TaskPlane.createTask]
  split_ifs
  · exact h
  · exact h
  · cases hnew : AgentTask.new id requestedOutcome createdAtMs limits with
    | error error => exact h
    | ok task => exact h.insert id (hQ.new hnew)

theorem ActiveAll.commitVerification (hQ : KeptByCalls Q) (h : ActiveAll Q plane) (id : TaskId)
    (expectedGeneration : Nat) (result : VerificationResult) (nowMs : Nat) :
    ActiveAll Q (plane.commitVerification id expectedGeneration result nowMs).1 := by
  rw [TaskPlane.commitVerification]
  cases plane.activeTask id with
  | error error => exact h
  | ok task =>
    dsimp only
    split
    · exact h
    · exact h.act hQ id nowMs _

theorem ActiveAll.expireLoop (hQ : KeptByCalls Q) (nowMs : Nat) (ids : List TaskId) :
    ∀ {plane : TaskPlane} (expired : Nat), ActiveAll Q plane →
      ActiveAll Q (TaskPlane.expireLoop nowMs ids plane expired).1 := by
  induction ids with
  | nil => intro plane expired h; exact h
  | cons id ids ih =>
    intro plane expired h
    have hact := h.act hQ id nowMs .expireIfNeeded
    rw [TaskPlane.expireLoop]
    split
    case h_1 plane' error hstep => rwa [hstep] at hact
    case h_2 plane' reply hstep =>
      rw [hstep] at hact
      exact ih _ hact

/-- Every step keeps it. -/
theorem ActiveAll.next (hQ : KeptByCalls Q) (h : ActiveAll Q plane) (op : Op) :
    ActiveAll Q (machine.next plane op) := by
  cases op with
  | createTask id requestedOutcome createdAtMs limits =>
    exact h.createTask hQ id requestedOutcome createdAtMs limits
  | executionSnapshot id => exact h
  | executeTool id expectedGeneration => exact h
  | commitVerification id expectedGeneration result nowMs =>
    exact h.commitVerification hQ id expectedGeneration result nowMs
  | expire nowMs => exact ActiveAll.expireLoop hQ nowMs _ 0 h
  | _ => exact h.act hQ _ _ _

end ActiveAll

/-! ## Active tasks are consistent -/

/-- Every active task is consistent. -/
def Sound (plane : TaskPlane) : Prop :=
  ∀ (id : TaskId) (task : AgentTask), plane.active[id]? = some task → task.Consistent

theorem consistent_kept : KeptByCalls AgentTask.Consistent where
  new := AgentTask.new_consistent
  perform task nowMs op h := (AgentTask.perform_outcome task nowMs op).consistent h

theorem new_sound {config : TaskPlaneConfig} {plane : TaskPlane} (h : new config = .ok plane) :
    plane.Sound := new_activeAll h

theorem Sound.next {plane : TaskPlane} (h : plane.Sound) (op : Op) :
    (machine.next plane op).Sound := ActiveAll.next consistent_kept h op

/-! ## A token that is accepted is positive -/

section Token

variable {plane plane' : TaskPlane} {id : TaskId} {generation : Nat}

/-- An operation that an active task accepts has an effect on it. -/
theorem act_effect {nowMs : Nat} {op : AgentTask.Op} {reply : AgentTask.Reply}
    (h : (plane.act id nowMs op).2 = .ok reply) : ∃ task, plane.active[id]? = some task ∧
      AgentTask.Effect task nowMs op (task.perform nowMs op).1 reply := by
  rw [act] at h
  cases htask : plane.activeTask id with
  | error error =>
    rw [htask] at h
    cases h
  | ok task =>
    refine ⟨task, activeTask_eq_ok.mp htask, AgentTask.perform_effect ?_⟩
    rw [htask] at h
    dsimp only at h
    cases hreply : (task.perform nowMs op).2 with
    | error error =>
      rw [hreply] at h
      cases h
    | ok reply' =>
      rw [hreply] at h
      cases h
      rfl

theorem Sound.recordToolEvidence_pos (h : plane.Sound) {result : ToolExecutionResult}
    {verification : ToolVerificationOutcome} {reply : AgentTask.Reply}
    (hok : (plane.recordToolEvidence id generation result verification).2 = .ok reply) :
    0 < generation := by
  obtain ⟨task, htask, heffect⟩ := act_effect hok
  obtain ⟨stepIndex, hstate⟩ := heffect.observed
  have hconsistent := h id task htask
  rw [(hconsistent.executing stepIndex generation hstate).1]
  exact hconsistent.started generation (Or.inl ⟨stepIndex, hstate⟩)

theorem Sound.commitVerification_pos (h : plane.Sound) {result : VerificationResult} {nowMs : Nat}
    {reply : AgentTask.Reply}
    (hok : (plane.commitVerification id generation result nowMs).2 = .ok reply) :
    0 < generation := by
  rw [TaskPlane.commitVerification] at hok
  cases hactive : plane.activeTask id with
  | error error =>
    rw [hactive] at hok
    cases hok
  | ok found =>
    rw [hactive] at hok
    dsimp only at hok
    split at hok
    · cases hok
    · obtain ⟨task, htask, heffect⟩ := act_effect hok
      have hstate := heffect.verified
      have hconsistent := h id task htask
      rw [(hconsistent.verifying generation hstate).1]
      exact hconsistent.started generation (Or.inr hstate)

theorem answer_eq_ok {α : Type} {f : α → Answer} {result : TaskPlane × Except TaskPlaneError α}
    {reply : Answer} : (answer f result).2 = .ok reply ↔ ∃ a, result.2 = .ok a ∧ f a = reply := by
  rw [answer]
  cases result.2 with
  | error error => simp [Except.map]
  | ok a => simp [Except.map]

theorem Sound.accepted_pos (h : plane.Sound) {census : Census} {op : Op}
    (hfresh : freshId census (machine.event plane op) = true)
    (haccepted : accepted (machine.event plane op) = some (id, generation)) : 0 < generation := by
  rw [accepted] at haccepted
  split at haccepted
  case h_1 hop hok =>
    cases haccepted
    obtain rfl : op = _ := hop
    obtain ⟨_, hok, -⟩ := answer_eq_ok.mp hok
    exact h.recordToolEvidence_pos hok
  case h_2 hop hok =>
    cases haccepted
    obtain rfl : op = _ := hop
    obtain ⟨_, hok, -⟩ := answer_eq_ok.mp hok
    exact h.commitVerification_pos hok
  case h_3 hop _ =>
    cases haccepted
    obtain rfl : op = _ := hop
    exact of_decide_eq_true hfresh
  case h_4 => cases haccepted

end Token

/-! ## Runs without reuse -/

/-- A snapshot of work is a snapshot of the last object of its id. -/
structure Tracked (plane : TaskPlane) (census : Census) : Prop where
  sound : plane.Sound
  latest : ∀ sighting ∈ census.sightings, 0 < sighting.generation →
    sighting.incarnation = census.births sighting.id

section Tracked

variable {plane : TaskPlane} {census : Census}

/-- A fresh id keeps every snapshot of work on its object. -/
theorem Tracked.births (h : Tracked plane census) {id : TaskId}
    (hfresh : ∀ sighting ∈ census.sightings, 0 < sighting.generation → sighting.id ≠ id)
    (sighting : Sighting) (hmem : sighting ∈ census.sightings) (hpos : 0 < sighting.generation)
    (count : Nat) : sighting.incarnation = Function.update census.births id count sighting.id := by
  rw [Function.update_of_ne (hfresh sighting hmem hpos)]
  exact h.latest sighting hmem hpos

theorem Tracked.see (h : Tracked plane census) (id : TaskId) (snapshot : ToolCommitStateSnapshot) :
    ∀ sighting ∈ (census.see id snapshot).sightings, 0 < sighting.generation →
      sighting.incarnation = census.births sighting.id := by
  intro sighting hmem hpos
  rcases List.mem_cons.mp hmem with rfl | hmem
  · rfl
  · exact h.latest sighting hmem hpos

theorem Tracked.next (h : Tracked plane census) (op : Op)
    (hfresh : freshId census (machine.event plane op) = true) :
    Tracked (machine.next plane op) (census.observe (machine.event plane op)) := by
  refine ⟨h.sound.next op, ?_⟩
  generalize machine.event plane op = e at hfresh
  obtain ⟨pre, input, post, output⟩ := e
  rw [Census.observe]
  dsimp only
  split
  case h_1 id _ _ _ _ =>
    rw [freshId, List.all_eq_true] at hfresh
    intro sighting hmem hpos
    refine h.births (fun other hother hpos' hid ↦ ?_) sighting hmem hpos _
    have := hfresh other hother
    simp [hid, hpos'] at this
  case h_2 id snapshot => exact h.see id snapshot
  case h_3 id _ snapshot _ => exact h.see id snapshot
  case h_4 => exact h.latest

/-- What is accepted belongs to the last object of its id. -/
theorem Tracked.safe (h : Tracked plane census) (op : Op)
    (hfresh : freshId census (machine.event plane op) = true) :
    incarnationSafe census (machine.event plane op) = true := by
  rw [incarnationSafe]
  split
  case h_1 id generation haccepted =>
    rw [List.all_eq_true]
    intro sighting hmem
    have hpos := h.sound.accepted_pos hfresh haccepted
    by_cases hseen : sighting.id = id ∧ sighting.generation = generation
    · obtain ⟨rfl, rfl⟩ := hseen
      simp [h.latest sighting hmem hpos]
    · simp only [Bool.or_eq_true, Bool.not_eq_true', Bool.and_eq_false_iff, decide_eq_false_iff_not]
      exact Or.inl (not_and_or.mp hseen)
  case h_2 => rfl

theorem new_tracked {config : TaskPlaneConfig} (h : new config = .ok plane) :
    Tracked plane .empty :=
  ⟨new_sound h, fun _ hmem ↦ absurd hmem List.not_mem_nil⟩

end Tracked

/-- **Incarnation safety.**  As long as no id is reused after a snapshot of work under it,
and no tool is executed without work, what is accepted was seen on no earlier object of
its id. -/
theorem incarnation_safe {config : TaskPlaneConfig} {plane : TaskPlane}
    (h : new config = .ok plane) (ops : List Op)
    (hfresh : machine.Meets Census.observe (fun census e ↦ freshId census e = true) plane .empty
      ops) :
    machine.Meets Census.observe (fun census e ↦ incarnationSafe census e = true) plane .empty
      ops :=
  machine.meets_of_invariant (P := Tracked) (fun _ _ op ht hf ↦ ht.next op hf)
    (fun _ _ op ht hf ↦ ht.safe op hf) (new_tracked h) hfresh

/-- A plane that retains one terminal task. -/
def narrowPlane : TaskPlane where
  active := ∅
  retained := []
  transitions := { records := [], maxRecords := 16, highWater := 0, evicted := 0 }
  config := { maxActiveTasks := 4, maxRetainedTasks := 1, maxTransitionRecords := 16 }

theorem narrowPlane_new : new ⟨4, 1, 16⟩ = .ok narrowPlane := rfl

/-- The operations up to the execution of the only step of a new task. -/
def started (id : TaskId) (nowMs : Nat) : List Op :=
  [.createTask id "work" nowMs .default, .beginPlanning id nowMs, .addStep id "step",
    .markReady id nowMs, .beginExecution id 0 nowMs]

def first : TaskId := ⟨"first", by decide⟩
def second : TaskId := ⟨"second", by decide⟩

/-- The completion of the task whose execution was seen. -/
def seenAndCommitted : List Op :=
  started first 0 ++ [.executionSnapshot first, .executeTool first 1, .finishStep first 1,
    .commitVerification first 1 ⟨.verified, none⟩ 2]

theorem incarnation_safe_seen :
    machine.Meets Census.observe (fun census e ↦ freshId census e = true) narrowPlane .empty
        seenAndCommitted ∧
      machine.Meets Census.observe (fun census e ↦ incarnationSafe census e = true) narrowPlane
        .empty seenAndCommitted := by
  have hfresh : machine.Meets Census.observe (fun census e ↦ freshId census e = true) narrowPlane
      .empty seenAndCommitted := by decide +kernel
  exact ⟨hfresh, incarnation_safe narrowPlane_new seenAndCommitted hfresh⟩

/-- The first task is cancelled at work and forgotten, its id is reused, and the result of
the cancelled work completes the new task. -/
def lateResult : List Op :=
  started first 0 ++ [.executionSnapshot first, .cancel first "stop" 1,
    .createTask second "other" 2 .default, .cancel second "stop" 3] ++ started first 4 ++
    [.finishStep first 5, .commitVerification first 1 ⟨.verified, none⟩ 6]

theorem late_result_accepted :
    ∃ plane, new ⟨4, 1, 16⟩ = .ok plane ∧
      ¬machine.Meets Census.observe (fun census e ↦ incarnationSafe census e = true) plane .empty
        lateResult :=
  ⟨narrowPlane, narrowPlane_new, by decide +kernel⟩

end TaskPlane

end Aivtuber
