import Aivtuber.App.TaskPartition
import Aivtuber.Domain.TaskBound

/-!
# The expiry sweep

`expire` visits the active tasks in the order of their ids and returns at the first one
that refuses to be asked: `expire_if_needed` compares the time of the sweep with that of the
last update before it looks whether anything is due.  What the sweep has ended by then
stays ended.  So it swept the tasks in front of the first one that is ahead of it
(`expireLoop_spec`), and stops half way when one of those was due (`StopsHalfWay`).
-/

open Aivtuber.Check
open Std (ExtTreeMap)

namespace Aivtuber

namespace AgentTask

/-- The time of the task, or that of the commitment it waits for, has run out. -/
def due (task : AgentTask) (nowMs : Nat) : Bool :=
  decide (task.expiresAtMs ≤ nowMs) || (task.expiredCommitment nowMs).isSome

/-- The task was updated later than `nowMs`. -/
def ahead (task : AgentTask) (nowMs : Nat) : Bool := nowMs < task.updatedAtMs

/-- What the end of a commitment is recorded as. -/
def expiredReason : PendingCommitmentKind → String
  | .approval => "pending approval expired"
  | .dependency => "pending dependency expired"

/-- A task that is due, once it has ended. -/
def expired (task : AgentTask) (nowMs : Nat) : AgentTask :=
  if task.expiresAtMs ≤ nowMs then
    { task.bumped with outcome := some .expired }.move .expired nowMs
  else
    { task.bumped with
      outcome := (task.expiredCommitment nowMs).map fun kind ↦ .notVerified (expiredReason kind)
    }.move .notVerified nowMs

/-- A task that a sweep finds active. -/
structure Sweepable (id : TaskId) (task : AgentTask) : Prop where
  id_eq : task.id = id
  active : task.isTerminal = false
  room : task.generation + 1 < 2 ^ 64

section Expiry

variable {id : TaskId} {task : AgentTask} {nowMs : Nat}

theorem Sweepable.expiry_of_ahead (h : Sweepable id task) (hahead : task.ahead nowMs = true) :
    task.expiry nowMs = .error (.nonMonotonicTime task.updatedAtMs nowMs) := by
  have htime : ¬task.updatedAtMs ≤ nowMs := not_le.mpr (of_decide_eq_true hahead)
  have herror : task.ensureMonotonicTime nowMs =
      .error (.nonMonotonicTime task.updatedAtMs nowMs) := by
    rw [ensureMonotonicTime, ensure, if_neg (by simpa using htime)]
  rw [expiry, h.active, if_neg Bool.false_ne_true, herror]
  rfl

theorem Sweepable.expiry_of_not_due (h : Sweepable id task) (hahead : task.ahead nowMs = false)
    (hdue : task.due nowMs = false) : task.expiry nowMs = .ok (task, none) := by
  have htime : task.updatedAtMs ≤ nowMs := not_lt.mp (of_decide_eq_false hahead)
  rw [due, Bool.or_eq_false_iff, decide_eq_false_iff_not, Option.isSome_eq_false_iff,
    Option.isNone_iff_eq_none] at hdue
  rw [expiry, h.active, if_neg Bool.false_ne_true, ensureMonotonicTime_eq_ok.mpr htime]
  change (if task.expiresAtMs ≤ nowMs then _ else _) = _
  rw [if_neg hdue.1, hdue.2]

/-- A due task ends, by a transition of its own to a terminal state. -/
theorem Sweepable.expiry_of_due (h : Sweepable id task) (hahead : task.ahead nowMs = false)
    (hdue : task.due nowMs = true) :
    ∃ transition, task.expiry nowMs = .ok (task.expired nowMs, some transition) ∧
      transition.taskId = id ∧ transition.target.isTerminal = true := by
  have htime : task.updatedAtMs ≤ nowMs := not_lt.mp (of_decide_eq_false hahead)
  rw [expiry, h.active, if_neg Bool.false_ne_true, ensureMonotonicTime_eq_ok.mpr htime]
  by_cases hlife : task.expiresAtMs ≤ nowMs
  · refine ⟨task.bumped.note .expired .taskExpired nowMs, ?_, h.id_eq, rfl⟩
    change (if task.expiresAtMs ≤ nowMs then _ else _) = _
    rw [if_pos hlife, expired, if_pos hlife]
    refine bind_eq_ok.mpr ⟨_, bumpGeneration_eq_ok.mpr ⟨h.room, rfl⟩, ?_⟩
    exact bind_eq_ok.mpr ⟨_, transition_eq_ok.mpr ⟨htime, rfl, rfl⟩, rfl⟩
  · refine ⟨task.bumped.note .notVerified .commitmentExpired nowMs, ?_, h.id_eq, rfl⟩
    rw [due, decide_eq_false hlife, Bool.false_or] at hdue
    obtain ⟨kind, hkind⟩ := Option.isSome_iff_exists.mp hdue
    change (if task.expiresAtMs ≤ nowMs then _ else _) = _
    rw [if_neg hlife, expired, if_neg hlife, hkind]
    refine bind_eq_ok.mpr ⟨_, bumpGeneration_eq_ok.mpr ⟨h.room, rfl⟩, ?_⟩
    exact bind_eq_ok.mpr ⟨_, transition_eq_ok.mpr ⟨htime, rfl, rfl⟩, rfl⟩

end Expiry

end AgentTask

namespace TaskPlane

/-! ## One task of the sweep -/

section Visit

variable {plane : TaskPlane} {id : TaskId} {task : AgentTask} {nowMs : Nat}

/-- Putting an active task back changes nothing. -/
theorem insert_active (hfound : plane.active[id]? = some task) :
    { plane with active := plane.active.insert id task } = plane := by
  have hsame : plane.active.insert id task = plane.active := by
    apply ExtTreeMap.ext_getElem?
    intro other
    rw [ExtTreeMap.getElem?_insert]
    split
    case isTrue heq =>
      rw [← Std.LawfulEqCmp.compare_eq_iff_eq.mp heq, hfound]
    case isFalse => rfl
  rw [hsame]

theorem act_of_ahead (hfound : plane.active[id]? = some task) (h : task.Sweepable id)
    (hahead : task.ahead nowMs = true) :
    plane.act id nowMs .expireIfNeeded =
      (plane, .error (.task (.nonMonotonicTime task.updatedAtMs nowMs))) := by
  have hrefused : task.perform nowMs .expireIfNeeded =
      (task, .error (.nonMonotonicTime task.updatedAtMs nowMs)) := by
    rw [AgentTask.perform, AgentTask.expireIfNeeded, h.expiry_of_ahead hahead]
    rfl
  rw [act, activeTask_eq_ok.mpr hfound]
  dsimp only
  rw [hrefused]
  exact congrArg (Prod.mk · _) (insert_active hfound)

theorem act_of_not_due (hfound : plane.active[id]? = some task) (h : task.Sweepable id)
    (hahead : task.ahead nowMs = false) (hdue : task.due nowMs = false) :
    plane.act id nowMs .expireIfNeeded = (plane, .ok (.swept none)) := by
  have hidle : task.perform nowMs .expireIfNeeded = (task, .ok (.swept none)) := by
    rw [AgentTask.perform, AgentTask.expireIfNeeded, h.expiry_of_not_due hahead hdue]
    rfl
  rw [act, activeTask_eq_ok.mpr hfound]
  dsimp only
  rw [hidle]
  exact congrArg (Prod.mk · _) (insert_active hfound)

/-- The plane once an active task has ended. -/
def ended (plane : TaskPlane) (id : TaskId) (task : AgentTask)
    (transitions : TaskTransitionCollector) : TaskPlane where
  active := plane.active.erase id
  retained := (plane.retained ++ [task]).rtake plane.config.maxRetainedTasks
  transitions := transitions
  config := plane.config

theorem act_of_due (hfound : plane.active[id]? = some task) (h : task.Sweepable id)
    (hahead : task.ahead nowMs = false) (hdue : task.due nowMs = true) :
    ∃ transition, plane.act id nowMs .expireIfNeeded =
      (plane.ended id (task.expired nowMs) (plane.transitions.record transition),
        .ok (.swept (some transition))) := by
  obtain ⟨transition, hexpiry, hid, hterminal⟩ := h.expiry_of_due hahead hdue
  have hended : task.perform nowMs .expireIfNeeded =
      (task.expired nowMs, .ok (.swept (some transition))) := by
    rw [AgentTask.perform, AgentTask.expireIfNeeded, hexpiry]
    rfl
  have herase : (plane.active.insert id (task.expired nowMs)).erase id = plane.active.erase id := by
    apply ExtTreeMap.ext_getElem?
    intro other
    rw [ExtTreeMap.getElem?_erase, ExtTreeMap.getElem?_erase, ExtTreeMap.getElem?_insert]
    split <;> rfl
  refine ⟨transition, ?_⟩
  rw [act, activeTask_eq_ok.mpr hfound]
  dsimp only
  rw [hended]
  refine congrArg (Prod.mk · _) ?_
  change acceptTransition { plane with active := plane.active.insert id (task.expired nowMs) }
    transition = _
  rw [acceptTransition, if_pos hterminal]
  dsimp only
  rw [hid, ExtTreeMap.getElem?_insert_self]
  dsimp only
  rw [herase]
  rfl

end Visit

/-! ## The loop -/

/-- What the sweep reads of an id: whether its task refuses, and whether it is due. -/
def aheadAt (plane : TaskPlane) (nowMs : Nat) (id : TaskId) : Bool :=
  plane.active[id]?.any fun task ↦ task.ahead nowMs

def dueAt (plane : TaskPlane) (nowMs : Nat) (id : TaskId) : Bool :=
  plane.active[id]?.any fun task ↦ task.due nowMs

/-- The terminal tasks that a sweep over some ids leaves. -/
def endedTasks (plane : TaskPlane) (nowMs : Nat) (ids : List TaskId) : List AgentTask :=
  ids.filterMap fun id ↦
    (plane.active[id]?.filter fun task ↦ task.due nowMs).map fun task ↦ task.expired nowMs

/-- The sweep has gone through some ids of the plane `start`, from `plane` to `post`. -/
structure SweptIds (start : TaskPlane) (nowMs : Nat) (ids : List TaskId) (plane post : TaskPlane) :
    Prop where
  active : ∀ id, post.active[id]? =
    if id ∈ ids ∧ start.dueAt nowMs id = true then none else plane.active[id]?
  retained : post.retained =
    (plane.retained ++ start.endedTasks nowMs ids).rtake plane.config.maxRetainedTasks
  config : post.config = plane.config
  idle : (∀ id ∈ ids, start.dueAt nowMs id = false) → post = plane

section Loop

variable {start plane post post' : TaskPlane} {nowMs : Nat} {id : TaskId} {ids : List TaskId}

theorem SweptIds.nil (hbound : plane.retained.length ≤ plane.config.maxRetainedTasks) :
    SweptIds start nowMs [] plane plane where
  active _ := (if_neg fun h ↦ List.not_mem_nil h.1).symm
  retained := by
    rw [endedTasks, List.filterMap_nil, List.append_nil, List.rtake_of_length_le hbound]
  config := rfl
  idle _ := rfl

/-- A task that is not due is passed by. -/
theorem SweptIds.skip (hdue : start.dueAt nowMs id = false)
    (h : SweptIds start nowMs ids plane post) : SweptIds start nowMs (id :: ids) plane post where
  active other := by
    rw [h.active other]
    refine if_congr ?_ rfl rfl
    rw [List.mem_cons]
    refine ⟨fun hmem ↦ ⟨.inr hmem.1, hmem.2⟩, fun hmem ↦ ⟨?_, hmem.2⟩⟩
    rcases hmem.1 with rfl | hrest
    · rw [hdue] at hmem
      cases hmem.2
    · exact hrest
  retained := by
    have hnone : (start.active[id]?.filter fun task ↦ task.due nowMs) = none := by
      rw [dueAt] at hdue
      cases hfound : start.active[id]? with
      | none => rfl
      | some task =>
        rw [hfound, Option.any_some] at hdue
        rw [Option.filter_some, if_neg (by rw [hdue]; exact Bool.false_ne_true)]
    rw [h.retained, endedTasks, endedTasks, List.filterMap_cons, hnone]
    rfl
  config := h.config
  idle hidle := h.idle fun other hother ↦ hidle other (List.mem_cons_of_mem _ hother)

/-- A task that is due is ended. -/
theorem SweptIds.finish {task : AgentTask} {transitions : TaskTransitionCollector}
    (hfound : start.active[id]? = some task) (hdue : task.due nowMs = true)
    (h : SweptIds start nowMs ids (plane.ended id (task.expired nowMs) transitions) post) :
    SweptIds start nowMs (id :: ids) plane post := by
  have hat : start.dueAt nowMs id = true := by rw [dueAt, hfound]; exact hdue
  refine ⟨fun other ↦ ?_, ?_, h.config, fun hidle ↦ ?_⟩
  · rw [h.active other, ended, ExtTreeMap.getElem?_erase]
    by_cases heq : id = other
    · subst heq
      have hself : compare id id = .eq := Std.ReflCmp.compare_self
      rw [if_pos hself, ite_self, if_pos ⟨List.mem_cons_self, hat⟩]
    · have hcompare : compare id other ≠ .eq := fun h ↦ heq (Std.LawfulEqCmp.compare_eq_iff_eq.mp h)
      rw [if_neg hcompare]
      refine if_congr ?_ rfl rfl
      rw [List.mem_cons, or_iff_right (Ne.symm heq)]
  · have hsome : (start.active[id]?.filter fun task ↦ task.due nowMs) = some task := by
      rw [hfound, Option.filter_some, if_pos hdue]
    rw [h.retained, ended]
    dsimp only
    rw [List.rtake_rtake_append, endedTasks, endedTasks, List.filterMap_cons, hsome,
      Option.map_some, List.append_assoc]
    rfl
  · rw [hidle id List.mem_cons_self] at hat
    cases hat

/-- **The loop** sweeps the ids in front of the first one that refuses, and succeeds when
there is none. -/
theorem expireLoop_spec (hnodup : ids.Nodup)
    (hagree : ∀ id ∈ ids, plane.active[id]? = start.active[id]?)
    (hsweepable : ∀ id ∈ ids, ∃ task, start.active[id]? = some task ∧ task.Sweepable id)
    (hbound : plane.retained.length ≤ plane.config.maxRetainedTasks) (count : Nat) :
    SweptIds start nowMs (ids.takeWhile fun id ↦ !start.aheadAt nowMs id) plane
      (expireLoop nowMs ids plane count).1 ∧
    ((expireLoop nowMs ids plane count).2.isOk = ids.all fun id ↦ !start.aheadAt nowMs id) := by
  induction ids generalizing plane count with
  | nil => exact ⟨.nil hbound, rfl⟩
  | cons id ids ih =>
    obtain ⟨hfresh, hnodup⟩ := List.nodup_cons.mp hnodup
    obtain ⟨task, hstart, htask⟩ := hsweepable id List.mem_cons_self
    have hfound : plane.active[id]? = some task :=
      (hagree id List.mem_cons_self).trans hstart
    have hagree' : ∀ other ∈ ids, plane.active[other]? = start.active[other]? :=
      fun other hother ↦ hagree other (List.mem_cons_of_mem _ hother)
    have hsweepable' := fun other hother ↦ hsweepable other (List.mem_cons_of_mem _ hother)
    have hahead : start.aheadAt nowMs id = task.ahead nowMs := by rw [aheadAt, hstart]; rfl
    have hdue : start.dueAt nowMs id = task.due nowMs := by rw [dueAt, hstart]; rfl
    rw [List.takeWhile_cons, List.all_cons, hahead, expireLoop]
    cases hrefuses : task.ahead nowMs with
    | true =>
      rw [act_of_ahead hfound htask hrefuses]
      exact ⟨.nil hbound, rfl⟩
    | false =>
      cases hends : task.due nowMs with
      | false =>
        rw [act_of_not_due hfound htask hrefuses hends]
        obtain ⟨hswept, hok⟩ := ih hnodup hagree' hsweepable' hbound count
        exact ⟨hswept.skip (hdue.trans hends), hok⟩
      | true =>
        obtain ⟨transition, hact⟩ := act_of_due hfound htask hrefuses hends
        rw [hact]
        -- the tasks still to be visited are where they were
        have hothers : ∀ other ∈ ids,
            (plane.ended id (task.expired nowMs)
              (plane.transitions.record transition)).active[other]? =
                start.active[other]? := by
          intro other hother
          rw [ended, ExtTreeMap.getElem?_erase, if_neg]
          · exact hagree' other hother
          · intro heq
            rw [Std.LawfulEqCmp.compare_eq_iff_eq.mp heq] at hfresh
            exact hfresh hother
        obtain ⟨hswept, hok⟩ := ih hnodup hothers hsweepable' (List.length_rtake_le _ _)
          (count + 1)
        exact ⟨hswept.finish hstart hends, hok⟩

end Loop

/-! ## All or nothing -/

/-- The sweep has ended every active task that is due, and leaves the others as they are. -/
structure Swept (plane : TaskPlane) (nowMs : Nat) (post : TaskPlane) : Prop where
  due : ∀ (id : TaskId) (task : AgentTask), plane.active[id]? = some task →
    task.due nowMs = true → post.active[id]? = none
  others : ∀ (id : TaskId) (task : AgentTask), plane.active[id]? = some task →
    task.due nowMs = false → post.active[id]? = some task
  unknown : ∀ id : TaskId, plane.active[id]? = none → post.active[id]? = none
  retained : post.retained =
    (plane.retained ++ plane.endedTasks nowMs plane.active.keys).rtake
      plane.config.maxRetainedTasks

/-- What a sweep is meant to do: all of it, or nothing and an error. -/
def AllOrNothing (plane : TaskPlane) (nowMs : Nat) : Prop :=
  ((plane.expire nowMs).2.isOk = true ∧ Swept plane nowMs (plane.expire nowMs).1) ∨
    ((plane.expire nowMs).2.isOk = false ∧ (plane.expire nowMs).1 = plane)

/-- Among the active tasks in front of the first one that was updated after `nowMs`, in the
order of the ids, one is due. -/
def StopsHalfWay (plane : TaskPlane) (nowMs : Nat) : Prop :=
  ∃ before id after, plane.active.keys = before ++ id :: after ∧
    plane.aheadAt nowMs id = true ∧ (∀ other ∈ before, plane.aheadAt nowMs other = false) ∧
    ∃ other ∈ before, plane.dueAt nowMs other = true

section AllOrNothing

variable {plane : TaskPlane} {nowMs : Nat}

theorem SweptIds.swept {post : TaskPlane}
    (h : SweptIds plane nowMs plane.active.keys plane post) : Swept plane nowMs post := by
  refine ⟨fun id task hfound hdue ↦ ?_, fun id task hfound hdue ↦ ?_, fun id hnone ↦ ?_, h.retained⟩
  · have hkey : id ∈ plane.active.keys :=
      ExtTreeMap.mem_keys.mpr (ExtTreeMap.isSome_getElem?_iff_mem.mp (by rw [hfound]; rfl))
    rw [h.active id, if_pos ⟨hkey, by rw [dueAt, hfound]; exact hdue⟩]
  · have hidle : plane.dueAt nowMs id = false := by rw [dueAt, hfound]; exact hdue
    rw [h.active id, if_neg (by rw [hidle]; exact fun h ↦ Bool.false_ne_true h.2), hfound]
  · rw [h.active id, hnone, ite_self]

/-- The ids in front of the first one that refuses. -/
theorem takeWhile_of_split {before after : List TaskId} {id : TaskId}
    (hkeys : plane.active.keys = before ++ id :: after) (hid : plane.aheadAt nowMs id = true)
    (hbefore : ∀ other ∈ before, plane.aheadAt nowMs other = false) :
    (plane.active.keys.takeWhile fun id ↦ !plane.aheadAt nowMs id) = before := by
  rw [hkeys, List.takeWhile_append_of_pos fun other hother ↦ by rw [hbefore other hother]; rfl,
    List.takeWhile_cons_of_neg (by rw [hid]; exact Bool.false_ne_true), List.append_nil]

/-- **A sweep is all or nothing** unless it stops half way. -/
theorem allOrNothing_iff
    (hsweepable : ∀ (id : TaskId) (task : AgentTask), plane.active[id]? = some task →
      task.Sweepable id)
    (hbound : plane.retained.length ≤ plane.config.maxRetainedTasks) :
    AllOrNothing plane nowMs ↔ ¬StopsHalfWay plane nowMs := by
  obtain ⟨hswept, hok⟩ : SweptIds plane nowMs
      (plane.active.keys.takeWhile fun id ↦ !plane.aheadAt nowMs id) plane
      (plane.expire nowMs).1 ∧
      ((plane.expire nowMs).2.isOk = plane.active.keys.all fun id ↦ !plane.aheadAt nowMs id) := by
    refine expireLoop_spec ExtTreeMap.nodup_keys (fun _ _ ↦ rfl) (fun id hid ↦ ?_) hbound 0
    obtain ⟨task, hfound⟩ := Option.isSome_iff_exists.mp
      (ExtTreeMap.isSome_getElem?_iff_mem.mpr (ExtTreeMap.mem_keys.mp hid))
    exact ⟨task, hfound, hsweepable id task hfound⟩
  constructor
  · rintro hall ⟨before, id, after, hkeys, hid, hbefore, other, hother, hdue⟩
    have hfails : (plane.expire nowMs).2.isOk = false := by
      rw [hok, List.all_eq_false]
      exact ⟨id, by rw [hkeys]; simp, by rw [hid]; exact Bool.false_ne_true⟩
    rw [takeWhile_of_split hkeys hid hbefore] at hswept
    rcases hall with ⟨hsucceeds, -⟩ | ⟨-, hsame⟩
    · rw [hfails] at hsucceeds
      cases hsucceeds
    · -- the due task in front is gone
      have hgone := hswept.active other
      rw [hsame, if_pos ⟨hother, hdue⟩] at hgone
      rw [dueAt, hgone] at hdue
      cases hdue
  · intro hhalf
    cases hall : plane.active.keys.all fun id ↦ !plane.aheadAt nowMs id with
    | true =>
      have htake : (plane.active.keys.takeWhile fun id ↦ !plane.aheadAt nowMs id) =
          plane.active.keys := List.takeWhile_eq_self_iff.mpr (List.all_eq_true.mp hall)
      rw [htake] at hswept
      exact .inl ⟨hok.trans hall, hswept.swept⟩
    | false =>
      refine .inr ⟨hok.trans hall, hswept.idle fun other hother ↦ ?_⟩
      by_contra hdue
      rw [Bool.not_eq_false] at hdue
      -- the sweep stopped at the head of what is left
      have hsplit := List.takeWhile_append_dropWhile
        (p := fun id ↦ !plane.aheadAt nowMs id) (l := plane.active.keys)
      cases hrest : plane.active.keys.dropWhile fun id ↦ !plane.aheadAt nowMs id with
      | nil =>
        rw [hrest, List.append_nil] at hsplit
        rw [← hsplit, List.all_takeWhile] at hall
        cases hall
      | cons id after =>
        rw [hrest] at hsplit
        have hid : plane.aheadAt nowMs id = true := by
          have hhead := List.head_dropWhile_not (fun id ↦ !plane.aheadAt nowMs id)
            (by rw [hrest]; exact List.cons_ne_nil _ _)
          simpa [hrest] using hhead
        refine hhalf ⟨_, id, after, hsplit.symm, hid, fun first hfirst ↦ ?_, other, hother, hdue⟩
        simpa using List.all_eq_true.mp List.all_takeWhile first hfirst

end AllOrNothing

/-! ## In every state of a plane -/

/-- What a task needs for its counter never to be exhausted, under some limits. -/
theorem bounded_kept : KeptByCalls fun task ↦ ∃ limits : TaskLimits,
    task.Bounded limits ∧ limits.maxGeneration + 1 < 2 ^ 64 where
  new h := ⟨_, AgentTask.new_bounded h⟩
  perform := by
    rintro task nowMs op ⟨limits, hbounded, hlimits⟩
    have hgeneration := hbounded.generation_le
    exact ⟨limits, (AgentTask.perform_outcome task nowMs op).bounded hbounded (by omega), hlimits⟩

/-- **The expiry sweep** ends every active task that is due and leaves the others, or fails
and leaves the plane, in every state of a plane in which it does not stop half way, and in
no other. -/
theorem expire_allOrNothing_iff {config : TaskPlaneConfig} {plane : TaskPlane}
    (h : new config = .ok plane) (ops : List Op) (nowMs : Nat) :
    AllOrNothing (machine.run plane ops) nowMs ↔ ¬StopsHalfWay (machine.run plane ops) nowMs := by
  have hpartition : (machine.run plane ops).Partition (machine.watch observeEnded plane [] ops) :=
    machine.watch_invariant (fun _ _ op hpartition ↦ hpartition.next op) (new_partition h) ops
  have hbounded : ActiveAll (fun task ↦ ∃ limits : TaskLimits,
      task.Bounded limits ∧ limits.maxGeneration + 1 < 2 ^ 64) (machine.run plane ops) :=
    machine.run_invariant (fun _ op hall ↦ hall.next bounded_kept op) (new_activeAll h) ops
  refine allOrNothing_iff (fun id task hfound ↦ ?_) hpartition.retainedBound
  obtain ⟨hid, hactive⟩ := hpartition.active id task hfound
  obtain ⟨limits, htask, hlimits⟩ := hbounded id task hfound
  have hgeneration := htask.generation_le
  exact ⟨hid, hactive, by omega⟩

/-- One task is due, the other was created after the time of the sweep. -/
def unsweptTasks : List Op :=
  [.createTask first "work" 0 .default, .createTask second "other" 950000 .default]

theorem expire_allOrNothing_iff_unswept :
    AllOrNothing (machine.run narrowPlane unsweptTasks) 900000 ↔
      ¬StopsHalfWay (machine.run narrowPlane unsweptTasks) 900000 :=
  expire_allOrNothing_iff narrowPlane_new unsweptTasks 900000

/-- The sweep ends the first task and fails at the second. -/
theorem expire_stops_half_way : ¬AllOrNothing (machine.run narrowPlane unsweptTasks) 900000 := by
  rintro (⟨hok, -⟩ | ⟨-, hsame⟩)
  · have hfails : ((machine.run narrowPlane unsweptTasks).expire 900000).2.isOk = false := by
      decide +kernel
    rw [hfails] at hok
    cases hok
  · have hgone : (((machine.run narrowPlane unsweptTasks).expire 900000).1.active[first]?).isSome =
        false := by decide +kernel
    have hthere : ((machine.run narrowPlane unsweptTasks).active[first]?).isSome = true := by
      decide +kernel
    rw [hsame, hthere] at hgone
    cases hgone

end TaskPlane

end Aivtuber
