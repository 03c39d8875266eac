import Mathlib.Logic.Function.Basic
import Aivtuber.App.ShadowQuiescence

/-!
# Supersession of shadow jobs

Each chain has one current revision: the job that was pushed last, until its source is
superseded.  The live table names the token of the current revision while it is being
evaluated (`Registered`), and every other job of the chain was cancelled.  A worker that
finds its job in the table publishes under the lock that a push and a supersession take, so
the job is still the current revision when its evidence reaches the mailbox.
-/

open Pool
open Std (ExtTreeMap)

namespace Aivtuber

/-- The job of a worker in front of the publication fence. -/
def ShadowWorker.evaluating? {ρ : Type} : ShadowWorker ρ → Option ShadowJob
  | received job | released job | claimed job | running job | discarded job | finished job _
  | unclaimed job _ | published job _ => some job
  | _ => none

/-- The job whose evidence a worker is about to publish. -/
def ShadowWorker.evidence? {ρ : Type} : ShadowWorker ρ → Option ShadowJob
  | fenced job (some _) => some job
  | _ => none

def ShadowComposer.noted? {ρ : Type} : ShadowComposer ρ → Option ShadowJob
  | noted job => some job
  | _ => none

namespace ShadowOrchestrator

variable {ρ : Type}

/-- The jobs from their push to their fence. -/
def evaluations (orchestrator : ShadowOrchestrator ρ) : List ShadowJob :=
  orchestrator.queue ++ orchestrator.workers.filterMap ShadowWorker.evaluating?

def evidence (orchestrator : ShadowOrchestrator ρ) : List ShadowJob :=
  orchestrator.workers.filterMap ShadowWorker.evidence?

/-- The jobs from their staging to their fence. -/
def jobs (orchestrator : ShadowOrchestrator ρ) : List ShadowJob :=
  orchestrator.evaluations ++ orchestrator.composer.noted?.toList ++ orchestrator.staged.toList

/-- No two jobs have one token, and no job has a token that is not allocated yet. -/
structure Distinct (orchestrator : ShadowOrchestrator ρ) : Prop where
  nodup : (orchestrator.jobs.map ShadowJob.token).Nodup
  fresh : ∀ job ∈ orchestrator.jobs, job.token < orchestrator.tokens

/-- The live table, against the current revisions. -/
structure Registered (orchestrator : ShadowOrchestrator ρ) (revisions : String → Option Nat) :
    Prop where
  live : ∀ key token, orchestrator.live[key]? = some token → revisions key = some token ∧
    ∃ job ∈ orchestrator.evaluations, job.key = key ∧ job.token = token
  uncancelled : ∀ job ∈ orchestrator.evaluations, job.token ∉ orchestrator.cancelled →
    orchestrator.live[job.key]? = some job.token
  evidence : ∀ job ∈ orchestrator.evidence, revisions job.key = some job.token

section Steps

variable {orchestrator orchestrator' : ShadowOrchestrator ρ} {revisions : String → Option Nat}

/-! ## Tokens -/

theorem new_evaluations (config : ShadowOrchestratorConfig) :
    (new config : ShadowOrchestrator ρ).evaluations = [] :=
  List.filterMap_replicate_of_none rfl

theorem new_distinct (config : ShadowOrchestratorConfig) :
    (new config : ShadowOrchestrator ρ).Distinct := by
  have hnone : (new config : ShadowOrchestrator ρ).jobs = [] := by
    rw [jobs, new_evaluations]
    rfl
  refine ⟨?_, ?_⟩
  · rw [hnone]
    exact List.nodup_nil
  · rw [hnone]
    exact fun _ ↦ nofun

/-- Jobs that go away, or change places. -/
theorem Distinct.of_subperm (h : orchestrator.Distinct)
    (hjobs : orchestrator'.jobs.Subperm orchestrator.jobs)
    (htokens : orchestrator.tokens ≤ orchestrator'.tokens) : orchestrator'.Distinct := by
  constructor
  · obtain ⟨kept, hperm, hsub⟩ := hjobs
    exact (hperm.map ShadowJob.token).nodup_iff.mp (h.nodup.sublist (hsub.map ShadowJob.token))
  · intro job hjob
    exact Nat.lt_of_lt_of_le (h.fresh job (hjobs.subset hjob)) htokens

/-- A fresh token for the job that is staged. -/
theorem Distinct.allocate (h : orchestrator.Distinct) {event : EventEnvelope} {jobId : Nat}
    (hnoted : orchestrator.composer.noted? = none) :
    { orchestrator with
      nextJobId := jobId
      tokens := orchestrator.tokens + 1
      staged := some { jobId, event, token := orchestrator.tokens } }.Distinct := by
  have hold : ∀ job ∈ orchestrator.evaluations, job ∈ orchestrator.jobs := fun job hjob ↦
    List.mem_append_left _ (List.mem_append_left _ hjob)
  have hjobs : ∀ staged : ShadowJob, { orchestrator with
      nextJobId := jobId
      tokens := orchestrator.tokens + 1
      staged := some staged }.jobs = orchestrator.evaluations ++ [staged] := by
    intro staged
    show orchestrator.evaluations ++ orchestrator.composer.noted?.toList ++ [staged] = _
    rw [hnoted]
    exact congrArg (· ++ [staged]) (List.append_nil _)
  constructor
  · rw [hjobs, List.map_append]
    apply List.Nodup.append
    · exact h.nodup.sublist (((List.sublist_append_left _ _).trans
        (List.sublist_append_left _ _)).map _)
    · exact List.nodup_singleton _
    · intro token htoken hnew
      obtain ⟨job, hjob, rfl⟩ := List.mem_map.mp htoken
      exact absurd (List.mem_singleton.mp hnew) (Nat.ne_of_lt (h.fresh job (hold job hjob)))
  · rw [hjobs]
    intro job hjob
    rcases List.mem_append.mp hjob with hjob | hjob
    · exact Nat.lt_succ_of_lt (h.fresh job (hold job hjob))
    · rw [List.mem_singleton.mp hjob]
      exact Nat.lt_succ_self _

theorem Distinct.eq_of_token (h : orchestrator.Distinct) {job job' : ShadowJob}
    (hjob : job ∈ orchestrator.evaluations) (hjob' : job' ∈ orchestrator.evaluations)
    (htoken : job.token = job'.token) : job = job' := by
  have hmem : ∀ job ∈ orchestrator.evaluations, job ∈ orchestrator.jobs := fun job hjob ↦
    List.mem_append_left _ (List.mem_append_left _ hjob)
  exact List.inj_on_of_nodup_map h.nodup (hmem job hjob) (hmem job' hjob') htoken

/-! ## Workers -/

/-- A worker either keeps the jobs that are evaluated, or it passes the fence. -/
theorem workerStep_cases {i : Nat} {worker : ShadowWorker ρ}
    (hi : orchestrator.workers[i]? = some worker) (evaluation : ShadowEvaluation ρ) :
    ((orchestrator.workerStep i evaluation worker).live = orchestrator.live ∧
      (orchestrator.workerStep i evaluation worker).evaluations.Perm orchestrator.evaluations ∧
      (orchestrator.workerStep i evaluation worker).evidence ⊆ orchestrator.evidence) ∨
    ∃ job record, worker = .published job record ∧
      orchestrator.workerStep i evaluation worker = orchestrator.fence i job record := by
  -- a step that keeps the job of the worker, and shows no evidence
  have hmove : ∀ {orchestrator' : ShadowOrchestrator ρ} (next : ShadowWorker ρ),
      orchestrator'.live = orchestrator.live → orchestrator'.queue = orchestrator.queue →
      orchestrator'.workers = orchestrator.workers.set i next →
      next.evaluating? = worker.evaluating? → next.evidence? = none →
      orchestrator'.live = orchestrator.live ∧
        orchestrator'.evaluations.Perm orchestrator.evaluations ∧
        orchestrator'.evidence ⊆ orchestrator.evidence := by
    intro orchestrator' next hlive hqueue hworkers hevaluating hevidence
    refine ⟨hlive, ?_, ?_⟩
    · have hperm := filterMap_set_perm hi ShadowWorker.evaluating? next
      rw [hevaluating, List.perm_append_left_iff] at hperm
      rw [evaluations, evaluations, hqueue, hworkers]
      exact (hperm.append_left _).symm
    · have hperm := filterMap_set_perm hi ShadowWorker.evidence? next
      rw [hevidence] at hperm
      rw [evidence, evidence, hworkers]
      intro job hjob
      exact hperm.symm.subset (List.mem_append_right _ hjob)
  have hkeep : orchestrator.live = orchestrator.live ∧
      orchestrator.evaluations.Perm orchestrator.evaluations ∧
      orchestrator.evidence ⊆ orchestrator.evidence := ⟨rfl, .refl _, List.Subset.refl _⟩
  cases worker with
  | idle =>
    left
    rw [ShadowOrchestrator.workerStep]
    split
    · exact hkeep
    · split
      case h_1 job queue hqueue =>
        refine ⟨rfl, ?_, ?_⟩
        · have hperm := filterMap_set_perm hi ShadowWorker.evaluating? (.received job)
          rw [evaluations, evaluations, hqueue]
          exact ((hperm.symm.append_left queue).trans List.perm_middle)
        · have hperm := filterMap_set_perm hi ShadowWorker.evidence? (.received job)
          exact hperm.symm.subset
      case h_2 =>
        split
        · exact hmove .stopped rfl rfl rfl rfl rfl
        · exact hkeep
  | claimed job =>
    left
    rw [ShadowOrchestrator.workerStep]
    split
    · exact hmove (.discarded job) rfl rfl rfl rfl rfl
    · exact hmove (.running job) rfl rfl rfl rfl rfl
  | running job =>
    left
    cases evaluation with
    | aborted record => exact hmove (.finished job (some record)) rfl rfl rfl rfl rfl
    | evaluated record =>
      rw [ShadowOrchestrator.workerStep]
      split
      · exact hmove (.discarded job) rfl rfl rfl rfl rfl
      · exact hmove (.finished job (some record)) rfl rfl rfl rfl rfl
  | published job record =>
    rw [ShadowOrchestrator.workerStep]
    split
    · exact Or.inl hkeep
    · exact Or.inr ⟨job, record, rfl, rfl⟩
  | fenced job record =>
    left
    rw [ShadowOrchestrator.workerStep]
    split
    · exact hmove .idle rfl rfl rfl rfl rfl
    · exact hmove (.unsent job) rfl rfl rfl rfl rfl
  | stopped => exact Or.inl hkeep
  | received job => exact Or.inl (hmove (.released job) rfl rfl rfl rfl rfl)
  | released job => exact Or.inl (hmove (.claimed job) rfl rfl rfl rfl rfl)
  | discarded job => exact Or.inl (hmove (.finished job none) rfl rfl rfl rfl rfl)
  | finished job record => exact Or.inl (hmove (.unclaimed job record) rfl rfl rfl rfl rfl)
  | unclaimed job record => exact Or.inl (hmove (.published job record) rfl rfl rfl rfl rfl)
  | unsent => exact Or.inl (hmove .dropped rfl rfl rfl rfl rfl)
  | dropped => exact Or.inl (hmove .idle rfl rfl rfl rfl rfl)

/-- Behind the fence a job is evaluated no more. -/
theorem fence_evaluations {i : Nat} {job : ShadowJob} {record : Option ρ}
    (hi : orchestrator.workers[i]? = some (.published job record)) :
    orchestrator.evaluations.Perm (job :: (orchestrator.fence i job record).evaluations) := by
  have hperm := filterMap_set_perm hi ShadowWorker.evaluating? (.fenced job
    (if (!orchestrator.isDiscarded job && orchestrator.isLive job) = true then record else none))
  rw [evaluations, evaluations]
  exact (hperm.append_left orchestrator.queue).trans List.perm_middle

/-- Evidence that passes the fence is that of a live job. -/
theorem fence_evidence {i : Nat} {job : ShadowJob} {record : Option ρ}
    (hi : orchestrator.workers[i]? = some (.published job record)) :
    ∀ job' ∈ (orchestrator.fence i job record).evidence,
      job' ∈ orchestrator.evidence ∨ job' = job ∧ orchestrator.isLive job = true := by
  intro job' hjob'
  have hperm := filterMap_set_perm hi ShadowWorker.evidence? (.fenced job
    (if (!orchestrator.isDiscarded job && orchestrator.isLive job) = true then record else none))
  have hmem := hperm.symm.subset hjob'
  rcases List.mem_append.mp hmem with hnext | hold
  · right
    rw [Option.mem_toList] at hnext
    split at hnext
    case isTrue hcurrent =>
      rw [Bool.and_eq_true] at hcurrent
      cases record with
      | none => cases hnext
      | some record => exact ⟨(Option.some.inj hnext).symm, hcurrent.2⟩
    case isFalse => cases hnext
  · exact Or.inl hold

theorem Distinct.workerStep (h : orchestrator.Distinct) {i : Nat} {worker : ShadowWorker ρ}
    (hi : orchestrator.workers[i]? = some worker) (evaluation : ShadowEvaluation ρ) :
    (orchestrator.workerStep i evaluation worker).Distinct := by
  have hkept := workerStep_kept orchestrator i evaluation worker
  refine h.of_subperm ?_ (Nat.le_of_eq hkept.tokens.symm)
  rw [jobs, jobs, hkept.composer, hkept.staged, List.subperm_append_right,
    List.subperm_append_right]
  rcases workerStep_cases hi evaluation with ⟨-, hperm, -⟩ | ⟨job, record, rfl, hfence⟩
  · exact hperm.subperm
  · rw [hfence]
    exact List.Subperm.cons_self.trans (fence_evaluations hi).symm.subperm

/-! ## The live table -/

theorem Registered.congr (h : orchestrator.Registered revisions)
    (hlive : orchestrator'.live = orchestrator.live)
    (hcancelled : orchestrator'.cancelled = orchestrator.cancelled)
    (hevaluations : ∀ job, job ∈ orchestrator'.evaluations ↔ job ∈ orchestrator.evaluations)
    (hevidence : orchestrator'.evidence ⊆ orchestrator.evidence) :
    orchestrator'.Registered revisions := by
  refine ⟨?_, ?_, fun job hjob ↦ h.evidence job (hevidence hjob)⟩
  · rw [hlive]
    intro key token hfound
    obtain ⟨hcurrent, job, hjob, hkey, htoken⟩ := h.live key token hfound
    exact ⟨hcurrent, job, (hevaluations job).mpr hjob, hkey, htoken⟩
  · rw [hlive, hcancelled]
    exact fun job hjob ↦ h.uncancelled job ((hevaluations job).mp hjob)

theorem isLive_iff {job : ShadowJob} :
    orchestrator.isLive job = true ↔ orchestrator.live[job.key]? = some job.token := by
  rw [isLive, decide_eq_true_eq]

/-- The fence retires the chain of its job, if the job is live. -/
theorem fence_live {i : Nat} {job : ShadowJob} {record : Option ρ} (key : String) :
    (orchestrator.fence i job record).live[key]? =
      if key = job.key ∧ orchestrator.live[job.key]? = some job.token then none
      else orchestrator.live[key]? := by
  show (if orchestrator.isLive job = true then orchestrator.live.erase job.key
    else orchestrator.live)[key]? = _
  by_cases hlive : orchestrator.isLive job = true
  · rw [if_pos hlive, ExtTreeMap.getElem?_erase]
    rw [isLive_iff] at hlive
    by_cases hkey : key = job.key
    · subst hkey
      rw [if_pos Std.ReflCmp.compare_self, if_pos ⟨rfl, hlive⟩]
    · rw [if_neg fun hcmp ↦ hkey (Std.LawfulEqCmp.eq_of_compare hcmp).symm,
        if_neg fun hboth ↦ hkey hboth.1]
  · rw [if_neg hlive]
    rw [isLive_iff] at hlive
    rw [if_neg fun hboth ↦ hlive hboth.2]

theorem Registered.fence (h : orchestrator.Registered revisions) (hdistinct : orchestrator.Distinct)
    {i : Nat} {job : ShadowJob} {record : Option ρ}
    (hi : orchestrator.workers[i]? = some (.published job record)) :
    (orchestrator.fence i job record).Registered revisions := by
  have hperm := fence_evaluations hi
  have hjob : job ∈ orchestrator.evaluations := hperm.symm.subset List.mem_cons_self
  refine ⟨?_, ?_, ?_⟩
  · intro key token hfound
    rw [fence_live] at hfound
    split at hfound
    case isTrue => cases hfound
    case isFalse hkeep =>
      obtain ⟨hcurrent, job', hjob', rfl, rfl⟩ := h.live key token hfound
      refine ⟨hcurrent, job', ?_, rfl, rfl⟩
      rcases List.mem_cons.mp (hperm.subset hjob') with rfl | hjob'
      · exact absurd ⟨rfl, hfound⟩ hkeep
      · exact hjob'
  · intro job' hjob' huncancelled
    have hold : job' ∈ orchestrator.evaluations := hperm.symm.subset (List.mem_cons_of_mem _ hjob')
    have hfound := h.uncancelled job' hold huncancelled
    rw [fence_live, if_neg]
    · exact hfound
    · -- a live job of this chain would be the job itself, which is evaluated no more
      rintro ⟨hkey, hlive⟩
      rw [hkey, hlive] at hfound
      obtain rfl := hdistinct.eq_of_token hjob hold (Option.some.inj hfound)
      have hnodup : orchestrator.evaluations.Nodup :=
        .of_map ShadowJob.token (hdistinct.nodup.sublist
          (((List.sublist_append_left _ _).trans (List.sublist_append_left _ _)).map _))
      exact (List.nodup_cons.mp (hperm.nodup_iff.mp hnodup)).1 hjob'
  · intro job' hjob'
    rcases fence_evidence hi job' hjob' with hold | ⟨rfl, hlive⟩
    · exact h.evidence job' hold
    · exact (h.live _ _ (isLive_iff.mp hlive)).1

theorem Registered.workerStep (h : orchestrator.Registered revisions)
    (hdistinct : orchestrator.Distinct) {i : Nat} {worker : ShadowWorker ρ}
    (hi : orchestrator.workers[i]? = some worker) (evaluation : ShadowEvaluation ρ) :
    (orchestrator.workerStep i evaluation worker).Registered revisions := by
  have hkept := workerStep_kept orchestrator i evaluation worker
  rcases workerStep_cases hi evaluation with ⟨hlive, hperm, hevidence⟩ | ⟨job, record, rfl, hfence⟩
  · exact h.congr hlive hkept.cancelled (fun job ↦ hperm.mem_iff) hevidence
  · rw [hfence]
    exact h.fence hdistinct hi

/-- Nobody shows evidence while the queue lock is free. -/
theorem evidence_of_unlocked (h : orchestrator.locked = false) : orchestrator.evidence = [] := by
  rw [evidence, List.filterMap_eq_nil_iff]
  intro worker hworker
  have hfree := List.any_eq_false.mp h worker hworker
  cases worker with
  | fenced => exact absurd rfl hfree
  | _ => rfl

/-- The push of a job, which becomes the current revision of its chain. -/
theorem Registered.push (h : orchestrator.Registered revisions)
    (hlocked : orchestrator.locked = false) {job : ShadowJob} (composer : ShadowComposer ρ) :
    { orchestrator with
      live := orchestrator.live.insert job.key job.token
      cancelled := (orchestrator.live[job.key]?).toList ++ orchestrator.cancelled
      queue := orchestrator.queue ++ [job]
      composer }.Registered (Function.update revisions job.key (some job.token)) := by
  have hmem : ∀ job', job' ∈ (orchestrator.queue ++ [job]) ++
      orchestrator.workers.filterMap ShadowWorker.evaluating? ↔
        job' = job ∨ job' ∈ orchestrator.evaluations := by
    intro job'
    rw [evaluations]
    simp only [List.mem_append, List.mem_singleton]
    tauto
  refine ⟨?_, ?_, ?_⟩
  · intro key token hfound
    by_cases hkey : key = job.key
    · subst hkey
      obtain rfl : job.token = token := by
        simpa [ExtTreeMap.getElem?_insert_self] using hfound
      rw [Function.update_self]
      exact ⟨rfl, job, (hmem job).mpr (Or.inl rfl), rfl, rfl⟩
    · have hfound : orchestrator.live[key]? = some token := by
        simpa [ExtTreeMap.getElem?_insert, Ne.symm hkey] using hfound
      obtain ⟨hcurrent, job', hjob', hrest⟩ := h.live key token hfound
      rw [Function.update_of_ne hkey]
      exact ⟨hcurrent, job', (hmem job').mpr (Or.inr hjob'), hrest⟩
  · intro job' hjob' huncancelled
    rw [List.mem_append, not_or] at huncancelled
    obtain ⟨hprevious, huncancelled⟩ := huncancelled
    rcases (hmem job').mp hjob' with rfl | hold
    · exact ExtTreeMap.getElem?_insert_self
    · have hfound := h.uncancelled job' hold huncancelled
      -- the previous revision was cancelled, so this job is of another chain
      have hkey : job.key ≠ job'.key := by
        intro hkey
        rw [hkey, hfound] at hprevious
        exact hprevious (List.mem_singleton.mpr rfl)
      show (orchestrator.live.insert job.key job.token)[job'.key]? = _
      rw [ExtTreeMap.getElem?_insert, if_neg fun hcmp ↦ hkey (Std.LawfulEqCmp.eq_of_compare hcmp)]
      exact hfound
  · intro job' hjob'
    have hnone : orchestrator.evidence = [] := evidence_of_unlocked hlocked
    have hjob' : job' ∈ orchestrator.evidence := hjob'
    rw [hnone] at hjob'
    cases hjob'

/-- A chain whose source is superseded has no current revision. -/
theorem Registered.supersede (h : orchestrator.Registered revisions)
    (hlocked : orchestrator.locked = false) (key : String) :
    (orchestrator.supersede key).Registered (Function.update revisions key none) := by
  rw [ShadowOrchestrator.supersede, hlocked, if_neg Bool.false_ne_true]
  have herase : ∀ key', (orchestrator.live.erase key)[key']? =
      if key' = key then none else orchestrator.live[key']? := by
    intro key'
    rw [ExtTreeMap.getElem?_erase]
    by_cases hkey : key' = key
    · rw [hkey, if_pos Std.ReflCmp.compare_self, if_pos rfl]
    · rw [if_neg fun hcmp ↦ hkey (Std.LawfulEqCmp.eq_of_compare hcmp).symm, if_neg hkey]
  refine ⟨?_, ?_, ?_⟩
  · intro key' token hfound
    rw [herase] at hfound
    split at hfound
    case isTrue => cases hfound
    case isFalse hkey =>
      rw [Function.update_of_ne hkey]
      exact h.live key' token hfound
  · intro job hjob huncancelled
    rw [List.mem_append, not_or] at huncancelled
    have hfound := h.uncancelled job hjob huncancelled.2
    have hkey : job.key ≠ key := by
      rintro rfl
      rw [hfound] at huncancelled
      exact huncancelled.1 (List.mem_singleton.mpr rfl)
    show (orchestrator.live.erase key)[job.key]? = _
    rw [herase, if_neg hkey]
    exact hfound
  · intro job hjob
    have hjob : job ∈ orchestrator.evidence := hjob
    rw [evidence_of_unlocked hlocked] at hjob
    cases hjob

/-- A shutdown cancels every live job. -/
theorem Registered.cancelling (h : orchestrator.Registered revisions)
    (composer : ShadowComposer ρ) :
    { orchestrator with
      staged := none
      live := ∅
      cancelled := orchestrator.live.toList.map Prod.snd ++ orchestrator.cancelled
      composer }.Registered revisions := by
  refine ⟨?_, ?_, h.evidence⟩
  · intro key token hfound
    rw [ExtTreeMap.getElem?_empty] at hfound
    cases hfound
  · intro job hjob huncancelled
    rw [List.mem_append, not_or] at huncancelled
    have hfound := h.uncancelled job hjob huncancelled.2
    exact absurd (List.mem_map.mpr ⟨_, ExtTreeMap.mem_toList_iff_getElem?_eq_some.mpr hfound, rfl⟩)
      huncancelled.1

end Steps

/-! ## Runs -/

/-- The current revision of each chain, by the token of its job. -/
def revise (revisions : String → Option Nat) (e : OrchestratorEvent ρ) : String → Option Nat :=
  match e.input, e.pre.composer with
  | .proceed, .noted job =>
    match e.post.composer with
    | .admitted _ => Function.update revisions job.key (some job.token)
    | _ => revisions
  | .call (.supersedeSource event), .idle =>
    if e.pre.locked then revisions else Function.update revisions (supersessionKey event) none
  | _, _ => revisions

/-- What holds of every step. -/
structure Superseding (revisions : String → Option Nat) (e : OrchestratorEvent ρ) : Prop where
  /-- The evidence that reaches the mailbox is that of the current revision of its chain. -/
  published : ∀ completion, e.post.mailbox = e.pre.mailbox ++ [completion] →
    completion.record.isSome = true → ∃ (worker : Nat) (job : ShadowJob),
      e.pre.workers[worker]? = some (.fenced job completion.record) ∧
        completion.jobId = job.jobId ∧ revisions job.key = some job.token
  /-- One job of a chain at most is not cancelled. -/
  unique : ∀ job ∈ e.post.evaluations, ∀ job' ∈ e.post.evaluations, job.key = job'.key →
    job.token ∉ e.post.cancelled → job'.token ∉ e.post.cancelled → job = job'
  bounded : e.post.live.size ≤ e.post.outstanding
  drained : e.post.outstanding = 0 → e.post.live = ∅

/-- The invariant of supersession. -/
structure Chained (orchestrator : ShadowOrchestrator ρ) (revisions : String → Option Nat) :
    Prop where
  distinct : orchestrator.Distinct
  registered : orchestrator.Registered revisions

section Runs

variable {orchestrator orchestrator' : ShadowOrchestrator ρ} {revisions : String → Option Nat}

/-- A step of the composer that leaves the queue, the table and the jobs alone. -/
theorem Chained.keep (h : orchestrator.Chained revisions)
    (hworkers : orchestrator'.workers = orchestrator.workers)
    (hqueue : orchestrator'.queue = orchestrator.queue)
    (hlive : orchestrator'.live = orchestrator.live)
    (hcancelled : orchestrator'.cancelled = orchestrator.cancelled)
    (htokens : orchestrator'.tokens = orchestrator.tokens)
    (hjobs : (orchestrator'.composer.noted?.toList ++ orchestrator'.staged.toList).Subperm
      (orchestrator.composer.noted?.toList ++ orchestrator.staged.toList)) :
    orchestrator'.Chained revisions := by
  have hevaluations : orchestrator'.evaluations = orchestrator.evaluations := by
    rw [evaluations, evaluations, hqueue, hworkers]
  constructor
  · refine h.distinct.of_subperm ?_ (Nat.le_of_eq htokens.symm)
    rw [jobs, jobs, hevaluations, List.append_assoc, List.append_assoc, List.subperm_append_left]
    exact hjobs
  · refine h.registered.congr hlive hcancelled (fun job ↦ by rw [hevaluations]) ?_
    rw [evidence, evidence, hworkers]
    exact List.Subset.refl _

theorem Chained.stage (h : orchestrator.Chained revisions) (hidle : orchestrator.composer = .idle)
    (event : EventEnvelope) : (orchestrator.stage event).1.Chained revisions := by
  have hskip : ∀ reason, ({ orchestrator with staged := none }.skip reason :
      _ × Option (ShadowReply ρ)).1.Chained revisions := by
    intro reason
    refine h.keep rfl rfl rfl rfl rfl ?_
    exact (List.nil_subperm : [].Subperm _)
  rw [ShadowOrchestrator.stage]
  split
  · exact hskip _
  · split_ifs
    · exact hskip _
    · exact h
    · exact hskip _
    · refine ⟨h.distinct.allocate ?_, h.registered.congr rfl rfl (fun _ ↦ Iff.rfl) fun _ ↦ id⟩
      rw [hidle]
      rfl

theorem Chained.commitWithBudget (h : orchestrator.Chained revisions)
    (hidle : orchestrator.composer = .idle) (admitted : Bool) :
    (orchestrator.commitWithBudget admitted).1.Chained revisions := by
  rw [ShadowOrchestrator.commitWithBudget]
  split
  · split
    case h_1 => exact h
    case h_2 job hstaged =>
      refine h.keep rfl rfl rfl rfl rfl ?_
      rw [hidle, hstaged]
      exact List.Subperm.refl _
  · exact h.keep rfl rfl rfl rfl rfl (List.nil_subperm : [].Subperm _)

theorem Chained.call (h : orchestrator.Chained revisions) (hidle : orchestrator.composer = .idle)
    (call : ShadowCall) : (orchestrator.call call).1.Chained
      (revise revisions (machine.event orchestrator (.call call))) := by
  have hrevise : (∀ event, call ≠ .supersedeSource event) →
      revise revisions (machine.event orchestrator (.call call)) = revisions := by
    intro hcall
    show revise revisions ⟨orchestrator, .call call, _, _⟩ = revisions
    cases call with
    | supersedeSource event => exact absurd rfl (hcall event)
    | _ => rfl
  cases call with
  | stage event =>
    rw [hrevise fun _ hcall ↦ (by cases hcall)]
    exact h.stage hidle event
  | commitWithBudget admitted =>
    rw [hrevise fun _ hcall ↦ (by cases hcall)]
    exact h.commitWithBudget hidle admitted
  | discardStaged =>
    rw [hrevise fun _ hcall ↦ (by cases hcall)]
    refine h.keep rfl rfl rfl rfl rfl ?_
    show (_ ++ []).Subperm _
    rw [List.append_nil]
    exact (List.sublist_append_left _ _).subperm
  | supersedeSource event =>
    have hevent : revise revisions (machine.event orchestrator (.call (.supersedeSource event))) =
        if orchestrator.locked then revisions
        else Function.update revisions (supersessionKey event) none := by
      show revise revisions ⟨orchestrator, .call (.supersedeSource event), _, _⟩ = _
      rw [revise, hidle]
    rw [hevent, ShadowOrchestrator.call]
    cases hlocked : orchestrator.locked with
    | true =>
      rw [supersede, hlocked]
      exact h
    | false =>
      refine ⟨h.distinct.of_subperm ?_ ?_, h.registered.supersede hlocked _⟩
      all_goals rw [supersede, hlocked]
      · exact List.Subperm.refl _
      · exact Nat.le_refl _
  | drain =>
    rw [hrevise fun _ hcall ↦ (by cases hcall), ShadowOrchestrator.call]
    split
    · refine h.keep rfl rfl rfl rfl rfl ?_
      rw [hidle]
      exact List.Subperm.refl _
    · exact h
  | snapshot | shutdown =>
    rw [hrevise fun _ hcall ↦ (by cases hcall)]
    refine h.keep rfl rfl rfl rfl rfl ?_
    rw [hidle]
    exact List.Subperm.refl _

/-- The steps of a call, apart from the push and the cancelled chains. -/
theorem Chained.quiet (h : orchestrator.Chained revisions)
    (hworkers : orchestrator'.workers = orchestrator.workers)
    (hqueue : orchestrator'.queue = orchestrator.queue)
    (hlive : orchestrator'.live = orchestrator.live)
    (hcancelled : orchestrator'.cancelled = orchestrator.cancelled)
    (htokens : orchestrator'.tokens = orchestrator.tokens)
    (hstaged : orchestrator'.staged = orchestrator.staged)
    (hnoted : orchestrator'.composer.noted? = none) : orchestrator'.Chained revisions := by
  refine h.keep hworkers hqueue hlive hcancelled htokens ?_
  rw [hnoted, hstaged]
  exact (List.sublist_append_right _ _).subperm

theorem Chained.push (h : orchestrator.Chained revisions) {job : ShadowJob}
    (hcomposer : orchestrator.composer = .noted job) :
    (orchestrator.tryPushSuperseding job).Chained
      (revise revisions (machine.event orchestrator .proceed)) := by
  have hevent : revise revisions (machine.event orchestrator .proceed) =
      match (orchestrator.tryPushSuperseding job).composer with
      | .admitted _ => Function.update revisions job.key (some job.token)
      | _ => revisions := by
    show revise revisions ⟨orchestrator, .proceed,
      (orchestrator.composerStep orchestrator.composer).1, _⟩ = _
    rw [revise, hcomposer]
    rfl
  rw [hevent, tryPushSuperseding]
  split_ifs
  case pos => exact h.quiet rfl rfl rfl rfl rfl rfl rfl
  case pos =>
    rw [hcomposer]
    exact h
  case pos => exact h.quiet rfl rfl rfl rfl rfl rfl rfl
  case neg hlocked _ =>
    rw [Bool.not_eq_true] at hlocked
    refine ⟨h.distinct.of_subperm ?_ (Nat.le_refl _), h.registered.push hlocked _⟩
    rw [jobs, jobs, hcomposer]
    -- the job goes from the composer to the end of the queue
    refine (List.Perm.append_right _ ?_).subperm
    show (orchestrator.queue ++ [job] ++ _ ++ []).Perm (orchestrator.queue ++ _ ++ [job])
    rw [List.append_nil, List.append_assoc, List.append_assoc]
    exact List.perm_append_comm.append_left _

theorem Chained.composerStep (h : orchestrator.Chained revisions) :
    (orchestrator.composerStep orchestrator.composer).1.Chained
      (revise revisions (machine.event orchestrator .proceed)) := by
  have hrevise : (∀ job, orchestrator.composer ≠ .noted job) →
      revise revisions (machine.event orchestrator .proceed) = revisions := by
    intro hnoted
    show revise revisions ⟨orchestrator, .proceed, _, _⟩ = revisions
    rw [revise]
    split
    case h_1 job _ hcomposer => exact absurd hcomposer (hnoted job)
    case h_2 hinput _ => cases hinput
    case h_3 => rfl
  cases hcomposer : orchestrator.composer with
  | noted job => exact h.push hcomposer
  | idle =>
    rw [hrevise (by rw [hcomposer]; exact fun _ h ↦ (by cases h))]
    exact h
  | cancelling =>
    rw [hrevise (by rw [hcomposer]; exact fun _ h ↦ (by cases h))]
    refine ⟨h.distinct.of_subperm ?_ (Nat.le_refl _), h.registered.cancelling _⟩
    show (orchestrator.evaluations ++ [] ++ []).Subperm orchestrator.jobs
    rw [List.append_nil, List.append_nil, jobs, List.append_assoc]
    exact (List.sublist_append_left _ _).subperm
  | joining =>
    rw [hrevise (by rw [hcomposer]; exact fun _ h ↦ (by cases h)), ShadowOrchestrator.composerStep]
    split
    · exact h.quiet rfl rfl rfl rfl rfl rfl rfl
    · exact h
  | admitted | refused | skipping | received | released | readPending | readInFlight | closing =>
    rw [hrevise (by rw [hcomposer]; exact fun _ h ↦ (by cases h))]
    exact h.quiet rfl rfl rfl rfl rfl rfl rfl

theorem Chained.next (h : orchestrator.Chained revisions) (action : Action ρ) :
    (machine.next orchestrator action).Chained
      (revise revisions (machine.event orchestrator action)) := by
  cases action with
  | call call =>
    by_cases hidle : orchestrator.isIdle = true
    · have hcall := h.call (isIdle_iff.mp hidle) call
      show (step orchestrator (.call call)).1.Chained _
      rw [step, if_pos hidle]
      exact hcall
    · have hrevise : revise revisions (machine.event orchestrator (.call call)) = revisions := by
        show revise revisions ⟨orchestrator, .call call, _, _⟩ = revisions
        rw [revise]
        split
        case h_1 hinput _ => cases hinput
        case h_2 hcomposer => exact absurd (isIdle_iff.mpr hcomposer) hidle
        case h_3 => rfl
      rw [hrevise]
      show (step orchestrator (.call call)).1.Chained revisions
      rw [step, if_neg hidle]
      exact h
  | proceed => exact h.composerStep
  | work i evaluation =>
    show ((orchestrator.workers[i]?).elim orchestrator
      (orchestrator.workerStep i evaluation)).Chained revisions
    cases hi : orchestrator.workers[i]? with
    | none => exact h
    | some worker =>
      exact ⟨h.distinct.workerStep hi evaluation,
        h.registered.workerStep h.distinct hi evaluation⟩

/-! ## What supersession gives -/

theorem Chained.unique (h : orchestrator.Chained revisions) :
    ∀ job ∈ orchestrator.evaluations, ∀ job' ∈ orchestrator.evaluations, job.key = job'.key →
      job.token ∉ orchestrator.cancelled → job'.token ∉ orchestrator.cancelled → job = job' := by
  intro job hjob job' hjob' hkey huncancelled huncancelled'
  have hfound := h.registered.uncancelled job hjob huncancelled
  have hfound' := h.registered.uncancelled job' hjob' huncancelled'
  rw [hkey, hfound'] at hfound
  exact h.distinct.eq_of_token hjob hjob' (Option.some.inj hfound).symm

theorem length_evaluations_le (orchestrator : ShadowOrchestrator ρ) :
    orchestrator.evaluations.length ≤ orchestrator.outstanding := by
  have hworkers : (orchestrator.workers.filterMap ShadowWorker.evaluating?).length ≤
      load ShadowWorker.busy orchestrator.workers := by
    apply length_filterMap_le_load
    intro worker
    cases worker with
    | fenced | unsent => exact Nat.zero_le _
    | _ => exact Nat.le_refl _
  rw [evaluations, List.length_append, outstanding]
  omega

theorem Chained.bounded (h : orchestrator.Chained revisions) :
    orchestrator.live.size ≤ orchestrator.outstanding := by
  have hkeys : orchestrator.live.keys.Subperm (orchestrator.evaluations.map ShadowJob.key) := by
    apply List.Nodup.subperm ExtTreeMap.nodup_keys
    intro key hkey
    rw [ExtTreeMap.mem_keys] at hkey
    obtain ⟨-, job, hjob, hkey, -⟩ := h.registered.live key _ (ExtTreeMap.getElem?_eq_some_getElem hkey)
    exact List.mem_map.mpr ⟨job, hjob, hkey⟩
  have hlength := hkeys.length_le
  rw [ExtTreeMap.length_keys, List.length_map] at hlength
  exact Nat.le_trans hlength orchestrator.length_evaluations_le

theorem Chained.drained (h : orchestrator.Chained revisions) (hzero : orchestrator.outstanding = 0) :
    orchestrator.live = ∅ := by
  have hbounded := h.bounded
  rw [hzero] at hbounded
  exact ExtTreeMap.eq_empty_iff_size_eq_zero.mpr (Nat.eq_zero_of_le_zero hbounded)

theorem length_mailbox_call (call : ShadowCall) :
    (orchestrator.call call).1.mailbox.length ≤ orchestrator.mailbox.length := by
  cases call with
  | stage event =>
    rw [ShadowOrchestrator.call, stage]
    split
    · exact Nat.le_refl _
    · split_ifs <;> exact Nat.le_refl _
  | commitWithBudget admitted =>
    rw [ShadowOrchestrator.call, commitWithBudget]
    split
    · split <;> exact Nat.le_refl _
    · exact Nat.le_refl _
  | supersedeSource event =>
    rw [ShadowOrchestrator.call, supersede]
    split <;> exact Nat.le_refl _
  | drain =>
    rw [ShadowOrchestrator.call]
    split
    case h_1 completion mailbox hmailbox =>
      rw [hmailbox]
      exact Nat.le_succ _
    case h_2 => exact Nat.le_refl _
  | discardStaged | snapshot | shutdown => exact Nat.le_refl _

theorem mailbox_composerStep :
    (orchestrator.composerStep orchestrator.composer).1.mailbox = orchestrator.mailbox := by
  cases orchestrator.composer with
  | noted job =>
    rw [ShadowOrchestrator.composerStep, tryPushSuperseding]
    split_ifs <;> rfl
  | joining =>
    rw [ShadowOrchestrator.composerStep]
    split <;> rfl
  | _ => rfl

theorem mailbox_workerStep (i : Nat) (evaluation : ShadowEvaluation ρ) (worker : ShadowWorker ρ) :
    (orchestrator.workerStep i evaluation worker).mailbox = orchestrator.mailbox ∨
      ∃ job record, worker = .fenced job record ∧
        (orchestrator.workerStep i evaluation worker).mailbox =
          orchestrator.mailbox ++ [{ jobId := job.jobId, record }] := by
  cases worker with
  | idle =>
    left
    rw [ShadowOrchestrator.workerStep]
    split
    · rfl
    · split
      · rfl
      · split <;> rfl
  | published job record =>
    left
    rw [ShadowOrchestrator.workerStep]
    split <;> rfl
  | fenced job record =>
    rw [ShadowOrchestrator.workerStep]
    split
    · exact Or.inr ⟨job, record, rfl, rfl⟩
    · exact Or.inl rfl
  | _ => exact Or.inl rfl

/-- Only a worker behind the fence adds to the mailbox. -/
theorem mailbox_next (action : Action ρ) {completion : ShadowCompletion ρ}
    (hmailbox : (machine.next orchestrator action).mailbox = orchestrator.mailbox ++ [completion]) :
    ∃ (worker : Nat) (job : ShadowJob),
      orchestrator.workers[worker]? = some (.fenced job completion.record) ∧
        completion.jobId = job.jobId := by
  have hgrows : ¬(machine.next orchestrator action).mailbox.length ≤ orchestrator.mailbox.length := by
    rw [hmailbox, List.length_append]
    exact Nat.not_succ_le_self _
  cases action with
  | call call =>
    refine absurd ?_ hgrows
    show (step orchestrator (.call call)).1.mailbox.length ≤ _
    rw [step]
    split
    · exact length_mailbox_call call
    · exact Nat.le_refl _
  | proceed =>
    refine absurd (Nat.le_of_eq (congrArg List.length ?_)) hgrows
    exact mailbox_composerStep
  | work i evaluation =>
    have hwork : ((orchestrator.workers[i]?).elim orchestrator
      (orchestrator.workerStep i evaluation)).mailbox = orchestrator.mailbox ++ [completion] :=
      hmailbox
    cases hi : orchestrator.workers[i]? with
    | none =>
      rw [hi] at hwork
      exact absurd (congrArg List.length hwork) (by simp)
    | some worker =>
      rw [hi] at hwork
      rcases mailbox_workerStep i evaluation worker with hsame | ⟨job, record, rfl, hsent⟩
      · exact absurd (congrArg List.length (hsame.symm.trans hwork)) (by simp)
      · obtain rfl := List.singleton_injective
          (List.append_cancel_left (hsent.symm.trans hwork))
        exact ⟨i, job, hi, rfl⟩

theorem Chained.superseding (h : orchestrator.Chained revisions) (action : Action ρ) :
    Superseding revisions (machine.event orchestrator action) := by
  have hnext := h.next action
  refine ⟨?_, hnext.unique, hnext.bounded, hnext.drained⟩
  intro completion hmailbox hrecord
  obtain ⟨worker, job, hworker, hid⟩ := mailbox_next action hmailbox
  refine ⟨worker, job, hworker, hid, h.registered.evidence job ?_⟩
  refine List.mem_filterMap.mpr ⟨_, List.mem_of_getElem? hworker, ?_⟩
  obtain ⟨record, hsome⟩ := Option.isSome_iff_exists.mp hrecord
  rw [hsome]
  rfl

/-- **Supersession of shadow jobs.**  Along every run, evidence reaches the mailbox only for the
current revision of its chain, one job of a chain at most is not cancelled, and the live table
has no more chains than there are outstanding jobs. -/
theorem supersession_fenced (config : ShadowOrchestratorConfig) (actions : List (Action ρ)) :
    machine.Meets revise Superseding (new config) (fun _ ↦ none) actions := by
  have hnew : (new config : ShadowOrchestrator ρ).Chained fun _ ↦ none := by
    refine ⟨new_distinct config, ?_, ?_, ?_⟩
    · intro key token hfound
      rw [show (new config : ShadowOrchestrator ρ).live[key]? = none from
        ExtTreeMap.getElem?_empty] at hfound
      cases hfound
    · rw [new_evaluations]
      exact fun _ ↦ nofun
    · rw [evidence, show (new config : ShadowOrchestrator ρ).workers.filterMap
        ShadowWorker.evidence? = [] from List.filterMap_replicate_of_none rfl]
      exact fun _ ↦ nofun
  exact machine.meets_of_watch (fun orchestrator revisions action h ↦ h.next action)
    (fun orchestrator revisions action h ↦ h.superseding action) hnew actions

end Runs

end ShadowOrchestrator

end Aivtuber
