import Mathlib.Data.List.Perm.Basic
import Aivtuber.Base.Check
import Aivtuber.Base.KeyedSort
import Aivtuber.Base.Saturating

/-!
# Fault plans

A fault plan names, for each subsystem, the calls that are to fail
(`crates/hardening/src/fault.rs`).  An injector is consulted at each call and counts the calls of
each subsystem on its own, so what it fires depends on how often each subsystem was called and
not on the order of the calls (`Consulted.consumed`).
-/

open Aivtuber.Check
open Saturating (satAdd u64Max)

namespace Aivtuber.Hardening

inductive FaultSubsystem where
  | jev | thinking | tts | vTubeStudio | obs | audio | assetStore | semanticIndex | contentIngress
deriving DecidableEq, Repr

/-- The order of the subsystems is that of their declaration. -/
def FaultSubsystem.rank : FaultSubsystem → Nat
  | jev => 0
  | thinking => 1
  | tts => 2
  | vTubeStudio => 3
  | obs => 4
  | audio => 5
  | assetStore => 6
  | semanticIndex => 7
  | contentIngress => 8

inductive FaultKind where
  | timeout | unavailable | rateLimited | disconnect | corrupted | incompatible | flood
deriving DecidableEq, Repr

structure FaultSpec where
  subsystem : FaultSubsystem
  /-- One-based call occurrence for this subsystem. -/
  occurrence : Nat
  kind : FaultKind
deriving DecidableEq, Repr

/-- What a plan is sorted by. -/
def FaultSpec.key (fault : FaultSpec) : Nat ×ₗ Nat :=
  toLex (fault.subsystem.rank, fault.occurrence)

structure FaultPlan where
  seed : Nat
  faults : List FaultSpec
deriving DecidableEq, Repr

inductive FaultPlanError where
  | notOneBased
  | duplicate
deriving DecidableEq, Repr

def FaultPlanError.message : FaultPlanError → String
  | notOneBased => "fault occurrence must be one-based"
  | duplicate => "duplicate subsystem occurrence in fault plan"

namespace FaultPlan

/-- The loop over the sorted faults, with the key of the one before. -/
def checkFaults : Option (Nat ×ₗ Nat) → List FaultSpec → Except FaultPlanError Unit
  | _, [] => pure ()
  | previous, fault :: faults => do
    ensure .notOneBased (fault.occurrence ≠ 0)
    ensure .duplicate (previous ≠ some fault.key)
    checkFaults (some fault.key) faults

def new (seed : Nat) (faults : List FaultSpec) : Except FaultPlanError FaultPlan := do
  let faults := faults.insertionSort fun a b ↦ a.key ≤ b.key
  checkFaults none faults
  return { seed, faults }

/-- A plan whose occurrences count from one, in order and each once. -/
structure WellFormed (plan : FaultPlan) : Prop where
  oneBased : ∀ fault ∈ plan.faults, 1 ≤ fault.occurrence
  ordered : plan.faults.Pairwise fun a b ↦ a.key < b.key

theorem checkFaults_eq_ok {previous : Option (Nat ×ₗ Nat)} {faults : List FaultSpec}
    (h : checkFaults previous faults = .ok ()) :
    (∀ fault ∈ faults, 1 ≤ fault.occurrence) ∧
      (∀ fault ∈ faults.head?, previous ≠ some fault.key) ∧
        faults.IsChain fun a b ↦ a.key ≠ b.key := by
  induction faults generalizing previous with
  | nil => exact ⟨by simp, by simp, List.IsChain.nil⟩
  | cons fault faults ih =>
    rw [checkFaults, unit_bind_eq_ok, unit_bind_eq_ok, ensure_eq_ok, ensure_eq_ok,
      decide_eq_true_iff, decide_eq_true_iff] at h
    obtain ⟨hpositive, hprevious, hrest⟩ := h
    obtain ⟨honeBased, hhead, hchain⟩ := ih hrest
    refine ⟨List.forall_mem_cons.mpr ⟨Nat.one_le_iff_ne_zero.mpr hpositive, honeBased⟩, ?_,
      ?_⟩
    · rintro _ ⟨⟩
      exact hprevious
    · cases faults with
      | nil => exact List.IsChain.singleton _
      | cons next faults =>
        rw [List.isChain_cons_cons]
        exact ⟨fun heq ↦ hhead next rfl (congrArg some heq), hchain⟩

/-- **What `new` accepts**: the plan is well formed, and holds the faults that it was given. -/
theorem new_eq_ok {seed : Nat} {faults : List FaultSpec} {plan : FaultPlan}
    (h : new seed faults = .ok plan) : plan.WellFormed ∧ plan.faults.Perm faults := by
  rw [new, unit_bind_eq_ok] at h
  obtain ⟨hchecked, hplan⟩ := h
  cases hplan
  obtain ⟨honeBased, -, hchain⟩ := checkFaults_eq_ok hchecked
  have hordered := KeyedSort.pairwise_lt_of_isChain_ne
    (KeyedSort.pairwise_insertionSort FaultSpec.key faults) hchain
  exact ⟨⟨honeBased, hordered⟩, List.perm_insertionSort _ _⟩

/-- Whether the call of a subsystem with this number is to fail. -/
def fires (plan : FaultPlan) (subsystem : FaultSubsystem) (occurrence : Nat) : Bool :=
  plan.faults.any fun fault ↦ fault.subsystem = subsystem && fault.occurrence = occurrence

theorem fires_eq (plan : FaultPlan) (subsystem : FaultSubsystem) (occurrence : Nat) :
    plan.fires subsystem occurrence = (plan.faults.find? fun fault ↦
      fault.subsystem = subsystem && fault.occurrence = occurrence).isSome := by
  rw [fires, Bool.eq_iff_iff, List.any_eq_true, List.find?_isSome]

end FaultPlan

structure InjectedFault where
  subsystem : FaultSubsystem
  occurrence : Nat
  kind : FaultKind
deriving DecidableEq, Repr

/-- A planned fault, once it fired. -/
def FaultSpec.injected (fault : FaultSpec) : InjectedFault :=
  ⟨fault.subsystem, fault.occurrence, fault.kind⟩

structure FaultInjector where
  plan : FaultPlan
  /-- The calls of each subsystem so far, zero for one that was not called. -/
  counters : FaultSubsystem → Nat
  consumed : List InjectedFault

def FaultPlan.injector (plan : FaultPlan) : FaultInjector :=
  { plan, counters := fun _ ↦ 0, consumed := [] }

namespace FaultInjector

/-- Consult the injector at a call of the subsystem. -/
def next (injector : FaultInjector) (subsystem : FaultSubsystem) :
    Option FaultKind × FaultInjector :=
  let occurrence := satAdd (injector.counters subsystem) 1
  let injector :=
    { injector with counters := Function.update injector.counters subsystem occurrence }
  match injector.plan.faults.find? fun fault ↦
      fault.subsystem = subsystem && fault.occurrence = occurrence with
  | some fault =>
    let fault : InjectedFault := ⟨subsystem, occurrence, fault.kind⟩
    (some fault.kind, { injector with consumed := injector.consumed ++ [fault] })
  | none => (none, injector)

end FaultInjector

/-! ## What a run of calls consumes -/

/-- In a list of ascending numbers, one more number adds at most one element. -/
theorem filter_le_succ {α : Type} {number : α → Nat} {l : List α}
    (h : l.Pairwise fun a b ↦ number a < number b) (n : Nat) :
    l.filter (number · ≤ n + 1) =
      l.filter (number · ≤ n) ++ (l.find? (number · = n + 1)).toList := by
  induction l with
  | nil => rfl
  | cons a l ih =>
    obtain ⟨hfirst, hrest⟩ := List.pairwise_cons.mp h
    rw [List.filter_cons, List.filter_cons, List.find?_cons]
    rcases Nat.lt_trichotomy (number a) (n + 1) with hlt | heq | hgt
    · rw [if_pos (decide_eq_true hlt.le), if_pos (decide_eq_true (Nat.le_of_lt_succ hlt)),
        decide_eq_false hlt.ne, ih hrest]
      rfl
    · have hnone : ∀ bound ≤ n + 1, l.filter (number · ≤ bound) = [] := by
        intro bound hbound
        rw [List.filter_eq_nil_iff]
        intro b hb hle
        have := hfirst b hb
        rw [decide_eq_true_iff] at hle
        omega
      rw [if_pos (decide_eq_true heq.le), if_neg (by rw [decide_eq_true_iff]; omega),
        decide_eq_true heq, hnone (n + 1) le_rfl, hnone n (Nat.le_succ n)]
      rfl
    · rw [if_neg (by rw [decide_eq_true_iff]; omega), if_neg (by rw [decide_eq_true_iff]; omega),
        decide_eq_false hgt.ne', ih hrest]

/-- What an injector holds after the calls. -/
structure Consulted (plan : FaultPlan) (calls : List FaultSubsystem) (injector : FaultInjector) :
    Prop where
  samePlan : injector.plan = plan
  counters : ∀ subsystem, injector.counters subsystem = calls.count subsystem
  /-- In the order of the plan, the faults whose occurrence came up. -/
  consumed : ∀ subsystem, injector.consumed.filter (·.subsystem = subsystem) =
    ((plan.faults.filter (·.subsystem = subsystem)).filter
      (·.occurrence ≤ calls.count subsystem)).map FaultSpec.injected

namespace Consulted

variable {plan : FaultPlan} {calls : List FaultSubsystem} {injector : FaultInjector}

theorem start (h : plan.WellFormed) : Consulted plan [] plan.injector where
  samePlan := rfl
  counters _ := rfl
  consumed subsystem := by
    have hnone : (plan.faults.filter (·.subsystem = subsystem)).filter
        (·.occurrence ≤ List.count subsystem []) = [] := by
      rw [List.filter_eq_nil_iff]
      intro fault hfault hle
      have := h.oneBased fault (List.mem_of_mem_filter hfault)
      rw [decide_eq_true_iff, List.count_nil] at hle
      omega
    rw [hnone]
    rfl

/-- The faults of one subsystem are in the order of their occurrences. -/
theorem pairwise_occurrence (h : plan.WellFormed) (subsystem : FaultSubsystem) :
    (plan.faults.filter (·.subsystem = subsystem)).Pairwise fun a b ↦
      a.occurrence < b.occurrence := by
  apply (h.ordered.filter _).imp_of_mem
  intro a b ha hb hlt
  have hsame : a.subsystem = b.subsystem := by
    rw [of_decide_eq_true (List.mem_filter.mp ha).2, of_decide_eq_true (List.mem_filter.mp hb).2]
  rw [FaultSpec.key, FaultSpec.key, Prod.Lex.toLex_lt_toLex, hsame] at hlt
  rcases hlt with hlt | ⟨-, hlt⟩
  · exact absurd hlt (lt_irrefl _)
  · exact hlt

theorem count_concat (calls : List FaultSubsystem) (subsystem other : FaultSubsystem) :
    (calls ++ [subsystem]).count other =
      if other = subsystem then calls.count subsystem + 1 else calls.count other := by
  rw [List.count_append, List.count_singleton]
  by_cases heq : other = subsystem
  · rw [if_pos heq, heq, beq_self_eq_true, if_pos rfl]
  · rw [if_neg heq, beq_false_of_ne (Ne.symm heq), if_neg Bool.false_ne_true, Nat.add_zero]

/-- A call makes the next fault of its subsystem due, if there is one, and no other. -/
theorem due_concat (hplan : plan.WellFormed) (calls : List FaultSubsystem)
    (subsystem other : FaultSubsystem) :
    (plan.faults.filter (·.subsystem = other)).filter
        (·.occurrence ≤ (calls ++ [subsystem]).count other) =
      (plan.faults.filter (·.subsystem = other)).filter (·.occurrence ≤ calls.count other) ++
        if other = subsystem then
          (plan.faults.find? fun fault ↦ fault.subsystem = subsystem &&
            fault.occurrence = calls.count subsystem + 1).toList
        else [] := by
  rw [count_concat]
  by_cases heq : other = subsystem
  · rw [if_pos heq, if_pos heq, heq, filter_le_succ (pairwise_occurrence hplan subsystem),
      List.find?_filter]
    simp only [Bool.decide_and, Bool.decide_eq_true]
  · rw [if_neg heq, if_neg heq, List.append_nil]

/-- **One call** fires just when its number is planned, and consumes what it fires. -/
theorem next (h : Consulted plan calls injector) (hplan : plan.WellFormed)
    (hroom : calls.length < u64Max) (subsystem : FaultSubsystem) :
    (injector.next subsystem).1.isSome = plan.fires subsystem (calls.count subsystem + 1) ∧
      Consulted plan (calls ++ [subsystem]) (injector.next subsystem).2 := by
  have hcount : satAdd (injector.counters subsystem) 1 = calls.count subsystem + 1 := by
    have hle : calls.count subsystem ≤ calls.length := List.count_le_length
    rw [h.counters, satAdd]
    omega
  have hcounters : ∀ other, Function.update injector.counters subsystem
      (calls.count subsystem + 1) other = (calls ++ [subsystem]).count other := by
    intro other
    rw [Function.update_apply, count_concat, h.counters]
  rw [FaultInjector.next, FaultPlan.fires_eq, hcount, h.samePlan]
  dsimp only
  cases hfind : plan.faults.find? fun fault ↦
      fault.subsystem = subsystem && fault.occurrence = calls.count subsystem + 1 with
  | none =>
    refine ⟨rfl, rfl, hcounters, fun other ↦ ?_⟩
    have hsame := due_concat hplan calls subsystem other
    rw [hfind, Option.toList_none, ite_self, List.append_nil] at hsame
    rw [hsame]
    exact h.consumed other
  | some fault =>
    have hfault : fault.subsystem = subsystem ∧
        fault.occurrence = calls.count subsystem + 1 := by
      have := List.find?_some hfind
      rwa [Bool.and_eq_true, decide_eq_true_iff, decide_eq_true_iff] at this
    refine ⟨rfl, rfl, hcounters, fun other ↦ ?_⟩
    dsimp only
    rw [due_concat hplan, hfind, List.filter_append, h.consumed, List.map_append, List.filter_singleton]
    by_cases heq : other = subsystem
    · rw [if_pos heq, decide_eq_true heq.symm, ← hfault.2, ← hfault.1]
      rfl
    · rw [if_neg heq, decide_eq_false (Ne.symm heq)]
      rfl

/-- **Every planned fault is consumed once** where the calls of its subsystem reach it. -/
theorem all_consumed (h : Consulted plan calls injector)
    (hreached : ∀ fault ∈ plan.faults, fault.occurrence ≤ calls.count fault.subsystem) :
    (∀ subsystem, injector.consumed.filter (·.subsystem = subsystem) =
        (plan.faults.filter (·.subsystem = subsystem)).map FaultSpec.injected) ∧
      injector.consumed.Perm (plan.faults.map FaultSpec.injected) := by
  have hfilter : ∀ subsystem, injector.consumed.filter (·.subsystem = subsystem) =
      (plan.faults.filter (·.subsystem = subsystem)).map FaultSpec.injected := by
    intro subsystem
    rw [h.consumed]
    congr 1
    rw [List.filter_eq_self]
    intro fault hfault
    obtain ⟨hmem, hsubsystem⟩ := List.mem_filter.mp hfault
    rw [decide_eq_true_iff] at hsubsystem ⊢
    exact hsubsystem ▸ hreached fault hmem
  refine ⟨hfilter, List.perm_iff_count.mpr fun fault ↦ ?_⟩
  have hself : decide (fault.subsystem = fault.subsystem) = true := decide_eq_true rfl
  rw [← List.count_filter (p := fun other : InjectedFault ↦
      decide (other.subsystem = fault.subsystem)) hself,
    ← List.count_filter (p := fun other : InjectedFault ↦
      decide (other.subsystem = fault.subsystem)) (l := plan.faults.map FaultSpec.injected) hself,
    hfilter, List.filter_map]
  rfl

end Consulted

end Aivtuber.Hardening
