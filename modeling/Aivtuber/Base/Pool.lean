import Mathlib.Data.List.Basic
import Mathlib.Algebra.BigOperators.Group.List.Basic
import Mathlib.Algebra.GroupWithZero.Nat
import Mathlib.Data.List.Perm.Basic

/-!
# Pools of threads

The threads of a pool are the slots of a list, and a thread takes a step by replacing
its slot.  What the threads hold of a shared counter is the `load` of the pool, which a
step changes by what its thread holds before and after.
-/

universe u v

namespace Pool

variable {ω : Type u} {β : Type v} {held : ω → Nat} {threads : List ω} {i : Nat} {a b : ω}

/-- What the threads hold together. -/
def load (held : ω → Nat) (threads : List ω) : Nat := (threads.map held).sum

@[simp] theorem load_nil : load held [] = 0 := rfl

@[simp] theorem load_cons (a : ω) (threads : List ω) :
    load held (a :: threads) = held a + load held threads := by
  rw [load, List.map_cons, List.sum_cons]
  rfl

/-- A step of one thread. -/
theorem load_set (h : threads[i]? = some a) (held : ω → Nat) (b : ω) :
    load held (threads.set i b) + held a = load held threads + held b := by
  induction threads generalizing i with
  | nil => cases h
  | cons c threads ih =>
    cases i with
    | zero =>
      obtain rfl : c = a := Option.some.inj h
      rw [List.set_cons_zero, load_cons, load_cons]
      omega
    | succ i =>
      have hrest := ih h
      rw [List.set_cons_succ, load_cons, load_cons]
      omega

theorem held_le_load (h : a ∈ threads) (held : ω → Nat) : held a ≤ load held threads := by
  induction threads with
  | nil => cases h
  | cons c threads ih =>
    rw [load_cons]
    rcases List.mem_cons.mp h with rfl | h
    · exact Nat.le_add_right _ _
    · exact Nat.le_trans (ih h) (Nat.le_add_left _ _)

/-- A pool that holds nothing has no thread that holds something. -/
theorem held_eq_zero (h : load held threads = 0) : ∀ a ∈ threads, held a = 0 := fun _ ha ↦
  Nat.eq_zero_of_le_zero (h ▸ held_le_load ha held)

theorem load_eq_zero (h : ∀ a ∈ threads, held a = 0) : load held threads = 0 := by
  induction threads with
  | nil => rfl
  | cons c threads ih =>
    rw [load_cons, h c List.mem_cons_self, ih fun a ha ↦ h a (List.mem_cons_of_mem c ha)]

theorem load_replicate_zero (ha : held a = 0) (n : Nat) :
    load held (List.replicate n a) = 0 := by
  induction n with
  | zero => rfl
  | succ n ih => rw [List.replicate_succ, load_cons, ha, ih]

/-! ## What the threads have -/

theorem filterMap_cons_toList (f : ω → Option β) (a : ω) (threads : List ω) :
    (a :: threads).filterMap f = (f a).toList ++ threads.filterMap f := by
  rw [List.filterMap_cons]
  cases f a <;> rfl

/-- A step of one thread exchanges what it has. -/
theorem filterMap_set_perm (h : threads[i]? = some a) (f : ω → Option β) (b : ω) :
    ((f b).toList ++ threads.filterMap f).Perm ((f a).toList ++ (threads.set i b).filterMap f) := by
  induction threads generalizing i with
  | nil => cases h
  | cons c threads ih =>
    cases i with
    | zero =>
      obtain rfl : c = a := Option.some.inj h
      rw [List.set_cons_zero, filterMap_cons_toList, filterMap_cons_toList]
      exact List.perm_append_comm_assoc ..
    | succ i =>
      rw [List.set_cons_succ, filterMap_cons_toList, filterMap_cons_toList]
      have hrest := (ih h).append_left (f c).toList
      exact (List.perm_append_comm_assoc ..).trans
        (hrest.trans (List.perm_append_comm_assoc ..))

theorem length_filterMap_le_load {f : ω → Option β} (h : ∀ a, (f a).toList.length ≤ held a) :
    (threads.filterMap f).length ≤ load held threads := by
  induction threads with
  | nil => exact Nat.le_refl 0
  | cons c threads ih =>
    rw [filterMap_cons_toList, List.length_append, load_cons]
    exact Nat.add_le_add (h c) ih

/-- What holds of the thread after its step, and held of all threads before. -/
theorem forall_mem_set {p : ω → Prop} (h : ∀ c ∈ threads, p c) (hb : p b) :
    ∀ c ∈ threads.set i b, p c := by
  intro c hc
  rcases List.mem_or_eq_of_mem_set hc with hc | rfl
  · exact h c hc
  · exact hb

end Pool
