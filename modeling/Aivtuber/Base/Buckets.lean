import Mathlib.Algebra.BigOperators.Group.List.Basic
import Mathlib.Algebra.GroupWithZero.Nat
import Mathlib.Data.List.Range

/-!
# Buckets of equal width

The entries of a list are sorted by a time into half-open buckets of one width.  What is counted
over a run of consecutive buckets is what is counted between the two ends of the run
(`sum_countP_buckets`), and a time within the run has exactly one bucket (`countP_bucket_eq_one`).
-/

namespace Buckets

variable {α : Type*} {width : Nat} {time : α → Nat} {p : α → Bool}

/-- The times from `start` up to `stop`, which is left out. -/
def inside (start stop t : Nat) : Bool := decide (start ≤ t) && decide (t < stop)

@[simp] theorem inside_iff {start stop t : Nat} :
    inside start stop t = true ↔ start ≤ t ∧ t < stop := by
  rw [inside, Bool.and_eq_true, decide_eq_true_iff, decide_eq_true_iff]

/-- Two adjoining buckets count what the bucket of both counts. -/
theorem countP_inside_append (l : List α) {a b c : Nat} (hab : a ≤ b) (hbc : b ≤ c) :
    l.countP (fun x ↦ inside a b (time x) && p x) +
        l.countP (fun x ↦ inside b c (time x) && p x) =
      l.countP fun x ↦ inside a c (time x) && p x := by
  induction l with
  | nil => rfl
  | cons x l ih =>
    rw [List.countP_cons, List.countP_cons, List.countP_cons, ← ih]
    cases hp : p x with
    | false =>
      simp only [Bool.and_false, Bool.false_eq_true, if_false]
      omega
    | true =>
      simp only [Bool.and_true, inside_iff]
      split_ifs <;> omega

theorem countP_inside_self (l : List α) (a : Nat) :
    l.countP (fun x ↦ inside a a (time x) && p x) = 0 := by
  rw [List.countP_eq_zero]
  intro x _ hx
  rw [Bool.and_eq_true, inside_iff] at hx
  omega

/-- **The buckets of a run count what lies between its ends**. -/
theorem sum_countP_buckets (l : List α) (first n : Nat) :
    ((List.range' first n).map fun k ↦
        l.countP fun x ↦ inside (k * width) ((k + 1) * width) (time x) && p x).sum =
      l.countP fun x ↦ inside (first * width) ((first + n) * width) (time x) && p x := by
  induction n generalizing first with
  | zero =>
    rw [List.range'_zero, List.map_nil, List.sum_nil, Nat.add_zero, countP_inside_self]
  | succ n ih =>
    have hstart : first * width ≤ (first + 1) * width :=
      Nat.mul_le_mul_right width (Nat.le_succ first)
    have hstop : (first + 1) * width ≤ (first + 1 + n) * width :=
      Nat.mul_le_mul_right width (Nat.le_add_right _ n)
    rw [List.range'_succ, List.map_cons, List.sum_cons, ih (first + 1),
      countP_inside_append l hstart hstop, Nat.add_right_comm, Nat.add_assoc first]

/-- A time within a run of buckets lies in exactly one of them. -/
theorem countP_bucket_eq_one {n t : Nat} (ht : t < n * width) :
    (List.range n).countP (fun k ↦ inside (k * width) ((k + 1) * width) t) = 1 := by
  have hwidth : 0 < width := Nat.pos_of_ne_zero fun hzero ↦ by simp [hzero] at ht
  have hbucket : ∀ k, inside (k * width) ((k + 1) * width) t = true ↔ k = t / width := by
    intro k
    have hsucc := Nat.add_mul k 1 width
    rw [inside_iff, eq_comm, Nat.div_eq_iff hwidth]
    omega
  have hmem : t / width ∈ List.range n := List.mem_range.mpr (Nat.div_lt_of_lt_mul (by
    rwa [Nat.mul_comm]))
  calc (List.range n).countP (fun k ↦ inside (k * width) ((k + 1) * width) t)
      = (List.range n).count (t / width) := by
        apply List.countP_congr
        intro k _
        rw [hbucket k, beq_iff_eq]
    _ = 1 := by rw [List.nodup_range.count, if_pos hmem]

end Buckets
