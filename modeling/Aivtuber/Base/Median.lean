import Mathlib.Algebra.Order.Field.Basic
import Mathlib.Data.List.GetD
import Mathlib.Data.List.Sort

/-!
# The median of a sample

The middle of the sorted values, or the mean of the two middle ones.  It depends on the values
only, lies between two of them, and for an odd number of at least three values still lies between
two of the others when one of them is left out.
-/

namespace Median

/-- Two values with a property: one is left when any value goes. -/
theorem exists_of_two_le_countP {α : Type*} {before after : List α} {x : α} {p : α → Bool}
    (h : 2 ≤ (before ++ x :: after).countP p) : ∃ y ∈ before ++ after, p y = true := by
  rw [← List.countP_pos_iff, List.countP_append]
  rw [List.countP_append, List.countP_cons] at h
  split at h <;> omega

section Order

variable {α : Type*} [LinearOrder α]

/-- The values in ascending order. -/
def sorted (values : List α) : List α := values.mergeSort (decide <| · ≤ ·)

theorem sorted_perm (values : List α) : (sorted values).Perm values := List.mergeSort_perm _ _

@[simp] theorem length_sorted (values : List α) : (sorted values).length = values.length :=
  (sorted_perm values).length_eq

theorem pairwise_sorted (values : List α) : (sorted values).Pairwise (· ≤ ·) :=
  List.pairwise_mergeSort' (· ≤ ·) values

/-- The order of the values does not matter. -/
theorem sorted_congr {values values' : List α} (h : values.Perm values') :
    sorted values = sorted values' :=
  List.Perm.eq_of_pairwise' (pairwise_sorted values) (pairwise_sorted values')
    (((sorted_perm values).trans h).trans (sorted_perm values').symm)

theorem mem_of_getElem_sorted {values : List α} {k : Nat} (hk : k < (sorted values).length) :
    (sorted values)[k] ∈ values :=
  (sorted_perm values).mem_iff.mp (List.getElem_mem hk)

/-- Nor does it for the smallest and the largest value. -/
theorem min?_congr {l l' : List α} (h : l.Perm l') :
    l.min? = l'.min? := by
  induction h with
  | nil => rfl
  | cons a _ ih => rw [List.min?_cons, List.min?_cons, ih]
  | swap a b l =>
    rw [List.min?_cons, List.min?_cons, List.min?_cons, List.min?_cons]
    cases l.min? <;> simp [min_comm, min_left_comm]
  | trans _ _ ih ih' => exact ih.trans ih'

theorem max?_congr {l l' : List α} (h : l.Perm l') :
    l.max? = l'.max? := by
  induction h with
  | nil => rfl
  | cons a _ ih => rw [List.max?_cons, List.max?_cons, ih]
  | swap a b l =>
    rw [List.max?_cons, List.max?_cons, List.max?_cons, List.max?_cons]
    cases l.max? <;> simp [max_comm, max_left_comm]
  | trans _ _ ih ih' => exact ih.trans ih'

/-- Position `k` of a sorted list is not below the `k + 1` values up to it. -/
theorem lt_countP_le {l : List α} (hl : l.Pairwise (· ≤ ·)) {k : Nat} (hk : k < l.length) :
    k < l.countP fun x ↦ decide (x ≤ l[k]) := by
  have htake : (l.take (k + 1)).countP (fun x ↦ decide (x ≤ l[k])) = k + 1 := by
    rw [List.countP_eq_length.mpr, List.length_take, Nat.min_eq_left hk]
    intro x hx
    obtain ⟨i, hi, rfl⟩ := List.mem_take_iff_getElem.mp hx
    have hle : i ≤ k := by omega
    rcases Nat.lt_or_eq_of_le hle with hlt | rfl
    · exact decide_eq_true (List.pairwise_iff_getElem.mp hl i k (by omega) hk hlt)
    · exact decide_eq_true le_rfl
  have hsub := (List.take_sublist (k + 1) l).countP_le (p := fun x ↦ decide (x ≤ l[k]))
  omega

/-- Nor is it above the values from it on. -/
theorem lt_add_countP_ge {l : List α} (hl : l.Pairwise (· ≤ ·)) {k : Nat} (hk : k < l.length) :
    l.length ≤ k + l.countP fun x ↦ decide (l[k] ≤ x) := by
  have hdrop : (l.drop k).countP (fun x ↦ decide (l[k] ≤ x)) = l.length - k := by
    rw [List.countP_eq_length.mpr, List.length_drop]
    intro x hx
    obtain ⟨i, hi, rfl⟩ := List.mem_drop_iff_getElem.mp hx
    rcases Nat.eq_zero_or_pos i with rfl | hpos
    · exact decide_eq_true le_rfl
    · have hi : k + i < l.length := by omega
      exact decide_eq_true (List.pairwise_iff_getElem.mp hl k (k + i) hk hi (by omega))
  have hsub := (List.drop_sublist k l).countP_le (p := fun x ↦ decide (l[k] ≤ x))
  omega

end Order

variable {K : Type*} [Field K] [LinearOrder K]

/-- The middle order statistic, or the mean of the two middle values. -/
def median (values : List K) : K :=
  let middle := (sorted values).length / 2
  if (sorted values).length % 2 = 0 then
    ((sorted values).getD (middle - 1) 0 + (sorted values).getD middle 0) / 2
  else
    (sorted values).getD middle 0

theorem median_congr {values values' : List K} (h : values.Perm values') :
    median values = median values' := by
  rw [median, median, sorted_congr h]

theorem median_of_odd {values : List K} (hodd : values.length % 2 = 1) :
    ∃ hk : values.length / 2 < (sorted values).length,
      median values = (sorted values)[values.length / 2] := by
  have hk : values.length / 2 < (sorted values).length := by
    rw [length_sorted]
    omega
  refine ⟨hk, ?_⟩
  rw [median, length_sorted, if_neg (by omega), List.getD_eq_getElem _ _ hk]

/-- **One value cannot move the median beyond the others**, out of an odd number of at least
three. -/
theorem median_between_others {before after : List K} {outlier : K}
    (hodd : (before ++ outlier :: after).length % 2 = 1)
    (hthree : 3 ≤ (before ++ outlier :: after).length) :
    (∃ low ∈ before ++ after, low ≤ median (before ++ outlier :: after)) ∧
      ∃ high ∈ before ++ after, median (before ++ outlier :: after) ≤ high := by
  obtain ⟨hk, hmedian⟩ := median_of_odd hodd
  have hperm := sorted_perm (before ++ outlier :: after)
  have hbelow := lt_countP_le (pairwise_sorted (before ++ outlier :: after)) hk
  have habove := lt_add_countP_ge (pairwise_sorted (before ++ outlier :: after)) hk
  rw [hperm.countP_eq, ← hmedian] at hbelow
  rw [hperm.countP_eq, ← hmedian, length_sorted] at habove
  constructor
  · obtain ⟨low, hmem, hle⟩ := exists_of_two_le_countP (by omega :
      2 ≤ (before ++ outlier :: after).countP fun x ↦
        decide (x ≤ median (before ++ outlier :: after)))
    exact ⟨low, hmem, of_decide_eq_true hle⟩
  · obtain ⟨high, hmem, hle⟩ := exists_of_two_le_countP (by omega :
      2 ≤ (before ++ outlier :: after).countP fun x ↦
        decide (median (before ++ outlier :: after) ≤ x))
    exact ⟨high, hmem, of_decide_eq_true hle⟩

variable [IsStrictOrderedRing K]

/-- The median lies between two of the values. -/
theorem median_between {values : List K} (hne : values ≠ []) :
    (∃ low ∈ values, low ≤ median values) ∧ ∃ high ∈ values, median values ≤ high := by
  have hpos := List.length_pos_iff.mpr hne
  by_cases heven : values.length % 2 = 0
  · have hlow : values.length / 2 - 1 < (sorted values).length := by
      rw [length_sorted]
      omega
    have hhigh : values.length / 2 < (sorted values).length := by
      rw [length_sorted]
      omega
    have hle : (sorted values)[values.length / 2 - 1] ≤ (sorted values)[values.length / 2] :=
      List.pairwise_iff_getElem.mp (pairwise_sorted values) _ _ hlow hhigh (by omega)
    have hmedian : median values =
        ((sorted values)[values.length / 2 - 1] + (sorted values)[values.length / 2]) / 2 := by
      rw [median, length_sorted, if_pos heven, List.getD_eq_getElem _ _ hlow,
        List.getD_eq_getElem _ _ hhigh]
    constructor
    · refine ⟨_, mem_of_getElem_sorted hlow, ?_⟩
      rw [hmedian, le_div_iff₀ two_pos, mul_two]
      exact add_le_add_right hle _
    · refine ⟨_, mem_of_getElem_sorted hhigh, ?_⟩
      rw [hmedian, div_le_iff₀ two_pos, mul_two]
      exact add_le_add_left hle _
  · obtain ⟨hk, hmedian⟩ := median_of_odd (show values.length % 2 = 1 by omega)
    exact ⟨⟨_, mem_of_getElem_sorted hk, hmedian.ge⟩, ⟨_, mem_of_getElem_sorted hk, hmedian.le⟩⟩

end Median
