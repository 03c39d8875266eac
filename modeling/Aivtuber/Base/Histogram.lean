import Mathlib.Algebra.BigOperators.Group.List.Basic
import Mathlib.Algebra.GroupWithZero.Nat
import Mathlib.Data.List.Induction
import Std.Data.ExtTreeMap

/-!
# Histograms

The entries of a list are counted under the names of their labels, in a map that holds every
name of the alphabet from the start.  The map is a function of how often each label occurs
(`getElem?_counts`), so the order of the entries does not matter (`counts_perm`), and the counts
of the whole alphabet sum to the length of the list (`sum_countP_labels`).

Where the names are not known before, an entry that is new starts at zero (`tally`).
-/

namespace Histogram

open Std (ExtTreeMap)

variable {α κ : Type} {alphabet : List κ} {name : κ → String} {label : α → κ}

/-- Every name of the alphabet, at zero. -/
def zero (alphabet : List κ) (name : κ → String) : ExtTreeMap String Nat :=
  ExtTreeMap.ofList (alphabet.map fun c ↦ (name c, 0))

/-- Count one entry; a name that is not in the map is not counted. -/
def bump (counts : ExtTreeMap String Nat) (key : String) : ExtTreeMap String Nat :=
  counts.modify key (· + 1)

def counts (alphabet : List κ) (name : κ → String) (label : α → κ) (l : List α) :
    ExtTreeMap String Nat :=
  l.foldl (fun counts a ↦ bump counts (name (label a))) (zero alphabet name)

theorem getElem?_zero (hname : name.Injective) (hnodup : alphabet.Nodup) {c : κ}
    (hc : c ∈ alphabet) : (zero alphabet name)[name c]? = some 0 := by
  apply ExtTreeMap.getElem?_ofList_of_mem Std.ReflCmp.compare_self
  · rw [List.pairwise_map]
    apply hnodup.imp
    intro a b hab hcompare
    exact hab (hname (Std.LawfulEqCmp.eq_of_compare hcompare))
  · exact List.mem_map.mpr ⟨c, hc, rfl⟩

theorem mem_counts (l : List α) {key : String} :
    key ∈ counts alphabet name label l ↔ ∃ c ∈ alphabet, name c = key := by
  induction l using List.reverseRecOn with
  | nil =>
    rw [counts, List.foldl_nil, zero, ExtTreeMap.mem_ofList, List.contains_iff_mem, List.map_map,
      List.mem_map]
    rfl
  | append_singleton l a ih =>
    rw [counts] at ih
    rw [counts, List.foldl_append, List.foldl_cons, List.foldl_nil, bump, ExtTreeMap.mem_modify,
      ih]

variable [DecidableEq κ]

/-- **Each label of the alphabet is counted as often as it occurs**. -/
theorem getElem?_counts (hname : name.Injective) (hnodup : alphabet.Nodup) {c : κ}
    (hc : c ∈ alphabet) (l : List α) :
    (counts alphabet name label l)[name c]? = some (l.countP fun a ↦ label a = c) := by
  induction l using List.reverseRecOn with
  | nil => exact getElem?_zero hname hnodup hc
  | append_singleton l a ih =>
    rw [counts] at ih
    rw [counts, List.foldl_append, List.foldl_cons, List.foldl_nil, bump,
      ExtTreeMap.getElem?_modify, List.countP_append, List.countP_singleton]
    by_cases hlabel : label a = c
    · rw [hlabel, if_pos Std.ReflCmp.compare_self, ih, if_pos (decide_eq_true rfl)]
      rfl
    · rw [if_neg (mt Std.LawfulEqCmp.eq_of_compare (hname.ne hlabel)), ih,
        if_neg (by rwa [decide_eq_true_iff])]
      rfl

/-- The order of the entries does not matter. -/
theorem counts_perm (hname : name.Injective) (hnodup : alphabet.Nodup) {l l' : List α}
    (h : l.Perm l') : counts alphabet name label l = counts alphabet name label l' := by
  ext1 key
  by_cases hkey : ∃ c ∈ alphabet, name c = key
  · obtain ⟨c, hc, rfl⟩ := hkey
    rw [getElem?_counts hname hnodup hc, getElem?_counts hname hnodup hc, h.countP_eq]
  · rw [ExtTreeMap.getElem?_eq_none (mt (mem_counts l).mp hkey),
      ExtTreeMap.getElem?_eq_none (mt (mem_counts l').mp hkey)]

/-- An entry is counted once over an alphabet without repetitions. -/
theorem sum_indicator (alphabet : List κ) (x : κ) :
    (alphabet.map fun c ↦ if x = c then 1 else 0).sum = alphabet.count x := by
  induction alphabet with
  | nil => rfl
  | cons c alphabet ih =>
    rw [List.map_cons, List.sum_cons, ih, List.count_cons, Nat.add_comm]
    simp only [beq_iff_eq, @eq_comm κ x]

/-- **The counts of the whole alphabet sum to the number of entries**. -/
theorem sum_countP_labels (hnodup : alphabet.Nodup) (hcomplete : ∀ c, c ∈ alphabet) (l : List α) :
    (alphabet.map fun c ↦ l.countP fun a ↦ label a = c).sum = l.length := by
  induction l with
  | nil => simp
  | cons a l ih =>
    have honce : alphabet.count (label a) = 1 :=
      hnodup.count.trans (if_pos (hcomplete (label a)))
    simp only [List.countP_cons, decide_eq_true_eq, List.sum_map_add, ih,
      sum_indicator alphabet (label a), honce, List.length_cons]

/-! ## Names that are not known before -/

/-- Count one entry, under a name that may be new. -/
def add (counts : ExtTreeMap String Nat) (key : String) : ExtTreeMap String Nat :=
  counts.insert key (counts.getD key 0 + 1)

def tally (key : α → String) (l : List α) : ExtTreeMap String Nat :=
  l.foldl (fun counts a ↦ add counts (key a)) ∅

theorem tally_append (key : α → String) (l : List α) (a : α) :
    tally key (l ++ [a]) = add (tally key l) (key a) := by
  rw [tally, List.foldl_append]
  rfl

/-- **The names are those that occur, each with the number of its entries**. -/
theorem getElem?_tally (key : α → String) (l : List α) (name : String) :
    (tally key l)[name]? =
      if l.countP (key · = name) = 0 then none else some (l.countP (key · = name)) := by
  induction l using List.reverseRecOn with
  | nil => exact ExtTreeMap.getElem?_empty
  | append_singleton l a ih =>
    rw [tally_append, add, ExtTreeMap.getElem?_insert, List.countP_append, List.countP_singleton]
    by_cases hname : key a = name
    · rw [if_pos (Std.LawfulEqCmp.compare_eq_iff_eq.mpr hname), if_pos (decide_eq_true hname),
        if_neg (Nat.succ_ne_zero _), hname, ExtTreeMap.getD_eq_getD_getElem?, ih]
      split
      case isTrue hzero =>
        rw [hzero]
        rfl
      case isFalse => rfl
    · rw [if_neg (mt Std.LawfulEqCmp.compare_eq_iff_eq.mp hname), ih,
        if_neg (mt of_decide_eq_true hname), Nat.add_zero]

theorem tally_perm (key : α → String) {l l' : List α} (h : l.Perm l') :
    tally key l = tally key l' := by
  ext1 name
  rw [getElem?_tally, getElem?_tally, h.countP_eq]

end Histogram
