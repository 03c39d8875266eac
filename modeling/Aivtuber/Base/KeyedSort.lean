import Mathlib.Data.List.Sort
import Mathlib.Data.Prod.Lex
import Mathlib.Order.Defs.LinearOrder

/-!
# Sorting by a key

A list sorted by a key depends on its order only where keys are equal: with distinct keys,
every permutation of it is sorted to the same list.  The first elements of the sorted list
are the least ones, and whoever keeps them needs to see each element only once (`Least`).
-/

universe u v

namespace KeyedSort

variable {α : Type u} {κ : Type v} [LinearOrder κ] {key : α → κ} {l l' : List α}

instance total_key : Std.Total fun a b : α ↦ key a ≤ key b where
  total a b := le_total (key a) (key b)

instance trans_key : IsTrans α fun a b : α ↦ key a ≤ key b where
  trans _ _ _ := le_trans

theorem pairwise_insertionSort (key : α → κ) [DecidableRel fun a b : α ↦ key a ≤ key b]
    (l : List α) :
    (l.insertionSort fun a b ↦ key a ≤ key b).Pairwise fun a b ↦ key a ≤ key b :=
  List.pairwise_insertionSort _ l

/-- **Sorting by distinct keys** forgets the order of the list. -/
theorem insertionSort_eq_of_perm [DecidableRel fun a b : α ↦ key a ≤ key b] (h : l.Perm l') (hkeys : (l.map key).Nodup) :
    (l.insertionSort fun a b ↦ key a ≤ key b) = l'.insertionSort fun a b ↦ key a ≤ key b := by
  have hperm : (l.insertionSort fun a b ↦ key a ≤ key b).Perm
      (l'.insertionSort fun a b ↦ key a ≤ key b) :=
    (List.perm_insertionSort _ l).trans (h.trans (List.perm_insertionSort _ l').symm)
  refine hperm.eq_of_pairwise ?_ (pairwise_insertionSort key l) (pairwise_insertionSort key l')
  intro a b ha hb hab hba
  have ha : a ∈ l := (List.perm_insertionSort _ l).mem_iff.mp ha
  have hb : b ∈ l := h.mem_iff.mpr ((List.perm_insertionSort _ l').mem_iff.mp hb)
  exact List.inj_on_of_nodup_map hkeys ha hb (le_antisymm hab hba)

/-- A sorted list whose neighbours have different keys has no key twice. -/
theorem pairwise_lt_of_isChain_ne (hsorted : l.Pairwise fun a b ↦ key a ≤ key b)
    (hne : l.IsChain fun a b ↦ key a ≠ key b) : l.Pairwise fun a b ↦ key a < key b := by
  induction l with
  | nil => exact List.Pairwise.nil
  | cons a l ih =>
    rw [List.pairwise_cons] at hsorted
    cases l with
    | nil => exact List.pairwise_singleton _ _
    | cons b l =>
      rw [List.isChain_cons_cons] at hne
      have hrest := ih hsorted.2 hne.2
      have hab : key a < key b := lt_of_le_of_ne (hsorted.1 b List.mem_cons_self) hne.1
      refine List.pairwise_cons.mpr ⟨?_, hrest⟩
      rintro c (_ | ⟨_, hc⟩)
      · exact hab
      · exact hab.trans ((List.pairwise_cons.mp hrest).1 c hc)

/-- **Sorting is stable**: where positions ascend, ties are broken by position. -/
theorem insertionSort_eq_lex [DecidableRel fun a b : α ↦ key a ≤ key b] {position : α → Nat}
    [DecidableRel fun a b : α ↦ toLex (key a, position a) ≤ toLex (key b, position b)]
    (h : l.Pairwise fun a b ↦ position a < position b) :
    (l.insertionSort fun a b ↦ key a ≤ key b) =
      l.insertionSort fun a b ↦ toLex (key a, position a) ≤ toLex (key b, position b) := by
  induction l with
  | nil => rfl
  | cons a l ih =>
    rw [List.pairwise_cons] at h
    rw [List.insertionSort_cons, List.insertionSort_cons, ← ih h.2]
    have hlater : ∀ b ∈ l.insertionSort fun a b ↦ key a ≤ key b, position a < position b :=
      fun b hb ↦ h.1 b ((List.mem_insertionSort _).mp hb)
    generalize (l.insertionSort fun a b ↦ key a ≤ key b) = sorted at hlater
    induction sorted with
    | nil => rfl
    | cons b sorted ih =>
      have hrel : key a ≤ key b ↔ toLex (key a, position a) ≤ toLex (key b, position b) := by
        rw [Prod.Lex.toLex_le_toLex, le_iff_lt_or_eq]
        exact or_congr Iff.rfl (and_iff_left (hlater b List.mem_cons_self).le).symm
      rw [List.orderedInsert_cons, List.orderedInsert_cons,
        ih fun c hc ↦ hlater c (List.mem_cons_of_mem b hc)]
      exact if_congr hrel rfl rfl

/-! ## The least elements -/

/-- `kept` are `n` least elements of a list, or all of them. -/
def Least (key : α → κ) (n : Nat) (kept l : List α) : Prop :=
  kept.length = min n l.length ∧
    ∃ rest, l.Perm (kept ++ rest) ∧ ∀ a ∈ kept, ∀ b ∈ rest, key a ≤ key b

namespace Least

variable {n : Nat} {kept kept' : List α} {a m : α}

theorem nil : Least key n [] [] := ⟨by simp, [], List.Perm.refl _, by simp⟩

theorem length_le (h : Least key n kept l) : kept.length ≤ n := h.1.trans_le (Nat.min_le_left _ _)

/-- While there is room, everything is kept. -/
theorem concat (h : Least key n kept l) (hroom : kept.length + 1 ≤ n) :
    Least key n (kept ++ [a]) (l ++ [a]) := by
  obtain ⟨hlength, rest, hperm, -⟩ := h
  have hrest : rest = [] := by
    have := hperm.length_eq
    rw [List.length_append] at this
    exact List.eq_nil_of_length_eq_zero (by omega)
  subst hrest
  rw [List.append_nil] at hperm
  refine ⟨?_, [], ?_, by simp⟩
  · have := hperm.length_eq
    simp only [List.length_append, List.length_singleton]
    omega
  · rw [List.append_nil]
    exact hperm.append_right [a]

/-- When there is none, a greatest element goes. -/
theorem replace (h : Least key n kept l) (hfull : n ≤ kept.length)
    (hperm : (kept ++ [a]).Perm (m :: kept')) (hm : ∀ b ∈ kept ++ [a], key b ≤ key m) :
    Least key n kept' (l ++ [a]) := by
  obtain ⟨hlength, rest, hall, hrest⟩ := h
  refine ⟨?_, m :: rest, ?_, ?_⟩
  · have := hperm.length_eq
    simp only [List.length_append, List.length_cons, List.length_nil] at this ⊢
    omega
  · have hswap : (kept ++ rest ++ [a]).Perm (kept ++ [a] ++ rest) := by
      rw [List.append_assoc, List.append_assoc]
      exact List.perm_append_comm.append_left kept
    exact ((hall.append_right [a]).trans hswap).trans
      ((hperm.append_right rest).trans List.perm_middle.symm)
  · intro b hb c hc
    have hb' : b ∈ kept ++ [a] := hperm.mem_iff.mpr (List.mem_cons_of_mem m hb)
    rcases List.mem_cons.mp hc with rfl | hc
    · exact hm b hb'
    · by_cases hmem : m ∈ kept
      · exact (hm b hb').trans (hrest m hmem c hc)
      · -- the new element is the one that goes
        have hma : m = a := by
          have := hperm.mem_iff.mpr List.mem_cons_self
          simpa [hmem] using this
        subst hma
        have hkept : kept.Perm kept' :=
          (List.perm_cons m).mp (List.perm_append_comm.symm.trans hperm)
        exact hrest b (hkept.mem_iff.mpr hb) c hc

/-- **The kept elements, sorted, are the first of the sorted list**. -/
theorem insertionSort_eq [DecidableRel fun a b : α ↦ key a ≤ key b] (h : Least key n kept l)
    (hkeys : (l.map key).Nodup) :
    (kept.insertionSort fun a b ↦ key a ≤ key b) =
      (l.insertionSort fun a b ↦ key a ≤ key b).take n := by
  obtain ⟨hlength, rest, hperm, hrest⟩ := h
  have hsorted : (l.insertionSort fun a b ↦ key a ≤ key b) =
      (kept.insertionSort fun a b ↦ key a ≤ key b) ++
        rest.insertionSort fun a b ↦ key a ≤ key b := by
    have hperm' := (List.perm_insertionSort (fun a b ↦ key a ≤ key b) l).trans (hperm.trans
      ((List.perm_insertionSort (fun a b ↦ key a ≤ key b) kept).symm.append
        (List.perm_insertionSort (fun a b ↦ key a ≤ key b) rest).symm))
    refine hperm'.eq_of_pairwise ?_ (pairwise_insertionSort key l) ?_
    · intro a b ha hb hab hba
      refine List.inj_on_of_nodup_map hkeys ((List.mem_insertionSort _).mp ha) ?_
        (le_antisymm hab hba)
      exact (List.mem_insertionSort _).mp (hperm'.mem_iff.mpr hb)
    · rw [List.pairwise_append]
      refine ⟨pairwise_insertionSort key kept, pairwise_insertionSort key rest, ?_⟩
      intro a ha b hb
      exact hrest a ((List.mem_insertionSort _).mp ha) b ((List.mem_insertionSort _).mp hb)
  have hcount := hperm.length_eq
  rw [List.length_append] at hcount
  rw [hsorted]
  rcases Nat.le_total n l.length with hn | hn
  · rw [Nat.min_eq_left hn] at hlength
    rw [List.take_left' ((List.length_insertionSort _ kept).trans hlength)]
  · rw [Nat.min_eq_right hn] at hlength
    have hnone : rest = [] := List.eq_nil_of_length_eq_zero (by omega)
    rw [hnone, List.insertionSort_nil, List.append_nil, List.take_of_length_le]
    rw [List.length_insertionSort]
    omega

end Least

end KeyedSort
