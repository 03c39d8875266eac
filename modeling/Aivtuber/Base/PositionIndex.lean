import Std.Data.ExtTreeMap
import Mathlib.Data.List.Nodup
import Aivtuber.Base.Slots

/-!
# Exact position indexes of a vector

An index maps a key of each element of a vector to the position of that element.
It is *exact* when it holds these positions and no other keys (`Indexes`), so
that a lookup finds the element of that key and nothing else.  The lemmas say
how each update of the vector is followed by the index: appending, overwriting
by an element of the same key, and swap-removal, which has to move the index
entry of the element that filled the hole.
-/

universe u v

open Std (ExtTreeMap TransOrd LawfulEqOrd)

namespace PositionIndex

variable {α : Type u} {κ : Type v} [Ord κ] [TransOrd κ]

/-- `m` maps the key of every element of `l` to its position, and holds no other
key. -/
def Indexes (key : α → κ) (l : List α) (m : ExtTreeMap κ Nat) : Prop :=
  ∀ k i, m[k]? = some i ↔ ∃ a, l[i]? = some a ∧ key a = k

/-- The index entry of the element that filled slot `i`, when there is one. -/
def reindex (key : α → κ) (l : List α) (m : ExtTreeMap κ Nat) (i : Nat) : ExtTreeMap κ Nat :=
  match l[i]? with
  | none => m
  | some moved => m.insert (key moved) i

section Lookup

variable [LawfulEqOrd κ] [DecidableEq κ]

theorem getElem?_insert (m : ExtTreeMap κ Nat) (k a : κ) (v : Nat) :
    (m.insert k v)[a]? = if k = a then some v else m[a]? := by
  simp only [ExtTreeMap.getElem?_insert, Std.LawfulEqCmp.compare_eq_iff_eq]

theorem getElem?_erase (m : ExtTreeMap κ Nat) (k a : κ) :
    (m.erase k)[a]? = if k = a then none else m[a]? := by
  simp only [ExtTreeMap.getElem?_erase, Std.LawfulEqCmp.compare_eq_iff_eq]

end Lookup

namespace Indexes

variable {key : α → κ} {l : List α} {m : ExtTreeMap κ Nat}

theorem empty : Indexes key ([] : List α) (∅ : ExtTreeMap κ Nat) := fun k i ↦ by simp

/-- An indexed vector has pairwise distinct keys. -/
theorem eq_of_key_eq (h : Indexes key l m) {i j : Nat} {a b : α} (ha : l[i]? = some a)
    (hb : l[j]? = some b) (hab : key a = key b) : i = j := by
  have hi := (h (key a) i).mpr ⟨a, ha, rfl⟩
  have hj := (h (key a) j).mpr ⟨b, hb, hab.symm⟩
  exact Option.some.inj (hi.symm.trans hj)

theorem nodup_map (h : Indexes key l m) : (l.map key).Nodup := by
  rw [List.nodup_iff_getElem?_ne_getElem?]
  intro i j hij hj heq
  rw [List.length_map] at hj
  have hi : i < l.length := Nat.lt_trans hij hj
  rw [List.getElem?_map, List.getElem?_map, List.getElem?_eq_getElem hi,
    List.getElem?_eq_getElem hj, Option.map_some, Option.map_some] at heq
  exact Nat.ne_of_lt hij (h.eq_of_key_eq (List.getElem?_eq_getElem hi)
    (List.getElem?_eq_getElem hj) (Option.some.inj heq))

theorem getElem?_eq_none_iff (h : Indexes key l m) {k : κ} :
    m[k]? = none ↔ ∀ a ∈ l, key a ≠ k := by
  constructor
  · intro hk a ha hak
    obtain ⟨i, hi⟩ := List.mem_iff_getElem?.mp ha
    rw [(h k i).mpr ⟨a, hi, hak⟩] at hk
    cases hk
  · intro hk
    cases hm : m[k]? with
    | none => rfl
    | some i =>
      obtain ⟨a, ha, hak⟩ := (h k i).mp hm
      exact absurd hak (hk a (List.mem_of_getElem? ha))

/-- **Lookup through an exact index**: it returns the element of that key. -/
theorem bind_getElem?_eq_some_iff (h : Indexes key l m) {k : κ} {a : α} :
    (m[k]?.bind fun i ↦ l[i]?) = some a ↔ a ∈ l ∧ key a = k := by
  rw [Option.bind_eq_some_iff]
  constructor
  · rintro ⟨i, hi, ha⟩
    obtain ⟨b, hb, hbk⟩ := (h k i).mp hi
    rw [ha] at hb
    cases hb
    exact ⟨List.mem_of_getElem? ha, hbk⟩
  · rintro ⟨ha, hak⟩
    obtain ⟨i, hi⟩ := List.mem_iff_getElem?.mp ha
    exact ⟨i, (h k i).mpr ⟨a, hi, hak⟩, hi⟩

/-- Overwriting an element by one of the same key. -/
theorem set (h : Indexes key l m) {i : Nat} {a b : α} (ha : l[i]? = some a)
    (hab : key b = key a) : Indexes key (l.set i b) m := by
  intro k j
  rw [h k j]
  have hi := (List.getElem?_eq_some_iff.mp ha).1
  by_cases hij : i = j
  · subst hij
    rw [List.getElem?_set_self hi, ha]
    simp [hab]
  · rw [List.getElem?_set_ne hij]

variable [LawfulEqOrd κ] [DecidableEq κ]

/-- Appending an element of a new key. -/
theorem concat (h : Indexes key l m) {a : α} (ha : ∀ b ∈ l, key b ≠ key a) :
    Indexes key (l ++ [a]) (m.insert (key a) l.length) := by
  intro k i
  rw [getElem?_insert]
  split
  · rename_i hk
    subst hk
    constructor
    · intro hi
      cases hi
      exact ⟨a, by simp, rfl⟩
    · rintro ⟨b, hb, hba⟩
      rcases Nat.lt_trichotomy i l.length with hi | hi | hi
      · rw [List.getElem?_append_left hi] at hb
        exact absurd hba (ha b (List.mem_of_getElem? hb))
      · rw [hi]
      · rw [List.getElem?_eq_none (by simp; omega)] at hb
        cases hb
  · rename_i hk
    rw [h k i]
    constructor
    · rintro ⟨b, hb, rfl⟩
      exact ⟨b, by rw [List.getElem?_append_left (List.getElem?_eq_some_iff.mp hb).1, hb], rfl⟩
    · rintro ⟨b, hb, rfl⟩
      rcases Nat.lt_or_ge i l.length with hi | hi
      · exact ⟨b, by rwa [List.getElem?_append_left hi] at hb, rfl⟩
      · rw [List.getElem?_append_right hi, List.getElem?_singleton] at hb
        split at hb
        · cases hb
          exact absurd rfl hk
        · cases hb

/-- **Swap-removal.**  Forget the key of the removed element, then record where
the element that filled the hole is now. -/
theorem swapRemove (h : Indexes key l m) {i : Nat} {a : α} (ha : l[i]? = some a) :
    Indexes key (l.swapRemove i) (reindex key (l.swapRemove i) (m.erase (key a)) i) := by
  have hi := (List.getElem?_eq_some_iff.mp ha).1
  intro k j
  simp only [reindex, List.getElem?_swapRemove hi, if_true]
  by_cases hlast : i + 1 < l.length
  · -- the last element `z` moved to the hole
    obtain ⟨z, hz⟩ : ∃ z, l[l.length - 1]? = some z :=
      ⟨_, List.getElem?_eq_getElem (by omega)⟩
    rw [if_pos hlast, hz]
    dsimp only
    rw [getElem?_insert, getElem?_erase]
    have hza : key z ≠ key a := fun hc ↦ by
      have := h.eq_of_key_eq hz ha hc
      omega
    by_cases hkz : key z = k
    · subst hkz
      rw [if_pos rfl]
      constructor
      · intro hj
        cases hj
        exact ⟨z, by rw [if_pos hlast, if_pos rfl], rfl⟩
      · rintro ⟨b, hb, hbz⟩
        by_cases hji : j = i
        · rw [hji]
        · rw [if_neg hji] at hb
          split at hb
          · have := h.eq_of_key_eq hb hz hbz
            omega
          · cases hb
    · rw [if_neg hkz]
      by_cases hka : key a = k
      · subst hka
        rw [if_pos rfl]
        constructor
        · intro hc
          cases hc
        · rintro ⟨b, hb, hba⟩
          split at hb
          · split at hb
            · cases hb
              exact absurd hba hza
            · exact absurd (h.eq_of_key_eq hb ha hba) (by assumption)
          · cases hb
      · rw [if_neg hka, h k j]
        constructor
        · rintro ⟨b, hb, rfl⟩
          have hj := (List.getElem?_eq_some_iff.mp hb).1
          have hji : j ≠ i := fun hc ↦ by
            rw [hc, ha] at hb
            cases hb
            exact hka rfl
          have hjz : j ≠ l.length - 1 := fun hc ↦ by
            rw [hc, hz] at hb
            cases hb
            exact hkz rfl
          exact ⟨b, by rw [if_pos (by omega), if_neg hji, hb], rfl⟩
        · rintro ⟨b, hb, rfl⟩
          split at hb
          · split at hb
            · cases hb
              exact absurd rfl hkz
            · exact ⟨b, hb, rfl⟩
          · cases hb
  · -- the removed element was the last one: nothing moved
    rw [if_neg hlast]
    dsimp only
    rw [getElem?_erase]
    by_cases hka : key a = k
    · subst hka
      rw [if_pos rfl]
      constructor
      · intro hc
        cases hc
      · rintro ⟨b, hb, hba⟩
        split at hb
        · rw [if_neg (by omega)] at hb
          have := h.eq_of_key_eq hb ha hba
          omega
        · cases hb
    · rw [if_neg hka, h k j]
      constructor
      · rintro ⟨b, hb, rfl⟩
        have hj := (List.getElem?_eq_some_iff.mp hb).1
        have hji : j ≠ i := fun hc ↦ by
          rw [hc, ha] at hb
          cases hb
          exact hka rfl
        exact ⟨b, by rw [if_pos (by omega), if_neg hji, hb], rfl⟩
      · rintro ⟨b, hb, rfl⟩
        split at hb
        · exact ⟨b, by rwa [if_neg (by omega)] at hb, rfl⟩
        · cases hb

end Indexes

end PositionIndex
