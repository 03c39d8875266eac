import Mathlib.Data.List.Basic
import Mathlib.Data.List.Induction
import Mathlib.Data.List.Perm.Basic

/-!
# Lists read and written by slot

`l.swapRemove i` overwrites slot `i` by the last element and drops the last slot:
constant time on a vector, at the price of the order of the elements behind `i`.
Its lemmas are consequences of one equation, `swapRemove_append_cons`: the slots
in front of `i` are untouched, and those behind it are rotated by one.

A loop over the slots that satisfy a predicate visits positions; what it does is
easier to say of the elements.  `slots` lists the positions, `foldl_modify_slots`
turns a loop of in-place updates into a `map`, and `slots_concat` peels off the
last slot, which is the one a loop from the back visits first.
-/

universe u v

namespace List

variable {α : Type u} {β : Type v}

/-- The last element moved to the front. -/
def rotateLast (l : List α) : List α :=
  match l.getLast? with
  | none => []
  | some z => z :: l.dropLast

/-- Overwrite slot `i` by the last element and drop the last slot; an index out
of range leaves the list alone. -/
def swapRemove (l : List α) (i : Nat) : List α :=
  match l.getLast? with
  | none => []
  | some z => if i < l.length then (l.set i z).dropLast else l

/-- Slots that may be empty: one more at the end. -/
theorem join_getElem?_concat (l : List (Option α)) (slot : Option α) (i : Nat) :
    ((l ++ [slot])[i]?).join = if i = l.length then slot else (l[i]?).join := by
  rw [getElem?_append]
  split_ifs with hlt heq heq
  · exact absurd hlt (by omega)
  · rfl
  · simp [heq]
  · rw [getElem?_eq_none (by simp; omega), getElem?_eq_none (by omega)]

theorem rotateLast_nil : ([] : List α).rotateLast = [] := rfl

theorem rotateLast_concat (l : List α) (z : α) : (l ++ [z]).rotateLast = z :: l := by
  simp [rotateLast]

theorem rotateLast_perm (l : List α) : l.rotateLast.Perm l := by
  rcases l.eq_nil_or_concat' with rfl | ⟨l, z, rfl⟩
  · exact Perm.refl _
  · rw [rotateLast_concat]
    exact (perm_append_singleton z l).symm

theorem length_rotateLast (l : List α) : l.rotateLast.length = l.length :=
  l.rotateLast_perm.length_eq

/-- **What a swap-removal does**: the slots in front of the hole keep their
place, those behind it are rotated. -/
theorem swapRemove_append_cons (p q : List α) (a : α) :
    (p ++ a :: q).swapRemove p.length = p ++ q.rotateLast := by
  rcases q.eq_nil_or_concat' with rfl | ⟨q, z, rfl⟩
  · simp [swapRemove, rotateLast_nil]
  · have hlast : (p ++ a :: (q ++ [z])).getLast? = some z := by
      rw [← cons_append, ← append_assoc, getLast?_concat]
    have hlt : p.length < (p ++ a :: (q ++ [z])).length := by simp
    rw [rotateLast_concat, swapRemove, hlast]
    dsimp only
    rw [if_pos hlt, set_append_right _ _ (Nat.le_refl _), Nat.sub_self, set_cons_zero,
      show p ++ z :: (q ++ [z]) = (p ++ z :: q) ++ [z] by simp, dropLast_concat]

/-- A slot that exists splits its list. -/
theorem exists_append_of_getElem? {l : List α} {i : Nat} {a : α} (h : l[i]? = some a) :
    ∃ p q, l = p ++ a :: q ∧ p.length = i := by
  obtain ⟨hi, rfl⟩ := getElem?_eq_some_iff.mp h
  exact ⟨l.take i, l.drop (i + 1), by simp, by simp [Nat.le_of_lt hi]⟩

theorem swapRemove_perm {l : List α} {i : Nat} {a : α} (h : l[i]? = some a) :
    l.Perm (a :: l.swapRemove i) := by
  obtain ⟨p, q, rfl, rfl⟩ := exists_append_of_getElem? h
  rw [swapRemove_append_cons]
  exact perm_middle.trans ((q.rotateLast_perm.append_left p).symm.cons a)

theorem length_swapRemove {l : List α} {i : Nat} {a : α} (h : l[i]? = some a) :
    (l.swapRemove i).length + 1 = l.length := (swapRemove_perm h).length_eq.symm

theorem subperm_swapRemove {l : List α} {i : Nat} {a : α} (h : l[i]? = some a) :
    (l.swapRemove i).Subperm l :=
  ((sublist_cons_self a _).subperm).trans (swapRemove_perm h).symm.subperm

theorem mem_of_mem_swapRemove {l : List α} {i : Nat} {a b : α} (h : l[i]? = some a)
    (hb : b ∈ l.swapRemove i) : b ∈ l := (subperm_swapRemove h).subset hb

/-- The slots after a swap-removal, one by one. -/
theorem getElem?_swapRemove {l : List α} {i : Nat} (hi : i < l.length) (j : Nat) :
    (l.swapRemove i)[j]? =
      if j + 1 < l.length then if j = i then l[l.length - 1]? else l[j]? else none := by
  rcases l.eq_nil_or_concat' with rfl | ⟨l, z, rfl⟩
  · exact absurd hi (Nat.not_lt_zero i)
  · rw [swapRemove, getLast?_concat]
    dsimp only
    rw [if_pos hi, getElem?_dropLast, length_set, length_append, length_singleton,
      Nat.add_sub_cancel]
    by_cases hj : j < l.length
    · rw [if_pos hj, if_pos (by omega), getElem?_set]
      by_cases hji : j = i
      · subst hji
        rw [if_pos rfl, if_pos rfl, if_pos hi, getElem?_concat_length]
      · rw [if_neg (Ne.symm hji), if_neg hji]
    · rw [if_neg hj, if_neg (by omega)]

theorem set_append_cons (p q : List α) (a b : α) :
    (p ++ a :: q).set p.length b = p ++ b :: q := by
  rw [set_append_right _ _ (Nat.le_refl _), Nat.sub_self, set_cons_zero]

/-- What a slot held is irrelevant to its swap-removal. -/
theorem swapRemove_set {l : List α} {i : Nat} {a : α} (h : l[i]? = some a) (b : α) :
    (l.set i b).swapRemove i = l.swapRemove i := by
  obtain ⟨p, q, rfl, rfl⟩ := exists_append_of_getElem? h
  rw [set_append_cons, swapRemove_append_cons, swapRemove_append_cons]

/-- Overwriting a slot replaces one element of the list, up to order. -/
theorem set_perm {l : List α} {i : Nat} {a : α} (h : l[i]? = some a) (b : α) :
    ∃ m, l.Perm (a :: m) ∧ (l.set i b).Perm (b :: m) := by
  obtain ⟨p, q, rfl, rfl⟩ := exists_append_of_getElem? h
  exact ⟨p ++ q, perm_middle, by rw [set_append_cons]; exact perm_middle⟩

/-- An element that only the weaker predicate counts makes the count smaller. -/
theorem countP_lt_countP {p q : α → Bool} {l : List α} (hpq : ∀ a ∈ l, p a → q a) {a : α}
    (ha : a ∈ l) (hq : q a) (hp : ¬ p a) : l.countP p < l.countP q := by
  obtain ⟨l₁, l₂, rfl⟩ := append_of_mem ha
  have h₁ : l₁.countP p ≤ l₁.countP q :=
    countP_mono_left fun b hb ↦ hpq b (mem_append_left _ hb)
  have h₂ : l₂.countP p ≤ l₂.countP q :=
    countP_mono_left fun b hb ↦ hpq b (mem_append_right _ (mem_cons_of_mem a hb))
  rw [countP_append, countP_append, countP_cons_of_neg hp, countP_cons_of_pos hq]
  exact Nat.add_lt_add_of_le_of_lt h₁ (Nat.lt_succ_of_le h₂)

/-! ## Visiting slots -/

/-- The slots whose elements satisfy `p`, with these elements, in order. -/
def slots (p : α → Bool) (l : List α) : List (α × Nat) := l.zipIdx.filter fun x ↦ p x.1

theorem slots_concat (p : α → Bool) (l : List α) (a : α) :
    (l ++ [a]).slots p = l.slots p ++ if p a then [(a, l.length)] else [] := by
  rw [slots, slots, zipIdx_append, filter_append]
  simp [filter_cons]

/-- The elements of the visited slots are those that satisfy the predicate. -/
theorem map_fst_slots (p : α → Bool) (l : List α) : (l.slots p).map Prod.fst = l.filter p := by
  induction l using List.reverseRecOn with
  | nil => rfl
  | append_singleton l a ih =>
    rw [slots_concat, map_append, ih, filter_append, filter_singleton]
    cases p a <;> rfl

theorem modify_append_cons (p q : List α) (a : α) (f : α → α) :
    (p ++ a :: q).modify p.length f = p ++ f a :: q := by
  induction p with
  | nil => exact modify_zero_cons f a q
  | cons b p ih => rw [cons_append, length_cons, modify_succ_cons, ih]; rfl

/-- Updating the visited slots in place maps over the list. -/
theorem foldl_modify_slots (p : α → Bool) (g : α → β) (f : β → α → α) (l : List α) :
    ((l.slots p).map fun x ↦ (x.2, g x.1)).foldl (fun l x ↦ l.modify x.1 (f x.2)) l =
      l.map fun a ↦ if p a then f (g a) a else a := by
  -- the induction is on the list from its end: the last slot is visited last
  suffices h : ∀ l q : List α,
      ((l.slots p).map fun x ↦ (x.2, g x.1)).foldl (fun l x ↦ l.modify x.1 (f x.2)) (l ++ q) =
        (l.map fun a ↦ if p a then f (g a) a else a) ++ q by
    simpa using h l []
  intro l
  induction l using List.reverseRecOn with
  | nil => intro q; rfl
  | append_singleton l a ih =>
    intro q
    have hl := ih (a :: q)
    rw [slots_concat, map_append, foldl_append, append_assoc, singleton_append, hl, map_append,
      append_assoc]
    cases hp : p a with
    | false => simp [hp]
    | true =>
      have hlen : (l.map fun a ↦ if p a then f (g a) a else a).length = l.length := length_map _
      simp only [if_pos, map_cons, map_nil, foldl_cons, foldl_nil, hp]
      rw [← hlen, modify_append_cons]
      rfl

end List
