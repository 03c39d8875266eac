import Mathlib.Data.List.Basic
import Mathlib.Algebra.BigOperators.Group.List.Basic
import Mathlib.Algebra.GroupWithZero.Nat

/-!
# Rolling windows

Amounts that were booked at instants, and their total since a horizon.  A ledger that
forgets its oldest entries still shows this total as long as each cut is *exact*: what it
drops is older than the horizon of the cut, and what it keeps is not.  A ledger of instants
in order is always cut exactly.

A limit that is checked against the window behind each new element is a limit for every
window (`within_concat_le`).
-/

universe u

namespace Window

variable {α : Type u} {time amount : α → Nat} {horizon : Nat}

/-- The total of what was booked at `horizon` or later. -/
def since (time amount : α → Nat) (horizon : Nat) (l : List α) : Nat :=
  (l.map fun a ↦ if horizon ≤ time a then amount a else 0).sum

@[simp] theorem since_nil : since time amount horizon [] = 0 := rfl

@[simp] theorem since_append (l m : List α) :
    since time amount horizon (l ++ m) = since time amount horizon l + since time amount horizon m := by
  rw [since, List.map_append, List.sum_append]
  rfl

@[simp] theorem since_cons (a : α) (l : List α) : since time amount horizon (a :: l) =
    (if horizon ≤ time a then amount a else 0) + since time amount horizon l := by
  rw [since, List.map_cons, List.sum_cons]
  rfl

theorem since_eq_zero {l : List α} (h : ∀ a ∈ l, time a < horizon) :
    since time amount horizon l = 0 := by
  induction l with
  | nil => rfl
  | cons a l ih =>
    rw [since_cons, if_neg (Nat.not_le_of_lt (h a List.mem_cons_self)),
      ih fun b hb ↦ h b (List.mem_cons_of_mem a hb)]

theorem since_eq_sum {l : List α} (h : ∀ a ∈ l, horizon ≤ time a) :
    since time amount horizon l = (l.map amount).sum := by
  induction l with
  | nil => rfl
  | cons a l ih =>
    rw [since_cons, if_pos (h a List.mem_cons_self),
      ih fun b hb ↦ h b (List.mem_cons_of_mem a hb), List.map_cons, List.sum_cons]

theorem since_le_since {amount' : α → Nat} (h : ∀ a, amount a ≤ amount' a) (l : List α) :
    since time amount horizon l ≤ since time amount' horizon l := by
  induction l with
  | nil => exact Nat.le_refl _
  | cons a l ih =>
    rw [since_cons, since_cons]
    refine Nat.add_le_add ?_ ih
    split
    · exact h a
    · exact Nat.le_refl _

/-- Booking more at one place, under the same instant. -/
theorem since_set {l : List α} {i : Nat} {a b : α} {extra : Nat} (hi : l[i]? = some a)
    (htime : time b = time a) (hamount : amount b = amount a + extra) :
    since time amount horizon (l.set i b) =
      since time amount horizon l + if horizon ≤ time a then extra else 0 := by
  induction l generalizing i with
  | nil => cases hi
  | cons c l ih =>
    cases i with
    | zero =>
      obtain rfl : c = a := Option.some.inj hi
      rw [List.set_cons_zero, since_cons, since_cons, htime, hamount]
      split <;> omega
    | succ i =>
      rw [List.set_cons_succ, since_cons, since_cons, ih hi, Nat.add_assoc]

/-! ## Cuts -/

/-- Dropping the elements in front that satisfy `p` drops what is older than the horizon. -/
structure ExactCut (p : α → Bool) (time : α → Nat) (horizon : Nat) (l : List α) : Prop where
  dropped : ∀ a ∈ l.takeWhile p, time a < horizon
  kept : ∀ a ∈ l.dropWhile p, horizon ≤ time a

instance ExactCut.decidable (p : α → Bool) (time : α → Nat) (horizon : Nat) (l : List α) :
    Decidable (ExactCut p time horizon l) :=
  decidable_of_iff
    ((∀ a ∈ l.takeWhile p, time a < horizon) ∧ ∀ a ∈ l.dropWhile p, horizon ≤ time a)
    ⟨fun h ↦ ⟨h.1, h.2⟩, fun h ↦ ⟨h.dropped, h.kept⟩⟩

variable {p : α → Bool} {l : List α}

/-- An exact cut is not seen by a later horizon. -/
theorem ExactCut.since_dropWhile (h : ExactCut p time horizon l) {later : Nat}
    (hle : horizon ≤ later) :
    since time amount later (l.dropWhile p) = since time amount later l := by
  have hdropped : since time amount later (l.takeWhile p) = 0 :=
    since_eq_zero fun a ha ↦ Nat.lt_of_lt_of_le (h.dropped a ha) hle
  calc since time amount later (l.dropWhile p)
      = since time amount later (l.takeWhile p) + since time amount later (l.dropWhile p) := by
        rw [hdropped, Nat.zero_add]
    _ = since time amount later l := by rw [← since_append, List.takeWhile_append_dropWhile]

/-- What an exact cut keeps is the total since its horizon. -/
theorem ExactCut.sum_dropWhile (h : ExactCut p time horizon l) :
    ((l.dropWhile p).map amount).sum = since time amount horizon l := by
  rw [← since_eq_sum h.kept, h.since_dropWhile (Nat.le_refl _)]

/-! ## Elements in order -/

/-- What is dropped in front of an ordered list is all that is older. -/
theorem dropWhile_eq_filter (h : l.Pairwise fun a b ↦ time a ≤ time b) :
    l.dropWhile (fun a ↦ time a < horizon) = l.filter fun a ↦ horizon ≤ time a := by
  induction l with
  | nil => rfl
  | cons a l ih =>
    rw [List.pairwise_cons] at h
    by_cases hold : time a < horizon
    · rw [List.dropWhile_cons_of_pos (by simpa using hold), ih h.2,
        List.filter_cons_of_neg (by simpa using hold)]
    · rw [List.dropWhile_cons_of_neg (by simpa using hold)]
      refine (List.filter_eq_self.mpr fun b hb ↦ decide_eq_true ?_).symm
      rcases List.mem_cons.mp hb with rfl | hb
      · exact Nat.le_of_not_lt hold
      · exact Nat.le_trans (Nat.le_of_not_lt hold) (h.1 b hb)

/-- The elements at `horizon` or later. -/
def recent (time : α → Nat) (horizon : Nat) (l : List α) : Nat :=
  l.countP fun a ↦ horizon ≤ time a

/-- The elements of the window of a length from `start`, both ends included. -/
def within (time : α → Nat) (length start : Nat) (l : List α) : Nat :=
  l.countP fun a ↦ start ≤ time a ∧ time a ≤ start + length

theorem within_le_recent {length start : Nat} (h : horizon ≤ start) :
    within time length start l ≤ recent time horizon l := by
  apply List.countP_mono_left
  intro a _ ha
  exact decide_eq_true (Nat.le_trans h (of_decide_eq_true ha).1)

/-- **Sliding windows.**  An element that has room in the window that ends with it keeps the
limit of every window. -/
theorem within_concat_le {length limit : Nat} {b : α}
    (hpast : ∀ start, within time length start l ≤ limit)
    (hroom : recent time (time b - length) l < limit) (start : Nat) :
    within time length start (l ++ [b]) ≤ limit := by
  rw [within, List.countP_append, List.countP_singleton]
  split
  case isTrue hinside =>
    have hinside := of_decide_eq_true hinside
    exact Nat.succ_le_of_lt (Nat.lt_of_le_of_lt (within_le_recent (by omega)) hroom)
  case isFalse => exact hpast start

end Window
