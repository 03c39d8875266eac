import Mathlib.Algebra.GroupWithZero.Nat
import Mathlib.Data.List.Basic
import Mathlib.Order.Defs.LinearOrder
import Aivtuber.Base.Saturating

/-!
# Recency

The uses of things, in order, and when each was used last.  Whoever keeps the `m` things that
were used last takes away those with `m` others behind them (`mem_take_sub_iff`).
-/

open Saturating

namespace Recency

variable {α κ : Type*}

/-! ## The first of a sorted list -/

section Sorted

variable [LinearOrder κ] {key : α → κ} {l : List α} {a : α} {m : Nat}

/-- What is not among the last `m` of a sorted list has `m` others behind it. -/
theorem mem_take_sub_iff (h : l.Pairwise fun a b ↦ key a < key b) :
    a ∈ l.take (l.length - m) ↔ a ∈ l ∧ m ≤ (l.filter fun b ↦ key a < key b).length := by
  induction l with
  | nil => simp
  | cons c l ih =>
    obtain ⟨hc, hl⟩ := List.pairwise_cons.mp h
    by_cases hm : m ≤ l.length
    · have hlength : (c :: l).length - m = (l.length - m) + 1 := by
        rw [List.length_cons]
        omega
      rw [hlength, List.take_succ_cons, List.mem_cons, List.mem_cons, ih hl]
      by_cases hac : a = c
      · subst hac
        have hbehind : (l.filter fun b ↦ key a < key b) = l := by
          rw [List.filter_eq_self]
          exact fun b hb ↦ decide_eq_true (hc b hb)
        simp [hbehind, hm]
      · constructor
        · rintro (heq | ⟨ha, hbehind⟩)
          · exact absurd heq hac
          · refine ⟨.inr ha, ?_⟩
            rw [List.filter_cons_of_neg (by simpa using (hc a ha).le)]
            exact hbehind
        · rintro ⟨heq | ha, hbehind⟩
          · exact absurd heq hac
          · rw [List.filter_cons_of_neg (by simpa using (hc a ha).le)] at hbehind
            exact .inr ⟨ha, hbehind⟩
    · have hlength : (c :: l).length - m = 0 := by
        rw [List.length_cons]
        omega
      rw [hlength, List.take_zero]
      refine iff_of_false List.not_mem_nil ?_
      rintro ⟨ha, hbehind⟩
      have hless : ((c :: l).filter fun b ↦ key a < key b).length < (c :: l).length :=
        List.length_filter_lt_length_iff_exists.mpr ⟨a, ha, by simp⟩
      rw [List.length_cons] at hless
      omega

/-- The greatest of a sorted list is its last. -/
theorem notMem_dropLast (h : l.Pairwise fun a b ↦ key a < key b)
    (hgreatest : ∀ b ∈ l, b ≠ a → key b < key a) : a ∉ l.dropLast := by
  intro ha
  have hne : l ≠ [] := by
    rintro rfl
    exact List.not_mem_nil ha
  rw [← List.dropLast_append_getLast hne] at h
  have hless := (List.pairwise_append.mp h).2.2 a ha _ (List.mem_singleton.mpr rfl)
  refine lt_asymm hless (hgreatest _ (List.getLast_mem hne) ?_)
  intro heq
  rw [heq] at hless
  exact lt_irrefl _ hless

end Sorted

/-! ## Cutting down to a budget -/

section Cut

variable {size : α → Nat} {budget fixed : Nat} {l before behind : List α} {a : α}

/-- What goes from the front while the fixed size and the sizes of the rest are over the budget.
The last of the list stays. -/
def cut (size : α → Nat) (budget fixed : Nat) : List α → List α
  | a :: b :: l =>
    if budget < fixed + ((a :: b :: l).map size).sum then a :: cut size budget fixed (b :: l)
    else []
  | _ => []

theorem cut_eq_nil (h : fixed + (l.map size).sum ≤ budget) : cut size budget fixed l = [] := by
  match l with
  | [] | [a] => rfl
  | a :: b :: l => exact if_neg (Nat.not_lt.mpr h)

/-- What goes is the beginning of the list, the rest was over the budget before each of it, and
now it is not, unless at most one is left. -/
theorem exists_cut_append (size : α → Nat) (budget fixed : Nat) (l : List α) :
    ∃ rest, cut size budget fixed l ++ rest = l ∧
      (fixed + (rest.map size).sum ≤ budget ∨ rest.length ≤ 1) := by
  induction l with
  | nil => exact ⟨[], rfl, .inr (Nat.zero_le _)⟩
  | cons a l ih =>
    cases l with
    | nil => exact ⟨[a], rfl, .inr (Nat.le_refl _)⟩
    | cons b l =>
      rw [cut]
      split
      case isTrue hover =>
        obtain ⟨rest, hrest, hfits⟩ := ih
        exact ⟨rest, congrArg (a :: ·) hrest, hfits⟩
      case isFalse hfits => exact ⟨a :: b :: l, rfl, .inl (Nat.not_lt.mp hfits)⟩

/-- An element goes exactly if it is not the last one, and the rest from it on is over the
budget. -/
theorem exists_cut_eq_iff (hl : l = before ++ a :: behind) :
    (∃ after, cut size budget fixed l = before ++ a :: after) ↔
      behind ≠ [] ∧ budget < fixed + ((a :: behind).map size).sum := by
  subst hl
  induction before with
  | nil =>
    cases behind with
    | nil =>
      refine iff_of_false ?_ fun h ↦ h.1 rfl
      rintro ⟨after, hcut⟩
      cases hcut
    | cons b behind =>
      rw [List.nil_append, cut]
      split
      case isTrue hover => exact iff_of_true ⟨_, rfl⟩ ⟨List.cons_ne_nil _ _, hover⟩
      case isFalse hfits =>
        refine iff_of_false ?_ fun h ↦ hfits h.2
        rintro ⟨after, hcut⟩
        cases hcut
  | cons c before ih =>
    have hlonger : ∃ b l, before ++ a :: behind = b :: l := by
      cases before with
      | nil => exact ⟨a, behind, rfl⟩
      | cons b before => exact ⟨b, _, rfl⟩
    obtain ⟨b, l, hbl⟩ := hlonger
    rw [List.cons_append, hbl, cut, ← hbl]
    split
    case isTrue hover =>
      rw [← ih]
      constructor
      · rintro ⟨after, hcut⟩
        exact ⟨after, (List.cons.inj hcut).2⟩
      · rintro ⟨after, hcut⟩
        exact ⟨after, congrArg (c :: ·) hcut⟩
    case isFalse hfits =>
      refine iff_of_false ?_ ?_
      · rintro ⟨after, hcut⟩
        cases hcut
      · rintro ⟨-, hover⟩
        apply hfits
        refine Nat.lt_of_lt_of_le hover ?_
        simp only [List.map_cons, List.map_append, List.sum_cons, List.sum_append]
        omega

end Cut

/-! ## Uses -/

section Uses

variable [DecidableEq α] {a b : α} {n : Nat} {uses : List α}

/-- How many uses came before the last one, in a list with the newest use first. -/
def lastUse (a : α) : List α → Option Nat
  | [] => none
  | use :: uses => if use = a then some uses.length else lastUse a uses

@[simp] theorem lastUse_cons_self (a : α) (uses : List α) :
    lastUse a (a :: uses) = some uses.length := if_pos rfl

theorem lastUse_cons_of_ne (h : b ≠ a) (uses : List α) :
    lastUse a (b :: uses) = lastUse a uses := if_neg h

theorem lastUse_lt_length (h : lastUse a uses = some n) : n < uses.length := by
  induction uses with
  | nil => cases h
  | cons use uses ih =>
    rw [lastUse] at h
    split at h
    · cases h
      exact Nat.lt_succ_self _
    · exact Nat.lt_succ_of_lt (ih h)

/-- The last use on a clock of 64 bits. -/
def stamp (uses : List α) (a : α) : Nat := min ((lastUse a uses).getD 0) u64Max

theorem stamp_cons_self (a : α) (uses : List α) :
    stamp (a :: uses) a = min uses.length u64Max := by
  rw [stamp, lastUse_cons_self, Option.getD_some]

theorem stamp_cons_of_ne (h : b ≠ a) (uses : List α) : stamp (b :: uses) a = stamp uses a := by
  rw [stamp, lastUse_cons_of_ne h, stamp]

/-- Before the clock runs out, a new use is later than every other. -/
theorem stamp_lt_stamp_cons_self (hb : lastUse b uses = some n) (hne : a ≠ b)
    (hclock : uses.length ≤ u64Max) : stamp (a :: uses) b < stamp (a :: uses) a := by
  rw [stamp_cons_self, stamp_cons_of_ne hne, stamp, hb, Option.getD_some]
  have hn := lastUse_lt_length hb
  omega

end Uses

end Recency
