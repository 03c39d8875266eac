import Mathlib.Data.Finset.Dedup
import Mathlib.Data.Finset.Card
import Mathlib.Data.List.DropRight
import Mathlib.Data.List.Nodup

/-!
# Queues that keep their newest elements

A queue of bounded length that forgets its oldest elements shows the newest ones of all
that entered it: forgetting before an entry makes no difference (`rtake_rtake_append`).
What is newer than an element that is kept is kept, too (`mem_drop_of_lt`).  Where an element
that comes again moves to the back, the newest distinct ones are kept (`rtake_filter_concat`).
-/

universe u v

namespace List

variable {α : Type u} {β : Type v}

theorem length_rtake_le (l : List α) (n : Nat) : (l.rtake n).length ≤ n := by
  rw [rtake, length_drop]
  omega

theorem rtake_sublist (l : List α) (n : Nat) : (l.rtake n).Sublist l := drop_sublist _ _

theorem rtake_of_length_le {l : List α} {n : Nat} (h : l.length ≤ n) : l.rtake n = l := by
  rw [rtake, Nat.sub_eq_zero_of_le h, drop_zero]

theorem map_rtake (f : α → β) (l : List α) (n : Nat) : (l.rtake n).map f = (l.map f).rtake n := by
  rw [rtake, rtake, map_drop, length_map]

/-- **Forgetting twice.**  The newest elements do not depend on what was forgotten before. -/
theorem rtake_rtake_append (l m : List α) (n : Nat) : (l.rtake n ++ m).rtake n = (l ++ m).rtake n := by
  simp only [rtake_eq_reverse_take_reverse, reverse_append, reverse_reverse, take_append,
    take_take, Nat.min_eq_left (Nat.sub_le _ _)]

/-- **Newer elements stay longer.**  Dropping from the front of a list in order keeps what
is later than an element that it keeps. -/
theorem mem_drop_of_lt {key : α → Nat} {l : List α} (h : l.Pairwise fun a b ↦ key a < key b)
    {a b : α} {n : Nat} (ha : a ∈ l.drop n) (hb : b ∈ l) (hlt : key a < key b) : b ∈ l.drop n := by
  rw [← take_append_drop n l, mem_append] at hb
  rcases hb with htake | hdrop
  · rw [← take_append_drop n l, pairwise_append] at h
    exact absurd hlt (Nat.lt_asymm (h.2.2 b htake a ha))
  · exact hdrop

/-! ## Distinct elements -/

section Distinct

variable {a : α} {l before after : List α} {n : Nat}

theorem rtake_append_of_le (h : n ≤ after.length) : (before ++ after).rtake n = after.rtake n := by
  rw [rtake, rtake, length_append, Nat.add_sub_assoc h, drop_length_add_append]

theorem mem_rtake_append_cons (h : after.length < n) : a ∈ (before ++ a :: after).rtake n := by
  rw [rtake, drop_append]
  refine mem_append_right _ ?_
  have hall : (before ++ a :: after).length - n - before.length = 0 := by
    rw [length_append, length_cons]
    omega
  rw [hall, drop_zero]
  exact mem_cons_self

variable [DecidableEq α]

/-- What comes again moves to the back. -/
theorem dedup_concat (l : List α) (a : α) : (l ++ [a]).dedup = l.dedup.filter (· ≠ a) ++ [a] := by
  induction l with
  | nil => rfl
  | cons b l ih =>
    rw [cons_append, dedup_cons, dedup_cons, ih]
    by_cases hb : b ∈ l
    · rw [if_pos hb, if_pos (mem_append_left _ hb)]
    · by_cases hba : b = a
      · subst hba
        rw [if_neg hb, if_pos (mem_append_right _ mem_cons_self), filter_cons_of_neg (by simp)]
      · rw [if_neg hb, if_neg, filter_cons_of_pos (by simpa using hba), cons_append]
        simp [hb, hba]

theorem length_filter_ne_of_nodup (h : l.Nodup) (a : α) :
    l.length ≤ (l.filter (· ≠ a)).length + 1 := by
  have hcount := nodup_iff_count_le_one.mp h a
  have hsplit := length_eq_length_filter_add (l := l) (· ≠ a)
  rw [count_eq_length_filter] at hcount
  have hsame : (l.filter fun b ↦ !decide (b ≠ a)) = l.filter (· == a) := by
    refine filter_congr fun b _ ↦ ?_
    by_cases hb : b = a <;> simp [hb]
  rw [hsame] at hsplit
  omega

/-- **Moving to the back.**  The newest distinct elements do not depend on those that were
forgotten before. -/
theorem rtake_filter_concat (h : l.Nodup) (a : α) (n : Nat) :
    ((l.rtake n).filter (· ≠ a) ++ [a]).rtake n = (l.filter (· ≠ a) ++ [a]).rtake n := by
  by_cases hn : l.length ≤ n
  · rw [rtake_of_length_le hn]
  · have hsplit : l = l.take (l.length - n) ++ l.rtake n := (take_append_drop _ _).symm
    conv_rhs => rw [hsplit, filter_append, append_assoc]
    refine (rtake_append_of_le ?_).symm
    have hlength : (l.rtake n).length = n := by
      rw [rtake, length_drop]
      omega
    have hkept := length_filter_ne_of_nodup (h.sublist (rtake_sublist l n)) a
    rw [length_append, length_singleton]
    omega

/-- An element that is no more among the newest distinct ones has as many others after it. -/
theorem le_card_of_notMem_rtake (h : a ∉ (before ++ a :: after).dedup.rtake n) :
    n ≤ (after.toFinset.erase a).card := by
  induction hlength : after.length using Nat.strong_induction_on generalizing before after with
  | _ length ih =>
    by_cases ha : a ∈ after
    · -- What comes after a later occurrence comes after this one, too.
      obtain ⟨mid, last, rfl⟩ := append_of_mem ha
      have hlonger : before ++ a :: (mid ++ a :: last) = (before ++ a :: mid) ++ a :: last := by
        simp
      rw [hlonger] at h
      have hshorter : last.length < length := by
        rw [← hlength, length_append, length_cons]
        omega
      refine (ih last.length hshorter h rfl).trans (Finset.card_le_card ?_)
      apply Finset.erase_subset_erase
      intro b hb
      rw [mem_toFinset] at hb ⊢
      exact mem_append_right _ (mem_cons_of_mem _ hb)
    · obtain ⟨older, holder⟩ := suffix_union_right before (a :: after).dedup
      rw [dedup_append, ← holder, dedup_cons_of_notMem ha] at h
      rw [Finset.erase_eq_of_notMem (mt mem_toFinset.mp ha), card_toFinset]
      by_contra hless
      exact h (mem_rtake_append_cons (Nat.lt_of_not_le hless))

end Distinct

end List
