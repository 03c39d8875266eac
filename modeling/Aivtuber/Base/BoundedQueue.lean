import Aivtuber.Base.Newest
import Mathlib.Data.List.Induction

/-!
# Bounded queues

A queue of arrivals, the oldest first, in which an arrival removes what it replaces, and the
newest elements stay within a bound.  An element stays exactly as long as nothing behind it
removes it, and what is left behind it leaves room (`BoundedQueue.mem_retained`).
-/

universe u

namespace BoundedQueue

variable {α : Type u}

/-- An arrival stands last, without what it removes. -/
def arrive (removes : α → α → Bool) (queue : List α) (a : α) : List α :=
  queue.filter (fun b ↦ !removes a b) ++ [a]

/-- What is left of the arrivals without a bound. -/
def remaining (removes : α → α → Bool) (l : List α) : List α := l.foldl (arrive removes) []

/-- What is left of the arrivals within a bound. -/
def retained (removes : α → α → Bool) (bound : Nat) (l : List α) : List α :=
  l.foldl (fun queue a ↦ (arrive removes queue a).rtake bound) []

variable {removes removes' : α → α → Bool} {bound : Nat} {l queue before after tail : List α}
  {a c : α}

theorem remaining_concat (l : List α) (a : α) :
    remaining removes (l ++ [a]) = arrive removes (remaining removes l) a :=
  List.foldl_concat _ _ _ _

theorem retained_concat (l : List α) (a : α) :
    retained removes bound (l ++ [a]) =
      (arrive removes (retained removes bound l) a).rtake bound :=
  List.foldl_concat _ _ _ _

theorem arrive_sublist (h : queue.Sublist l) : (arrive removes queue a).Sublist (l ++ [a]) :=
  (List.filter_sublist.trans h).append (List.Sublist.refl _)

theorem retained_sublist (l : List α) : (retained removes bound l).Sublist l := by
  induction l using List.reverseRecOn with
  | nil => exact List.Sublist.refl _
  | append_singleton l a ih =>
    rw [retained_concat]
    exact (List.rtake_sublist _ _).trans (arrive_sublist ih)

/-- What arrived before leaves what comes behind alone. -/
theorem remaining_append_sublist (before after : List α) :
    (remaining removes after).Sublist (remaining removes (before ++ after)) := by
  induction after using List.reverseRecOn with
  | nil => exact List.nil_sublist _
  | append_singleton after a ih =>
    rw [← List.append_assoc, remaining_concat, remaining_concat]
    exact (ih.filter _).append (List.Sublist.refl _)

/-- Where more is removed, less is left. -/
theorem remaining_mono (h : ∀ a b, removes a b = true → removes' a b = true) (l : List α) :
    (remaining removes' l).Sublist (remaining removes l) := by
  induction l using List.reverseRecOn with
  | nil => exact List.Sublist.refl _
  | append_singleton l a ih =>
    rw [remaining_concat, remaining_concat]
    refine List.Sublist.append ((List.monotone_filter_right _ fun b hb ↦ ?_).trans
      (ih.filter _)) (List.Sublist.refl _)
    simp only [Bool.not_eq_true'] at hb ⊢
    exact Bool.eq_false_iff.mpr fun hremoves ↦ Bool.eq_false_iff.mp hb (h a b hremoves)

/-- Nothing that arrives behind an element removes it. -/
def Unremoved (removes : α → α → Bool) (after : List α) (c : α) : Prop :=
  ∀ a ∈ after, removes a c = false

/-- At every time, what is left behind an element leaves room for it. -/
def HasRoom (removes : α → α → Bool) (bound : Nat) (after : List α) : Prop :=
  ∀ arrived, arrived <+: after → (remaining removes arrived).length < bound

theorem hasRoom_concat : HasRoom removes bound (after ++ [a]) ↔
    HasRoom removes bound after ∧ (remaining removes (after ++ [a])).length < bound := by
  constructor
  · intro h
    exact ⟨fun arrived harrived ↦ h arrived (harrived.trans (List.prefix_append _ _)),
      h _ (List.prefix_refl _)⟩
  · rintro ⟨hearlier, hlast⟩ arrived harrived
    rcases List.prefix_concat_iff.mp harrived with rfl | hprefix
    · exact hlast
    · exact hearlier arrived hprefix

theorem HasRoom.mono (hmore : ∀ a b, removes a b = true → removes' a b = true)
    (h : HasRoom removes bound after) : HasRoom removes' bound after := fun arrived harrived ↦
  (remaining_mono hmore arrived).length_le.trans_lt (h arrived harrived)

/-- An element has the room of one that stands before it. -/
theorem HasRoom.of_append (h : HasRoom removes bound (before ++ after)) :
    HasRoom removes bound after := fun arrived harrived ↦
  (remaining_append_sublist before arrived).length_le.trans_lt
    (h _ (List.prefix_append_right_inj before |>.mpr harrived))

/-- An arrival behind an element that it does not remove. -/
theorem arrive_eq {front : List α} (hstays : removes a c = false) :
    arrive removes (front ++ c :: remaining removes after) a =
      front.filter (fun b ↦ !removes a b) ++ c :: remaining removes (after ++ [a]) := by
  rw [arrive, List.filter_append, List.filter_cons_of_pos (by simp [hstays]),
    List.append_assoc, List.cons_append, remaining_concat, arrive]

/-- An element that stays stands before all that is left behind it. -/
theorem retained_eq (before : List α) (hunremoved : Unremoved removes after c)
    (hroom : HasRoom removes bound after) :
    ∃ front, retained removes bound (before ++ c :: after) =
      front ++ c :: remaining removes after := by
  have hdrop (front : List α) {rest : List α} (hrest : rest.length < bound) :
      ∃ front', (front ++ c :: rest).rtake bound = front' ++ c :: rest := by
    refine ⟨front.drop ((front ++ c :: rest).length - bound), ?_⟩
    rw [List.rtake, List.drop_append_of_le_length]
    rw [List.length_append, List.length_cons]
    omega
  induction after using List.reverseRecOn with
  | nil =>
    rw [retained_concat, arrive]
    exact hdrop _ (hroom [] (List.prefix_refl _))
  | append_singleton after a ih =>
    obtain ⟨hearlier, hlast⟩ := hasRoom_concat.mp hroom
    obtain ⟨front, hfront⟩ :=
      ih (fun b hb ↦ hunremoved b (List.mem_append_left _ hb)) hearlier
    have hstays : removes a c = false :=
      hunremoved a (List.mem_append_right _ (List.mem_singleton_self a))
    rw [← List.cons_append, ← List.append_assoc, retained_concat, hfront, arrive_eq hstays]
    exact hdrop _ hlast

theorem length_lt_of_mem_rtake (hnodup : (before ++ c :: after).Nodup)
    (h : c ∈ (before ++ c :: after).rtake bound) : after.length < bound := by
  by_contra hfull
  have hafter : c ∈ after := by
    rw [List.rtake, List.drop_append] at h
    rcases List.mem_append.mp h with hbefore | hbehind
    · exact absurd (List.mem_of_mem_drop hbefore)
        (fun hbefore ↦ (List.nodup_append.mp hnodup).2.2 c hbefore c List.mem_cons_self rfl)
    · rw [List.length_append, List.length_cons] at hbehind
      have hpositive : before.length + (after.length + 1) - bound - before.length =
          after.length - bound + 1 := by omega
      rw [hpositive, List.drop_succ_cons] at hbehind
      exact List.mem_of_mem_drop hbehind
  exact (List.nodup_cons.mp (List.nodup_append.mp hnodup).2.1).1 hafter

/-- **What stays.**  Of distinct arrivals, those stay that nothing behind them removes, and that
always had room behind them. -/
theorem mem_retained (hnodup : (before ++ c :: after).Nodup) :
    c ∈ retained removes bound (before ++ c :: after) ↔
      Unremoved removes after c ∧ HasRoom removes bound after := by
  constructor
  · intro h
    induction after using List.reverseRecOn with
    | nil =>
      refine ⟨fun a ha ↦ absurd ha List.not_mem_nil, fun arrived harrived ↦ ?_⟩
      have hsublist : (arrive removes (retained removes bound before) c).Sublist (before ++ [c]) :=
        arrive_sublist (retained_sublist before)
      rw [retained_concat] at h
      rw [List.prefix_nil.mp harrived]
      exact length_lt_of_mem_rtake (hnodup.sublist hsublist) h
    | append_singleton after a ih =>
      rw [← List.cons_append, ← List.append_assoc] at hnodup h
      rw [retained_concat] at h
      -- the new element is not the old one, which was there, and which it does not remove
      have hother : c ≠ a := fun heq ↦
        (List.nodup_append.mp hnodup).2.2 c (List.mem_append_right _ List.mem_cons_self) a
          (List.mem_singleton_self a) heq
      have hstays := List.mem_filter.mp ((List.mem_append.mp
        ((List.rtake_sublist _ _).subset h)).resolve_right fun hnew ↦ hother (List.mem_singleton.mp hnew))
      have hkept : removes a c = false := by simpa using hstays.2
      obtain ⟨hunremoved, hroom⟩ := ih (List.nodup_append.mp hnodup).1 hstays.1
      refine ⟨fun b hb ↦ ?_, hasRoom_concat.mpr ⟨hroom, ?_⟩⟩
      · rcases List.mem_append.mp hb with hearlier | hlast
        · exact hunremoved b hearlier
        · rw [List.mem_singleton.mp hlast]
          exact hkept
      · obtain ⟨front, hfront⟩ := retained_eq before hunremoved hroom
        have hsublist : (arrive removes (retained removes bound (before ++ c :: after)) a).Sublist
            (before ++ c :: after ++ [a]) := arrive_sublist (retained_sublist _)
        rw [hfront, arrive_eq hkept] at h hsublist
        exact length_lt_of_mem_rtake (hnodup.sublist hsublist) h
  · rintro ⟨hunremoved, hroom⟩
    obtain ⟨front, hfront⟩ := retained_eq before hunremoved hroom
    rw [hfront]
    exact List.mem_append_right _ List.mem_cons_self

/-- An element of a list without repetitions stands at one place. -/
theorem after_unique {before' after' : List α} (hnodup : l.Nodup)
    (h : before ++ a :: after = l) (h' : before' ++ a :: after' = l) : after = after' := by
  subst h'
  have hnotin : a ∉ before' := fun hmem ↦
    (List.nodup_append.mp hnodup).2.2 a hmem a List.mem_cons_self rfl
  have hnotinBehind : a ∉ after' := (List.nodup_cons.mp (List.nodup_append.mp hnodup).2.1).1
  exact ((List.append_cons_inj_of_notMem hnotin hnotinBehind).mp h.symm).2.2.symm

end BoundedQueue
