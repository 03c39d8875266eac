import Mathlib.Data.List.Chain
import Mathlib.Data.List.Induction

/-!
# Greedy selections

A consumer that takes an element when it may follow the last one that it took, and otherwise
passes over it, keeps a selection of what it was offered (`keep_sublist`).  Where following is
transitive, any two elements of the selection are in order (`keep_ordered`), and nothing was
passed over exactly when the offered elements are in order by themselves (`keep_eq_self_iff`).
-/

universe u

namespace Greedy

variable {α : Type u}

/-- The element is good by itself, and may follow the last one that was kept. -/
def Fits (good : α → Bool) (follows : α → α → Bool) (kept : List α) (a : α) : Prop :=
  good a = true ∧ ∀ b ∈ kept.getLast?, follows b a = true

instance (good : α → Bool) (follows : α → α → Bool) (kept : List α) (a : α) :
    Decidable (Fits good follows kept a) := inferInstanceAs (Decidable (_ ∧ _))

/-- Offer an element. -/
def offer (good : α → Bool) (follows : α → α → Bool) (kept : List α) (a : α) : List α :=
  if Fits good follows kept a then kept ++ [a] else kept

/-- What is kept of the offered elements. -/
def keep (good : α → Bool) (follows : α → α → Bool) (offered : List α) : List α :=
  offered.foldl (offer good follows) []

variable {good : α → Bool} {follows : α → α → Bool} {kept offered : List α} {a : α}

@[simp] theorem keep_nil : keep good follows [] = [] := rfl

@[simp] theorem keep_concat (offered : List α) (a : α) :
    keep good follows (offered ++ [a]) = offer good follows (keep good follows offered) a := by
  rw [keep, List.foldl_append]
  rfl

/-- The elements of a selection are good, and each follows all those before it. -/
structure Ordered (good : α → Bool) (follows : α → α → Bool) (kept : List α) : Prop where
  good : ∀ a ∈ kept, good a = true
  follows : kept.Pairwise fun a b ↦ follows a b = true

theorem Ordered.nil : Ordered good follows ([] : List α) := ⟨by simp, List.Pairwise.nil⟩

theorem Ordered.of_concat (h : Ordered good follows (kept ++ [a])) :
    Ordered good follows kept ∧ Fits good follows kept a := by
  obtain ⟨hgood, hfollows⟩ := h
  rw [List.pairwise_append] at hfollows
  refine ⟨⟨fun b hb ↦ hgood b (List.mem_append_left _ hb), hfollows.1⟩, hgood a (by simp), ?_⟩
  intro b hb
  exact hfollows.2.2 b (List.mem_of_getLast? hb) a List.mem_cons_self

/-- **A step.**  Where following is transitive, it is enough to follow the last element. -/
theorem Ordered.concat
    (htrans : ∀ a b c, follows a b = true → follows b c = true → follows a c = true)
    (h : Ordered good follows kept) (hfits : Fits good follows kept a) :
    Ordered good follows (kept ++ [a]) := by
  obtain ⟨hgood, hfollows⟩ := h
  refine ⟨?_, ?_⟩
  · intro b hb
    rcases List.mem_append.mp hb with hb | hb
    · exact hgood b hb
    · rw [List.mem_singleton.mp hb]
      exact hfits.1
  · rw [List.pairwise_append]
    refine ⟨hfollows, List.pairwise_singleton _ _, ?_⟩
    intro b hb c hc
    rw [List.mem_singleton.mp hc]
    obtain ⟨init, last, rfl⟩ := List.eq_nil_or_concat' kept |>.resolve_left (List.ne_nil_of_mem hb)
    have hlast : follows last a = true := hfits.2 last (by simp)
    rcases List.mem_append.mp hb with hb | hb
    · exact htrans b last a ((List.pairwise_append.mp hfollows).2.2 b hb last List.mem_cons_self)
        hlast
    · rw [List.mem_singleton.mp hb]
      exact hlast

theorem offer_ordered
    (htrans : ∀ a b c, follows a b = true → follows b c = true → follows a c = true)
    (h : Ordered good follows kept) (a : α) : Ordered good follows (offer good follows kept a) := by
  rw [offer]
  split
  case isTrue hfits => exact h.concat htrans hfits
  case isFalse => exact h

/-- **What is kept is in order**, whatever is offered. -/
theorem keep_ordered
    (htrans : ∀ a b c, follows a b = true → follows b c = true → follows a c = true)
    (offered : List α) : Ordered good follows (keep good follows offered) := by
  induction offered using List.reverseRecOn with
  | nil => exact Ordered.nil
  | append_singleton offered a ih =>
    rw [keep_concat]
    exact offer_ordered htrans ih a

theorem keep_sublist (offered : List α) : (keep good follows offered).Sublist offered := by
  induction offered using List.reverseRecOn with
  | nil => exact List.Sublist.refl _
  | append_singleton offered a ih =>
    rw [keep_concat, offer]
    split
    case isTrue => exact ih.append (List.Sublist.refl _)
    case isFalse => exact ih.trans (List.sublist_append_left _ _)

/-- **Nothing is passed over** exactly when the offered elements are in order. -/
theorem keep_eq_self_iff
    (htrans : ∀ a b c, follows a b = true → follows b c = true → follows a c = true) :
    keep good follows offered = offered ↔ Ordered good follows offered := by
  constructor
  · intro h
    rw [← h]
    exact keep_ordered htrans offered
  · induction offered using List.reverseRecOn with
    | nil =>
      intro
      rfl
    | append_singleton offered a ih =>
      intro h
      obtain ⟨hbefore, hfits⟩ := h.of_concat
      rw [keep_concat, ih hbefore, offer, if_pos hfits]

end Greedy
