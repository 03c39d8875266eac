import Mathlib.Data.List.Induction
import Mathlib.Logic.Basic

/-!
# Checked computations

A fallible function is a chain of checks, each with its own error, before its
result.  It succeeds exactly when every check passes.
-/

namespace Aivtuber.Check

variable {ε α β : Type}

/-- Fail with `error` unless `condition` holds. -/
def ensure (error : ε) (condition : Bool) : Except ε Unit :=
  if condition then .ok () else .error error

/-- The value of an option that must be there. -/
def expect (error : ε) : Option α → Except ε α
  | some a => .ok a
  | none => .error error

theorem ensure_eq_ok {error : ε} {condition : Bool} :
    ensure error condition = .ok () ↔ condition = true := by
  cases condition <;> simp [ensure]

theorem bind_eq_ok {x : Except ε α} {f : α → Except ε β} {b : β} :
    (x >>= f) = .ok b ↔ ∃ a, x = .ok a ∧ f a = .ok b := by
  cases x <;> simp [bind, Except.bind]

theorem unit_bind_eq_ok {x : Except ε Unit} {f : Unit → Except ε β} {b : β} :
    (x >>= f) = .ok b ↔ x = .ok () ∧ f () = .ok b := by
  cases x <;> simp [bind, Except.bind]

theorem expect_eq_ok {error : ε} {o : Option α} {a : α} : expect error o = .ok a ↔ o = some a := by
  cases o <;> simp [expect]

theorem expect_bind_eq_ok {error : ε} {o : Option α} {f : α → Except ε β} {b : β} :
    (expect error o >>= f) = .ok b ↔ ∃ a, o = some a ∧ f a = .ok b := by
  cases o <;> simp [expect, bind, Except.bind]

theorem mapError_eq_ok {ε' : Type} {f : ε → ε'} {x : Except ε α} {a : α} :
    x.mapError f = .ok a ↔ x = .ok a := by
  cases x <;> simp [Except.mapError]

theorem forM_eq_ok {f : α → Except ε Unit} {l : List α} :
    l.forM f = .ok () ↔ ∀ a ∈ l, f a = .ok () := by
  induction l with
  | nil => simp [pure, Except.pure]
  | cons a l ih =>
    rw [List.forM_eq_forM] at ih
    rw [List.forM_eq_forM, List.forM_cons, unit_bind_eq_ok, ih, List.forall_mem_cons]

theorem mapM_eq_map {f : α → Except ε β} {g : α → β} {l : List α}
    (h : ∀ a ∈ l, f a = .ok (g a)) : l.mapM f = .ok (l.map g) := by
  induction l with
  | nil => rfl
  | cons a l ih =>
    rw [List.mapM_cons, h a List.mem_cons_self, ih fun b hb ↦ h b (List.mem_cons_of_mem a hb)]
    rfl

/-- A loop that collects a result for each element: the results are those of the elements. -/
theorem mapM_eq_ok {f : α → Except ε β} {l : List α} {bs : List β} (h : l.mapM f = .ok bs) :
    (∀ a ∈ l, ∃ b ∈ bs, f a = .ok b) ∧ ∀ b ∈ bs, ∃ a ∈ l, f a = .ok b := by
  induction l generalizing bs with
  | nil =>
    cases h
    simp
  | cons a l ih =>
    rw [List.mapM_cons, bind_eq_ok] at h
    obtain ⟨b, hb, h⟩ := h
    rw [bind_eq_ok] at h
    obtain ⟨bs', hbs, h⟩ := h
    cases h
    obtain ⟨hl, hr⟩ := ih hbs
    constructor
    · rintro x (_ | ⟨_, hx⟩)
      · exact ⟨b, List.mem_cons_self, hb⟩
      · obtain ⟨y, hy, hxy⟩ := hl x hx
        exact ⟨y, List.mem_cons_of_mem b hy, hxy⟩
    · rintro y (_ | ⟨_, hy⟩)
      · exact ⟨a, List.mem_cons_self, hb⟩
      · obtain ⟨x, hx, hxy⟩ := hr y hy
        exact ⟨x, List.mem_cons_of_mem a hx, hxy⟩

/-- A loop that carries a state: what each turn keeps, of the elements so far and the state,
holds in the end. -/
theorem foldlM_invariant {f : β → α → Except ε β} {P : List α → β → Prop} {l : List α} {b b' : β}
    (hstep : ∀ before a after, before ++ a :: after = l → ∀ b b',
      P before b → f b a = .ok b' → P (before ++ [a]) b')
    (hstart : P [] b) (h : l.foldlM f b = .ok b') : P l b' := by
  induction l using List.reverseRecOn generalizing b' with
  | nil =>
    cases h
    exact hstart
  | append_singleton l a ih =>
    rw [List.foldlM_append] at h
    obtain ⟨earlier, hearlier, h⟩ := bind_eq_ok.mp h
    rw [List.foldlM_cons] at h
    obtain ⟨later, hlater, h⟩ := bind_eq_ok.mp h
    cases h
    refine hstep l a [] rfl earlier _ (ih (fun before a after heq ↦ ?_) hearlier) hlater
    exact hstep before a (after ++ [_]) (by rw [← heq, List.append_assoc, List.cons_append])

end Aivtuber.Check
