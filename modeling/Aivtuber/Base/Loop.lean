/-!
# Loops that leave when they find nothing to do

A loop runs its body until its state is done.  A program does not say how often;
`Loop` relates a state to the one in which the loop leaves and counts the bodies in
between, so that termination is a statement and not a property of the definition.
A loop whose body lowers a measure terminates (`Loop.terminates`), and no loop ends in
two ways (`Loop.unique`).
-/

universe u

/-- From the state `s` the loop runs its body `n` times and leaves in `t`. -/
inductive Loop {σ : Type u} (done : σ → Prop) (body : σ → σ) : σ → Nat → σ → Prop
  | exit {s : σ} (h : done s) : Loop done body s 0 s
  | again {s t : σ} {n : Nat} (h : ¬ done s) (rest : Loop done body (body s) n t) :
      Loop done body s (n + 1) t

namespace Loop

variable {σ : Type u} {done : σ → Prop} {body : σ → σ} {s t t' : σ} {n n' : Nat}

theorem done_last (h : Loop done body s n t) : done t := by
  induction h with
  | exit h => exact h
  | again _ _ ih => exact ih

theorem unique (h : Loop done body s n t) (h' : Loop done body s n' t') : n = n' ∧ t = t' := by
  induction h generalizing n' with
  | exit hdone =>
    cases h' with
    | exit => exact ⟨rfl, rfl⟩
    | again hnot => exact absurd hdone hnot
  | again hnot _ ih =>
    cases h' with
    | exit hdone => exact absurd hdone hnot
    | again _ rest =>
      obtain ⟨hn, ht⟩ := ih rest
      exact ⟨congrArg Nat.succ hn, ht⟩

/-- **Termination.**  A loop whose body lowers a measure leaves, after no more bodies than
the measure of the first state. -/
theorem terminates {measure : σ → Nat} (hlt : ∀ s, ¬ done s → measure (body s) < measure s)
    (s : σ) : ∃ n t, n ≤ measure s ∧ Loop done body s n t := by
  induction hm : measure s using Nat.strongRecOn generalizing s with
  | _ m ih =>
    by_cases hdone : done s
    · exact ⟨0, s, Nat.zero_le _, .exit hdone⟩
    · have hlower := hm ▸ hlt s hdone
      obtain ⟨n, t, hn, hloop⟩ := ih _ hlower (body s) rfl
      exact ⟨n + 1, t, Nat.lt_of_le_of_lt hn hlower, .again hdone hloop⟩

end Loop
