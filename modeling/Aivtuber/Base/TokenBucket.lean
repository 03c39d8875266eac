import Mathlib.Algebra.Order.Field.Basic
import Mathlib.Data.List.Basic
import Mathlib.Tactic.Linarith
import Mathlib.Tactic.Ring

/-!
# Token buckets

A bucket earns tokens at a rate, up to a burst, and grants a request against one token.
Between two instants it grants at most the burst and what it earned in between
(`Metered.within`).  That holds as long as the bucket is asked at instants that do not go
back (`Metered.refill`, `Metered.spend`), since what a bucket holds is then never more than
what it earned since any earlier instant.
-/

universe u

/-- The tokens of a bucket, and the instant at which they were counted. -/
@[ext]
structure TokenBucket (α : Type u) where
  tokens : α
  mark : α

namespace TokenBucket

variable {α : Type u}

/-! ## Grants between two instants -/

section Grants

variable [LinearOrder α] {granted : List α}

/-- How many of the grants lie between two instants. -/
def count (granted : List α) (t₁ t₂ : α) : Nat :=
  granted.countP fun t ↦ decide (t₁ ≤ t ∧ t ≤ t₂)

/-- How many of the grants are not before an instant. -/
def countSince (granted : List α) (t₁ : α) : Nat := granted.countP fun t ↦ decide (t₁ ≤ t)

theorem count_le_countSince (granted : List α) (t₁ t₂ : α) :
    count granted t₁ t₂ ≤ countSince granted t₁ := by
  apply List.countP_mono_left
  intro t _ ht
  exact decide_eq_true (of_decide_eq_true ht).1

theorem count_mono {granted' : List α} (h : granted.Sublist granted') (t₁ t₂ : α) :
    count granted t₁ t₂ ≤ count granted' t₁ t₂ := h.countP_le

theorem countSince_eq_zero {t₁ : α} (h : ∀ t ∈ granted, t < t₁) : countSince granted t₁ = 0 := by
  apply List.countP_eq_zero.mpr
  intro t ht
  rw [decide_eq_true_eq, not_le]
  exact h t ht

end Grants

/-! ## What a bucket holds -/

variable [Field α] [LinearOrder α]

/-- What a bucket holds at an instant. -/
def refilled (burst rate : α) (bucket : TokenBucket α) (t : α) : α :=
  min (bucket.tokens + (t - bucket.mark) * rate) burst

/-- What was granted up to now against what was earned. -/
structure Metered (burst rate : α) (bucket : TokenBucket α) (granted : List α) : Prop where
  nonneg : 0 ≤ bucket.tokens
  capped : bucket.tokens ≤ burst
  /-- No grant is later than the last count. -/
  past : ∀ t ∈ granted, t ≤ bucket.mark
  /-- What was granted since an instant, with what is left, was earned since then. -/
  earned : ∀ t₁ ≤ bucket.mark,
    (countSince granted t₁ : α) + bucket.tokens ≤ burst + rate * (bucket.mark - t₁)
  /-- What was granted between two instants was earned between them. -/
  within : ∀ t₁ t₂, t₁ ≤ t₂ → (count granted t₁ t₂ : α) ≤ burst + rate * (t₂ - t₁)

variable [IsStrictOrderedRing α] {burst rate : α} {bucket : TokenBucket α} {granted : List α} {t : α}

/-- A full bucket that has granted nothing. -/
theorem metered_full (hburst : 0 ≤ burst) (hrate : 0 ≤ rate) (t : α) :
    Metered burst rate ⟨burst, t⟩ [] where
  nonneg := hburst
  capped := le_refl burst
  past := by
    intro t ht
    cases ht
  earned := by
    intro t₁ ht₁
    have : 0 ≤ rate * (t - t₁) := mul_nonneg hrate (sub_nonneg.mpr ht₁)
    simpa [countSince] using this
  within := by
    intro t₁ t₂ ht
    have : 0 ≤ rate * (t₂ - t₁) := mul_nonneg hrate (sub_nonneg.mpr ht)
    simpa [count] using add_nonneg hburst this

namespace Metered

theorem refilled_nonneg (h : Metered burst rate bucket granted) (hrate : 0 ≤ rate)
    (ht : bucket.mark ≤ t) : 0 ≤ bucket.refilled burst rate t := by
  have hearned : 0 ≤ (t - bucket.mark) * rate := mul_nonneg (sub_nonneg.mpr ht) hrate
  exact le_min (add_nonneg h.nonneg hearned) (h.nonneg.trans h.capped)

/-- A bucket that is counted again, at an instant that is not earlier. -/
theorem refill (h : Metered burst rate bucket granted) (hrate : 0 ≤ rate)
    (ht : bucket.mark ≤ t) :
    Metered burst rate ⟨bucket.refilled burst rate t, t⟩ granted where
  nonneg := h.refilled_nonneg hrate ht
  capped := min_le_right _ _
  past s hs := (h.past s hs).trans ht
  earned t₁ ht₁ := by
    rcases le_or_gt t₁ bucket.mark with hmark | hmark
    · have hrefilled : bucket.refilled burst rate t ≤ bucket.tokens + (t - bucket.mark) * rate :=
        min_le_left _ _
      have hearned := h.earned t₁ hmark
      calc (countSince granted t₁ : α) + bucket.refilled burst rate t
          ≤ countSince granted t₁ + bucket.tokens + (t - bucket.mark) * rate := by linarith
        _ ≤ burst + rate * (bucket.mark - t₁) + (t - bucket.mark) * rate := by linarith
        _ = burst + rate * (t - t₁) := by ring
    · -- nothing was granted since, and a bucket holds no more than the burst
      have hnone : countSince granted t₁ = 0 :=
        countSince_eq_zero fun s hs ↦ (h.past s hs).trans_lt hmark
      have hrefilled : bucket.refilled burst rate t ≤ burst := min_le_right _ _
      have hearned : 0 ≤ rate * (t - t₁) := mul_nonneg hrate (sub_nonneg.mpr ht₁)
      rw [hnone, Nat.cast_zero, zero_add]
      exact hrefilled.trans (le_add_of_nonneg_right hearned)
  within := h.within

/-- A token that is taken at the instant of the count. -/
theorem spend (h : Metered burst rate bucket granted) (hrate : 0 ≤ rate)
    (htoken : 1 ≤ bucket.tokens) :
    Metered burst rate ⟨bucket.tokens - 1, bucket.mark⟩ (bucket.mark :: granted) := by
  have hearned : ∀ t₁ ≤ bucket.mark, (countSince (bucket.mark :: granted) t₁ : α) +
      (bucket.tokens - 1) ≤ burst + rate * (bucket.mark - t₁) := by
    intro t₁ ht₁
    have hcount : countSince (bucket.mark :: granted) t₁ = countSince granted t₁ + 1 :=
      List.countP_cons_of_pos (decide_eq_true ht₁)
    rw [hcount, Nat.cast_succ]
    linarith [h.earned t₁ ht₁]
  exact
    { nonneg := sub_nonneg.mpr htoken
      capped := by linarith [h.capped]
      past := by
        intro s hs
        rcases List.mem_cons.mp hs with rfl | hs
        · exact le_refl _
        · exact h.past s hs
      earned := hearned
      within := by
        intro t₁ t₂ ht
        by_cases hinside : t₁ ≤ bucket.mark ∧ bucket.mark ≤ t₂
        · have hcount := Nat.cast_le (α := α).mpr
            (count_le_countSince (bucket.mark :: granted) t₁ t₂)
          have hgap : rate * (bucket.mark - t₁) ≤ rate * (t₂ - t₁) :=
            mul_le_mul_of_nonneg_left (sub_le_sub_right hinside.2 t₁) hrate
          linarith [hearned t₁ hinside.1]
        · have hcount : count (bucket.mark :: granted) t₁ t₂ = count granted t₁ t₂ :=
            List.countP_cons_of_neg (by simpa using hinside)
          rw [hcount]
          exact h.within t₁ t₂ ht }

end Metered

end TokenBucket
