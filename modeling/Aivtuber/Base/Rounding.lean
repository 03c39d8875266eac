import Mathlib.Tactic.Linarith
import Aivtuber.Base.Float64

/-!
# Rounded arithmetic

The operations on floats are the exact ones, rounded.  How a result is rounded is a parameter;
a rounding keeps the order, and leaves a float as it is.
-/

namespace Aivtuber

/-- To the opposite sign. -/
def Float64.neg : Float64 → Float64
  | .finite value => .finite (-value)
  | .infinite negative => .infinite !negative
  | .nan => .nan

def Float64.abs : Float64 → Float64
  | .finite value => .finite |value|
  | .infinite _ => .infinite false
  | .nan => .nan

structure Rounding where
  round : ℚ → Float64
  round_mono : ∀ {a b}, a ≤ b → (round a).le (round b) = true
  round_neg : ∀ a, round (-a) = (round a).neg
  round_round : ∀ {a b}, round a = .finite b → round b = .finite b
  round_zero : round 0 = .finite 0
  /-- Nothing up to 64 bits overflows. -/
  round_finite : ∀ {a}, |a| ≤ 2 ^ 64 → (round a).isFinite = true

namespace Rounding

/-- The values of a float type. -/
def IsDouble (rounding : Rounding) (x : Float64) : Prop :=
  ∀ value, x = .finite value → rounding.round value = x

abbrev Double (rounding : Rounding) := {x : Float64 // rounding.IsDouble x}

variable (rounding : Rounding)

def add : Float64 → Float64 → Float64
  | .finite a, .finite b => rounding.round (a + b)
  | .infinite s, .infinite t => if s = t then .infinite s else .nan
  | .infinite s, .finite _ | .finite _, .infinite s => .infinite s
  | .nan, _ | _, .nan => .nan

def sub (a b : Float64) : Float64 := rounding.add a b.neg

/-- Division; the sign of a zero is not kept. -/
def div : Float64 → Float64 → Float64
  | .finite a, .finite b =>
    if b ≠ 0 then rounding.round (a / b) else if a = 0 then .nan else .infinite (a < 0)
  | .infinite s, .finite b => .infinite (if b < 0 then !s else s)
  | .finite _, .infinite _ => .finite 0
  | .infinite _, .infinite _ => .nan
  | .nan, _ | _, .nan => .nan

def ofNat (n : Nat) : Float64 := rounding.round n

theorem finite_mono {a b : ℚ} (h : a ≤ b) : (Float64.finite a).le (.finite b) = true :=
  decide_eq_true h

theorem finite_neg (a : ℚ) : Float64.finite (-a) = (Float64.finite a).neg := rfl

theorem finite_round {a b : ℚ} (_ : Float64.finite a = .finite b) :
    Float64.finite b = .finite b := rfl

theorem finite_zero : Float64.finite 0 = .finite 0 := rfl

theorem finite_isFinite {a : ℚ} (_ : |a| ≤ 2 ^ 64) : (Float64.finite a).isFinite = true := rfl

/-- Nothing is rounded. -/
def exact : Rounding where
  round := .finite
  round_mono := @finite_mono
  round_neg := finite_neg
  round_round := @finite_round
  round_zero := finite_zero
  round_finite := @finite_isFinite

/-- The sum, from the left. -/
def sum (xs : List Float64) : Float64 := xs.foldl rounding.add (.finite 0)

variable {rounding}

theorem isDouble_round (a : ℚ) : rounding.IsDouble (rounding.round a) := by
  intro value h
  rw [h]
  exact rounding.round_round h

theorem isDouble_ofNat (n : Nat) : rounding.IsDouble (rounding.ofNat n) := isDouble_round n
theorem isDouble_div (x y : Float64) : rounding.IsDouble (rounding.div x y) := by
  rw [div.eq_def]
  split
  case h_1 =>
      split
      · exact isDouble_round _
      · split <;> rintro value ⟨⟩
  case h_3 =>
      rintro value ⟨⟩
      exact rounding.round_zero
  all_goals rintro value ⟨⟩

theorem lt_negInfinite (x : Float64) : x.lt (.infinite true) = false := by
  cases x with
  | finite value => rfl
  | infinite negative => cases negative <;> rfl
  | nan => rfl

theorem le_ofNat (n : Nat) : (Float64.finite 0).le (rounding.ofNat n) = true := by
  have hmono := rounding.round_mono (show (0 : ℚ) ≤ n from Nat.cast_nonneg n)
  rwa [rounding.round_zero] at hmono

/-- A float is taken from zero exactly. -/
theorem sub_zero_left {value : ℚ} (hdouble : rounding.round value = .finite value) :
    rounding.sub (.finite 0) (.finite value) = .finite (-value) := by
  rw [sub, Float64.neg, add, zero_add, rounding.round_neg, hdouble]
  rfl

theorem le_of_le_of_not {a c : ℚ} {x : Float64} (ha : (Float64.finite a).le x = true)
    (hlt : x.lt (.finite c) = true) (hc : c ≤ a) : False := by
  cases x with
  | finite b =>
    simp only [Float64.le, Float64.lt, decide_eq_true_eq] at ha hlt
    linarith
  | infinite negative => cases negative <;> simp_all [Float64.le, Float64.lt]
  | nan => cases hlt

/-- A float that a non-negative one is added to does not become less. -/
theorem not_lt_add {value b : ℚ} (hdouble : rounding.round value = .finite value) (hb : 0 ≤ b)
    {c : ℚ} (hc : c ≤ value) :
    (rounding.add (.finite value) (.finite b)).lt (.finite c) = false := by
  rw [Bool.eq_false_iff]
  intro hlt
  have hle := rounding.round_mono (show value ≤ value + b by linarith)
  rw [hdouble] at hle
  exact le_of_le_of_not hle hlt hc

end Rounding

end Aivtuber
