import Mathlib.Algebra.Group.Nat.Defs
import Mathlib.Order.Lattice

/-!
# Saturating unsigned 64-bit arithmetic

Unsigned 64-bit counters and instants are natural numbers, and an addition that
saturates is a sum capped at `u64Max`.  Saturation keeps addition monotone and
associative; what it loses is strict growth, so `le_satAdd` needs its operand to
be in range.
-/

namespace Saturating

/-- The largest unsigned 64-bit value. -/
def u64Max : Nat := 2 ^ 64 - 1

/-- Addition that stops at `u64Max`. -/
def satAdd (a b : Nat) : Nat := min (a + b) u64Max

/-- Multiplication that stops at `u64Max`. -/
def satMul (a b : Nat) : Nat := min (a * b) u64Max

theorem satAdd_le_max (a b : Nat) : satAdd a b ≤ u64Max := min_le_right _ _

theorem satAdd_le_add (a b : Nat) : satAdd a b ≤ a + b := min_le_left _ _

theorem satAdd_mono {a a' b b' : Nat} (ha : a ≤ a') (hb : b ≤ b') :
    satAdd a b ≤ satAdd a' b' := by simp only [satAdd]; omega

theorem le_satAdd {a b : Nat} (ha : a ≤ u64Max) : a ≤ satAdd a b := by
  simp only [satAdd]; omega

/-- A limit below the largest value is exceeded by a capped sum as by the sum. -/
theorem lt_satAdd_iff {a b limit : Nat} (h : a + b ≤ u64Max ∨ limit < u64Max) :
    limit < satAdd a b ↔ limit < a + b := by
  simp only [satAdd]; omega

/-- A counter that saturates shows the true count, capped. -/
theorem satAdd_min (a b : Nat) : satAdd (min a u64Max) b = min (a + b) u64Max := by
  simp only [satAdd]; omega

end Saturating
