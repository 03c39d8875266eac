import Mathlib.Algebra.Order.Ring.Nat
import Std.Data.String.ToNat

/-!
# Natural numbers as doubles

A double holds 53 significant bits.  A natural number is rounded to the nearest one, ties to
even, and written with the fewest digits that still denote it, which tells doubles apart.
-/

namespace Double

/-- The double nearest to a natural number, as far as the range of the exponent goes. -/
def nearest (n : Nat) : Nat :=
  let unit := 2 ^ (n.log2 - 52)
  let up := unit < 2 * (n % unit) ∨ unit = 2 * (n % unit) ∧ n / unit % 2 = 1
  (n / unit + if up then 1 else 0) * unit

/-- The fewest digits that denote a double, at most `digits` of them zero in the end. -/
def shortest (double : Nat) : Nat → Nat
  | 0 => double
  | digits + 1 =>
    let step := 10 ^ (digits + 1)
    let low := double / step * step
    let high := low + step
    if nearest low = double ∧ (nearest high ≠ double ∨ double - low ≤ high - double) then low
    else if nearest high = double then high
    else shortest double digits

/-- The text of a double below `10 ^ 21`: its shortest digits, and zeros. -/
def text (double : Nat) : String := toString (shortest double 20)

example : text (nearest (2 ^ 60)) = "1152921504606847000" := by decide +kernel

end Double
