import Mathlib.Algebra.Order.Floor.Semiring
import Mathlib.Data.Rat.Floor
import Aivtuber.Base.Saturating

/-!
# Variations

The seeded generator of `crates/scheduler/src/lib.rs`, and the variation of a performance
that it draws.  The floats are rationals here, and `rounding` stands for the rounding of
their operations: nothing below depends on which one it is.
-/

open Saturating

namespace Aivtuber

/-- The state of the generator. -/
structure SeededRng where
  state : UInt32
deriving DecidableEq, Repr

namespace SeededRng

def new (seed : Nat) : SeededRng := ⟨UInt32.ofNat seed⟩

/-- The next number of the unit interval; every number it can be is a float. -/
def nextF64 (rng : SeededRng) : ℚ × SeededRng :=
  let a := rng.state + 0x6d2b79f5
  let t1 := (a ^^^ (a >>> 15)) * (1 ||| a)
  let t2 := t1 + (t1 ^^^ (t1 >>> 7)) * (61 ||| t1) ^^^ t1
  let t3 := t2 ^^^ (t2 >>> 14)
  ((t3.toNat : ℚ) / 2 ^ 32, ⟨a⟩)

end SeededRng

structure AppliedVariation where
  speedFactor : ℚ
  amplitudeFactor : ℚ
  startDelayMs : Nat
deriving DecidableEq, Repr

/-- The range of the variations that are drawn. -/
structure VariationRange where
  speedPct : ℚ
  amplitudePct : ℚ
  startDelayMs : Nat
deriving DecidableEq, Repr

/-- A float to the nearest integer of 64 bits, halves away from zero. -/
def roundU64 (value : ℚ) : Nat := min ⌊value + 1 / 2⌋₊ u64Max

variable (rounding : ℚ → ℚ)

/-- A factor around one, drawn from a range in percent. -/
def variationFactor (draw pct : ℚ) : ℚ :=
  rounding (1 + rounding (rounding (rounding (draw * 2) - 1) * rounding (pct / 100)))

def applyVariation (spec : VariationRange) (rng : SeededRng) : AppliedVariation × SeededRng :=
  let (speed, rng) := rng.nextF64
  let (amplitude, rng) := rng.nextF64
  let (delay, rng) := rng.nextF64
  ({ speedFactor := variationFactor rounding speed spec.speedPct
     amplitudeFactor := variationFactor rounding amplitude spec.amplitudePct
     startDelayMs := roundU64 (rounding (delay * rounding spec.startDelayMs)) },
    rng)

/-- An offset at another speed. -/
def scaleOffset (offsetMs : Nat) (speedFactor : ℚ) : Nat :=
  if speedFactor ≤ 0 then offsetMs
  else roundU64 (rounding (rounding offsetMs * speedFactor))

end Aivtuber
