import Mathlib.Data.Rat.Floor
import Aivtuber.Base.Saturating

/-!
# Floats

The values of 64-bit floats, compared and cast to integers exactly.  What an operation that
rounds gives is a parameter, `FloatArith`.
-/

open Saturating (u64Max)

namespace Aivtuber

/-- A 64-bit float. -/
inductive Float64 where
  | finite (value : ℚ)
  | infinite (negative : Bool)
  | nan
deriving DecidableEq

/-- The value of a finite float, zero for the others; floats are read where validation has
seen to it that they are finite. -/
def Float64.value : Float64 → ℚ
  | .finite value => value
  | .infinite _ | .nan => 0

namespace Float64

def isFinite : Float64 → Bool
  | .finite _ => true
  | .infinite _ | .nan => false

/-- Less than, false as soon as one side is not a number. -/
def lt : Float64 → Float64 → Bool
  | .finite left, .finite right => left < right
  | .infinite negative, .finite _ => negative
  | .finite _, .infinite negative => !negative
  | .infinite left, .infinite right => left && !right
  | .nan, _ | _, .nan => false

def le : Float64 → Float64 → Bool
  | .finite left, .finite right => left ≤ right
  | .infinite negative, .finite _ => negative
  | .finite _, .infinite negative => !negative
  | .infinite left, .infinite right => left || !right
  | .nan, _ | _, .nan => false

/-- To the nearest integer, halves away from zero. -/
def round : Float64 → Float64
  | .finite value => .finite (if 0 ≤ value then ⌊value + 1 / 2⌋ else -⌊1 / 2 - value⌋)
  | special => special

def floor : Float64 → Float64
  | .finite value => .finite ⌊value⌋
  | special => special

/-- The cast to an unsigned 64-bit integer, which saturates. -/
def toU64 : Float64 → Nat
  | .finite value => min ⌊value⌋.toNat u64Max
  | .infinite negative => if negative then 0 else u64Max
  | .nan => 0

end Float64

/-- The rounded operations on 64-bit floats. -/
structure FloatArith where
  add : Float64 → Float64 → Float64
  sub : Float64 → Float64 → Float64
  mul : Float64 → Float64 → Float64
  div : Float64 → Float64 → Float64
  ofNat : Nat → Float64
  /-- Round to single precision. -/
  single : Float64 → Float64

end Aivtuber
