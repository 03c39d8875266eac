import Aivtuber.Domain.Event

/-!
# Interfaces

The errors of `crates/domain/src/interfaces.rs`, and how JSON values are read at the interfaces to
providers.
-/

open Saturating

namespace Aivtuber

inductive EngineErrorKind where
  | timeout | unavailable | rateLimited | overloaded | authentication | unauthorized
  | invalidRequest | backend
deriving DecidableEq, Repr

structure EngineError where
  kind : EngineErrorKind
  message : String
deriving DecidableEq

/-! ## JSON values -/

namespace JsonValue

def asObject : JsonValue → Option (List (String × JsonValue))
  | .object members => some members
  | _ => none

def get? (value : JsonValue) (key : String) : Option JsonValue :=
  match value with
  | .object members => members.lookup key
  | _ => none

/-- The value under a path of names. -/
def pointer (value : JsonValue) (path : List String) : Option JsonValue :=
  path.foldlM get? value

def asBool : JsonValue → Option Bool
  | .bool value => some value
  | _ => none

def asU64 : JsonValue → Option Nat
  | .integer value => if 0 ≤ value ∧ value ≤ u64Max then some value.toNat else none
  | _ => none

def asI64 : JsonValue → Option Int
  | .integer value => if -2 ^ 63 ≤ value ∧ value < 2 ^ 63 then some value else none
  | _ => none

/-- Numbers that a double does not hold are far from the ranges that are checked. -/
def asF64 : JsonValue → Option Float64
  | .integer value => some (.finite value)
  | .float value => some value
  | _ => none

end JsonValue

end Aivtuber
