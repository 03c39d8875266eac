import Mathlib.Data.List.Lex
import Mathlib.Data.List.Sort
import Mathlib.Order.Defs.LinearOrder

/-!
# JSON documents

Documents over a type of numbers, and their canonical text: the members of every object in the
order of their keys, the elements of every array in their own.  What a key is ordered by, and
how a number is written, is a parameter.
-/

inductive Json (ν : Type) where
  | null
  | bool (value : Bool)
  | num (value : ν)
  | str (value : String)
  | arr (values : List (Json ν))
  | obj (members : List (String × Json ν))

namespace Json

variable {ν : Type}

/-- A member of an object; no other document has any. -/
def get? : Json ν → String → Option (Json ν)
  | obj members, key => members.lookup key
  | _, _ => none

/-! ## Text -/

def hexDigit (n : Nat) : Char := "0123456789abcdef".toList.getD n '0'

def escape (c : Char) : List Char :=
  if c = '"' then ['\\', '"']
  else if c = '\\' then ['\\', '\\']
  else if c = '\n' then ['\\', 'n']
  else if c = '\r' then ['\\', 'r']
  else if c = '\t' then ['\\', 't']
  else if c.toNat = 8 then ['\\', 'b']
  else if c.toNat = 12 then ['\\', 'f']
  else if c.toNat < 32 then
    ['\\', 'u', '0', '0', hexDigit (c.toNat / 16), hexDigit (c.toNat % 16)]
  else [c]

def quote (text : String) : String := "\"" ++ String.ofList (text.toList.flatMap escape) ++ "\""

/-- The members in the order of their keys. -/
def sortMembers (order : String → List Nat) (members : List (String × String)) :
    List (String × String) :=
  members.insertionSort (fun a b ↦ order a.1 ≤ order b.1)

mutual

def canonical (order : String → List Nat) (number : ν → String) : Json ν → String
  | null => "null"
  | bool value => if value then "true" else "false"
  | num value => number value
  | str value => quote value
  | arr values => "[" ++ ",".intercalate (canonicalValues order number values) ++ "]"
  | obj members =>
    let entries := sortMembers order (canonicalMembers order number members)
    "\x7b" ++ ",".intercalate (entries.map fun entry ↦ quote entry.1 ++ ":" ++ entry.2) ++ "\x7d"

def canonicalValues (order : String → List Nat) (number : ν → String) :
    List (Json ν) → List String
  | [] => []
  | value :: values => canonical order number value :: canonicalValues order number values

def canonicalMembers (order : String → List Nat) (number : ν → String) :
    List (String × Json ν) → List (String × String)
  | [] => []
  | (key, value) :: members =>
    (key, canonical order number value) :: canonicalMembers order number members

end

/-! ## Code units -/

/-- The code units of a text as UTF-16 holds it. -/
def utf16 (text : String) : List Nat :=
  text.toList.flatMap fun c ↦
    if c.toNat < 0x10000 then [c.toNat]
    else [0xD800 + (c.toNat - 0x10000) / 0x400, 0xDC00 + (c.toNat - 0x10000) % 0x400]

example : canonical utf16 (fun n : Nat ↦ toString n)
    (obj [("b", arr [num 1, null]), ("a", str "x")]) = "\x7b\"a\":\"x\",\"b\":[1,null]\x7d" := by
  decide +kernel

end Json
