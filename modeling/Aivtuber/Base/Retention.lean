import Mathlib.Data.List.Infix
import Aivtuber.Base.Newest
import Aivtuber.Base.Saturating

/-!
# Bounded retention

A buffer keeps the newest of the values that it is given, counts those that it forgets with a
counter that saturates, and remembers how many it ever held.  All three are determined by what was
recorded (`recordAll_items`, `recordAll_evicted`, `recordAll_highWater`).
-/

open Saturating (u64Max satAdd)

namespace Retention

variable {α : Type}

structure Buffer (α : Type) where
  items : List α
  limit : Nat
  highWater : Nat
  evicted : Nat

namespace Buffer

def empty (limit : Nat) : Buffer α := ⟨[], limit, 0, 0⟩

/-- Record a value, and forget what is too old. -/
def record (buffer : Buffer α) (a : α) : Buffer α :=
  let items := buffer.items ++ [a]
  let excess := items.length - buffer.limit
  { buffer with
    items := items.drop excess
    highWater := max buffer.highWater (items.drop excess).length
    evicted := satAdd buffer.evicted excess }

@[simp] theorem record_limit (buffer : Buffer α) (a : α) :
    (buffer.record a).limit = buffer.limit := rfl

theorem record_items (buffer : Buffer α) (a : α) :
    (buffer.record a).items = (buffer.items ++ [a]).rtake buffer.limit := rfl

theorem record_highWater (buffer : Buffer α) (a : α) :
    (buffer.record a).highWater = max buffer.highWater (buffer.record a).items.length := rfl

/-- What is forgotten is counted. -/
theorem record_evicted {buffer : Buffer α} {total : Nat} (h : buffer.evicted = min total u64Max)
    (a : α) : (buffer.record a).evicted =
      min (total + ((buffer.items ++ [a]).length - buffer.limit)) u64Max := by
  change satAdd buffer.evicted _ = _
  rw [h, Saturating.satAdd_min]

end Buffer

/-! ## Runs -/

theorem length_rtake (l : List α) (n : Nat) : (l.rtake n).length = min n l.length := by
  rw [List.rtake, List.length_drop]
  omega

/-- The buffer once some values are recorded. -/
def recordAll (limit : Nat) (values : List α) : Buffer α :=
  values.foldl Buffer.record (Buffer.empty limit)

theorem recordAll_concat (limit : Nat) (values : List α) (a : α) :
    recordAll limit (values ++ [a]) = (recordAll limit values).record a := by
  rw [recordAll, List.foldl_append]
  rfl

theorem recordAll_limit (limit : Nat) (values : List α) :
    (recordAll limit values).limit = limit := by
  induction values using List.reverseRecOn with
  | nil => rfl
  | append_singleton values a ih => rw [recordAll_concat, Buffer.record_limit, ih]

/-- **The newest of all**: a buffer is determined by what was recorded. -/
theorem recordAll_items (limit : Nat) (values : List α) :
    (recordAll limit values).items = values.rtake limit := by
  induction values using List.reverseRecOn with
  | nil =>
    rw [List.rtake, List.drop_nil]
    rfl
  | append_singleton values a ih =>
    rw [recordAll_concat, Buffer.record_items, ih, recordAll_limit, List.rtake_rtake_append]

theorem recordAll_evicted (limit : Nat) (values : List α) :
    (recordAll limit values).evicted = min (values.length - limit) u64Max := by
  induction values using List.reverseRecOn with
  | nil =>
    rw [List.length_nil, Nat.zero_sub]
    rfl
  | append_singleton values a ih =>
    rw [recordAll_concat, Buffer.record_evicted ih, recordAll_items, recordAll_limit,
      List.length_append, List.length_append, length_rtake, List.length_singleton]
    congr 1
    omega

theorem recordAll_highWater (limit : Nat) (values : List α) :
    (recordAll limit values).highWater = min limit values.length := by
  induction values using List.reverseRecOn with
  | nil =>
    rw [List.length_nil, Nat.min_zero]
    rfl
  | append_singleton values a ih =>
    rw [recordAll_concat, Buffer.record_highWater, ih, ← recordAll_concat, recordAll_items,
      length_rtake, List.length_append, List.length_singleton]
    omega

end Retention
