import Mathlib.Data.List.Perm.Subperm
import Mathlib.Data.Prod.Lex
import Mathlib.Logic.Function.Basic
import Std.Data.ExtTreeMap.Lemmas
import Aivtuber.Base.Recency

/-!
# Touches

A map that keeps under each of its keys when the key was touched last, on a clock of 64 bits that
other maps may share (`Timed`).  Until the clock runs out, the least entry of the map is the key
that was touched longest ago (`Timed.precedes`).
-/

open Saturating
open Std (ExtTreeMap)
open Recency

namespace Touches

variable {κ α : Type*} {cmp : κ → κ → Ordering} [Std.TransCmp cmp]
  [DecidableEq α] {label : κ → α} {touches touches' : ExtTreeMap κ Nat cmp} {uses : List α}

section Entries

variable {β : Type*} {m : ExtTreeMap κ β cmp} {key : κ}

theorem mem_of_getElem? {value : β} (h : m[key]? = some value) : key ∈ m := by
  rw [← ExtTreeMap.isSome_getElem?_iff_mem, h]
  rfl

theorem exists_getElem? (h : key ∈ m) : ∃ value, m[key]? = some value :=
  Option.isSome_iff_exists.mp (ExtTreeMap.isSome_getElem?_iff_mem.mpr h)

end Entries

/-- Each touch is the last use of what its key stands for. -/
def Timed (label : κ → α) (touches : ExtTreeMap κ Nat cmp) (uses : List α) : Prop :=
  ∀ key touch, touches[key]? = some touch →
    (lastUse (label key) uses).isSome ∧ touch = stamp uses (label key)

theorem timed_empty (label : κ → α) (uses : List α) :
    Timed label (∅ : ExtTreeMap κ Nat cmp) uses := by
  intro key touch htouch
  rw [ExtTreeMap.getElem?_empty] at htouch
  cases htouch

/-- Dropping touches. -/
theorem Timed.of_le (h : Timed label touches uses)
    (hle : ∀ (key : κ) (touch : Nat), touches'[key]? = some touch → touches[key]? = some touch) :
    Timed label touches' uses :=
  fun key touch htouch ↦ h key touch (hle key touch htouch)

theorem Timed.erase (h : Timed label touches uses) (key : κ) :
    Timed label (touches.erase key) uses := by
  refine h.of_le fun other touch htouch ↦ ?_
  rw [ExtTreeMap.getElem?_erase] at htouch
  split at htouch
  case isTrue => cases htouch
  case isFalse => exact htouch

/-- A use of something else. -/
theorem Timed.cons_of_ne (h : Timed label touches uses) {use : α}
    (hne : ∀ key ∈ touches, use ≠ label key) : Timed label touches (use :: uses) := by
  intro key touch htouch
  obtain ⟨hused, heq⟩ := h key touch htouch
  have hother := hne key (mem_of_getElem? htouch)
  rw [lastUse_cons_of_ne hother, stamp_cons_of_ne hother]
  exact ⟨hused, heq⟩

variable [Std.LawfulEqCmp cmp] in
/-- A touch at the time of the clock. -/
theorem Timed.insert (h : Timed label touches uses) (hlabel : label.Injective) (key : κ) :
    Timed label (touches.insert key (min uses.length u64Max)) (label key :: uses) := by
  intro other touch htouch
  rw [ExtTreeMap.getElem?_insert] at htouch
  by_cases heq : key = other
  · subst heq
    rw [if_pos Std.ReflCmp.compare_self, Option.some_inj] at htouch
    rw [lastUse_cons_self, stamp_cons_self]
    exact ⟨rfl, htouch.symm⟩
  · rw [if_neg (mt Std.LawfulEqCmp.compare_eq_iff_eq.mp heq)] at htouch
    obtain ⟨hused, htime⟩ := h other touch htouch
    have hother : label key ≠ label other := fun hsame ↦ heq (hlabel hsame)
    rw [lastUse_cons_of_ne hother, stamp_cons_of_ne hother]
    exact ⟨hused, htime⟩

/-- Maps with the same keys have the same size. -/
theorem size_eq_of_mem_iff [Std.LawfulEqCmp cmp] {β γ : Type*} {m : ExtTreeMap κ β cmp}
    {m' : ExtTreeMap κ γ cmp} (h : ∀ key, key ∈ m ↔ key ∈ m') : m.size = m'.size := by
  have hperm : m.keys.Perm m'.keys := by
    refine (List.perm_ext_iff_of_nodup ExtTreeMap.nodup_keys ExtTreeMap.nodup_keys).mpr ?_
    intro key
    rw [ExtTreeMap.mem_keys, ExtTreeMap.mem_keys, h]
  rw [← ExtTreeMap.length_keys, ← ExtTreeMap.length_keys, hperm.length_eq]

/-- A map that has some of the keys of another one, and is as large, has them all. -/
theorem mem_iff_of_size_le [Std.LawfulEqCmp cmp] {β γ : Type*} {m : ExtTreeMap κ β cmp}
    {m' : ExtTreeMap κ γ cmp} (hsubset : ∀ key ∈ m, key ∈ m') (hsize : m'.size ≤ m.size)
    (key : κ) : key ∈ m' ↔ key ∈ m := by
  have hsubperm : m.keys.Subperm m'.keys := by
    refine List.subperm_of_subset ExtTreeMap.nodup_keys fun key hkey ↦ ?_
    exact ExtTreeMap.mem_keys.mpr (hsubset key (ExtTreeMap.mem_keys.mp hkey))
  have hperm : m.keys.Perm m'.keys := by
    apply hsubperm.perm_of_length_le
    rwa [ExtTreeMap.length_keys, ExtTreeMap.length_keys]
  rw [← ExtTreeMap.mem_keys, ← hperm.mem_iff, ExtTreeMap.mem_keys]

/-! ## The least touch -/

/-- One was used last before the other was. -/
def Precedes (uses : List α) (a b : α) : Prop :=
  ∃ m n, lastUse a uses = some m ∧ lastUse b uses = some n ∧ m < n

theorem lastUse_injective {a b : α} {n : Nat} (ha : lastUse a uses = some n)
    (hb : lastUse b uses = some n) : a = b := by
  induction uses with
  | nil => cases ha
  | cons use uses ih =>
    rw [lastUse] at ha hb
    split at ha
    case isTrue hause =>
      rw [Option.some_inj] at ha
      subst ha
      split at hb
      case isTrue hbuse => exact hause.symm.trans hbuse
      case isFalse => exact absurd (lastUse_lt_length hb) (Nat.lt_irrefl _)
    case isFalse =>
      split at hb
      case isTrue =>
        rw [Option.some_inj] at hb
        subst hb
        exact absurd (lastUse_lt_length ha) (Nat.lt_irrefl _)
      case isFalse => exact ih ha hb

section Least

variable [LinearOrder κ] {victim other : κ}

/-- The least touch, and among equal ones the least key. -/
structure IsLeast (touches : ExtTreeMap κ Nat cmp) (victim : κ) : Prop where
  mem : victim ∈ touches
  least : ∀ other ∈ touches, other ≠ victim →
    toLex ((touches[victim]?).getD 0, victim) < toLex ((touches[other]?).getD 0, other)

/-- **The least touch** is that of the key that was touched longest ago, while no two touches
share the last tick of the clock. -/
theorem Timed.precedes (h : Timed label touches uses) (hlabel : label.Injective)
    (hclock : uses.length ≤ u64Max + 1) (hleast : IsLeast touches victim)
    (hother : other ∈ touches) (hne : other ≠ victim) :
    Precedes uses (label victim) (label other) := by
  obtain ⟨first, hfirst⟩ := exists_getElem? hleast.mem
  obtain ⟨second, hsecond⟩ := exists_getElem? hother
  obtain ⟨hvictim, hvictimTime⟩ := h victim first hfirst
  obtain ⟨hlater, hlaterTime⟩ := h other second hsecond
  obtain ⟨m, hm⟩ := Option.isSome_iff_exists.mp hvictim
  obtain ⟨n, hn⟩ := Option.isSome_iff_exists.mp hlater
  have hmlt := lastUse_lt_length hm
  have hnlt := lastUse_lt_length hn
  have hless := hleast.least other hother hne
  rw [hfirst, hsecond, Prod.Lex.toLex_lt_toLex, hvictimTime, hlaterTime, stamp, stamp, hm, hn]
    at hless
  simp only [Option.getD_some] at hless
  refine ⟨m, n, hm, hn, ?_⟩
  rcases hless with hless | ⟨heq, -⟩
  · omega
  · refine absurd (hlabel (lastUse_injective hm (hn.trans (congrArg some ?_)))) (Ne.symm hne)
    omega

end Least

end Touches
