import Mathlib.Data.List.Induction
import Mathlib.Data.List.Nodup

/-!
# The last of the elements with a key

A store that is written under the key of each element holds, under every key, the last element
with that key, or what it held before: a list of entries in the order in which their keys were
first written (`lookup_foldl_assign`).
-/

universe u v w

namespace List

variable {κ : Type u} {α : Type v} {β : Type w} [DecidableEq κ]

/-- The last element with a key. -/
def lastWith (key : α → κ) (l : List α) (k : κ) : Option α :=
  l.reverse.find? (fun a ↦ key a = k)

variable {key : α → κ} {k : κ}

@[simp]
theorem lastWith_nil : lastWith key [] k = none := rfl

theorem lastWith_append (l m : List α) :
    lastWith key (l ++ m) k = (lastWith key m k).or (lastWith key l k) := by
  rw [lastWith, reverse_append, find?_append]
  rfl

theorem lastWith_concat (l : List α) (a : α) :
    lastWith key (l ++ [a]) k = if key a = k then some a else lastWith key l k := by
  rw [lastWith_append]
  by_cases h : key a = k <;> simp [lastWith, h]

theorem lastWith_cons (a : α) (l : List α) :
    lastWith key (a :: l) k = (lastWith key l k).or (if key a = k then some a else none) := by
  rw [← singleton_append, lastWith_append, ← nil_append [a], lastWith_concat]
  rfl

theorem mem_of_lastWith {l : List α} {a : α} (h : lastWith key l k = some a) : a ∈ l :=
  mem_reverse.mp (mem_of_find?_eq_some h)

theorem key_of_lastWith {l : List α} {a : α} (h : lastWith key l k = some a) : key a = k := by
  simpa using find?_some h

theorem lastWith_eq_none {l : List α} : lastWith key l k = none ↔ ∀ a ∈ l, key a ≠ k := by
  simp [lastWith, find?_eq_none]

theorem lastWith_eq_some_iff {l : List α} (h : (l.map key).Nodup) {a : α} :
    lastWith key l k = some a ↔ a ∈ l ∧ key a = k := by
  constructor
  · exact fun hlast ↦ ⟨mem_of_lastWith hlast, key_of_lastWith hlast⟩
  · rintro ⟨ha, rfl⟩
    cases hlast : lastWith key l (key a) with
    | none => exact absurd rfl (lastWith_eq_none.mp hlast a ha)
    | some b =>
      rw [inj_on_of_nodup_map h (mem_of_lastWith hlast) ha (key_of_lastWith hlast)]

/-- The last element with a key is also the last with a finer one. -/
theorem lastWith_of_finer {κ' : Type*} [DecidableEq κ'] {fine : α → κ'}
    (hfine : ∀ a b, fine a = fine b → key a = key b) {l : List α} {a : α}
    (h : lastWith key l (key a) = some a) : lastWith fine l (fine a) = some a := by
  induction l using reverseRecOn with
  | nil => cases h
  | append_singleton l b ih =>
    rw [lastWith_concat] at h ⊢
    by_cases hkey : key b = key a
    · rw [if_pos hkey, Option.some_inj] at h
      rw [h, if_pos rfl]
    · rw [if_neg hkey] at h
      rw [if_neg fun heq ↦ hkey (hfine b a heq), ih h]

/-- The last elements of a list stand for it in front of others. -/
theorem lastWith_append_of_lasts {lasts l : List α} (hnodup : (lasts.map key).Nodup)
    (hlasts : ∀ a, a ∈ lasts ↔ lastWith key l (key a) = some a) (m : List α) (k : κ) :
    lastWith key (lasts ++ m) k = lastWith key (l ++ m) k := by
  rw [lastWith_append, lastWith_append]
  congr 1
  ext a
  rw [lastWith_eq_some_iff hnodup, hlasts]
  constructor
  · rintro ⟨hlast, rfl⟩
    exact hlast
  · intro hlast
    have hkey := key_of_lastWith hlast
    exact ⟨by rwa [hkey], hkey⟩

/-! ## Entries in order -/

/-- Write under a key, in its place if there is one. -/
def assign (k : κ) (b : β) : List (κ × β) → List (κ × β)
  | [] => [(k, b)]
  | entry :: rest => if entry.1 = k then (k, b) :: rest else entry :: assign k b rest

variable {b : β} {m : List (κ × β)}

theorem lookup_cons_eq_ite (entry : κ × β) (m : List (κ × β)) :
    (entry :: m).lookup k = if k = entry.1 then some entry.2 else m.lookup k := by
  rw [lookup_cons]
  by_cases h : k = entry.1
  · rw [if_pos h, beq_iff_eq.mpr h]
  · rw [if_neg h, beq_eq_false_iff_ne.mpr h]

theorem lookup_assign (k' : κ) :
    (m.assign k b).lookup k' = if k' = k then some b else m.lookup k' := by
  induction m with
  | nil => exact lookup_cons_eq_ite (k, b) []
  | cons entry rest ih =>
    rw [assign]
    by_cases h : entry.1 = k
    · rw [if_pos h, lookup_cons_eq_ite, lookup_cons_eq_ite, h]
      by_cases hk : k' = k
      · rw [if_pos hk, if_pos hk]
      · rw [if_neg hk, if_neg hk, if_neg hk]
    · rw [if_neg h, lookup_cons_eq_ite, lookup_cons_eq_ite, ih]
      by_cases hk : k' = entry.1
      · rw [if_pos hk, if_pos hk, if_neg (hk ▸ h)]
      · rw [if_neg hk, if_neg hk]

theorem map_fst_assign : (m.assign k b).map Prod.fst =
    if k ∈ m.map Prod.fst then m.map Prod.fst else m.map Prod.fst ++ [k] := by
  induction m with
  | nil => rfl
  | cons entry rest ih =>
    rw [assign]
    by_cases h : entry.1 = k
    · simp [h]
    · rw [if_neg h, map_cons, ih, map_cons]
      by_cases hmem : k ∈ rest.map Prod.fst <;> simp_all [eq_comm]

theorem nodup_assign (h : (m.map Prod.fst).Nodup) : ((m.assign k b).map Prod.fst).Nodup := by
  rw [map_fst_assign]
  split
  case isTrue => exact h
  case isFalse hmem => exact nodup_append.mpr ⟨h, nodup_singleton k, fun a ha c hc ↦ by
      rw [mem_singleton.mp hc]
      rintro rfl
      exact hmem ha⟩

theorem mem_iff_lookup (h : (m.map Prod.fst).Nodup) : (k, b) ∈ m ↔ m.lookup k = some b := by
  induction m with
  | nil => simp
  | cons entry rest ih =>
    obtain ⟨hentry, hrest⟩ := nodup_cons.mp h
    rw [mem_cons, lookup_cons_eq_ite, ih hrest]
    by_cases hk : k = entry.1
    · have hnone : ¬ rest.lookup k = some b := by
        rw [← ih hrest, hk]
        exact fun hmem ↦ hentry (mem_map.mpr ⟨(entry.1, b), hmem, rfl⟩)
      rw [if_pos hk, or_iff_left hnone, Option.some_inj, Prod.ext_iff]
      exact ⟨fun heq ↦ heq.2.symm, fun heq ↦ ⟨hk, heq.symm⟩⟩
    · rw [if_neg hk, or_iff_right]
      rintro rfl
      exact hk rfl

/-- **Writing a list of entries** leaves the value of the last element under each key. -/
theorem lookup_foldl_assign (value : α → β) (l : List α) (m : List (κ × β)) :
    (l.foldl (fun m a ↦ m.assign (key a) (value a)) m).lookup k =
      ((lastWith key l k).map value).or (m.lookup k) := by
  induction l using reverseRecOn with
  | nil => rfl
  | append_singleton l a ih =>
    rw [foldl_append, foldl_cons, foldl_nil, lookup_assign, lastWith_concat, ih]
    by_cases h : key a = k
    · rw [if_pos h.symm, if_pos h]
      rfl
    · rw [if_neg (Ne.symm h), if_neg h]

/-! ## The last element, and all elements, of each key -/

def lastEach (key : α → κ) (l : List α) : List (κ × α) :=
  l.foldl (fun m a ↦ m.assign (key a) a) []

def collect (key : α → κ) (l : List α) : List (κ × List α) :=
  l.foldl (fun m a ↦ m.assign (key a) ((m.lookup (key a)).getD [] ++ [a])) []

theorem nodup_foldl_assign (value : List (κ × β) → α → β) (l : List α)
    (h : (m.map Prod.fst).Nodup) :
    ((l.foldl (fun m a ↦ m.assign (key a) (value m a)) m).map Prod.fst).Nodup := by
  induction l generalizing m with
  | nil => exact h
  | cons a l ih => exact ih (nodup_assign h)

theorem nodup_lastEach (key : α → κ) (l : List α) : ((lastEach key l).map Prod.fst).Nodup :=
  nodup_foldl_assign (fun _ a ↦ a) l nodup_nil

theorem mem_lastEach {l : List α} {a : α} : (k, a) ∈ lastEach key l ↔ lastWith key l k = some a := by
  rw [mem_iff_lookup (nodup_lastEach key l), lastEach, lookup_foldl_assign (fun a ↦ a), lookup_nil,
    Option.or_none, Option.map_id']

theorem mem_map_lastEach {l : List α} {a : α} :
    a ∈ (lastEach key l).map Prod.snd ↔ lastWith key l (key a) = some a := by
  rw [mem_map]
  constructor
  · rintro ⟨⟨k, b⟩, hmem, rfl⟩
    have hlast := mem_lastEach.mp hmem
    rwa [key_of_lastWith hlast]
  · exact fun h ↦ ⟨(key a, a), mem_lastEach.mpr h, rfl⟩

/-- The elements that are left have different keys. -/
theorem nodup_map_lastEach (key : α → κ) (l : List α) :
    (((lastEach key l).map Prod.snd).map key).Nodup := by
  have hkeys : ((lastEach key l).map Prod.snd).map key = (lastEach key l).map Prod.fst := by
    rw [map_map]
    apply map_congr_left
    rintro ⟨k, a⟩ hmem
    have hlast : lastWith key l k = some a := mem_lastEach.mp hmem
    have hkey : key a = k := key_of_lastWith hlast
    exact hkey
  rw [hkeys]
  exact nodup_lastEach key l

theorem nodup_collect (key : α → κ) (l : List α) : ((collect key l).map Prod.fst).Nodup :=
  nodup_foldl_assign (fun m a ↦ (m.lookup (key a)).getD [] ++ [a]) l nodup_nil

/-- **Collecting the elements of each key** leaves them in their order. -/
theorem lookup_collect (key : α → κ) (l : List α) : (collect key l).lookup k =
    if l.filter (fun a ↦ key a = k) = [] then none else some (l.filter fun a ↦ key a = k) := by
  rw [collect]
  induction l using reverseRecOn with
  | nil => rfl
  | append_singleton l a ih =>
    rw [foldl_append, foldl_cons, foldl_nil, lookup_assign, filter_append]
    by_cases h : key a = k
    · have hne : l.filter (fun a ↦ key a = k) ++ [a] ≠ [] := append_ne_nil_of_right_ne_nil _ (by simp)
      rw [if_pos h.symm, filter_cons_of_pos (by simpa using h), filter_nil, h, ih, if_neg hne]
      split
      case isTrue hnil => rw [hnil, Option.getD_none]
      case isFalse => rw [Option.getD_some]
    · rw [if_neg (Ne.symm h), filter_cons_of_neg (by simpa using h), filter_nil, append_nil, ih]

theorem mem_collect {l group : List α} :
    (k, group) ∈ collect key l ↔ group ≠ [] ∧ group = l.filter fun a ↦ key a = k := by
  rw [mem_iff_lookup (nodup_collect key l), lookup_collect]
  split
  case isTrue hnil =>
      rw [hnil]
      constructor
      · rintro ⟨⟩
      · rintro ⟨hne, rfl⟩
        exact absurd rfl hne
  case isFalse hne =>
      rw [Option.some_inj]
      constructor
      · rintro rfl
        exact ⟨hne, rfl⟩
      · exact fun h ↦ h.2.symm

end List
