import Mathlib.Data.String.Basic
import Aivtuber.AssetStore.Usage
import Aivtuber.Base.Touches

/-!
# Evictions in order

The loop of `evict_dynamic_to_capacity` looks for its victims anew in each round.  Whatever it
evicts are the first ids in the order of their last use: first those above the bound on their
number, and then as many as the budget of bytes asks for
(`evictDynamicToCapacity_eq`, `countEvicted_eq`).
-/

open Saturating
open Std (ExtTreeMap ExtTreeSet)

namespace Aivtuber

namespace AssetStore

/-! ## The log of the loop -/

/-- Evictions, one after the other. -/
def evictAll (store : AssetStore) (ids : List String) : AssetStore := ids.foldl evict store

/-- The dynamic ids in the order in which they are evicted. -/
def evictionOrder (store : AssetStore) : List String := sortByRank store.useTick store.dynamicIds

/-- The victims of the rounds that find too many dynamic assets. -/
def countVictims : Nat → AssetStore → List String
  | 0, _ => []
  | rounds + 1, store =>
    if store.dynamicIds.length ≤ store.hotConfig.maxDynamicAssets then []
    else
      match store.evictionOrder with
      | victim :: _ => victim :: countVictims rounds (store.evict victim)
      | [] => []

/-- The victims of `evictBytes`. -/
def sizeVictims (estimated : Nat) : List String → AssetStore → List String
  | victim :: next :: candidates, store =>
    if store.hotConfig.maxDynamicBytes < estimated then
      match store.hot[victim]? with
      | some asset =>
        victim :: sizeVictims (estimated - store.estimateAssetBytes asset) (next :: candidates)
          (store.evict victim)
      | none => sizeVictims estimated (next :: candidates) store
    else []
  | _, _ => []

/-- What goes because there are too many dynamic assets. -/
def countEvicted (store : AssetStore) : List String := countVictims (store.hot.size + 1) store

/-- What goes after that, because the hot tier is too large. -/
def sizeEvicted (store : AssetStore) : List String :=
  let counted := store.evictAll store.countEvicted
  if counted.residentBytes ≤ counted.hotConfig.maxDynamicBytes || counted.dynamicIds.isEmpty then []
  else sizeVictims counted.residentBytes counted.evictionOrder counted

section Log

variable {store : AssetStore} {id : String}

theorem evictAll_cons (store : AssetStore) (id : String) (ids : List String) :
    store.evictAll (id :: ids) = (store.evict id).evictAll ids := rfl

theorem evictAll_append (store : AssetStore) (ids ids' : List String) :
    store.evictAll (ids ++ ids') = (store.evictAll ids).evictAll ids' := List.foldl_append

theorem evictBytes_eq (estimated : Nat) (candidates : List String) (store : AssetStore) :
    evictBytes estimated candidates store =
      store.evictAll (sizeVictims estimated candidates store) := by
  induction candidates generalizing estimated store with
  | nil => rfl
  | cons victim candidates ih =>
    cases candidates with
    | nil => rfl
    | cons next candidates =>
      rw [evictBytes, sizeVictims]
      split
      · cases store.hot[victim]? with
        | some asset => exact ih _ _
        | none => exact ih _ _
      · rfl

/-- The rounds of the loop end with the budget of bytes. -/
def trimBytes (store : AssetStore) : AssetStore :=
  if store.residentBytes ≤ store.hotConfig.maxDynamicBytes || store.dynamicIds.isEmpty then store
  else evictBytes store.residentBytes store.evictionOrder store

theorem evictRounds_eq {rounds : Nat} (h : store.dynamicIds.length < rounds) :
    evictRounds rounds store = (store.evictAll (countVictims rounds store)).trimBytes := by
  induction rounds generalizing store with
  | zero => cases h
  | succ rounds ih =>
    rw [evictRounds, countVictims]
    split
    case isTrue hfits => rfl
    case isFalse hfull =>
      have hperm := perm_sortByRank store.useTick store.dynamicIds
      rw [evictionOrder]
      cases hsorted : sortByRank store.useTick store.dynamicIds with
      | cons victim candidates =>
        rw [hsorted] at hperm
        have hless := length_dynamicIds_evict (hperm.subset List.mem_cons_self)
        exact ih (Nat.lt_of_lt_of_le hless (Nat.le_of_lt_succ h))
      | nil =>
        rw [hsorted] at hperm
        rw [← hperm.length_eq] at hfull
        exact absurd (Nat.zero_le _) hfull

theorem trimBytes_eq (store : AssetStore) :
    store.trimBytes = store.evictAll
      (if store.residentBytes ≤ store.hotConfig.maxDynamicBytes || store.dynamicIds.isEmpty then []
        else sizeVictims store.residentBytes store.evictionOrder store) := by
  rw [trimBytes]
  split
  · rfl
  · exact evictBytes_eq _ _ _

theorem length_dynamicIds_le (store : AssetStore) : store.dynamicIds.length ≤ store.hot.size := by
  have hle : store.dynamicIds.length ≤ store.hot.keys.length := List.length_filter_le _ _
  rwa [ExtTreeMap.length_keys] at hle

/-- **The loop evicts what its log says**, and nothing else changes. -/
theorem evictDynamicToCapacity_eq (store : AssetStore) :
    store.evictDynamicToCapacity = store.evictAll (store.countEvicted ++ store.sizeEvicted) := by
  have hrounds : store.dynamicIds.length < store.hot.size + 1 :=
    Nat.lt_succ_of_le store.length_dynamicIds_le
  rw [evictDynamicToCapacity, evictRounds_eq hrounds, trimBytes_eq, evictAll_append]
  rfl

end Log

/-! ## The order -/

section Order

variable {store : AssetStore} {id : String} {rank rank' : String → Nat} {ids ids' : List String}

/-- An id behind its rank. -/
def rankKey (rank : String → Nat) (id : String) : Nat ×ₗ String := toLex (rank id, id)

theorem rankKey_injective (rank : String → Nat) : Function.Injective (rankKey rank) := by
  intro a b h
  exact (Prod.mk.inj (toLex_inj.mp h)).2

theorem pairwise_sortByRank (h : ids.Nodup) :
    (sortByRank rank ids).Pairwise fun a b ↦ rankKey rank a < rankKey rank b := by
  have hle : ∀ a b : String, (rank a < rank b ∨ rank a = rank b ∧ a ≤ b) ↔
      rankKey rank a ≤ rankKey rank b := by
    intro a b
    rw [rankKey, rankKey, Prod.Lex.toLex_le_toLex]
  have hsorted : (sortByRank rank ids).Pairwise fun a b ↦ rankKey rank a ≤ rankKey rank b := by
    have htotal : Std.Total fun a b : String ↦ rank a < rank b ∨ rank a = rank b ∧ a ≤ b :=
      ⟨fun a b ↦ by rw [hle, hle]; exact le_total _ _⟩
    have htrans : IsTrans String fun a b ↦ rank a < rank b ∨ rank a = rank b ∧ a ≤ b :=
      ⟨fun a b c ↦ by rw [hle, hle, hle]; exact le_trans⟩
    exact (List.pairwise_insertionSort _ ids).imp (hle _ _).mp
  have hnodup : (sortByRank rank ids).Nodup := (perm_sortByRank rank ids).nodup_iff.mpr h
  refine (hsorted.and hnodup).imp ?_
  rintro a b ⟨hab, hne⟩
  exact lt_of_le_of_ne hab fun heq ↦ hne (rankKey_injective rank heq)

/-- A list that ascends is the sorted one. -/
theorem sortByRank_eq (h : ids.Pairwise fun a b ↦ rankKey rank a < rankKey rank b)
    (hperm : ids'.Perm ids) : sortByRank rank ids' = ids := by
  have hnodup : ids'.Nodup := by
    rw [hperm.nodup_iff]
    refine h.imp fun hab heq ↦ ?_
    rw [heq] at hab
    exact lt_irrefl _ hab
  have hsorted : (sortByRank rank ids').Pairwise fun a b ↦ rankKey rank a < rankKey rank b :=
    pairwise_sortByRank hnodup
  refine ((perm_sortByRank rank ids').trans hperm).eq_of_pairwise ?_ hsorted h
  exact fun a b _ _ hab hba ↦ absurd hba (lt_asymm hab)

theorem mem_evictionOrder : id ∈ store.evictionOrder ↔ id ∈ store.dynamicIds :=
  (perm_sortByRank _ _).mem_iff

theorem length_evictionOrder (store : AssetStore) :
    store.evictionOrder.length = store.dynamicIds.length := (perm_sortByRank _ _).length_eq

theorem pairwise_evictionOrder (store : AssetStore) :
    store.evictionOrder.Pairwise fun a b ↦
      rankKey store.useTick a < rankKey store.useTick b :=
  pairwise_sortByRank store.nodup_dynamicIds

theorem mem_dynamicIds_evict {victim : String} :
    id ∈ (store.evict victim).dynamicIds ↔ id ≠ victim ∧ id ∈ store.dynamicIds := by
  rw [mem_dynamicIds, mem_dynamicIds, evict]
  dsimp only
  rw [ExtTreeMap.mem_erase, and_assoc, Ne, Ne, Std.LawfulEqCmp.compare_eq_iff_eq, eq_comm]

theorem useTick_evict {victim : String} (h : id ≠ victim) :
    (store.evict victim).useTick id = store.useTick id := by
  rw [useTick, evict]
  dsimp only
  rw [ExtTreeMap.getElem?_erase, if_neg, useTick]
  exact fun hcmp ↦ h (Std.LawfulEqCmp.eq_of_compare hcmp).symm

theorem nodup_evictionOrder (store : AssetStore) : store.evictionOrder.Nodup :=
  (perm_sortByRank _ _).nodup_iff.mpr store.nodup_dynamicIds

/-- The eviction of the first id leaves the others in their order. -/
theorem evictionOrder_evict {victim : String} {rest : List String}
    (h : store.evictionOrder = victim :: rest) :
    (store.evict victim).evictionOrder = rest := by
  have hpairwise := store.pairwise_evictionOrder
  rw [h] at hpairwise
  obtain ⟨hvictim, hrest⟩ := List.pairwise_cons.mp hpairwise
  have hne : ∀ id ∈ rest, id ≠ victim := by
    rintro id hid rfl
    exact lt_irrefl _ (hvictim id hid)
  have hnodup : (victim :: rest).Nodup := h ▸ store.nodup_evictionOrder
  apply sortByRank_eq
  · refine hrest.imp_of_mem fun {a b} ha hb hab ↦ ?_
    rw [rankKey, rankKey, useTick_evict (hne a ha), useTick_evict (hne b hb)]
    exact hab
  · refine (List.perm_ext_iff_of_nodup (nodup_dynamicIds _) (List.nodup_cons.mp hnodup).2).mpr ?_
    intro id
    rw [mem_dynamicIds_evict, ← mem_evictionOrder, h, List.mem_cons]
    constructor
    · rintro ⟨hother, heq | hid⟩
      · exact absurd heq hother
      · exact hid
    · exact fun hid ↦ ⟨hne id hid, .inr hid⟩

/-- The evictions of the first ids leave the others in their order. -/
theorem evictionOrder_evictAll (n : Nat) (store : AssetStore) :
    (store.evictAll (store.evictionOrder.take n)).evictionOrder = store.evictionOrder.drop n := by
  induction n generalizing store with
  | zero => rfl
  | succ n ih =>
    cases horder : store.evictionOrder with
    | nil => exact horder
    | cons victim rest =>
      rw [List.take_succ_cons, evictAll_cons, List.drop_succ_cons,
        ← evictionOrder_evict horder]
      exact ih _

theorem countVictims_eq {rounds : Nat} (h : store.dynamicIds.length < rounds) :
    countVictims rounds store = store.evictionOrder.take
      (store.dynamicIds.length - store.hotConfig.maxDynamicAssets) := by
  induction rounds generalizing store with
  | zero => cases h
  | succ rounds ih =>
    rw [countVictims]
    split
    case isTrue hfits => rw [Nat.sub_eq_zero_of_le hfits, List.take_zero]
    case isFalse hfull =>
      have hlength := store.length_evictionOrder
      split
      case h_1 victim rest horder =>
        have hrest := evictionOrder_evict horder
        have hless := length_evictionOrder (store.evict victim)
        rw [hrest] at hless
        rw [horder, List.length_cons] at hlength
        rw [ih (by omega), hrest, ← hless, ← hlength, horder]
        show victim :: rest.take (rest.length - store.hotConfig.maxDynamicAssets) = _
        rw [Nat.succ_sub (by omega), List.take_succ_cons]
      case h_2 horder =>
        rw [horder, List.length_nil] at hlength
        omega

/-- **The bound on their number takes the first dynamic ids**, as many as are too many. -/
theorem countEvicted_eq (store : AssetStore) :
    store.countEvicted = store.evictionOrder.take
      (store.dynamicIds.length - store.hotConfig.maxDynamicAssets) :=
  countVictims_eq (Nat.lt_succ_of_le store.length_dynamicIds_le)

end Order

/-! ## The least touch -/

/-- The first id by its touch has the least touch. -/
theorem isLeast_of_sortByRank {touches : ExtTreeMap String Nat} {victim : String}
    {rest : List String}
    (h : sortByRank (fun id ↦ (touches[id]?).getD 0) touches.keys = victim :: rest) :
    Touches.IsLeast touches victim := by
  have hmem : ∀ id, id ∈ touches ↔ id ∈ victim :: rest := by
    intro id
    rw [← h, (perm_sortByRank _ _).mem_iff, ExtTreeMap.mem_keys]
  have hnodup : touches.keys.Nodup := ExtTreeMap.nodup_keys
  have hsorted : (sortByRank (fun id ↦ (touches[id]?).getD 0) touches.keys).Pairwise fun a b ↦
      rankKey (fun id ↦ (touches[id]?).getD 0) a < rankKey (fun id ↦ (touches[id]?).getD 0) b :=
    pairwise_sortByRank hnodup
  rw [h] at hsorted
  refine ⟨(hmem victim).mpr List.mem_cons_self, fun other hother hne ↦ ?_⟩
  have hrest : other ∈ rest := by
    rcases List.mem_cons.mp ((hmem other).mp hother) with heq | hrest
    · exact absurd heq hne
    · exact hrest
  exact (List.pairwise_cons.mp hsorted).1 other hrest

end AssetStore

end Aivtuber
