import Mathlib.Algebra.Order.BigOperators.Group.List
import Aivtuber.AssetStore.Generated

/-!
# The budget of bytes

The budget is for generated assets, but the loop measures the whole hot tier, and evicts what is
not pinned.  What static assets take is lost to the generated ones: these are evicted while their
own bytes are in the budget.  And generated assets that are lodged under the ids of static ones are
not evicted at all, and may stay over it (`byteBudget_iff_housed`).
-/

open Saturating
open Std (ExtTreeMap ExtTreeSet)
open Recency

namespace Aivtuber

namespace AssetStore

/-! ## Bytes -/

/-- The bytes of an id, zero if it is not resident. -/
def bytes (store : AssetStore) (id : String) : Nat :=
  (store.hot[id]?).elim 0 store.estimateAssetBytes

def bytesOf (store : AssetStore) (ids : List String) : Nat := (ids.map store.bytes).sum

def dynamicBytes (store : AssetStore) : Nat := store.bytesOf store.dynamicIds

def generatedBytes (store : AssetStore) : Nat := store.bytesOf store.generatedIds

def pinnedBytes (store : AssetStore) : Nat :=
  store.bytesOf (store.hot.keys.filter (store.pinnedIds.contains ·))

/-- The generated assets that are lodged under pinned ids. -/
def lodgedIds (store : AssetStore) : List String :=
  store.generatedIds.filter (store.pinnedIds.contains ·)

/-- The dynamic ids that the bound on their number leaves, the one that was used last at the
end. -/
def kept (store : AssetStore) : List String :=
  store.evictionOrder.drop (store.dynamicIds.length - store.hotConfig.maxDynamicAssets)

section Bytes

variable {store : AssetStore} {ids rest : List String} {id : String}

theorem bytesOf_append (store : AssetStore) (ids ids' : List String) :
    store.bytesOf (ids ++ ids') = store.bytesOf ids + store.bytesOf ids' := by
  rw [bytesOf, List.map_append, List.sum_append]
  rfl

theorem bytesOf_perm (h : ids.Perm rest) : store.bytesOf ids = store.bytesOf rest :=
  (h.map _).sum_eq

theorem residentBytes_eq (store : AssetStore) :
    store.residentBytes = store.pinnedBytes + store.dynamicBytes := by
  have hkeys : store.residentBytes = store.bytesOf store.hot.keys := by
    rw [residentBytes, bytesOf, ← ExtTreeMap.map_fst_toList_eq_keys, List.map_map]
    congr 1
    apply List.map_congr_left
    rintro ⟨id, asset⟩ hentry
    have hfound := ExtTreeMap.mem_toList_iff_getElem?_eq_some.mp hentry
    show _ = store.bytes id
    rw [bytes, hfound]
    rfl
  have hsplit := List.filter_append_perm (store.pinnedIds.contains ·) store.hot.keys
  rw [hkeys, ← bytesOf_perm hsplit, bytesOf_append]
  rfl

/-- A lodged asset is pinned. -/
theorem bytesOf_lodgedIds_le (store : AssetStore) :
    store.bytesOf store.lodgedIds ≤ store.pinnedBytes := by
  have hsub : store.lodgedIds.Sublist
      (store.hot.keys.filter (store.pinnedIds.contains ·)) := by
    rw [lodgedIds, generatedIds, List.filter_comm]
    exact List.filter_sublist
  exact (hsub.map store.bytes).sum_le_sum fun _ _ ↦ Nat.zero_le _

/-- A generated asset is dynamic, or lodged. -/
theorem UnpinnedGenerated.generatedIds_perm (h : store.UnpinnedGenerated) :
    store.generatedIds.Perm (store.lodgedIds ++ store.dynamicIds) := by
  have hdynamic : (store.generatedIds.filter fun id ↦ !store.pinnedIds.contains id).Perm
      store.dynamicIds := by
    rw [List.perm_ext_iff_of_nodup ((nodup_generatedIds store).filter _) store.nodup_dynamicIds]
    intro id
    rw [List.mem_filter, mem_dynamicIds, Bool.not_eq_true', ← Bool.not_eq_true,
      ExtTreeSet.contains_iff_mem]
    apply and_congr_left
    intro hunpinned
    refine ⟨fun hid ↦ ?_, fun hid ↦ h.dynamicIds_subset (mem_dynamicIds.mpr ⟨hid, hunpinned⟩)⟩
    obtain ⟨asset, hfound, -⟩ := mem_generatedIds.mp hid
    exact mem_hot_iff.mpr ⟨asset, hfound⟩
  exact (List.filter_append_perm _ _).symm.trans (hdynamic.append_left _)

theorem estimateAssetBytes_evictAll (store : AssetStore) (ids : List String) :
    (store.evictAll ids).estimateAssetBytes = store.estimateAssetBytes := by
  induction ids generalizing store with
  | nil => rfl
  | cons victim ids ih => exact ih (store.evict victim)

/-- The bytes of what stays are the same. -/
theorem bytesOf_evictAll (h : ∀ id ∈ rest, id ∉ ids) :
    (store.evictAll ids).bytesOf rest = store.bytesOf rest := by
  rw [bytesOf, bytesOf]
  congr 1
  apply List.map_congr_left
  intro id hid
  rw [bytes, hot_evictAll, if_neg (h id hid), estimateAssetBytes_evictAll]
  rfl

theorem pinnedBytes_evictAll (h : ids ⊆ store.dynamicIds) :
    (store.evictAll ids).pinnedBytes = store.pinnedBytes := by
  have hpins := (store.evictAll_frame ids).1
  have hgone : ∀ id, id ∈ store.pinnedIds → id ∉ ids := by
    intro id hpinned hid
    exact (mem_dynamicIds.mp (h hid)).2 hpinned
  have hperm : ((store.evictAll ids).hot.keys.filter
      ((store.evictAll ids).pinnedIds.contains ·)).Perm
        (store.hot.keys.filter (store.pinnedIds.contains ·)) := by
    refine (List.perm_ext_iff_of_nodup (ExtTreeMap.nodup_keys.filter _)
      (ExtTreeMap.nodup_keys.filter _)).mpr fun id ↦ ?_
    rw [List.mem_filter, List.mem_filter, hpins, ExtTreeMap.mem_keys, ExtTreeMap.mem_keys,
      ExtTreeSet.contains_iff_mem]
    apply and_congr_left
    intro hpinned
    rw [mem_hot_iff, mem_hot_iff, hot_evictAll, if_neg (hgone id hpinned)]
  rw [pinnedBytes, bytesOf_perm hperm, bytesOf_evictAll, pinnedBytes]
  intro id hid
  exact hgone id (ExtTreeSet.contains_iff_mem.mp (List.mem_filter.mp hid).2)

/-- What is left of the eviction order after its first ids went. -/
theorem perm_dynamicIds_evictAll (h : ids ++ rest = store.evictionOrder) :
    (store.evictAll ids).dynamicIds.Perm rest := by
  have hnodup : (ids ++ rest).Nodup := h ▸ store.nodup_evictionOrder
  obtain ⟨-, hrest, hapart⟩ := List.nodup_append.mp hnodup
  refine (List.perm_ext_iff_of_nodup (nodup_dynamicIds _) hrest).mpr fun id ↦ ?_
  rw [mem_dynamicIds_evictAll, ← mem_evictionOrder, ← h, List.mem_append]
  constructor
  · rintro ⟨hnot, hid | hid⟩
    · exact absurd hid hnot
    · exact hid
  · exact fun hid ↦ ⟨fun hmem ↦ hapart id hmem id hid rfl, .inr hid⟩

theorem dynamicBytes_evictAll (h : ids ++ rest = store.evictionOrder) :
    (store.evictAll ids).dynamicBytes = store.bytesOf rest := by
  have hnodup : (ids ++ rest).Nodup := h ▸ store.nodup_evictionOrder
  rw [dynamicBytes, bytesOf_perm (perm_dynamicIds_evictAll h), bytesOf_evictAll]
  exact fun id hid hmem ↦ (List.nodup_append.mp hnodup).2.2 id hmem id hid rfl

/-- An eviction of dynamic assets leaves the lodged ones, and the rest. -/
theorem generatedIds_evictAll_perm (hunpinned : store.UnpinnedGenerated)
    (h : ids ++ rest = store.evictionOrder) :
    (store.evictAll ids).generatedIds.Perm (store.lodgedIds ++ rest) := by
  have hperm := hunpinned.generatedIds_perm.trans
    ((perm_sortByRank store.useTick store.dynamicIds).symm.append_left store.lodgedIds)
  have horder : sortByRank store.useTick store.dynamicIds = ids ++ rest := h.symm
  rw [horder] at hperm
  have hnodup := hperm.nodup_iff.mp (nodup_generatedIds store)
  have hkept : (store.lodgedIds ++ rest).Nodup :=
    hnodup.sublist ((List.sublist_append_right ids rest).append_left store.lodgedIds)
  rw [List.perm_ext_iff_of_nodup (nodup_generatedIds _) hkept]
  intro id
  have hgone : id ∈ ids → id ∉ store.lodgedIds ++ rest := by
    intro hid hmem
    obtain ⟨-, hrest, hapart⟩ := List.nodup_append.mp hnodup
    rcases List.mem_append.mp hmem with hlodged | hmem
    · exact hapart id hlodged id (List.mem_append_left _ hid) rfl
    · exact (List.nodup_append.mp hrest).2.2 id hid id hmem rfl
  rw [mem_generatedIds, hot_evictAll]
  by_cases hid : id ∈ ids
  · simp [hid, hgone hid]
  · rw [if_neg hid, ← mem_generatedIds, hperm.mem_iff]
    simp [hid]

theorem generatedBytes_evictAll (hunpinned : store.UnpinnedGenerated)
    (h : ids ++ rest = store.evictionOrder) :
    (store.evictAll ids).generatedBytes = store.bytesOf (store.lodgedIds ++ rest) := by
  have hperm := generatedIds_evictAll_perm hunpinned h
  rw [generatedBytes, bytesOf_perm hperm, bytesOf_evictAll]
  intro id hid
  have hresident := mem_generatedIds.mp (hperm.mem_iff.mpr hid)
  intro hmem
  rw [hot_evictAll, if_pos hmem] at hresident
  obtain ⟨asset, hnone, -⟩ := hresident
  cases hnone

end Bytes

/-! ## What goes for its size -/

section Size

variable {store : AssetStore} {ids candidates : List String} {id : String}

theorem sizeVictims_eq_cut {size : String → Nat} {fixed : Nat} (hnodup : candidates.Nodup)
    (hresident : ∀ id ∈ candidates, ∃ asset, store.hot[id]? = some asset ∧
      store.estimateAssetBytes asset = size id) :
    sizeVictims (fixed + (candidates.map size).sum) candidates store =
      cut size store.hotConfig.maxDynamicBytes fixed candidates := by
  induction candidates generalizing store with
  | nil => rfl
  | cons victim candidates ih =>
    cases candidates with
    | nil => rfl
    | cons next candidates =>
      obtain ⟨hvictim, hrest⟩ := List.nodup_cons.mp hnodup
      obtain ⟨asset, hfound, hsize⟩ := hresident victim List.mem_cons_self
      rw [sizeVictims, cut]
      split
      · rw [hfound]
        dsimp only
        have hleft : fixed + ((victim :: next :: candidates).map size).sum -
            store.estimateAssetBytes asset = fixed + ((next :: candidates).map size).sum := by
          rw [hsize, List.map_cons, List.sum_cons]
          omega
        rw [hleft, ih hrest]
        · rfl
        · intro id hid
          obtain ⟨other, hother, hbytes⟩ := hresident id (List.mem_cons_of_mem _ hid)
          refine ⟨other, ?_, hbytes⟩
          rw [evict, ExtTreeMap.getElem?_erase, if_neg]
          · exact hother
          · intro hcmp
            exact hvictim (Std.LawfulEqCmp.eq_of_compare hcmp ▸ hid)
      · rfl

theorem countEvicted_append_kept (store : AssetStore) :
    store.countEvicted ++ store.kept = store.evictionOrder := by
  rw [countEvicted_eq, kept, List.take_append_drop]

/-- **What goes for its size** is the beginning of what the bound on their number leaves, as long
as the pinned bytes and the rest are over the budget. -/
theorem sizeEvicted_eq (store : AssetStore) : store.sizeEvicted =
    cut store.bytes store.hotConfig.maxDynamicBytes store.pinnedBytes store.kept := by
  have horder := store.countEvicted_append_kept
  have hnodup : (store.countEvicted ++ store.kept).Nodup := horder ▸ store.nodup_evictionOrder
  obtain ⟨-, hkept, hapart⟩ := List.nodup_append.mp hnodup
  have hsubset : store.countEvicted ⊆ store.dynamicIds := by
    intro id hid
    rw [← mem_evictionOrder, ← horder]
    exact List.mem_append_left _ hid
  have hbytes : (store.evictAll store.countEvicted).residentBytes =
      store.pinnedBytes + (store.kept.map store.bytes).sum := by
    rw [residentBytes_eq, pinnedBytes_evictAll hsubset, dynamicBytes_evictAll horder]
    rfl
  have hconfig := (store.evictAll_frame store.countEvicted).2.1
  have hcounted : (store.evictAll store.countEvicted).evictionOrder = store.kept :=
    store.evictionOrder_counted
  rw [sizeEvicted, hbytes, hconfig, hcounted]
  split
  case isTrue hfits =>
    rw [Bool.or_eq_true, decide_eq_true_eq, List.isEmpty_iff_length_eq_zero,
      (perm_dynamicIds_evictAll horder).length_eq, List.length_eq_zero_iff] at hfits
    rcases hfits with hfits | hempty
    · exact (cut_eq_nil hfits).symm
    · rw [hempty]
      rfl
  case isFalse =>
    rw [sizeVictims_eq_cut hkept, hconfig]
    intro id hid
    have hdynamic : id ∈ store.dynamicIds := by
      rw [← mem_evictionOrder, ← horder]
      exact List.mem_append_right _ hid
    obtain ⟨asset, hfound⟩ := mem_hot_iff.mp (mem_dynamicIds.mp hdynamic).1
    refine ⟨asset, ?_, ?_⟩
    · rw [hot_evictAll, if_neg fun hmem ↦ hapart id hmem id hid rfl, hfound]
    · rw [estimateAssetBytes_evictAll, bytes, hfound]
      rfl

/-- Whatever goes for its size goes while the generated assets are over the budget. -/
def EvictsOver (store : AssetStore) : Prop :=
  ∀ earlier victim later, store.sizeEvicted = earlier ++ victim :: later →
    store.hotConfig.maxDynamicBytes <
      (store.evictAll (store.countEvicted ++ earlier)).generatedBytes

/-- Where two or more dynamic assets used last, of those that the bound on their number leaves, are
over the budget with all pinned assets, they are so with the lodged ones. -/
def Untipped (store : AssetStore) : Prop :=
  ∀ recent, recent <:+ store.kept → 2 ≤ recent.length →
    store.hotConfig.maxDynamicBytes < store.pinnedBytes + store.bytesOf recent →
      store.hotConfig.maxDynamicBytes < store.bytesOf (store.lodgedIds ++ recent)

/-- The lodged assets and the dynamic one used last: what no eviction takes, unless the bound on
their number leaves none. -/
def held (store : AssetStore) : List String :=
  store.lodgedIds ++ store.kept.drop (store.kept.length - 1)

/-- What no eviction takes is in the budget, or one asset. -/
def Housed (store : AssetStore) : Prop :=
  store.bytesOf store.held ≤ store.hotConfig.maxDynamicBytes ∨ store.held.length ≤ 1

theorem evictsOver_iff_untipped (hunpinned : store.UnpinnedGenerated) :
    store.EvictsOver ↔ store.Untipped := by
  have horder := store.countEvicted_append_kept
  have hleft : ∀ earlier recent, store.kept = earlier ++ recent →
      (store.evictAll (store.countEvicted ++ earlier)).generatedBytes =
        store.bytesOf (store.lodgedIds ++ recent) := by
    intro earlier recent hkept
    apply generatedBytes_evictAll hunpinned
    rw [List.append_assoc, ← hkept, horder]
  constructor
  · rintro hevicts recent ⟨earlier, hkept⟩ hlength htipped
    cases recent with
    | nil => cases hlength
    | cons victim behind =>
      have hbehind : behind ≠ [] := by
        rintro rfl
        rw [List.length_singleton] at hlength
        omega
      obtain ⟨later, hcut⟩ := (exists_cut_eq_iff hkept.symm).mpr ⟨hbehind, htipped⟩
      rw [← hleft earlier _ hkept.symm]
      exact hevicts earlier victim later (store.sizeEvicted_eq.trans hcut)
  · intro huntipped earlier victim later hevicted
    rw [sizeEvicted_eq] at hevicted
    obtain ⟨rest, hrest, -⟩ := exists_cut_append store.bytes store.hotConfig.maxDynamicBytes
      store.pinnedBytes store.kept
    rw [hevicted, List.append_assoc, List.cons_append] at hrest
    obtain ⟨hbehind, hover⟩ := (exists_cut_eq_iff hrest.symm).mp ⟨later, hevicted⟩
    rw [hleft earlier _ hrest.symm]
    refine huntipped _ ⟨earlier, hrest⟩ ?_ hover
    have hpos := List.length_pos_iff.mpr hbehind
    rw [List.length_cons]
    omega

/-- What is left when the loop ends: in the budget with all pinned assets, or the last one. -/
theorem exists_left (store : AssetStore) : ∃ rest,
    (store.countEvicted ++ store.sizeEvicted) ++ rest = store.evictionOrder ∧
      store.kept.drop (store.kept.length - 1) <:+ rest ∧
      (store.pinnedBytes + store.bytesOf rest ≤ store.hotConfig.maxDynamicBytes ∨
        rest = store.kept.drop (store.kept.length - 1)) := by
  obtain ⟨rest, hrest, hfits⟩ := exists_cut_append store.bytes store.hotConfig.maxDynamicBytes
    store.pinnedBytes store.kept
  have horder : (store.countEvicted ++ store.sizeEvicted) ++ rest = store.evictionOrder := by
    rw [sizeEvicted_eq, List.append_assoc, hrest, countEvicted_append_kept]
  -- the last of the list is not cut
  have hlast : store.kept ≠ [] → rest ≠ [] := by
    rintro hne rfl
    rw [List.append_nil] at hrest
    have hsplit := (List.dropLast_append_getLast hne).symm
    exact ((exists_cut_eq_iff hsplit).mp ⟨[], hrest.trans hsplit⟩).1 rfl
  have hlength : rest.length = store.kept.length -
      (cut store.bytes store.hotConfig.maxDynamicBytes store.pinnedBytes store.kept).length := by
    have hlength := congrArg List.length hrest
    rw [List.length_append] at hlength
    omega
  have hpos : 0 < store.kept.length → 0 < rest.length := fun h ↦
    List.length_pos_iff.mpr (hlast (List.length_pos_iff.mp h))
  have hsuffix : store.kept.drop (store.kept.length - 1) <:+ rest := by
    refine List.suffix_of_suffix_length_le (List.drop_suffix _ _) ⟨_, hrest⟩ ?_
    rw [List.length_drop]
    omega
  refine ⟨rest, horder, hsuffix, hfits.imp_right fun hone ↦ (hsuffix.eq_of_length ?_).symm⟩
  rw [List.length_drop]
  omega

/-- After an eviction the generated assets are in the budget, or there is one, exactly if what no
eviction takes is. -/
theorem fits_iff_housed (hunpinned : store.UnpinnedGenerated) :
    (store.evictDynamicToCapacity.generatedBytes ≤ store.hotConfig.maxDynamicBytes ∨
      store.evictDynamicToCapacity.generatedIds.length = 1) ↔ store.Housed := by
  obtain ⟨rest, horder, hsuffix, hleft⟩ := store.exists_left
  rw [evictDynamicToCapacity_eq, generatedBytes_evictAll hunpinned horder,
    (generatedIds_evictAll_perm hunpinned horder).length_eq, Housed, held]
  obtain ⟨earlier, rfl⟩ := hsuffix
  have hlodged := store.bytesOf_lodgedIds_le
  generalize store.kept.drop (store.kept.length - 1) = last at hleft ⊢
  rw [bytesOf_append, bytesOf_append, bytesOf_append, List.length_append, List.length_append,
    List.length_append]
  rw [bytesOf_append] at hleft
  constructor
  · rintro (hfits | hone)
    · left
      omega
    · right
      omega
  · intro hhoused
    rcases hleft with hfits | hrest
    · left
      omega
    · have hempty : earlier = [] := by simpa using hrest
      subst hempty
      rcases hhoused with hfits | hfew
      · left
        change _ + (0 + _) ≤ _
        omega
      · by_cases hone : store.lodgedIds.length + last.length = 1
        · exact .inr (by simpa using hone)
        · have hnone : store.lodgedIds = [] ∧ last = [] := by
            rw [← List.length_eq_zero_iff, ← List.length_eq_zero_iff]
            omega
          rw [hnone.1, hnone.2]
          exact .inl (Nat.zero_le _)

end Size

/-! ## Runs -/

/-- The budget of bytes in a step: what goes for its size goes while the generated assets are over
the budget, and after an insertion they are in it, or there is one. -/
structure ByteBudget (e : StoreEvent) : Prop where
  evicts : ∀ store, e.pre.evictedFrom? e.input = some store → store.EvictsOver
  fits : ∀ asset, e.pre.inserted? e.input = some asset →
    e.post.generatedBytes ≤ e.post.hotConfig.maxDynamicBytes ∨ e.post.generatedIds.length = 1

/-- Static assets do not tip the generated ones over the budget, and what an insertion cannot evict
is in it, or one asset. -/
structure StaysHoused (e : StoreEvent) : Prop where
  untipped : ∀ store, e.pre.evictedFrom? e.input = some store → store.Untipped
  housed : ∀ store, (e.pre.inserted? e.input).isSome = true →
    e.pre.evictedFrom? e.input = some store → store.Housed

theorem evictedFrom?_unpinned {store placed : AssetStore} {op : Op}
    (h : store.UnpinnedGenerated) (hfrom : store.evictedFrom? op = some placed) :
    placed.UnpinnedGenerated := by
  cases hop : store.inserted? op with
  | some asset => exact (placed_of_inserted hop hfrom).1.unpinnedGenerated h
  | none =>
    cases op with
    | setHotCacheConfig config =>
      cases hfrom
      exact h
    | insertHot asset =>
      have hnone : store.accepted? asset = none := hop
      rw [evictedFrom?, hnone] at hfrom
      cases hfrom
    | resolve disk id =>
      rw [evictedFrom?, hop] at hfrom
      cases hfrom
    | hotGet | noteHotUse | persist | invalidate | indexLocal => cases hfrom

theorem UnpinnedGenerated.byteBudget_iff {store : AssetStore} (h : store.UnpinnedGenerated)
    (op : Op) : ByteBudget (machine.event store op) ↔ StaysHoused (machine.event store op) := by
  have hevicts : ∀ placed, store.evictedFrom? op = some placed →
      (placed.EvictsOver ↔ placed.Untipped) :=
    fun placed hfrom ↦ evictsOver_iff_untipped (evictedFrom?_unpinned h hfrom)
  have hfits : ∀ asset placed, store.inserted? op = some asset →
      store.evictedFrom? op = some placed →
        (((store.perform op).1.generatedBytes ≤ (store.perform op).1.hotConfig.maxDynamicBytes ∨
          (store.perform op).1.generatedIds.length = 1) ↔ placed.Housed) := by
    intro asset placed hop hfrom
    obtain ⟨hplaced, hpost⟩ := placed_of_inserted hop hfrom
    rw [hpost, (evictDynamicToCapacity_evicted placed).hotConfig]
    exact fits_iff_housed (hplaced.unpinnedGenerated h)
  constructor
  · intro hbudget
    refine ⟨fun placed hfrom ↦ (hevicts placed hfrom).mp (hbudget.evicts placed hfrom), ?_⟩
    intro placed hinserted hfrom
    obtain ⟨asset, hop⟩ := Option.isSome_iff_exists.mp hinserted
    exact (hfits asset placed hop hfrom).mp (hbudget.fits asset hop)
  · intro hhoused
    refine ⟨fun placed hfrom ↦ (hevicts placed hfrom).mpr (hhoused.untipped placed hfrom), ?_⟩
    intro asset hop
    obtain ⟨placed, hfrom⟩ := evictedFrom?_of_inserted hop
    exact (hfits asset placed hop hfrom).mpr
      (hhoused.housed placed (Option.isSome_iff_exists.mpr ⟨asset, hop⟩) hfrom)

/-- **The budget of bytes.**  In a run, generated assets go for their size only while they are over
the budget, and every insertion leaves them in it, or one of them, exactly when static assets never
tip some of them over it, and what an insertion cannot evict is in the budget, or one asset. -/
theorem byteBudget_iff_housed (root : String) (runtime : RuntimeCompatibility)
    (estimateAssetBytes : PerformanceAsset → Nat) (ops : List Op) :
    machine.Meets (fun (_ : Unit) _ ↦ ()) (fun _ ↦ ByteBudget)
        (new root runtime estimateAssetBytes) () ops ↔
      machine.Meets (fun (_ : Unit) _ ↦ ()) (fun _ ↦ StaysHoused)
        (new root runtime estimateAssetBytes) () ops :=
  machine.meets_congr_of_watch (u := fun (_ : Unit) _ ↦ ())
    (P := fun store _ ↦ store.UnpinnedGenerated) (fun _ _ op h _ ↦ h.perform op)
    (fun _ _ op h ↦ h.byteBudget_iff op)
    (new_unpinnedGenerated root runtime estimateAssetBytes) ops

/-- The serialized sizes of a small static asset and of small generated ones. -/
def fillerBytes (asset : PerformanceAsset) : Nat := if asset.isGenerated then 640 else 385

/-- Two generated assets of 640 bytes each are in a budget of 1300 bytes; one goes because a
static asset of 385 bytes is resident. -/
theorem pinned_bytes_evict :
    ¬ machine.Meets (fun (_ : Unit) _ ↦ ()) (fun _ ↦ ByteBudget)
      (new "assets" ⟨"1", none, none, none, none⟩ fillerBytes) ()
      [.setHotCacheConfig { HotCacheConfig.default with maxDynamicBytes := 1300 },
        .insertHot (fillerAsset "filler.pin" none),
        .insertHot (fillerAsset "filler.one" generatedProvenance),
        .insertHot (fillerAsset "filler.two" generatedProvenance)] := by
  intro h
  have hheld : ((machine.run (new "assets" ⟨"1", none, none, none, none⟩ fillerBytes)
      [.setHotCacheConfig { HotCacheConfig.default with maxDynamicBytes := 1300 },
        .insertHot (fillerAsset "filler.pin" none),
        .insertHot (fillerAsset "filler.one" generatedProvenance)]).evictedFrom?
      (.insertHot (fillerAsset "filler.two" generatedProvenance))).any (fun held ↦
        held.sizeEvicted = ["filler.one"] &&
          (held.evictAll held.countEvicted).generatedBytes ≤ held.hotConfig.maxDynamicBytes) = true := by
    decide +kernel
  obtain ⟨held, hfrom, hgoes⟩ := (Option.any_eq_true _ _).mp hheld
  rw [Bool.and_eq_true, decide_eq_true_eq, decide_eq_true_eq] at hgoes
  have hover := h.2.2.2.1.evicts held hfrom [] "filler.one" [] hgoes.1
  rw [List.append_nil] at hover
  exact Nat.not_lt.mpr hgoes.2 hover

end AssetStore

end Aivtuber
