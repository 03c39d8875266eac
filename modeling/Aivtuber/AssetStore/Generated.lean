import Aivtuber.AssetStore.Lru

/-!
# Generated assets

The bounds of the hot tier are for generated assets, but what is protected is an id: whatever is
resident under an id under which a static asset was inserted once is never evicted.  So an insertion
evicts the least recently used generated assets exactly where there is room for all of them, or none
of them has such an id (`GeneratedLru`), as long as the clock and the counter last.
-/

open Saturating
open Std (ExtTreeMap ExtTreeSet)
open Recency

namespace Aivtuber

namespace AssetStore

/-! ## The first of a list by rank -/

section LeastRecent

variable {rank : String → Nat} {ids ids' : List String} {bound : Nat} {id : String}

/-- The ids with enough others of greater rank. -/
def leastRecent (rank : String → Nat) (bound : Nat) (ids : List String) : List String :=
  ids.filter fun id ↦ bound ≤ (ids.filter fun other ↦ rankKey rank id < rankKey rank other).length

theorem mem_leastRecent : id ∈ leastRecent rank bound ids ↔
    id ∈ ids ∧ bound ≤ (ids.filter fun other ↦ rankKey rank id < rankKey rank other).length := by
  rw [leastRecent, List.mem_filter, decide_eq_true_eq]

theorem leastRecent_perm (h : ids.Perm ids') :
    (leastRecent rank bound ids).Perm (leastRecent rank bound ids') := by
  have hlater : ∀ id, (ids.filter fun other ↦ rankKey rank id < rankKey rank other).length =
      (ids'.filter fun other ↦ rankKey rank id < rankKey rank other).length :=
    fun id ↦ (h.filter _).length_eq
  rw [leastRecent, leastRecent]
  simp only [hlater]
  exact h.filter _

/-- They are the first of the sorted list. -/
theorem take_sortByRank_perm (h : ids.Nodup) :
    ((sortByRank rank ids).take (ids.length - bound)).Perm (leastRecent rank bound ids) := by
  have hperm := perm_sortByRank rank ids
  have hnodup : (sortByRank rank ids).Nodup := hperm.nodup_iff.mpr h
  have hrecent : (leastRecent rank bound ids).Nodup := h.filter _
  rw [List.perm_ext_iff_of_nodup (hnodup.sublist (List.take_sublist _ _)) hrecent]
  intro id
  rw [← hperm.length_eq, mem_take_sub_iff (pairwise_sortByRank h), hperm.mem_iff,
    (hperm.filter _).length_eq]
  exact mem_leastRecent.symm

theorem length_leastRecent (h : ids.Nodup) :
    (leastRecent rank bound ids).length = ids.length - bound := by
  rw [← (take_sortByRank_perm h).length_eq, List.length_take,
    (perm_sortByRank rank ids).length_eq]
  omega

theorem leastRecent_congr {rank' : String → Nat} (h : ∀ id ∈ ids, rank id = rank' id) :
    leastRecent rank bound ids = leastRecent rank' bound ids := by
  refine List.filter_congr fun id hid ↦ ?_
  have hlater : (ids.filter fun other ↦ decide (rankKey rank id < rankKey rank other)) =
      ids.filter fun other ↦ decide (rankKey rank' id < rankKey rank' other) := by
    refine List.filter_congr fun other hother ↦ ?_
    rw [rankKey, rankKey, rankKey, rankKey, h id hid, h other hother]
  rw [hlater]

end LeastRecent

/-! ## What is not pinned -/

/-- What is resident under an id that is not pinned was generated. -/
def UnpinnedGenerated (store : AssetStore) : Prop :=
  ∀ id asset, store.hot[id]? = some asset → id ∉ store.pinnedIds → asset.isGenerated = true

section Unpinned

variable {store store' : AssetStore} {asset : PerformanceAsset} {id : String}

theorem mem_generatedIds : id ∈ store.generatedIds ↔
    ∃ asset, store.hot[id]? = some asset ∧ asset.isGenerated = true := by
  rw [generatedIds, List.mem_filter, ExtTreeMap.mem_keys, mem_hot_iff, Option.any_eq_true]
  constructor
  · exact fun h ↦ h.2
  · rintro ⟨asset, hfound, hgenerated⟩
    exact ⟨⟨asset, hfound⟩, asset, hfound, hgenerated⟩

theorem nodup_generatedIds (store : AssetStore) : store.generatedIds.Nodup :=
  ExtTreeMap.nodup_keys.filter _

theorem UnpinnedGenerated.dynamicIds_subset (h : store.UnpinnedGenerated) :
    store.dynamicIds ⊆ store.generatedIds := by
  intro id hid
  obtain ⟨hresident, hunpinned⟩ := mem_dynamicIds.mp hid
  obtain ⟨asset, hfound⟩ := mem_hot_iff.mp hresident
  exact mem_generatedIds.mpr ⟨asset, hfound, h id asset hfound hunpinned⟩

theorem new_unpinnedGenerated (root : String) (runtime : RuntimeCompatibility)
    (estimateAssetBytes : PerformanceAsset → Nat) :
    (new root runtime estimateAssetBytes).UnpinnedGenerated := by
  intro id asset hfound
  rw [new, ExtTreeMap.getElem?_empty] at hfound
  cases hfound

theorem UnpinnedGenerated.of_dropped (h : store.UnpinnedGenerated) (hdropped : store.Dropped store') :
    store'.UnpinnedGenerated := by
  intro id asset hfound hunpinned
  rw [hdropped.pinnedIds] at hunpinned
  exact h id asset (hdropped.hot hfound) hunpinned

/-- An insertion pins what was not generated. -/
theorem UnpinnedGenerated.of_inserted (h : store.UnpinnedGenerated)
    (hpinned : store'.pinnedIds =
      if asset.isGenerated then store.pinnedIds else store.pinnedIds.insert asset.id)
    (hhot : ∀ {id other}, store'.hot[id]? = some other →
      id = asset.id ∧ other = asset ∨ id ≠ asset.id ∧ store.hot[id]? = some other) :
    store'.UnpinnedGenerated := by
  intro id other hfound hunpinned
  rw [hpinned] at hunpinned
  rcases hhot hfound with ⟨rfl, rfl⟩ | ⟨-, hfound⟩
  · by_contra hstatic
    rw [if_neg hstatic] at hunpinned
    exact hunpinned ExtTreeSet.mem_insert_self
  · refine h id other hfound fun hmem ↦ hunpinned ?_
    split
    · exact hmem
    · exact ExtTreeSet.mem_insert.mpr (.inr hmem)

theorem UnpinnedGenerated.perform (h : store.UnpinnedGenerated) (op : Op) :
    (store.perform op).1.UnpinnedGenerated := by
  cases hop : store.inserted? op with
  | none => exact h.of_dropped (perform_dropped hop).1
  | some asset =>
    have hinserted := (perform_inserted hop).1
    exact h.of_inserted hinserted.pinnedIds hinserted.hot

/-- The store in which the victims of an insertion are looked for. -/
structure Placed (store placed : AssetStore) (asset : PerformanceAsset) : Prop where
  timed : ∀ {uses}, store.Timed uses → placed.Timed (asset.id :: uses)
  hot : placed.hot = store.hot.insert asset.id asset
  pinnedIds : placed.pinnedIds =
    if asset.isGenerated then store.pinnedIds else store.pinnedIds.insert asset.id
  hotConfig : placed.hotConfig = store.hotConfig
  hotEvictions : placed.hotEvictions = store.hotEvictions
  estimate : placed.estimateAssetBytes = store.estimateAssetBytes

/-- What is resolved from the local index was not resident. -/
theorem hot_of_resolve {disk : Disk} (h : store.inserted? (.resolve disk id) = some asset) :
    store.hot[id]? = none := by
  rw [inserted?] at h
  cases hresident : store.hot[id]? with
  | none => rfl
  | some resident =>
    rw [hresident] at h
    cases h

theorem hits_of_resolve {disk : Disk} (h : store.inserted? (.resolve disk id) = some asset) :
    store.hits id = [] := by
  rw [hits, hot_of_resolve h]
  rfl

theorem placed_of_inserted {op : Op} {placed : AssetStore}
    (hinserted : store.inserted? op = some asset) (hplaced : store.evictedFrom? op = some placed) :
    store.Placed placed asset ∧ (store.perform op).1 = placed.evictDynamicToCapacity := by
  cases op with
  | insertHot other =>
    have haccepted : store.accepted? other = some asset := hinserted
    rw [evictedFrom?, haccepted, Option.map_some, Option.some_inj] at hplaced
    subst hplaced
    rw [perform_insertHot, haccepted]
    exact ⟨⟨fun h ↦ h.placed asset, rfl, rfl, rfl, rfl, rfl⟩, rfl⟩
  | resolve disk id =>
    rw [evictedFrom?, hinserted, Option.map_some, Option.some_inj] at hplaced
    subst hplaced
    have hmissed := hot_of_resolve hinserted
    rw [perform_resolve, hinserted]
    refine ⟨⟨fun {uses} h ↦ ?_, ?_, ?_, ?_, ?_, ?_⟩, rfl⟩
    · have hget := h.hotGet id
      rw [hits_of_resolve hinserted, List.nil_append] at hget
      exact hget.placed asset
    · exact congrArg (·.insert asset.id asset) (store.hotGet_hot id)
    · rw [AssetStore.placed]
      dsimp only
      rw [(store.hotGet_evicted id).pinnedIds]
    · exact (store.hotGet_evicted id).hotConfig
    · show (store.hotGet id).1.hotEvictions = _
      rw [AssetStore.hotGet, hmissed]
    · show (store.hotGet id).1.estimateAssetBytes = _
      rw [AssetStore.hotGet, hmissed]
  | hotGet | noteHotUse | persist | invalidate | indexLocal | setHotCacheConfig => cases hinserted

theorem evictedFrom?_of_inserted {op : Op} (hinserted : store.inserted? op = some asset) :
    ∃ placed, store.evictedFrom? op = some placed := by
  cases op with
  | insertHot other =>
    have haccepted : store.accepted? other = some asset := hinserted
    rw [evictedFrom?, haccepted]
    exact ⟨_, rfl⟩
  | resolve disk id =>
    rw [evictedFrom?, hinserted]
    exact ⟨_, rfl⟩
  | hotGet | noteHotUse | persist | invalidate | indexLocal | setHotCacheConfig => cases hinserted

theorem Placed.unpinnedGenerated {placed : AssetStore} (h : store.Placed placed asset)
    (hstore : store.UnpinnedGenerated) : placed.UnpinnedGenerated := by
  refine hstore.of_inserted h.pinnedIds fun {id other} hfound ↦ ?_
  rw [h.hot, ExtTreeMap.getElem?_insert] at hfound
  split at hfound
  case isTrue hcmp =>
    exact .inl ⟨(Std.LawfulEqCmp.eq_of_compare hcmp).symm, (Option.some.inj hfound).symm⟩
  case isFalse hcmp =>
    refine .inr ⟨fun heq ↦ hcmp ?_, hfound⟩
    rw [heq, Std.LawfulEqCmp.compare_eq_iff_eq]

end Unpinned

/-! ## Insertions of generated assets -/

/-- The place of the last use of an id among the uses. -/
def lastUsed (uses : List String) (id : String) : Nat := (lastUse id uses).getD 0

/-- The generated assets that are resident with a new one, before the eviction. -/
def generatedWith (store : AssetStore) (asset : PerformanceAsset) : List String :=
  asset.id :: store.generatedIds.filter (· ≠ asset.id)

/-- What an insertion of a generated asset should do, after the uses so far.  `placed` is the store
with the asset in it, before the eviction. -/
structure GeneratedInsertion (uses : List String) (e : StoreEvent) (asset : PerformanceAsset)
    (placed : AssetStore) : Prop where
  /-- The bound on their number takes the least recently used generated assets. -/
  count : placed.countEvicted.Perm (leastRecent (lastUsed (recordUse uses e))
    e.pre.hotConfig.maxDynamicAssets placed.generatedIds)
  /-- Only the victims go. -/
  resident : ∀ id, e.post.hot[id]? =
    if id ∈ placed.countEvicted ++ placed.sizeEvicted then none else placed.hot[id]?
  survives : 1 ≤ e.pre.hotConfig.maxDynamicAssets → e.post.hot[asset.id]? = some asset
  static : ∀ id other, e.pre.hot[id]? = some other → other.isGenerated = false → id ≠ asset.id →
    e.post.hot[id]? = some other
  counter : e.post.hotEvictions =
    e.pre.hotEvictions + (placed.countEvicted ++ placed.sizeEvicted).length

/-- The least recently used generated assets go. -/
def GeneratedLru (uses : List String) (e : StoreEvent) : Prop :=
  ∀ asset placed, e.pre.inserted? e.input = some asset → asset.isGenerated = true →
    e.pre.evictedFrom? e.input = some placed → GeneratedInsertion uses e asset placed

/-- There is room for all generated assets, or none of them is under an id that a static asset was
inserted under. -/
def NoneLodged (_ : List String) (e : StoreEvent) : Prop :=
  ∀ asset, e.pre.inserted? e.input = some asset → asset.isGenerated = true →
    (e.pre.generatedWith asset).length ≤ e.pre.hotConfig.maxDynamicAssets ∨
      ∀ id ∈ e.pre.generatedWith asset, id ∉ e.pre.pinnedIds

/-- Neither the clock nor the counter runs out. -/
def Lasting (uses : List String) (e : StoreEvent) : Prop :=
  ∀ asset, e.pre.inserted? e.input = some asset → asset.isGenerated = true →
    uses.length ≤ u64Max ∧ e.pre.hotEvictions + (e.pre.generatedWith asset).length ≤ u64Max

section Insertions

variable {store placed : AssetStore} {asset : PerformanceAsset} {uses : List String}

theorem Placed.generatedIds_perm (h : store.Placed placed asset)
    (hgenerated : asset.isGenerated = true) :
    placed.generatedIds.Perm (store.generatedWith asset) := by
  have hnodup : (store.generatedWith asset).Nodup := by
    refine List.nodup_cons.mpr ⟨fun hmem ↦ ?_, (nodup_generatedIds store).filter _⟩
    exact of_decide_eq_true (List.mem_filter.mp hmem).2 rfl
  rw [List.perm_ext_iff_of_nodup (nodup_generatedIds placed) hnodup]
  intro id
  rw [generatedWith, List.mem_cons, List.mem_filter, decide_eq_true_eq, mem_generatedIds,
    mem_generatedIds, h.hot]
  simp only [ExtTreeMap.getElem?_insert, Std.LawfulEqCmp.compare_eq_iff_eq]
  by_cases heq : asset.id = id
  · simp [heq, hgenerated]
  · simp [heq, Ne.symm heq]

/-- The uses of an insertion: one. -/
theorem recordUse_of_inserted {op : Op} (hinserted : store.inserted? op = some asset) :
    recordUse uses (machine.event store op) = asset.id :: uses := by
  show store.used op ++ uses = _
  cases op with
  | insertHot other =>
    have haccepted : store.accepted? other = some asset := hinserted
    rw [used, haccepted]
    rfl
  | resolve disk id =>
    rw [used, hinserted, hits_of_resolve hinserted]
    rfl
  | hotGet | noteHotUse | persist | invalidate | indexLocal | setHotCacheConfig => cases hinserted

/-- While the clock lasts it shows the last uses. -/
theorem stamp_eq_lastUsed (h : uses.length ≤ u64Max + 1) (id : String) :
    stamp uses id = lastUsed uses id := by
  rw [stamp, lastUsed]
  cases hlast : lastUse id uses with
  | none => rfl
  | some n =>
    have hlt := lastUse_lt_length hlast
    rw [Option.getD_some, min_eq_left (by omega)]

theorem countEvicted_perm (store : AssetStore) : store.countEvicted.Perm
    (leastRecent store.useTick store.hotConfig.maxDynamicAssets store.dynamicIds) := by
  rw [countEvicted_eq]
  exact take_sortByRank_perm store.nodup_dynamicIds

/-- What the count takes are the least recently used generated assets only where there is room, or
none of them is pinned. -/
theorem noneLodged_of_perm {rank : String → Nat} (hunpinned : placed.UnpinnedGenerated)
    (h : placed.countEvicted.Perm
      (leastRecent rank placed.hotConfig.maxDynamicAssets placed.generatedIds)) :
    placed.generatedIds.length ≤ placed.hotConfig.maxDynamicAssets ∨
      ∀ id ∈ placed.generatedIds, id ∉ placed.pinnedIds := by
  have hlength := h.length_eq
  rw [length_leastRecent (nodup_generatedIds placed), (countEvicted_perm placed).length_eq,
    length_leastRecent placed.nodup_dynamicIds] at hlength
  have hsub := placed.nodup_dynamicIds.subperm hunpinned.dynamicIds_subset
  by_cases hroom : placed.generatedIds.length ≤ placed.hotConfig.maxDynamicAssets
  · exact .inl hroom
  · have hperm := hsub.perm_of_length_le (by omega)
    exact .inr fun id hid ↦ (mem_dynamicIds.mp (hperm.mem_iff.mpr hid)).2

/-- And there it does. -/
theorem perm_of_noneLodged (hunpinned : placed.UnpinnedGenerated)
    (h : placed.generatedIds.length ≤ placed.hotConfig.maxDynamicAssets ∨
      ∀ id ∈ placed.generatedIds, id ∉ placed.pinnedIds) :
    placed.countEvicted.Perm (leastRecent placed.useTick placed.hotConfig.maxDynamicAssets
      placed.generatedIds) := by
  rcases h with hroom | hfree
  · have hsub := placed.nodup_dynamicIds.subperm hunpinned.dynamicIds_subset
    have hnone : (leastRecent placed.useTick placed.hotConfig.maxDynamicAssets
        placed.generatedIds).length = 0 := by
      rw [length_leastRecent (nodup_generatedIds placed)]
      omega
    have hcount : placed.countEvicted.length = 0 := by
      have hle := hsub.length_le
      rw [(countEvicted_perm placed).length_eq, length_leastRecent placed.nodup_dynamicIds]
      omega
    rw [List.length_eq_zero_iff.mp hnone, List.length_eq_zero_iff.mp hcount]
  · refine (countEvicted_perm placed).trans (leastRecent_perm ?_)
    rw [List.perm_ext_iff_of_nodup placed.nodup_dynamicIds (nodup_generatedIds placed)]
    refine fun id ↦ ⟨fun hid ↦ hunpinned.dynamicIds_subset hid, fun hid ↦ ?_⟩
    obtain ⟨asset, hfound, -⟩ := mem_generatedIds.mp hid
    exact mem_dynamicIds.mpr ⟨mem_hot_iff.mpr ⟨asset, hfound⟩, hfree id hid⟩

/-- What every run keeps: the times of the last uses, and that only generated assets are not
pinned. -/
structure Kept (store : AssetStore) (uses : List String) : Prop where
  timed : store.Timed uses
  unpinned : store.UnpinnedGenerated

theorem Kept.perform (h : store.Kept uses) (op : Op) :
    (store.perform op).1.Kept (store.used op ++ uses) :=
  ⟨h.timed.perform op, h.unpinned.perform op⟩

/-- What is evicted was not pinned. -/
theorem Placed.victim_free (h : store.Placed placed asset) (hgenerated : asset.isGenerated = true)
    {id : String} (hid : id ∈ placed.countEvicted ++ placed.sizeEvicted) :
    id ∉ store.pinnedIds := by
  have hfree := (mem_dynamicIds.mp (mem_evictionOrder.mp (placed.victims_sublist.subset hid))).2
  rwa [h.pinnedIds, if_pos hgenerated] at hfree

/-- There are no more victims than generated assets. -/
theorem Placed.length_victims_le (h : store.Placed placed asset)
    (hgenerated : asset.isGenerated = true) (hunpinned : placed.UnpinnedGenerated) :
    (placed.countEvicted ++ placed.sizeEvicted).length ≤ (store.generatedWith asset).length := by
  refine placed.victims_sublist.length_le.trans ?_
  rw [length_evictionOrder, ← (h.generatedIds_perm hgenerated).length_eq]
  exact (placed.nodup_dynamicIds.subperm hunpinned.dynamicIds_subset).length_le

/-- What the count takes, by the times of the last uses. -/
theorem Kept.countEvicted_perm_lastUsed (h : store.Kept uses) (hplaced : store.Placed placed asset)
    (hclock : uses.length ≤ u64Max)
    (hroom : placed.generatedIds.length ≤ placed.hotConfig.maxDynamicAssets ∨
      ∀ id ∈ placed.generatedIds, id ∉ placed.pinnedIds) :
    placed.countEvicted.Perm (leastRecent (lastUsed (asset.id :: uses))
      store.hotConfig.maxDynamicAssets placed.generatedIds) := by
  have hticks : ∀ id ∈ placed.generatedIds, placed.useTick id = lastUsed (asset.id :: uses) id := by
    intro id hid
    obtain ⟨other, hfound, -⟩ := mem_generatedIds.mp hid
    rw [((hplaced.timed h.timed).used id (mem_hot_iff.mpr ⟨other, hfound⟩)).2]
    refine stamp_eq_lastUsed ?_ id
    rw [List.length_cons]
    omega
  rw [← leastRecent_congr hticks, ← hplaced.hotConfig]
  exact perm_of_noneLodged (hplaced.unpinnedGenerated h.unpinned) hroom

theorem Kept.generatedLru (h : store.Kept uses) {op : Op}
    (hlodged : NoneLodged uses (machine.event store op))
    (hlasting : Lasting uses (machine.event store op)) :
    GeneratedLru uses (machine.event store op) := by
  intro asset placed hinserted hgenerated hfrom
  have hop : store.inserted? op = some asset := hinserted
  obtain ⟨hplaced, hpost⟩ := placed_of_inserted hop hfrom
  have hlasts : uses.length ≤ u64Max ∧
      store.hotEvictions + (store.generatedWith asset).length ≤ u64Max :=
    hlasting asset hinserted hgenerated
  obtain ⟨hclock, hcounter⟩ := hlasts
  have hpins : placed.pinnedIds = store.pinnedIds := by rw [hplaced.pinnedIds, if_pos hgenerated]
  have hperm := hplaced.generatedIds_perm hgenerated
  have hroom : placed.generatedIds.length ≤ placed.hotConfig.maxDynamicAssets ∨
      ∀ id ∈ placed.generatedIds, id ∉ placed.pinnedIds := by
    rw [hperm.length_eq, hplaced.hotConfig, hpins]
    refine (hlodged asset hinserted hgenerated).imp_right fun hfree id hid ↦ ?_
    exact hfree id (hperm.mem_iff.mp hid)
  have hvictims := hplaced.length_victims_le hgenerated (hplaced.unpinnedGenerated h.unpinned)
  have hresident : ∀ id, (machine.event store op).post.hot[id]? =
      if id ∈ placed.countEvicted ++ placed.sizeEvicted then none else placed.hot[id]? := by
    intro id
    rw [event_post, hpost, evictDynamicToCapacity_eq, hot_evictAll]
  have hpinned : ∀ id ∈ store.pinnedIds, id ∉ placed.countEvicted ++ placed.sizeEvicted :=
    fun id hid hvictim ↦ hplaced.victim_free hgenerated hvictim hid
  refine ⟨?_, hresident, fun hmax ↦ ?_, ?_, ?_⟩
  · rw [recordUse_of_inserted hop]
    exact h.countEvicted_perm_lastUsed hplaced hclock hroom
  · have hself : placed.hot[asset.id]? = some asset := by
      rw [hplaced.hot]
      exact ExtTreeMap.getElem?_insert_self
    have hmem : asset.id ∈ placed.hot := mem_hot_iff.mpr ⟨asset, hself⟩
    rw [hresident, if_neg, hself]
    by_cases hpin : asset.id ∈ store.pinnedIds
    · exact hpinned asset.id hpin
    · refine newest_notMem_victims (mem_dynamicIds.mpr ⟨hmem, hpins ▸ hpin⟩) ?_ ?_
      · exact (hplaced.timed h.timed).newest hmem hclock
      · exact hplaced.hotConfig ▸ hmax
  · intro id other hfound hstatic hne
    have hpin : id ∈ store.pinnedIds := by
      by_contra hfree
      rw [h.unpinned id other hfound hfree] at hstatic
      cases hstatic
    rw [hresident, if_neg (hpinned id hpin), hplaced.hot, ExtTreeMap.getElem?_insert, if_neg]
    · exact hfound
    · exact fun hcmp ↦ hne (Std.LawfulEqCmp.eq_of_compare hcmp).symm
  · rw [event_post, hpost, evictDynamicToCapacity_eq, hotEvictions_evictAll]
    · rw [hplaced.hotEvictions, satAdd, min_eq_left]
      · rfl
      · omega
    · rw [hplaced.hotEvictions]
      exact h.timed.evictions

/-- The least recently used generated assets go only where none of them is lodged under the id of
a static one, or all have room. -/
theorem Kept.noneLodged (h : store.Kept uses) {op : Op}
    (hlru : GeneratedLru uses (machine.event store op)) :
    NoneLodged uses (machine.event store op) := by
  intro asset hinserted hgenerated
  have hop : store.inserted? op = some asset := hinserted
  obtain ⟨placed, hfrom⟩ := evictedFrom?_of_inserted hop
  obtain ⟨hplaced, -⟩ := placed_of_inserted hop hfrom
  have hcount := (hlru asset placed hinserted hgenerated hfrom).count
  have hperm := hplaced.generatedIds_perm hgenerated
  have hconfig : placed.hotConfig = (machine.event store op).pre.hotConfig := hplaced.hotConfig
  rw [← hconfig] at hcount ⊢
  have hnone := noneLodged_of_perm (hplaced.unpinnedGenerated h.unpinned) hcount
  rw [hperm.length_eq, hplaced.pinnedIds, if_pos hgenerated] at hnone
  exact hnone.imp_right fun hfree id hid ↦ hfree id (hperm.mem_iff.mpr hid)

/-- **Least recently used generated assets.**  In a run in which no generated asset is lodged under
the id of a static one, unless there is room for all, and the clock and the counter last, every
insertion of a generated asset evicts for the bound on their number the least recently used
generated assets, and nothing else; the asset stays if one may, static assets stay, and the counter
shows how many went.  The first condition is met wherever this holds. -/
theorem insertions_generatedLru (root : String) (runtime : RuntimeCompatibility)
    (estimateAssetBytes : PerformanceAsset → Nat) (ops : List Op) :
    (machine.Meets recordUse (fun uses e ↦ NoneLodged uses e ∧ Lasting uses e)
        (new root runtime estimateAssetBytes) [] ops →
      machine.Meets recordUse GeneratedLru (new root runtime estimateAssetBytes) [] ops) ∧
    (machine.Meets recordUse GeneratedLru (new root runtime estimateAssetBytes) [] ops →
      machine.Meets recordUse NoneLodged (new root runtime estimateAssetBytes) [] ops) := by
  have hnew : (new root runtime estimateAssetBytes).Kept [] :=
    ⟨new_timed root runtime estimateAssetBytes, new_unpinnedGenerated root runtime estimateAssetBytes⟩
  constructor
  · exact machine.meets_of_invariant (u := recordUse) (P := Kept) (fun _ _ op h _ ↦ h.perform op)
      (fun _ _ op h hmet ↦ h.generatedLru hmet.1 hmet.2) hnew
  · exact machine.meets_of_invariant (u := recordUse) (P := Kept) (fun _ _ op h _ ↦ h.perform op)
      (fun _ _ op h hlru ↦ h.noneLodged hlru) hnew

/-- Four insertions and a use: a generated asset takes the place of a static one, another one is
used after it, and goes first. -/
def lodgedRun : List Op :=
  [.setHotCacheConfig { HotCacheConfig.default with maxDynamicAssets := 2 },
    .insertHot (fillerAsset "filler.one" none),
    .insertHot (fillerAsset "filler.two" generatedProvenance),
    .insertHot (fillerAsset "filler.one" generatedProvenance),
    .hotGet "filler.two",
    .insertHot (fillerAsset "filler.three" generatedProvenance)]

/-- A generated asset under the id of a static one is kept, though it was used least recently. -/
theorem lodged_outlives :
    ¬ machine.Meets recordUse GeneratedLru emptyStore []
      (lodgedRun ++ [.insertHot (fillerAsset "filler.four" generatedProvenance)]) := by
  intro h
  have hlast := (machine.meets_append.mp h).2.1
  have hheld : ((machine.run emptyStore lodgedRun).evictedFrom?
      (.insertHot (fillerAsset "filler.four" generatedProvenance))).any (fun held ↦
        held.countEvicted.length = 1 && held.generatedIds.length = 4) = true := by
    decide +kernel
  have haccepted : ((machine.run emptyStore lodgedRun).inserted?
      (.insertHot (fillerAsset "filler.four" generatedProvenance))).any (·.isGenerated) = true := by
    decide +kernel
  have hmax : (machine.run emptyStore lodgedRun).hotConfig.maxDynamicAssets = 2 := by
    decide +kernel
  obtain ⟨asset, hinserted, hgenerated⟩ := (Option.any_eq_true _ _).mp haccepted
  obtain ⟨held, hfrom, hgoes⟩ := (Option.any_eq_true _ _).mp hheld
  rw [Bool.and_eq_true, decide_eq_true_eq, decide_eq_true_eq] at hgoes
  have hcount := (hlast asset held hinserted hgenerated hfrom).count.length_eq
  rw [hgoes.1, length_leastRecent (nodup_generatedIds held), hgoes.2] at hcount
  have htwo : 1 = 4 - (machine.run emptyStore lodgedRun).hotConfig.maxDynamicAssets := hcount
  rw [hmax] at htwo
  cases htwo

end Insertions

end AssetStore

end Aivtuber
