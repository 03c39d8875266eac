import Aivtuber.AssetStore.Store

/-!
# Residency of generated assets

An eviction takes assets that are not pinned, and stops when no more than the configured
number of those is resident (`Evicted`, `length_dynamicIds_evictDynamicToCapacity`).  That
bounds the generated assets as long as none of them is pinned.  But ids are pinned, not
assets, and an id stays pinned: a generated asset that takes the id of a static one is
protected from then on.
-/

open Saturating
open Std (ExtTreeMap ExtTreeSet)

namespace Aivtuber

namespace AssetStore

section Eviction

variable {store store' store'' : AssetStore} {id : String}

/-- Resident assets may go. -/
structure Dropped (store store' : AssetStore) : Prop where
  pinnedIds : store'.pinnedIds = store.pinnedIds
  hot : ∀ {id : String} {asset : PerformanceAsset},
    store'.hot[id]? = some asset → store.hot[id]? = some asset

theorem Dropped.refl (store : AssetStore) : store.Dropped store := ⟨rfl, id⟩

theorem Dropped.trans (h : store.Dropped store') (h' : store'.Dropped store'') :
    store.Dropped store'' :=
  ⟨h'.pinnedIds.trans h.pinnedIds, fun hfound ↦ h.hot (h'.hot hfound)⟩

/-- What an eviction may do: resident assets that are not pinned go. -/
structure Evicted (store store' : AssetStore) : Prop extends Dropped store store' where
  hotConfig : store'.hotConfig = store.hotConfig
  pinned : ∀ {id : String}, id ∈ store.pinnedIds → store'.hot[id]? = store.hot[id]?

theorem Evicted.of_eq (hhot : store'.hot = store.hot) (hpinned : store'.pinnedIds = store.pinnedIds)
    (hconfig : store'.hotConfig = store.hotConfig) : store.Evicted store' where
  pinnedIds := hpinned
  hot hfound := hhot ▸ hfound
  hotConfig := hconfig
  pinned _ := by rw [hhot]

theorem Evicted.refl (store : AssetStore) : store.Evicted store := .of_eq rfl rfl rfl

theorem Evicted.trans (h : store.Evicted store') (h' : store'.Evicted store'') :
    store.Evicted store'' where
  toDropped := h.toDropped.trans h'.toDropped
  hotConfig := h'.hotConfig.trans h.hotConfig
  pinned hid := (h'.pinned (h.pinnedIds ▸ hid)).trans (h.pinned hid)

theorem mem_dynamicIds : id ∈ store.dynamicIds ↔ id ∈ store.hot ∧ id ∉ store.pinnedIds := by
  rw [dynamicIds, List.mem_filter, ExtTreeMap.mem_keys, Bool.not_eq_true', ← Bool.not_eq_true,
    ExtTreeSet.contains_iff_mem]

theorem nodup_dynamicIds (store : AssetStore) : store.dynamicIds.Nodup :=
  ExtTreeMap.nodup_keys.filter _

theorem mem_hot_iff : id ∈ store.hot ↔ ∃ asset, store.hot[id]? = some asset := by
  rw [← Option.isSome_iff_exists, ExtTreeMap.isSome_getElem?_iff_mem]

theorem Dropped.dynamicIds_subset (h : store.Dropped store') :
    store'.dynamicIds ⊆ store.dynamicIds := by
  intro id hid
  rw [mem_dynamicIds, h.pinnedIds, mem_hot_iff] at hid
  obtain ⟨⟨asset, hfound⟩, hunpinned⟩ := hid
  exact mem_dynamicIds.mpr ⟨mem_hot_iff.mpr ⟨asset, h.hot hfound⟩, hunpinned⟩

theorem Dropped.length_dynamicIds_le (h : store.Dropped store') :
    store'.dynamicIds.length ≤ store.dynamicIds.length :=
  (store'.nodup_dynamicIds.subperm h.dynamicIds_subset).length_le

theorem evict_evicted (hid : id ∉ store.pinnedIds) : store.Evicted (store.evict id) where
  pinnedIds := rfl
  hotConfig := rfl
  hot hfound := by
    rw [evict, ExtTreeMap.getElem?_erase] at hfound
    split at hfound
    · cases hfound
    · exact hfound
  pinned hpinned := by
    rw [evict, ExtTreeMap.getElem?_erase, if_neg]
    intro hcmp
    exact hid (Std.LawfulEqCmp.eq_of_compare hcmp ▸ hpinned)

/-- An eviction of a resident asset makes room for one. -/
theorem length_dynamicIds_evict (hid : id ∈ store.dynamicIds) :
    (store.evict id).dynamicIds.length < store.dynamicIds.length := by
  have hsubset : (store.evict id).dynamicIds ⊆ store.dynamicIds.erase id := by
    intro other hother
    have hmem := (evict_evicted (mem_dynamicIds.mp hid).2).dynamicIds_subset hother
    refine (List.mem_erase_of_ne ?_).mpr hmem
    rintro rfl
    have hgone := (mem_dynamicIds.mp hother).1
    rw [evict, ExtTreeMap.mem_erase] at hgone
    exact hgone.1 Std.ReflCmp.compare_self
  have hlength := ((store.evict id).nodup_dynamicIds.subperm hsubset).length_le
  rw [List.length_erase_of_mem hid] at hlength
  have hpos := List.length_pos_of_mem hid
  omega

theorem evictBytes_evicted {candidates : List String} {estimated : Nat}
    (hcandidates : ∀ id ∈ candidates, id ∉ store.pinnedIds) :
    store.Evicted (evictBytes estimated candidates store) := by
  induction candidates generalizing estimated store with
  | nil => exact .refl store
  | cons victim candidates ih =>
    cases candidates with
    | nil => exact .refl store
    | cons next candidates =>
      rw [evictBytes]
      split
      · split
        case h_1 asset hfound =>
          have hevict := evict_evicted (hcandidates victim List.mem_cons_self)
          exact hevict.trans (ih fun id hid ↦ hcandidates id (List.mem_cons_of_mem _ hid))
        case h_2 => exact ih fun id hid ↦ hcandidates id (List.mem_cons_of_mem _ hid)
      · exact .refl store

theorem perm_sortByRank (rank : String → Nat) (ids : List String) :
    (sortByRank rank ids).Perm ids := List.perm_insertionSort _ _

theorem evictRounds_evicted (rounds : Nat) (store : AssetStore) :
    store.Evicted (evictRounds rounds store) := by
  induction rounds generalizing store with
  | zero => exact .refl store
  | succ rounds ih =>
    have hcandidates : ∀ id ∈ sortByRank store.useTick store.dynamicIds,
        id ∉ store.pinnedIds := fun id hid ↦
      (mem_dynamicIds.mp ((perm_sortByRank _ _).subset hid)).2
    rw [evictRounds]
    split
    · split
      · exact .refl store
      · exact evictBytes_evicted hcandidates
    · split
      case h_1 victim candidates hsorted =>
        refine (evict_evicted (hcandidates victim ?_)).trans (ih _)
        rw [hsorted]
        exact List.mem_cons_self
      case h_2 => exact .refl store

/-- Enough rounds leave no more assets than configured. -/
theorem length_dynamicIds_evictRounds {rounds : Nat}
    (h : store.dynamicIds.length < rounds + store.hotConfig.maxDynamicAssets) :
    (evictRounds rounds store).dynamicIds.length ≤ store.hotConfig.maxDynamicAssets := by
  induction rounds generalizing store with
  | zero =>
    rw [Nat.zero_add] at h
    exact Nat.le_of_lt h
  | succ rounds ih =>
    rw [evictRounds]
    split
    case isTrue hfits =>
      split
      · exact hfits
      · refine Nat.le_trans (evictBytes_evicted ?_).length_dynamicIds_le hfits
        exact fun id hid ↦ (mem_dynamicIds.mp ((perm_sortByRank _ _).subset hid)).2
    case isFalse hfull =>
      have hperm := perm_sortByRank store.useTick store.dynamicIds
      split
      case h_1 victim candidates hsorted =>
        rw [hsorted] at hperm
        have hless := length_dynamicIds_evict (hperm.subset List.mem_cons_self)
        have hroom : (store.evict victim).dynamicIds.length <
            rounds + (store.evict victim).hotConfig.maxDynamicAssets := by
          show _ < rounds + store.hotConfig.maxDynamicAssets
          omega
        exact ih hroom
      case h_2 hsorted =>
        rw [hsorted] at hperm
        rw [← hperm.length_eq] at hfull
        exact absurd (Nat.zero_le _) hfull

theorem evictDynamicToCapacity_evicted (store : AssetStore) :
    store.Evicted store.evictDynamicToCapacity := evictRounds_evicted _ store

theorem length_dynamicIds_evictDynamicToCapacity (store : AssetStore) :
    store.evictDynamicToCapacity.dynamicIds.length ≤ store.hotConfig.maxDynamicAssets := by
  apply length_dynamicIds_evictRounds
  have hle : store.dynamicIds.length ≤ store.hot.keys.length := List.length_filter_le _ _
  rw [ExtTreeMap.length_keys] at hle
  omega

/-- No more assets that may be evicted are resident than configured. -/
def Capped (store : AssetStore) : Prop :=
  store.dynamicIds.length ≤ store.hotConfig.maxDynamicAssets

theorem Capped.of_dropped (h : store.Capped) (hdropped : store.Dropped store')
    (hconfig : store'.hotConfig = store.hotConfig) : store'.Capped := by
  rw [Capped, hconfig]
  exact Nat.le_trans hdropped.length_dynamicIds_le h

theorem evictDynamicToCapacity_capped (store : AssetStore) :
    store.evictDynamicToCapacity.Capped := by
  rw [Capped, (evictDynamicToCapacity_evicted store).hotConfig]
  exact store.length_dynamicIds_evictDynamicToCapacity

end Eviction

/-! ## The operations -/

section Operations

variable {store store' : AssetStore} {asset : PerformanceAsset} {id : String}

theorem evictMetadataRounds_frame (rounds : Nat) (store : AssetStore) :
    (evictMetadataRounds rounds store).hot = store.hot ∧
      (evictMetadataRounds rounds store).pinnedIds = store.pinnedIds ∧
      (evictMetadataRounds rounds store).hotConfig = store.hotConfig := by
  induction rounds generalizing store with
  | zero => exact ⟨rfl, rfl, rfl⟩
  | succ rounds ih =>
    rw [evictMetadataRounds]
    split
    · exact ⟨rfl, rfl, rfl⟩
    · split
      · exact ih _
      · exact ⟨rfl, rfl, rfl⟩

theorem hotGet_evicted (store : AssetStore) (id : String) :
    store.Evicted (store.hotGet id).1 := by
  rw [hotGet]
  split
  · exact .of_eq rfl rfl rfl
  · exact .of_eq rfl rfl rfl

theorem hotGet_hot (store : AssetStore) (id : String) : (store.hotGet id).1.hot = store.hot := by
  rw [hotGet]
  split
  · rfl
  · rfl

theorem noteHotUse_evicted (store : AssetStore) (id : String) (atMs : Nat) :
    store.Evicted (store.noteHotUse id atMs) := by
  obtain ⟨hhot, hpinned, hconfig⟩ := evictMetadataRounds_frame _ _
  exact .of_eq hhot hpinned hconfig

theorem persist_evicted (store : AssetStore) (disk : Disk) (id : String) :
    store.Evicted (store.persistGeneratedDescriptor disk id).1 := by
  refine (store.hotGet_evicted id).trans ?_
  rw [persistGeneratedDescriptor]
  dsimp only
  split
  · exact .refl _
  · exact .of_eq rfl rfl rfl

theorem erase_dropped (store : AssetStore) (id : String)
    (localIndex : ExtTreeMap String AssetIndexEntry) :
    store.Dropped { store with localIndex := localIndex, hot := store.hot.erase id } where
  pinnedIds := rfl
  hot hfound := by
    rw [ExtTreeMap.getElem?_erase] at hfound
    split at hfound
    · cases hfound
    · exact hfound

theorem ensureInvalidatable_evicted (store : AssetStore) (disk : Disk) (id : String) :
    store.Evicted (store.ensureInvalidatable disk id).1 := by
  rw [ensureInvalidatable]
  split
  · exact .refl store
  · exact store.hotGet_evicted id

theorem invalidate_dropped (store : AssetStore) (disk : Disk) (id : String) :
    store.Dropped (store.invalidateGeneratedAsset disk id).1 ∧
      (store.invalidateGeneratedAsset disk id).1.hotConfig = store.hotConfig := by
  have hchecked := store.ensureInvalidatable_evicted disk id
  rw [invalidateGeneratedAsset]
  split
  case h_1 checked error hcheck =>
    rw [hcheck] at hchecked
    exact ⟨hchecked.toDropped, hchecked.hotConfig⟩
  case h_2 checked hcheck =>
    rw [hcheck] at hchecked
    split
    · exact ⟨hchecked.toDropped.trans (checked.erase_dropped id _), hchecked.hotConfig⟩
    · split
      · exact ⟨hchecked.toDropped, hchecked.hotConfig⟩
      · exact ⟨hchecked.toDropped.trans (checked.erase_dropped id _), hchecked.hotConfig⟩

theorem indexLocal_dropped (store : AssetStore) (disk : Disk) :
    store.Dropped (store.indexLocal disk).1 ∧
      (store.indexLocal disk).1.hotConfig = store.hotConfig := by
  rw [indexLocal]
  split
  · exact ⟨.refl store, rfl⟩
  · split
    · exact ⟨.refl store, rfl⟩
    · refine ⟨⟨rfl, fun hfound ↦ ?_⟩, rfl⟩
      rw [ExtTreeMap.getElem?_filter', Option.filter_eq_some_iff] at hfound
      exact hfound.1

theorem setHotCacheConfig_dropped (store : AssetStore) (config : HotCacheConfig) :
    store.Dropped (store.setHotCacheConfig config) ∧ (store.setHotCacheConfig config).Capped := by
  obtain ⟨hhot, hpinned, hconfig⟩ := evictMetadataRounds_frame _ _
  have hevicted := evictDynamicToCapacity_evicted { store with hotConfig := config }
  have hmetadata : Evicted _ (store.setHotCacheConfig config) := .of_eq hhot hpinned hconfig
  refine ⟨⟨hpinned.trans hevicted.pinnedIds, fun hfound ↦ hevicted.hot (hhot ▸ hfound)⟩, ?_⟩
  exact (evictDynamicToCapacity_capped _).of_dropped hmetadata.toDropped hmetadata.hotConfig

/-- What an insertion does: the asset is resident, unless it was evicted at once, and its
id is pinned if it was not generated. -/
structure Inserted (store store' : AssetStore) (asset : PerformanceAsset) : Prop where
  pinnedIds : store'.pinnedIds =
    if asset.isGenerated then store.pinnedIds else store.pinnedIds.insert asset.id
  hot : ∀ {id : String} {other : PerformanceAsset}, store'.hot[id]? = some other →
    id = asset.id ∧ other = asset ∨ id ≠ asset.id ∧ store.hot[id]? = some other
  resident : asset.id ∈ store'.pinnedIds → store'.hot[asset.id]? = some asset

theorem Inserted.congr {before : AssetStore} (h : before.Inserted store' asset)
    (hhot : before.hot = store.hot) (hpinned : before.pinnedIds = store.pinnedIds) :
    store.Inserted store' asset where
  pinnedIds := hpinned ▸ h.pinnedIds
  hot hfound := hhot ▸ h.hot hfound
  resident := h.resident

theorem admitHot_inserted (store : AssetStore) (asset : PerformanceAsset) :
    store.Inserted (store.admitHot asset) asset where
  pinnedIds := (evictDynamicToCapacity_evicted _).pinnedIds
  hot hfound := by
    have hbefore := (evictDynamicToCapacity_evicted _).hot hfound
    rw [ExtTreeMap.getElem?_insert] at hbefore
    split at hbefore
    case isTrue hcmp =>
      exact .inl ⟨(Std.LawfulEqCmp.eq_of_compare hcmp).symm, (Option.some.inj hbefore).symm⟩
    case isFalse hcmp =>
      refine .inr ⟨?_, hbefore⟩
      rintro rfl
      exact hcmp Std.ReflCmp.compare_self
  resident hpinned := by
    have hevicted : Evicted _ (store.admitHot asset) := evictDynamicToCapacity_evicted _
    rw [hevicted.pinnedIds] at hpinned
    rw [hevicted.pinned hpinned]
    exact ExtTreeMap.getElem?_insert_self

/-- The asset, if it passes the checks of an insertion. -/
def accepted? (store : AssetStore) (asset : PerformanceAsset) : Option PerformanceAsset :=
  match store.checkHot asset with
  | .error _ => none
  | .ok () => some asset

/-- The asset that an operation inserts in the hot tier. -/
def inserted? (store : AssetStore) : Op → Option PerformanceAsset
  | .insertHot asset => store.accepted? asset
  | .resolve disk id =>
    match store.hot[id]?, store.loadIndexed disk id with
    | none, .ok asset => store.accepted? asset
    | _, _ => none
  | _ => none

theorem accepted?_congr (h : store'.runtime = store.runtime) :
    store'.accepted? asset = store.accepted? asset := by
  rw [accepted?, checkHot, h, accepted?, checkHot]

theorem loadIndexed_congr {disk : Disk} (h : store'.localIndex = store.localIndex) :
    store'.loadIndexed disk id = store.loadIndexed disk id := by
  rw [loadIndexed, h, loadIndexed]

theorem insertHot_eq (store : AssetStore) (asset : PerformanceAsset) :
    (store.insertHot asset).1 = (store.accepted? asset).elim store store.admitHot := by
  rw [insertHot, accepted?]
  cases store.checkHot asset with
  | error error => rfl
  | ok checked => rfl

theorem perform_insertHot (store : AssetStore) (asset : PerformanceAsset) :
    (store.perform (.insertHot asset)).1 = (store.accepted? asset).elim store store.admitHot := by
  rw [perform, insertHot_eq]

theorem hotGet_miss (h : store.hot[id]? = none) : ∃ missed : AssetStore,
    store.hotGet id = (missed, none) ∧ missed.localIndex = store.localIndex ∧
      missed.runtime = store.runtime := by
  rw [hotGet, h]
  exact ⟨_, rfl, rfl, rfl⟩

theorem resolve_eq (store : AssetStore) (disk : Disk) (id : String) :
    (store.resolveWithTier disk id).1 =
      (store.inserted? (.resolve disk id)).elim (store.hotGet id).1 (store.hotGet id).1.admitHot := by
  rw [resolveWithTier, inserted?]
  cases hfound : store.hot[id]? with
  | some asset =>
    rw [hotGet, hfound]
    rfl
  | none =>
    obtain ⟨missed, hget, hlocal, hruntime⟩ := hotGet_miss hfound
    have hload : missed.loadIndexed disk id = store.loadIndexed disk id :=
      loadIndexed_congr hlocal
    rw [hget]
    dsimp only
    rw [hload]
    cases store.loadIndexed disk id with
    | error error => rfl
    | ok loaded =>
      have haccepted : missed.accepted? loaded = store.accepted? loaded :=
        accepted?_congr hruntime
      dsimp only
      rw [insertHot_eq, haccepted]

theorem perform_resolve (store : AssetStore) (disk : Disk) (id : String) :
    (store.perform (.resolve disk id)).1 =
      (store.inserted? (.resolve disk id)).elim (store.hotGet id).1 (store.hotGet id).1.admitHot := by
  rw [perform, resolve_eq]

/-- An operation that inserts no asset drops assets at most. -/
theorem perform_dropped {op : Op} (h : store.inserted? op = none) :
    store.Dropped (store.perform op).1 ∧ (store.Capped → (store.perform op).1.Capped) := by
  have hevicted {store' : AssetStore} (h : store.Evicted store') :
      store.Dropped store' ∧ (store.Capped → store'.Capped) :=
    ⟨h.toDropped, fun hcapped ↦ hcapped.of_dropped h.toDropped h.hotConfig⟩
  cases op with
  | insertHot asset =>
    rw [inserted?] at h
    rw [perform_insertHot, h]
    exact ⟨.refl store, id⟩
  | hotGet id => exact hevicted (store.hotGet_evicted id)
  | noteHotUse id atMs => exact hevicted (store.noteHotUse_evicted id atMs)
  | resolve disk id =>
    rw [perform_resolve, h]
    exact hevicted (store.hotGet_evicted id)
  | persist disk id => exact hevicted (store.persist_evicted disk id)
  | invalidate disk id =>
    obtain ⟨hdropped, hconfig⟩ := store.invalidate_dropped disk id
    exact ⟨hdropped, fun h ↦ h.of_dropped hdropped hconfig⟩
  | indexLocal disk =>
    obtain ⟨hdropped, hconfig⟩ := store.indexLocal_dropped disk
    exact ⟨hdropped, fun h ↦ h.of_dropped hdropped hconfig⟩
  | setHotCacheConfig config =>
    obtain ⟨hdropped, hcapped⟩ := store.setHotCacheConfig_dropped config
    exact ⟨hdropped, fun _ ↦ hcapped⟩

/-- An operation that inserts an asset ends with it. -/
theorem perform_inserted {op : Op} (h : store.inserted? op = some asset) :
    store.Inserted (store.perform op).1 asset ∧ (store.perform op).1.Capped := by
  cases op with
  | insertHot asset =>
    rw [inserted?] at h
    rw [perform_insertHot, h]
    exact ⟨store.admitHot_inserted _, evictDynamicToCapacity_capped _⟩
  | resolve disk id =>
    rw [perform_resolve, h]
    have hinserted := (store.hotGet id).1.admitHot_inserted asset
    exact ⟨hinserted.congr (store.hotGet_hot id) (store.hotGet_evicted id).pinnedIds,
      evictDynamicToCapacity_capped _⟩
  | hotGet | noteHotUse | persist | invalidate | indexLocal | setHotCacheConfig => cases h

end Operations

/-! ## The bound -/

section Bound

variable {store : AssetStore} {id : String}

def generatedIds (store : AssetStore) : List String :=
  store.hot.keys.filter fun id ↦ (store.hot[id]?).any (·.isGenerated)

/-- No resident asset under a pinned id was generated. -/
def PinsStatic (store : AssetStore) : Prop :=
  ∀ id ∈ store.pinnedIds, ∀ asset, store.hot[id]? = some asset → asset.isGenerated = false

theorem PinsStatic.length_generatedIds_le (h : store.PinsStatic) :
    store.generatedIds.length ≤ store.dynamicIds.length := by
  have hnodup : store.generatedIds.Nodup := ExtTreeMap.nodup_keys.filter _
  refine (hnodup.subperm ?_).length_le
  intro id hid
  rw [generatedIds, List.mem_filter, ExtTreeMap.mem_keys, Option.any_eq_true] at hid
  obtain ⟨hresident, asset, hfound, hgenerated⟩ := hid
  refine mem_dynamicIds.mpr ⟨hresident, fun hpinned ↦ ?_⟩
  rw [h id hpinned asset hfound] at hgenerated
  cases hgenerated

theorem PinsStatic.of_dropped {store' : AssetStore} (h : store.PinsStatic)
    (hdropped : store.Dropped store') : store'.PinsStatic := by
  intro id hpinned asset hfound
  rw [hdropped.pinnedIds] at hpinned
  exact h id hpinned asset (hdropped.hot hfound)

/-- After an insertion, the pinned ids still belong to assets that were not generated
exactly when no generated asset was inserted under a pinned id. -/
theorem PinsStatic.inserted_iff {store' : AssetStore} {asset : PerformanceAsset}
    (h : store.PinsStatic) (hinserted : store.Inserted store' asset) :
    store'.PinsStatic ↔ (asset.isGenerated → asset.id ∉ store.pinnedIds) := by
  constructor
  · intro hstatic hgenerated hpinned
    have hpinned' : asset.id ∈ store'.pinnedIds := by
      rw [hinserted.pinnedIds, if_pos hgenerated]
      exact hpinned
    rw [hstatic _ hpinned' asset (hinserted.resident hpinned')] at hgenerated
    cases hgenerated
  · intro hunpinned id hpinned other hfound
    rcases hinserted.hot hfound with ⟨rfl, rfl⟩ | ⟨hne, hbefore⟩
    · rw [hinserted.pinnedIds] at hpinned
      split at hpinned
      case isTrue hgenerated => exact absurd hpinned (hunpinned hgenerated)
      case isFalse hstatic => exact Bool.eq_false_iff.mpr hstatic
    · refine h id ?_ other hbefore
      rw [hinserted.pinnedIds] at hpinned
      split at hpinned
      · exact hpinned
      · rcases ExtTreeSet.mem_insert.mp hpinned with hcmp | hmem
        · exact absurd (Std.LawfulEqCmp.eq_of_compare hcmp).symm hne
        · exact hmem

abbrev StoreEvent :=
  Machine.Event AssetStore Op (Except AssetStoreError (Option PerformanceAsset))

/-- The ids of the assets that were inserted and not generated. -/
def recordStatic (statics : List String) (e : StoreEvent) : List String :=
  match e.pre.inserted? e.input with
  | some asset => if asset.isGenerated then statics else asset.id :: statics
  | none => statics

/-- After the step, no more generated assets are resident than configured, and only assets
that were not generated are protected. -/
def Residency (_ : List String) (e : StoreEvent) : Prop :=
  e.post.generatedIds.length ≤ e.post.hotConfig.maxDynamicAssets ∧ e.post.PinsStatic

/-- The step inserts no generated asset under the id of a static one. -/
def FreshGenerated (statics : List String) (e : StoreEvent) : Prop :=
  ∀ asset, e.pre.inserted? e.input = some asset → asset.isGenerated → asset.id ∉ statics

/-- What holds in every state that is reached within the bound. -/
structure Tracked (store : AssetStore) (statics : List String) : Prop where
  static : store.PinsStatic
  capped : store.Capped
  pinned : ∀ id, id ∈ store.pinnedIds ↔ id ∈ statics

theorem tracked_new (root : String) (runtime : RuntimeCompatibility)
    (estimateAssetBytes : PerformanceAsset → Nat) :
    (new root runtime estimateAssetBytes).Tracked [] where
  static id hid := absurd hid ExtTreeSet.not_mem_empty
  capped := Nat.zero_le _
  pinned id := by
    constructor
    · exact fun hid ↦ absurd hid ExtTreeSet.not_mem_empty
    · exact fun hid ↦ absurd hid List.not_mem_nil

theorem Tracked.perform_capped {statics : List String} (h : store.Tracked statics) (op : Op) :
    (store.perform op).1.Capped := by
  cases hop : store.inserted? op with
  | none => exact (perform_dropped hop).2 h.capped
  | some asset => exact (perform_inserted hop).2

theorem Tracked.next {statics : List String} (h : store.Tracked statics) (op : Op)
    (hresidency : Residency statics (machine.event store op)) :
    Tracked (machine.next store op) (recordStatic statics (machine.event store op)) where
  static := hresidency.2
  capped := h.perform_capped op
  pinned id := by
    show id ∈ (store.perform op).1.pinnedIds ↔ id ∈ match store.inserted? op with
      | some asset => if asset.isGenerated then statics else asset.id :: statics
      | none => statics
    cases hop : store.inserted? op with
    | none =>
      rw [(perform_dropped hop).1.pinnedIds]
      exact h.pinned id
    | some asset =>
      rw [(perform_inserted hop).1.pinnedIds]
      dsimp only
      split
      case isTrue hgenerated => exact h.pinned id
      case isFalse hstatic =>
        rw [ExtTreeSet.mem_insert, h.pinned, List.mem_cons, Std.LawfulEqCmp.compare_eq_iff_eq,
          eq_comm]

theorem Tracked.residency_iff {statics : List String} (h : store.Tracked statics) (op : Op) :
    Residency statics (machine.event store op) ↔
      FreshGenerated statics (machine.event store op) := by
  have hbound : Residency statics (machine.event store op) ↔ (store.perform op).1.PinsStatic := by
    refine ⟨And.right, fun hstatic ↦ ⟨?_, hstatic⟩⟩
    exact Nat.le_trans hstatic.length_generatedIds_le (h.perform_capped op)
  rw [hbound]
  cases hop : store.inserted? op with
  | none =>
    have hstatic := h.static.of_dropped (perform_dropped hop).1
    refine iff_of_true hstatic fun asset hinserted ↦ ?_
    rw [show (machine.event store op).pre.inserted? (machine.event store op).input = none from hop]
      at hinserted
    cases hinserted
  | some asset =>
    rw [h.static.inserted_iff (perform_inserted hop).1, h.pinned]
    constructor
    · intro hfresh other hother
      cases hop.symm.trans hother
      exact hfresh
    · exact fun hfresh ↦ hfresh asset hop

/-- **Residency.**  In a run, the number of resident generated assets stays within the
configured bound and only static assets are protected from eviction exactly when no
generated asset is inserted under an id under which a static one was inserted before. -/
theorem residency_iff_freshGenerated (root : String) (runtime : RuntimeCompatibility)
    (estimateAssetBytes : PerformanceAsset → Nat) (ops : List Op) :
    machine.Meets recordStatic Residency (new root runtime estimateAssetBytes) [] ops ↔
      machine.Meets recordStatic FreshGenerated (new root runtime estimateAssetBytes) [] ops :=
  machine.meets_congr_of_watch (fun _ _ op h hresidency ↦ h.next op hresidency)
    (fun _ _ op h ↦ h.residency_iff op) (tracked_new root runtime estimateAssetBytes) ops

/-- A small asset. -/
def fillerAsset (id : String) (provenance : Option Provenance) : PerformanceAsset where
  schemaVersion := performanceAssetSchemaVersion
  id := id
  intent := "filler"
  assetClass := .filler
  variantGroup := none
  speech := none
  expression := none
  gesture := none
  gaze := none
  timeline := []
  interruptPointsMs := []
  variation := none
  compatibility := ⟨"1", none, none, none, none⟩
  semanticEmbedding := none
  provenance := provenance

/-- The provenance of an asset that was generated. -/
def generatedProvenance : Provenance where
  generated := some true
  generator := some "generative"
  createdAt := some "2024-01-01T00:00:00Z"
  thinkingBackend := some "model"
  thinkingModelAlias := none
  thinkingModelVersion := none
  ttsBackend := some "voice"
  ttsModelAlias := none
  ttsModelVersion := none
  routingReason := some "novel"

/-- Two generated assets under the ids of static ones stay resident over a bound of one. -/
theorem generated_exceed_bound :
    ¬ machine.Meets recordStatic Residency
      (new "assets" ⟨"1", none, none, none, none⟩ fun _ ↦ 1) []
      [.setHotCacheConfig { HotCacheConfig.default with maxDynamicAssets := 1 },
        .insertHot (fillerAsset "filler.one" none), .insertHot (fillerAsset "filler.two" none),
        .insertHot (fillerAsset "filler.one" generatedProvenance),
        .insertHot (fillerAsset "filler.two" generatedProvenance)] := by
  intro h
  have hbound := h.2.2.2.2.1.1
  revert hbound
  decide +kernel

end Bound

end AssetStore

end Aivtuber
