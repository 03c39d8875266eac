import Aivtuber.AssetStore.Usage

/-!
# What the hot tier serves

Whatever is resident has passed the checks of an insertion, whichever way it came in: it is
stored under its own id, it is valid, and it is compatible with the runtime of the store.  An
id that was invalidated is in neither tier until an asset is inserted or indexed under it
again.
-/

open Saturating
open Std (ExtTreeMap ExtTreeSet)

namespace Aivtuber

namespace AssetStore

/-- An asset may be served under an id. -/
structure Servable (runtime : RuntimeCompatibility) (id : String) (asset : PerformanceAsset) :
    Prop where
  id_eq : asset.id = id
  valid : asset.validate = .ok ()
  compatible : asset.compatibility.check runtime = .usable

/-! ## Frames -/

/-- Two stores with the same runtime and the same index. -/
structure SameIndex (store store' : AssetStore) : Prop where
  runtime : store'.runtime = store.runtime
  localIndex : store'.localIndex = store.localIndex

section Frames

variable {store store' store'' : AssetStore} {asset : PerformanceAsset} {id : String}

theorem SameIndex.refl (store : AssetStore) : store.SameIndex store := ⟨rfl, rfl⟩

theorem SameIndex.trans (h : store.SameIndex store') (h' : store'.SameIndex store'') :
    store.SameIndex store'' :=
  ⟨h'.runtime.trans h.runtime, h'.localIndex.trans h.localIndex⟩

theorem evictDynamicToCapacity_sameIndex (store : AssetStore) :
    store.SameIndex store.evictDynamicToCapacity :=
  evictRounds_induction (P := store.SameIndex) (fun _ _ h ↦ h.trans ⟨rfl, rfl⟩) (.refl store)

theorem evictMetadataRounds_sameIndex (rounds : Nat) (store : AssetStore) :
    store.SameIndex (evictMetadataRounds rounds store) := by
  induction rounds generalizing store with
  | zero => exact .refl store
  | succ rounds ih =>
    rw [evictMetadataRounds]
    split
    · exact .refl store
    · split
      · exact ⟨(ih _).runtime, (ih _).localIndex⟩
      · exact .refl store

theorem admitHot_sameIndex (store : AssetStore) (asset : PerformanceAsset) :
    store.SameIndex (store.admitHot asset) := by
  have hevicted : SameIndex _ (store.admitHot asset) := evictDynamicToCapacity_sameIndex _
  exact ⟨hevicted.runtime, hevicted.localIndex⟩

theorem hotGet_sameIndex (store : AssetStore) (id : String) :
    store.SameIndex (store.hotGet id).1 := by
  rw [hotGet]
  split
  · exact ⟨rfl, rfl⟩
  · exact ⟨rfl, rfl⟩

theorem elim_admitHot_sameIndex (store : AssetStore) (inserted : Option PerformanceAsset) :
    store.SameIndex (inserted.elim store store.admitHot) := by
  cases inserted with
  | none => exact .refl store
  | some asset => exact store.admitHot_sameIndex asset

theorem noteHotUse_sameIndex (store : AssetStore) (id : String) (atMs : Nat) :
    store.SameIndex (store.noteHotUse id atMs) := by
  have hmetadata := evictMetadataRounds_sameIndex
  exact ⟨(hmetadata _ _).runtime, (hmetadata _ _).localIndex⟩

theorem setHotCacheConfig_sameIndex (store : AssetStore) (config : HotCacheConfig) :
    store.SameIndex (store.setHotCacheConfig config) := by
  have hevicted := evictDynamicToCapacity_sameIndex { store with hotConfig := config }
  have hmetadata : SameIndex _ (store.setHotCacheConfig config) :=
    hevicted.trans (evictMetadataRounds_sameIndex _ _)
  exact ⟨hmetadata.runtime, hmetadata.localIndex⟩

theorem ensureInvalidatable_sameIndex (store : AssetStore) (disk : Disk) (id : String) :
    store.SameIndex (store.ensureInvalidatable disk id).1 := by
  rw [ensureInvalidatable]
  split
  · exact .refl store
  · exact store.hotGet_sameIndex id

end Frames

/-! ## The local tier -/

section LocalTier

variable {store : AssetStore} {asset : PerformanceAsset} {id : String}

theorem accepted?_servable {other : PerformanceAsset} (h : store.accepted? asset = some other) :
    other = asset ∧ Servable store.runtime asset.id asset := by
  rw [accepted?, checkHot] at h
  split at h
  case h_1 => cases h
  case h_2 hchecked =>
    split at hchecked
    case h_1 => cases hchecked
    case h_2 hvalid =>
      split at hchecked
      case h_1 => cases hchecked
      case h_2 hcompatible => exact ⟨(Option.some.inj h).symm, rfl, hvalid, hcompatible⟩

/-- A descriptor is loaded under the id that is indexed. -/
theorem loadIndexed_ok {disk : Disk} (h : store.loadIndexed disk id = .ok asset) :
    id ∈ store.localIndex ∧ asset.id = id := by
  rw [loadIndexed] at h
  obtain ⟨entry, hentry, h⟩ := Check.expect_bind_eq_ok.mp h
  dsimp only at h
  split at h
  case h_1 => cases h
  obtain ⟨loaded, -, h⟩ := Check.bind_eq_ok.mp h
  obtain ⟨hid, h⟩ := Check.unit_bind_eq_ok.mp h
  obtain ⟨-, h⟩ := Check.unit_bind_eq_ok.mp h
  cases h
  refine ⟨?_, of_decide_eq_true (Check.ensure_eq_ok.mp hid)⟩
  rw [← ExtTreeMap.isSome_getElem?_iff_mem, hentry]
  rfl

/-- What an operation inserts may be served. -/
theorem inserted?_servable {op : Op} (h : store.inserted? op = some asset) :
    Servable store.runtime asset.id asset := by
  cases op with
  | insertHot other =>
    rw [inserted?] at h
    obtain ⟨rfl, hservable⟩ := accepted?_servable h
    exact hservable
  | resolve disk id =>
    rw [inserted?] at h
    split at h
    · obtain ⟨rfl, hservable⟩ := accepted?_servable h
      exact hservable
    · cases h
  | hotGet | noteHotUse | persist | invalidate | indexLocal | setHotCacheConfig => cases h

/-- What a resolution inserts is indexed under the id. -/
theorem inserted?_resolve {disk : Disk} (h : store.inserted? (.resolve disk id) = some asset) :
    id ∈ store.localIndex ∧ asset.id = id := by
  rw [inserted?] at h
  split at h
  case h_1 loaded hmissed hloaded =>
    obtain ⟨rfl, -⟩ := accepted?_servable h
    exact loadIndexed_ok hloaded
  case h_2 => cases h

end LocalTier

/-! ## What is served -/

/-- The ids that were invalidated, and not inserted or indexed again since. -/
def recordInvalidated (invalidated : List String) (e : StoreEvent) : List String :=
  match e.input with
  | .invalidate disk id => if e.pre.invalidates disk id then id :: invalidated else invalidated
  | .insertHot asset =>
    if (e.pre.accepted? asset).isSome then invalidated.filter (· ≠ asset.id) else invalidated
  | .indexLocal disk => (e.pre.reindexed? disk).elim invalidated fun next ↦
      invalidated.filter (!next.contains ·)
  | _ => invalidated

/-- The operation inserts, persists or indexes as a whole, or leaves the tiers as they were. -/
def Op.Transactional : Op → Prop
  | .insertHot _ | .persist _ _ | .indexLocal _ => True
  | _ => False

/-- What is resident after the step may be served, and what the step resolves may be and was
not invalidated.  A failed insertion or indexing changes no tier. -/
structure Served (runtime : RuntimeCompatibility) (invalidated : List String) (e : StoreEvent) :
    Prop where
  resident : ∀ id asset, e.post.hot[id]? = some asset → Servable runtime id asset
  resolved : ∀ disk id asset, e.input = .resolve disk id → e.output = .ok (some asset) →
    Servable runtime id asset ∧ id ∉ invalidated
  failed : e.input.Transactional → ∀ error, e.output = .error error →
    e.post.hot = e.pre.hot ∧ e.post.localIndex = e.pre.localIndex ∧
      e.post.pinnedIds = e.pre.pinnedIds ∧ e.post.promotionMetadata = e.pre.promotionMetadata

/-- What holds of the tiers in every reachable state. -/
structure Tiers (runtime : RuntimeCompatibility) (store : AssetStore) (invalidated : List String) :
    Prop where
  runtime_eq : store.runtime = runtime
  resident : ∀ id asset, store.hot[id]? = some asset → Servable runtime id asset
  absent : ∀ id ∈ invalidated, id ∉ store.hot
  unindexed : ∀ id ∈ invalidated, id ∉ store.localIndex

section Steps

variable {runtime : RuntimeCompatibility} {store store' : AssetStore} {invalidated : List String}
  {asset : PerformanceAsset} {id : String}

theorem new_tiers (root : String) (runtime : RuntimeCompatibility)
    (estimateAssetBytes : PerformanceAsset → Nat) :
    Tiers runtime (new root runtime estimateAssetBytes) [] where
  runtime_eq := rfl
  resident id asset hfound := by
    rw [new, ExtTreeMap.getElem?_empty] at hfound
    cases hfound
  absent id hid := absurd hid List.not_mem_nil
  unindexed id hid := absurd hid List.not_mem_nil

theorem Dropped.not_mem_hot (h : store.Dropped store') (hid : id ∉ store.hot) :
    id ∉ store'.hot := by
  intro hresident
  obtain ⟨asset, hfound⟩ := mem_hot_iff.mp hresident
  exact hid (mem_hot_iff.mpr ⟨asset, h.hot hfound⟩)

theorem Inserted.not_mem_hot (h : store.Inserted store' asset) (hid : id ∉ store.hot)
    (hne : id ≠ asset.id) : id ∉ store'.hot := by
  intro hresident
  obtain ⟨other, hfound⟩ := mem_hot_iff.mp hresident
  rcases h.hot hfound with ⟨hsame, -⟩ | ⟨-, hbefore⟩
  · exact hne hsame
  · exact hid (mem_hot_iff.mpr ⟨other, hbefore⟩)

/-- Every operation leaves assets that may be served. -/
theorem Tiers.resident_perform (h : Tiers runtime store invalidated) (op : Op) :
    ∀ id asset, (store.perform op).1.hot[id]? = some asset → Servable runtime id asset := by
  intro id asset hfound
  cases hop : store.inserted? op with
  | none => exact h.resident id asset ((perform_dropped hop).1.hot hfound)
  | some inserted =>
    rcases (perform_inserted hop).1.hot hfound with ⟨rfl, rfl⟩ | ⟨-, hbefore⟩
    · exact h.runtime_eq ▸ inserted?_servable hop
    · exact h.resident id asset hbefore

/-- What is resolved is resident, or was just inserted. -/
theorem resolve_ok {disk : Disk} {tier : CacheTier}
    (h : (store.resolveWithTier disk id).2 = .ok (asset, tier)) :
    store.hot[id]? = some asset ∨ store.inserted? (.resolve disk id) = some asset := by
  rw [resolveWithTier] at h
  cases hfound : store.hot[id]? with
  | some resident =>
    rw [hotGet, hfound] at h
    cases h
    exact .inl rfl
  | none =>
    obtain ⟨missed, hget, hlocal, hruntime⟩ := hotGet_miss hfound
    have hload : missed.loadIndexed disk id = store.loadIndexed disk id := loadIndexed_congr hlocal
    rw [hget] at h
    dsimp only at h
    rw [hload] at h
    cases hloaded : store.loadIndexed disk id with
    | error error =>
      rw [hloaded] at h
      cases h
    | ok loaded =>
      rw [hloaded] at h
      have haccepted : missed.accepted? loaded = store.accepted? loaded :=
        accepted?_congr hruntime
      right
      rw [inserted?, hfound, hloaded]
      dsimp only
      rw [← haccepted, accepted?]
      dsimp only at h
      rw [insertHot] at h
      cases hchecked : missed.checkHot loaded with
      | error error =>
        rw [hchecked] at h
        cases h
      | ok =>
        rw [hchecked] at h
        cases h
        rfl

theorem Tiers.resolved (h : Tiers runtime store invalidated) {disk : Disk} {tier : CacheTier}
    (hresolved : (store.resolveWithTier disk id).2 = .ok (asset, tier)) :
    Servable runtime id asset ∧ id ∉ invalidated := by
  rcases resolve_ok hresolved with hfound | hinserted
  · exact ⟨h.resident id asset hfound, fun hid ↦ h.absent id hid (mem_hot_iff.mpr ⟨asset, hfound⟩)⟩
  · obtain ⟨hindexed, rfl⟩ := inserted?_resolve hinserted
    exact ⟨h.runtime_eq ▸ inserted?_servable hinserted, fun hid ↦ h.unindexed _ hid hindexed⟩

theorem hotGet_frame (store : AssetStore) (id : String) :
    (store.hotGet id).1.pinnedIds = store.pinnedIds ∧
      (store.hotGet id).1.promotionMetadata = store.promotionMetadata := by
  rw [hotGet]
  split
  · exact ⟨rfl, rfl⟩
  · exact ⟨rfl, rfl⟩

/-- A failed insertion or indexing changes no tier. -/
theorem perform_failed {op : Op} (hop : op.Transactional) {error : AssetStoreError}
    (h : (store.perform op).2 = .error error) :
    (store.perform op).1.hot = store.hot ∧ (store.perform op).1.localIndex = store.localIndex ∧
      (store.perform op).1.pinnedIds = store.pinnedIds ∧
      (store.perform op).1.promotionMetadata = store.promotionMetadata := by
  cases op with
  | hotGet | noteHotUse | resolve | invalidate | setHotCacheConfig => cases hop
  | insertHot asset =>
    rw [perform] at h ⊢
    dsimp only at h ⊢
    rw [insertHot] at h ⊢
    cases hchecked : store.checkHot asset with
    | error refused => exact ⟨rfl, rfl, rfl, rfl⟩
    | ok =>
      rw [hchecked] at h
      cases h
  | persist disk id =>
    have hhot := store.hotGet_hot id
    obtain ⟨-, hlocal⟩ := store.hotGet_sameIndex id
    obtain ⟨hpinned, hmetadata⟩ := store.hotGet_frame id
    rw [perform] at h ⊢
    dsimp only at h ⊢
    rw [persistGeneratedDescriptor] at h ⊢
    dsimp only at h ⊢
    split
    case h_1 => exact ⟨hhot, hlocal, hpinned, hmetadata⟩
    case h_2 persisted hwritten =>
      rw [hwritten] at h
      cases h
  | indexLocal disk =>
    rw [perform] at h ⊢
    dsimp only at h ⊢
    rw [indexLocal] at h ⊢
    cases hpaths : disk.descriptors with
    | error refused => exact ⟨rfl, rfl, rfl, rfl⟩
    | ok paths =>
      rw [hpaths] at h
      dsimp only at h ⊢
      cases hindexed : store.indexPaths disk ∅ ⟨0, 0, 0⟩ paths with
      | error refused => exact ⟨rfl, rfl, rfl, rfl⟩
      | ok indexed =>
        rw [hindexed] at h
        cases h

theorem Tiers.served (h : Tiers runtime store invalidated) (op : Op) :
    Served runtime invalidated (machine.event store op) where
  resident := h.resident_perform op
  resolved := by
    rintro disk id asset rfl hout
    have hresult : ((store.resolveWithTier disk id).2.map fun found ↦ some found.1) =
        .ok (some asset) := hout
    cases hresolved : (store.resolveWithTier disk id).2 with
    | error error =>
      rw [hresolved] at hresult
      cases hresult
    | ok found =>
      obtain ⟨served, tier⟩ := found
      rw [hresolved] at hresult
      cases hresult
      exact h.resolved hresolved
  failed hop _ herror := perform_failed hop herror

/-- An operation that leaves the local tier alone. -/
theorem Tiers.of_sameIndex (h : Tiers runtime store invalidated) {op : Op} {kept : List String}
    (hindex : store.SameIndex (store.perform op).1)
    (hkept : ∀ id ∈ kept, id ∈ invalidated ∧ id ∉ (store.perform op).1.hot) :
    Tiers runtime (store.perform op).1 kept where
  runtime_eq := hindex.runtime.trans h.runtime_eq
  resident := h.resident_perform op
  absent id hid := (hkept id hid).2
  unindexed id hid := by
    rw [hindex.localIndex]
    exact h.unindexed id (hkept id hid).1

/-- An operation that inserts nothing, and leaves the local tier alone. -/
theorem Tiers.of_dropped (h : Tiers runtime store invalidated) {op : Op}
    (hindex : store.SameIndex (store.perform op).1) (hdropped : store.Dropped (store.perform op).1) :
    Tiers runtime (store.perform op).1 invalidated :=
  h.of_sameIndex hindex fun id hid ↦ ⟨hid, hdropped.not_mem_hot (h.absent id hid)⟩

theorem Tiers.insertHot (h : Tiers runtime store invalidated) (asset : PerformanceAsset) :
    Tiers runtime (machine.next store (.insertHot asset))
      (recordInvalidated invalidated (machine.event store (.insertHot asset))) := by
  have hindex : store.SameIndex (store.perform (.insertHot asset)).1 := by
    rw [perform_insertHot]
    exact store.elim_admitHot_sameIndex _
  show Tiers runtime (store.perform (.insertHot asset)).1
    (if (store.accepted? asset).isSome then invalidated.filter (· ≠ asset.id) else invalidated)
  cases haccepted : store.accepted? asset with
  | none =>
    have hinserted : store.inserted? (.insertHot asset) = none := haccepted
    exact h.of_dropped hindex (perform_dropped hinserted).1
  | some inserted =>
    obtain ⟨rfl, -⟩ := accepted?_servable haccepted
    have hinserted : store.inserted? (.insertHot inserted) = some inserted := haccepted
    refine h.of_sameIndex hindex fun id hid ↦ ?_
    obtain ⟨hid, hne⟩ := List.mem_filter.mp hid
    exact ⟨hid, (perform_inserted hinserted).1.not_mem_hot (h.absent id hid)
      (of_decide_eq_true hne)⟩

theorem Tiers.resolve (h : Tiers runtime store invalidated) (disk : Disk) (id : String) :
    Tiers runtime (machine.next store (.resolve disk id)) invalidated := by
  have hindex : store.SameIndex (store.perform (.resolve disk id)).1 := by
    rw [perform_resolve]
    exact (store.hotGet_sameIndex id).trans ((store.hotGet id).1.elim_admitHot_sameIndex _)
  show Tiers runtime (store.perform (.resolve disk id)).1 invalidated
  cases hinserted : store.inserted? (.resolve disk id) with
  | none => exact h.of_dropped hindex (perform_dropped hinserted).1
  | some inserted =>
    -- what is inserted was indexed, and so it was not invalidated
    obtain ⟨hindexed, rfl⟩ := inserted?_resolve hinserted
    refine h.of_sameIndex hindex fun other hother ↦ ⟨hother, ?_⟩
    refine (perform_inserted hinserted).1.not_mem_hot (h.absent other hother) ?_
    rintro rfl
    exact h.unindexed _ hother hindexed

/-- A descriptor is written for a resident asset. -/
theorem writeDescriptor_ok {disk : Disk} {found : Option PerformanceAsset}
    (h : store.writeDescriptor disk id found = .ok asset) : found = some asset := by
  rw [writeDescriptor] at h
  obtain ⟨resident, rfl, h⟩ := Check.expect_bind_eq_ok.mp h
  obtain ⟨-, h⟩ := Check.unit_bind_eq_ok.mp h
  dsimp only at h
  split at h
  case h_1 => cases h
  split at h
  case h_1 => cases h
  obtain ⟨-, h⟩ := Check.unit_bind_eq_ok.mp h
  obtain ⟨-, h⟩ := Check.unit_bind_eq_ok.mp h
  obtain ⟨-, h⟩ := Check.unit_bind_eq_ok.mp h
  cases h
  rfl

/-- A persisted asset is resident. -/
theorem persist_localIndex (store : AssetStore) (disk : Disk) (id : String) {other : String}
    (h : other ∈ (store.persistGeneratedDescriptor disk id).1.localIndex) :
    other ∈ store.localIndex ∨ other ∈ store.hot := by
  have hlocal := (store.hotGet_sameIndex id).localIndex
  rw [persistGeneratedDescriptor] at h
  dsimp only at h
  split at h
  case h_1 => exact .inl (hlocal ▸ h)
  case h_2 persisted hwritten =>
    rw [hlocal, ExtTreeMap.mem_insert, Std.LawfulEqCmp.compare_eq_iff_eq] at h
    rcases h with rfl | hbefore
    · have hfound := writeDescriptor_ok hwritten
      rw [hotGet] at hfound
      right
      split at hfound
      case h_1 asset hresident => exact mem_hot_iff.mpr ⟨asset, hresident⟩
      case h_2 => cases hfound
    · exact .inl hbefore

/-- What an invalidation leaves in the index. -/
theorem invalidate_index (store : AssetStore) (disk : Disk) (id : String) :
    (store.invalidateGeneratedAsset disk id).1.runtime = store.runtime ∧
      ∀ other ∈ (store.invalidateGeneratedAsset disk id).1.localIndex,
        other ∈ store.localIndex ∧ (store.invalidates disk id = true → other ≠ id) := by
  obtain ⟨hruntime, hlocal⟩ := store.ensureInvalidatable_sameIndex disk id
  rw [invalidateGeneratedAsset, invalidates]
  generalize store.ensureInvalidatable disk id = checked at hruntime hlocal
  obtain ⟨checked, result⟩ := checked
  dsimp only at hruntime hlocal
  rw [← hlocal]
  cases result with
  | error error => exact ⟨hruntime, fun other hother ↦ ⟨hother, fun hfailed ↦ by cases hfailed⟩⟩
  | ok =>
    cases hentry : checked.localIndex[id]? with
    | none =>
      refine ⟨hruntime, fun other hother ↦ ⟨hother, fun _ ↦ ?_⟩⟩
      rintro rfl
      rw [← ExtTreeMap.isSome_getElem?_iff_mem, hentry] at hother
      cases hother
    | some entry =>
      cases hremove : disk.remove entry.path with
      | error error =>
        simp only [hremove, Option.all_some]
        exact ⟨hruntime, fun other hother ↦ ⟨hother, fun hfailed ↦ by cases hfailed⟩⟩
      | ok removed =>
        simp only [hremove, ExtTreeMap.mem_erase]
        refine ⟨hruntime, fun other hother ↦ ⟨hother.2, fun _ ↦ ?_⟩⟩
        rintro rfl
        exact hother.1 Std.ReflCmp.compare_self

theorem Tiers.persist (h : Tiers runtime store invalidated) (disk : Disk) (id : String) :
    Tiers runtime (machine.next store (.persist disk id)) invalidated where
  runtime_eq := by
    have hruntime := (store.hotGet_sameIndex id).runtime
    show (store.persistGeneratedDescriptor disk id).1.runtime = runtime
    rw [persistGeneratedDescriptor]
    dsimp only
    split
    · exact hruntime.trans h.runtime_eq
    · exact hruntime.trans h.runtime_eq
  resident := h.resident_perform (.persist disk id)
  absent other hother := (store.persist_evicted disk id).toDropped.not_mem_hot (h.absent other hother)
  unindexed other hother hindexed := by
    rcases store.persist_localIndex disk id hindexed with hbefore | hresident
    · exact h.unindexed other hother hbefore
    · exact h.absent other hother hresident

theorem Tiers.invalidate (h : Tiers runtime store invalidated) (disk : Disk) (id : String) :
    Tiers runtime (machine.next store (.invalidate disk id))
      (recordInvalidated invalidated (machine.event store (.invalidate disk id))) := by
  obtain ⟨hruntime, hindex⟩ := store.invalidate_index disk id
  have hdropped := (store.invalidate_dropped disk id).1
  have hhot := (store.invalidate_hot disk id).1
  show Tiers runtime (store.perform (.invalidate disk id)).1
    (if store.invalidates disk id then id :: invalidated else invalidated)
  refine ⟨hruntime.trans h.runtime_eq, h.resident_perform (.invalidate disk id), ?_, ?_⟩
  · intro other hother
    show other ∉ (store.invalidateGeneratedAsset disk id).1.hot
    split at hother
    case isTrue hinvalidates =>
      rcases List.mem_cons.mp hother with rfl | hbefore
      · rw [hhot, if_pos hinvalidates, ExtTreeMap.mem_erase]
        exact fun hresident ↦ hresident.1 Std.ReflCmp.compare_self
      · exact hdropped.not_mem_hot (h.absent other hbefore)
    case isFalse => exact hdropped.not_mem_hot (h.absent other hother)
  · intro other hother hindexed
    obtain ⟨hbefore, hne⟩ := hindex other hindexed
    split at hother
    case isTrue hinvalidates =>
      rcases List.mem_cons.mp hother with rfl | hmem
      · exact hne hinvalidates rfl
      · exact h.unindexed other hmem hbefore
    case isFalse => exact h.unindexed other hother hbefore

theorem Tiers.indexLocal (h : Tiers runtime store invalidated) (disk : Disk) :
    Tiers runtime (machine.next store (.indexLocal disk))
      (recordInvalidated invalidated (machine.event store (.indexLocal disk))) := by
  have hdropped := (store.indexLocal_dropped disk).1
  have hresident := h.resident_perform (.indexLocal disk)
  show Tiers runtime (store.indexLocal disk).1 ((store.reindexed? disk).elim invalidated fun next ↦
    invalidated.filter (!next.contains ·))
  have heq := store.indexLocal_eq disk
  cases hnext : store.reindexed? disk with
  | none =>
    rw [hnext] at heq
    rw [heq]
    exact h
  | some next =>
    rw [hnext] at heq
    refine ⟨?_, hresident, fun id hid ↦ ?_, fun id hid ↦ ?_⟩
    · rw [heq]
      exact h.runtime_eq
    · exact hdropped.not_mem_hot (h.absent id (List.mem_filter.mp hid).1)
    · have hnew := (List.mem_filter.mp hid).2
      rw [Bool.not_eq_true', ← Bool.not_eq_true, ExtTreeMap.contains_iff_mem] at hnew
      rw [heq]
      exact hnew

theorem Tiers.next (h : Tiers runtime store invalidated) (op : Op) :
    Tiers runtime (machine.next store op)
      (recordInvalidated invalidated (machine.event store op)) := by
  cases op with
  | insertHot asset => exact h.insertHot asset
  | hotGet id => exact h.of_dropped (store.hotGet_sameIndex id) (store.hotGet_evicted id).toDropped
  | noteHotUse id atMs =>
    exact h.of_dropped (store.noteHotUse_sameIndex id atMs)
      (store.noteHotUse_evicted id atMs).toDropped
  | resolve disk id => exact h.resolve disk id
  | persist disk id => exact h.persist disk id
  | invalidate disk id => exact h.invalidate disk id
  | indexLocal disk => exact h.indexLocal disk
  | setHotCacheConfig config =>
    exact h.of_dropped (store.setHotCacheConfig_sameIndex config)
      (store.setHotCacheConfig_dropped config).1

end Steps

/-- **What is served.**  In every run, whatever is resident is stored under its own id, valid
and compatible; what is resolved is, too, and was not invalidated; and a failed insertion or
indexing changes no tier. -/
theorem tiers_served (root : String) (runtime : RuntimeCompatibility)
    (estimateAssetBytes : PerformanceAsset → Nat) (ops : List Op) :
    machine.Meets recordInvalidated (Served runtime) (new root runtime estimateAssetBytes) [] ops :=
  machine.meets_of_watch (fun _ _ op h ↦ h.next op) (fun _ _ op h ↦ h.served op)
    (new_tiers root runtime estimateAssetBytes) ops

end AssetStore

end Aivtuber
