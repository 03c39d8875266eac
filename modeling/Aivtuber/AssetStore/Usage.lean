import Aivtuber.AssetStore.Residency

/-!
# The usage records of the hot tier

An eviction takes the usage record of an asset together with the asset.  The other two ways
out of the hot tier leave the record behind: the invalidation of a generated asset, and an
index that names it under another identity.  The record is then found by the next asset of
that id.
-/

open Saturating
open Std (ExtTreeMap ExtTreeSet)

namespace Aivtuber

namespace AssetStore

/-! ## Evictions -/

section Eviction

variable {store : AssetStore} {P : AssetStore → Prop}

/-- What every single eviction preserves, the evictions down to the capacity do. -/
theorem evictBytes_induction (hevict : ∀ store id, P store → P (store.evict id))
    {candidates : List String} {estimated : Nat} (h : P store) :
    P (evictBytes estimated candidates store) := by
  induction candidates generalizing estimated store with
  | nil => exact h
  | cons victim candidates ih =>
    cases candidates with
    | nil => exact h
    | cons next candidates =>
      rw [evictBytes]
      split
      · split
        · exact ih (hevict store victim h)
        · exact ih h
      · exact h

theorem evictRounds_induction (hevict : ∀ store id, P store → P (store.evict id))
    {rounds : Nat} (h : P store) : P (evictRounds rounds store) := by
  induction rounds generalizing store with
  | zero => exact h
  | succ rounds ih =>
    rw [evictRounds]
    split
    · split
      · exact h
      · exact evictBytes_induction hevict h
    · split
      · exact ih (hevict store _ h)
      · exact h

theorem evictMetadataRounds_hotUsage (rounds : Nat) (store : AssetStore) :
    (evictMetadataRounds rounds store).hotUsage = store.hotUsage := by
  induction rounds generalizing store with
  | zero => rfl
  | succ rounds ih =>
    rw [evictMetadataRounds]
    split
    · rfl
    · split
      · exact ih _
      · rfl

end Eviction

/-! ## Records of resident assets -/

/-- The assets with a usage record are the resident ones. -/
def Recorded (store : AssetStore) : Prop := ∀ id, id ∈ store.hotUsage ↔ id ∈ store.hot

section Records

variable {store store' : AssetStore} {asset : PerformanceAsset} {id : String}

theorem new_recorded (root : String) (runtime : RuntimeCompatibility)
    (estimateAssetBytes : PerformanceAsset → Nat) :
    (new root runtime estimateAssetBytes).Recorded := fun _ ↦
  iff_of_false ExtTreeMap.not_mem_empty ExtTreeMap.not_mem_empty

theorem Recorded.congr (h : store.Recorded) (hhot : store'.hot = store.hot)
    (husage : store'.hotUsage = store.hotUsage) : store'.Recorded := by
  intro id
  rw [hhot, husage]
  exact h id

theorem Recorded.evict (h : store.Recorded) (id : String) : (store.evict id).Recorded := by
  intro other
  rw [AssetStore.evict, ExtTreeMap.mem_erase, ExtTreeMap.mem_erase, h other]

theorem Recorded.evictDynamicToCapacity (h : store.Recorded) :
    store.evictDynamicToCapacity.Recorded :=
  evictRounds_induction (P := Recorded) (fun _ id h ↦ h.evict id) h

/-- A use of a resident asset. -/
theorem Recorded.touch (h : store.Recorded) (hid : id ∈ store.hot) (use : HotUsage → HotUsage) :
    (store.touch id use).Recorded := by
  intro other
  rw [AssetStore.touch]
  dsimp only
  rw [ExtTreeMap.mem_insert, h other, Std.LawfulEqCmp.compare_eq_iff_eq]
  constructor
  · rintro (rfl | hother)
    · exact hid
    · exact hother
  · exact Or.inr

theorem Recorded.admitHot (h : store.Recorded) (asset : PerformanceAsset) :
    (store.admitHot asset).Recorded := by
  refine evictDynamicToCapacity fun other ↦ ?_
  show other ∈ (store.touch asset.id id).hotUsage ↔ other ∈ store.hot.insert asset.id asset
  rw [AssetStore.touch, ExtTreeMap.mem_insert, ExtTreeMap.mem_insert, h other]

theorem Recorded.hotGet (h : store.Recorded) (id : String) : (store.hotGet id).1.Recorded := by
  rw [AssetStore.hotGet]
  split
  case h_1 asset hfound =>
    have hcounted : Recorded { store with hotHits := satAdd store.hotHits 1 } := h.congr rfl rfl
    exact hcounted.touch (mem_hot_iff.mpr ⟨asset, hfound⟩) _
  case h_2 => exact h.congr rfl rfl

theorem Recorded.elim_admitHot (h : store.Recorded) (inserted : Option PerformanceAsset) :
    (inserted.elim store store.admitHot).Recorded := by
  cases inserted with
  | none => exact h
  | some asset => exact h.admitHot asset

theorem Recorded.persist (h : store.Recorded) (disk : Disk) (id : String) :
    (store.persistGeneratedDescriptor disk id).1.Recorded := by
  have hget := h.hotGet id
  rw [persistGeneratedDescriptor]
  dsimp only
  split
  · exact hget
  · exact hget.congr rfl rfl

theorem Recorded.setHotCacheConfig (h : store.Recorded) (config : HotCacheConfig) :
    (store.setHotCacheConfig config).Recorded := by
  have hconfigured : Recorded { store with hotConfig := config } := h.congr rfl rfl
  exact hconfigured.evictDynamicToCapacity.congr (evictMetadataRounds_frame _ _).1 (evictMetadataRounds_hotUsage _ _)

/-- There are no more records than resident assets. -/
theorem Recorded.size_le (h : store.Recorded) : store.hotUsage.size ≤ store.hot.size := by
  rw [← ExtTreeMap.length_keys, ← ExtTreeMap.length_keys]
  refine (ExtTreeMap.nodup_keys.subperm fun id hid ↦ ?_).length_le
  rw [ExtTreeMap.mem_keys] at hid ⊢
  exact (h id).mp hid

end Records

/-! ## Steps -/

/-- The index of the descriptors, if they can be indexed. -/
def reindexed? (store : AssetStore) (disk : Disk) : Option (ExtTreeMap String AssetIndexEntry) :=
  match disk.descriptors with
  | .error _ => none
  | .ok paths => (store.indexPaths disk ∅ ⟨0, 0, 0⟩ paths).toOption.map (·.1)

/-- An index does not name the asset under another identity. -/
def keptBy (next : ExtTreeMap String AssetIndexEntry) (id : String) (asset : PerformanceAsset) :
    Bool :=
  (next[id]?).all fun entry ↦ entry.identity = asset.identity

/-- An invalidation passes its checks, and removes the descriptor if there is one. -/
def invalidates (store : AssetStore) (disk : Disk) (id : String) : Bool :=
  (store.ensureInvalidatable disk id).2.isOk &&
    (store.localIndex[id]?).all fun entry ↦ (disk.remove entry.path).isOk

/-- No use of an absent asset is noted, and no resident asset goes but by an eviction. -/
def KeepsResident (e : StoreEvent) : Prop :=
  match e.input with
  | .noteHotUse id _ => id ∈ e.pre.hot
  | .invalidate disk id => e.pre.invalidates disk id = true → id ∉ e.pre.hot
  | .indexLocal disk => ∀ next, e.pre.reindexed? disk = some next →
      ∀ id asset, e.pre.hot[id]? = some asset → keptBy next id asset = true
  | _ => True

/-- After the step there are records of resident assets only, not more of them than there are
resident assets, and an asset that was absent has the record of its first use at most. -/
structure ExactRecords (e : StoreEvent) : Prop where
  resident : ∀ id ∈ e.post.hotUsage, id ∈ e.post.hot
  bounded : e.post.hotUsage.size ≤ e.post.hot.size
  fresh : ∀ asset, e.pre.inserted? e.input = some asset → asset.id ∉ e.pre.hot →
    ∀ usage, e.post.hotUsage[asset.id]? = some usage → usage = ⟨e.pre.nextUseTick, none, 0⟩

section Steps

variable {store : AssetStore} {asset : PerformanceAsset} {id : String}

theorem indexLocal_eq (store : AssetStore) (disk : Disk) :
    (store.indexLocal disk).1 = (store.reindexed? disk).elim store fun next ↦
      { store with localIndex := next, hot := store.hot.filter (keptBy next) } := by
  rw [indexLocal, reindexed?]
  cases disk.descriptors with
  | error error => rfl
  | ok paths =>
    dsimp only
    cases store.indexPaths disk ∅ ⟨0, 0, 0⟩ paths with
    | error error => rfl
    | ok indexed => rfl

theorem ensureInvalidatable_hot (store : AssetStore) (disk : Disk) (id : String) :
    (store.ensureInvalidatable disk id).1.hot = store.hot := by
  rw [ensureInvalidatable]
  split
  · rfl
  · exact store.hotGet_hot id

/-- What an invalidation does to the hot tier. -/
theorem invalidate_hot (store : AssetStore) (disk : Disk) (id : String) :
    (store.invalidateGeneratedAsset disk id).1.hot =
        (if store.invalidates disk id then store.hot.erase id else store.hot) ∧
      (store.invalidateGeneratedAsset disk id).1.hotUsage =
        (store.ensureInvalidatable disk id).1.hotUsage := by
  have hhot := store.ensureInvalidatable_hot disk id
  rw [invalidateGeneratedAsset, invalidates]
  generalize store.ensureInvalidatable disk id = checked at hhot
  obtain ⟨checked, result⟩ := checked
  cases result with
  | error error => exact ⟨hhot, rfl⟩
  | ok =>
    rw [← hhot]
    cases store.localIndex[id]? with
    | none => exact ⟨rfl, rfl⟩
    | some entry =>
      cases hremove : disk.remove entry.path with
      | error error =>
        refine ⟨?_, ?_⟩
        all_goals simp [hremove, Except.isOk, Except.toBool]
      | ok removed =>
        refine ⟨?_, ?_⟩
        all_goals simp [hremove, Except.isOk, Except.toBool]

theorem Recorded.ensureInvalidatable (h : store.Recorded) (disk : Disk) (id : String) :
    (store.ensureInvalidatable disk id).1.Recorded := by
  rw [AssetStore.ensureInvalidatable]
  split
  · exact h
  · exact h.hotGet id

/-- A use that is noted leaves the hot tier alone. -/
theorem noteHotUse_records (store : AssetStore) (id : String) (atMs : Nat) :
    (store.noteHotUse id atMs).hot = store.hot ∧
      ∀ other, other ∈ (store.noteHotUse id atMs).hotUsage ↔ id = other ∨ other ∈ store.hotUsage := by
  refine ⟨(evictMetadataRounds_frame _ _).1, fun other ↦ ?_⟩
  have husage : (store.noteHotUse id atMs).hotUsage = _ := evictMetadataRounds_hotUsage _ _
  rw [husage, touch, ExtTreeMap.mem_insert, Std.LawfulEqCmp.compare_eq_iff_eq]

theorem Recorded.noteHotUse_iff (h : store.Recorded) (atMs : Nat) :
    (∀ other ∈ (store.noteHotUse id atMs).hotUsage, other ∈ (store.noteHotUse id atMs).hot) ↔
      id ∈ store.hot := by
  obtain ⟨hhot, husage⟩ := store.noteHotUse_records id atMs
  rw [hhot]
  constructor
  · exact fun hresident ↦ hresident id ((husage id).mpr (.inl rfl))
  · intro hid other hother
    rcases (husage other).mp hother with rfl | hbefore
    · exact hid
    · exact (h other).mp hbefore

theorem Recorded.invalidate_iff (h : store.Recorded) (disk : Disk) :
    (∀ other ∈ (store.invalidateGeneratedAsset disk id).1.hotUsage,
        other ∈ (store.invalidateGeneratedAsset disk id).1.hot) ↔
      (store.invalidates disk id = true → id ∉ store.hot) := by
  have hchecked := h.ensureInvalidatable disk id
  obtain ⟨hhot, husage⟩ := store.invalidate_hot disk id
  have hrecord : ∀ other, other ∈ (store.invalidateGeneratedAsset disk id).1.hotUsage ↔
      other ∈ store.hot := by
    intro other
    rw [husage, hchecked other, ensureInvalidatable_hot]
  rw [hhot]
  constructor
  · intro hresident hinvalidates hid
    have hgone := hresident id ((hrecord id).mpr hid)
    rw [if_pos hinvalidates, ExtTreeMap.mem_erase] at hgone
    exact hgone.1 Std.ReflCmp.compare_self
  · intro habsent other hother
    rw [hrecord] at hother
    split
    case isTrue hinvalidates =>
      rw [ExtTreeMap.mem_erase]
      refine ⟨fun hcmp ↦ habsent hinvalidates ?_, hother⟩
      exact Std.LawfulEqCmp.eq_of_compare hcmp ▸ hother
    case isFalse => exact hother

theorem Recorded.indexLocal_iff (h : store.Recorded) (disk : Disk) :
    (∀ other ∈ (store.indexLocal disk).1.hotUsage, other ∈ (store.indexLocal disk).1.hot) ↔
      ∀ next, store.reindexed? disk = some next →
        ∀ id asset, store.hot[id]? = some asset → keptBy next id asset = true := by
  rw [indexLocal_eq]
  cases store.reindexed? disk with
  | none => exact iff_of_true (fun other ↦ (h other).mp) fun _ hnone ↦ by cases hnone
  | some next =>
    constructor
    · rintro hresident _ ⟨⟩ id asset hfound
      have hstays := hresident id ((h id).mpr (mem_hot_iff.mpr ⟨asset, hfound⟩))
      obtain ⟨kept, hkept⟩ := mem_hot_iff.mp hstays
      rw [Option.elim_some, ExtTreeMap.getElem?_filter', hfound, Option.filter_eq_some_iff] at hkept
      obtain ⟨hsame, hkept⟩ := hkept
      cases hsame
      exact hkept
    · intro hkept other hother
      obtain ⟨asset, hfound⟩ := mem_hot_iff.mp ((h other).mp hother)
      refine mem_hot_iff.mpr ⟨asset, ?_⟩
      rw [Option.elim_some, ExtTreeMap.getElem?_filter', hfound, Option.filter_eq_some_iff]
      exact ⟨rfl, hkept next rfl other asset hfound⟩

/-- The records are exact after a step exactly when it keeps the residents. -/
theorem Recorded.resident_iff (h : store.Recorded) (op : Op) :
    (∀ id ∈ (store.perform op).1.hotUsage, id ∈ (store.perform op).1.hot) ↔
      KeepsResident (machine.event store op) := by
  have hkept {store' : AssetStore} (h : store'.Recorded) :
      (∀ id ∈ store'.hotUsage, id ∈ store'.hot) ↔ True :=
    iff_of_true (fun id ↦ (h id).mp) trivial
  cases op with
  | insertHot asset =>
    rw [perform_insertHot]
    exact hkept (h.elim_admitHot _)
  | hotGet id => exact hkept (h.hotGet id)
  | noteHotUse id atMs => exact h.noteHotUse_iff atMs
  | resolve disk id =>
    rw [perform_resolve]
    exact hkept ((h.hotGet id).elim_admitHot _)
  | persist disk id => exact hkept (h.persist disk id)
  | invalidate disk id => exact h.invalidate_iff disk
  | indexLocal disk => exact h.indexLocal_iff disk
  | setHotCacheConfig config => exact hkept (h.setHotCacheConfig config)

/-- A resident asset keeps its record. -/
theorem Recorded.covered (h : store.Recorded) (op : Op) :
    ∀ id ∈ (store.perform op).1.hot, id ∈ (store.perform op).1.hotUsage := by
  have hkept {store' : AssetStore} (h : store'.Recorded) :
      ∀ id ∈ store'.hot, id ∈ store'.hotUsage := fun id ↦ (h id).mpr
  cases op with
  | insertHot asset =>
    rw [perform_insertHot]
    exact hkept (h.elim_admitHot _)
  | hotGet id => exact hkept (h.hotGet id)
  | noteHotUse id atMs =>
    obtain ⟨hhot, husage⟩ := store.noteHotUse_records id atMs
    intro other hother
    rw [perform, hhot] at hother
    exact (husage other).mpr (.inr ((h other).mpr hother))
  | resolve disk id =>
    rw [perform_resolve]
    exact hkept ((h.hotGet id).elim_admitHot _)
  | persist disk id => exact hkept (h.persist disk id)
  | invalidate disk id =>
    obtain ⟨hdropped, -⟩ := store.invalidate_dropped disk id
    intro other hother
    obtain ⟨asset, hfound⟩ := mem_hot_iff.mp hother
    show other ∈ (store.invalidateGeneratedAsset disk id).1.hotUsage
    rw [(store.invalidate_hot disk id).2, h.ensureInvalidatable disk id other,
      ensureInvalidatable_hot]
    exact mem_hot_iff.mpr ⟨asset, hdropped.hot hfound⟩
  | indexLocal disk =>
    obtain ⟨hdropped, -⟩ := store.indexLocal_dropped disk
    have husage : (store.indexLocal disk).1.hotUsage = store.hotUsage := by
      rw [indexLocal_eq]
      cases store.reindexed? disk with
      | none => rfl
      | some next => rfl
    intro other hother
    obtain ⟨asset, hfound⟩ := mem_hot_iff.mp hother
    show other ∈ (store.indexLocal disk).1.hotUsage
    rw [husage]
    exact (h other).mpr (mem_hot_iff.mpr ⟨asset, hdropped.hot hfound⟩)
  | setHotCacheConfig config => exact hkept (h.setHotCacheConfig config)

/-- An insertion of an absent asset begins a record. -/
theorem Recorded.admitHot_fresh (h : store.Recorded) (habsent : asset.id ∉ store.hot)
    {usage : HotUsage} (hfound : (store.admitHot asset).hotUsage[asset.id]? = some usage) :
    usage = ⟨store.nextUseTick, none, 0⟩ := by
  have hnone : store.hotUsage[asset.id]? = none :=
    ExtTreeMap.getElem?_eq_none fun hrecorded ↦ habsent ((h asset.id).mp hrecorded)
  have hevicted : ∀ usage, (store.admitHot asset).hotUsage[asset.id]? = some usage →
      usage = ⟨store.nextUseTick, none, 0⟩ := by
    refine evictRounds_induction (P := fun store' ↦ ∀ usage,
      store'.hotUsage[asset.id]? = some usage → usage = ⟨store.nextUseTick, none, 0⟩) ?_ ?_
    · intro store' victim hbefore usage hafter
      rw [AssetStore.evict, ExtTreeMap.getElem?_erase] at hafter
      split at hafter
      · cases hafter
      · exact hbefore usage hafter
    · intro usage hinserted
      rw [AssetStore.touch, hnone] at hinserted
      dsimp only at hinserted
      rw [ExtTreeMap.getElem?_insert_self] at hinserted
      cases hinserted
      rfl
  exact hevicted usage hfound

theorem Recorded.fresh (h : store.Recorded) {op : Op} (hinserted : store.inserted? op = some asset)
    (habsent : asset.id ∉ store.hot) {usage : HotUsage}
    (hfound : (store.perform op).1.hotUsage[asset.id]? = some usage) :
    usage = ⟨store.nextUseTick, none, 0⟩ := by
  cases op with
  | insertHot other =>
    have haccepted : store.accepted? other = some asset := hinserted
    rw [perform_insertHot, haccepted] at hfound
    exact h.admitHot_fresh habsent hfound
  | resolve disk id =>
    have hmissed : (store.hotGet id).1.nextUseTick = store.nextUseTick := by
      rw [inserted?] at hinserted
      rw [AssetStore.hotGet]
      cases hresident : store.hot[id]? with
      | none => rfl
      | some resident =>
        rw [hresident] at hinserted
        cases hinserted
    have hgone : asset.id ∉ (store.hotGet id).1.hot := by
      rw [hotGet_hot]
      exact habsent
    rw [perform_resolve, hinserted] at hfound
    rw [← hmissed]
    exact (h.hotGet id).admitHot_fresh hgone hfound
  | hotGet | noteHotUse | persist | invalidate | indexLocal | setHotCacheConfig => cases hinserted

theorem Recorded.exact_iff (h : store.Recorded) (op : Op) :
    ExactRecords (machine.event store op) ↔ KeepsResident (machine.event store op) := by
  rw [← h.resident_iff op]
  constructor
  · exact fun hexact ↦ hexact.resident
  · intro hresident
    have hrecorded : (store.perform op).1.Recorded := fun id ↦ ⟨hresident id, h.covered op id⟩
    exact ⟨hresident, hrecorded.size_le, fun asset hinserted habsent usage hfound ↦
      h.fresh hinserted habsent hfound⟩

end Steps

/-- **Exact records.**  In a run, there are usage records of resident assets only exactly when
no step notes a use of an absent asset, and no asset leaves the hot tier but by an eviction. -/
theorem exactRecords_iff_keepsResident (root : String) (runtime : RuntimeCompatibility)
    (estimateAssetBytes : PerformanceAsset → Nat) (ops : List Op) :
    machine.Meets (fun (_ : Unit) _ ↦ ()) (fun _ ↦ ExactRecords)
        (new root runtime estimateAssetBytes) () ops ↔
      machine.Meets (fun (_ : Unit) _ ↦ ()) (fun _ ↦ KeepsResident)
        (new root runtime estimateAssetBytes) () ops :=
  machine.meets_congr_of_watch (P := fun store _ ↦ store.Recorded)
    (fun _ _ op h hexact id ↦ ⟨hexact.resident id, h.covered op id⟩)
    (fun _ _ op h ↦ h.exact_iff op) (new_recorded root runtime estimateAssetBytes) ops

/-- A disk on which a generated asset was never written. -/
def blankDisk : Disk where
  descriptors := .ok []
  read path := .error (.io path "not found")
  createRoot := .ok ()
  pathExists _ := false
  write _ := .ok ()
  remove _ := .ok ()

/-- An invalidated asset leaves its record behind, and is inserted again with it. -/
theorem invalidated_record_kept :
    ¬ machine.Meets (fun (_ : Unit) _ ↦ ()) (fun _ ↦ ExactRecords)
      (new "assets" ⟨"1", none, none, none, none⟩ fun _ ↦ 1) ()
      [.insertHot (fillerAsset "filler.one" generatedProvenance), .noteHotUse "filler.one" 5,
        .invalidate blankDisk "filler.one"] := by
  intro h
  have hbounded := h.2.2.1.bounded
  revert hbounded
  decide +kernel

end AssetStore

end Aivtuber
