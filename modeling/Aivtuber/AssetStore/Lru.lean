import Aivtuber.AssetStore.Eviction

/-!
# Least recently used

The use ticks of resident assets are the times of their last uses, on a clock of 64 bits
(`Timed`).  So what an eviction takes was used longest ago, and the asset that was just inserted is
the last to go (`newest_notMem_victims`), until the clock has run out.
-/

open Saturating
open Std (ExtTreeMap ExtTreeSet)
open Recency

namespace Aivtuber

namespace AssetStore

/-! ## Evictions of a list of ids -/

section EvictAll

variable {store : AssetStore} {id : String} {ids : List String}

theorem hot_evictAll (store : AssetStore) (ids : List String) (id : String) :
    (store.evictAll ids).hot[id]? = if id ∈ ids then none else store.hot[id]? := by
  induction ids generalizing store with
  | nil => rfl
  | cons victim ids ih =>
    rw [evictAll_cons, ih, evict]
    dsimp only
    simp only [ExtTreeMap.getElem?_erase, Std.LawfulEqCmp.compare_eq_iff_eq]
    by_cases hid : id ∈ ids
    · rw [if_pos hid, if_pos (List.mem_cons_of_mem _ hid)]
    · by_cases hvictim : victim = id
      · rw [if_neg hid, if_pos hvictim, if_pos (List.mem_cons.mpr (.inl hvictim.symm))]
      · rw [if_neg hid, if_neg hvictim, if_neg]
        rintro (_ | ⟨_, hmem⟩)
        · exact hvictim rfl
        · exact hid hmem

theorem evictAll_frame (store : AssetStore) (ids : List String) :
    (store.evictAll ids).pinnedIds = store.pinnedIds ∧
      (store.evictAll ids).hotConfig = store.hotConfig ∧
      (store.evictAll ids).nextUseTick = store.nextUseTick := by
  induction ids generalizing store with
  | nil => exact ⟨rfl, rfl, rfl⟩
  | cons victim ids ih => exact ih (store.evict victim)

theorem hotEvictions_evictAll (h : store.hotEvictions ≤ u64Max) :
    (store.evictAll ids).hotEvictions = satAdd store.hotEvictions ids.length := by
  induction ids generalizing store with
  | nil => exact (Nat.min_eq_left h).symm
  | cons victim ids ih =>
    rw [evictAll_cons, ih (satAdd_le_max _ _)]
    show satAdd (min (store.hotEvictions + 1) u64Max) ids.length = _
    rw [satAdd_min, List.length_cons, Nat.add_assoc, Nat.add_comm 1]
    rfl

theorem mem_dynamicIds_evictAll :
    id ∈ (store.evictAll ids).dynamicIds ↔ id ∉ ids ∧ id ∈ store.dynamicIds := by
  rw [mem_dynamicIds, mem_dynamicIds, mem_hot_iff, mem_hot_iff, (store.evictAll_frame ids).1,
    hot_evictAll]
  by_cases hid : id ∈ ids
  · simp [hid]
  · simp [hid]

theorem sizeVictims_sublist (estimated : Nat) (candidates : List String) (store : AssetStore) :
    (sizeVictims estimated candidates store).Sublist candidates.dropLast := by
  induction candidates generalizing estimated store with
  | nil => exact .slnil
  | cons victim candidates ih =>
    cases candidates with
    | nil => exact .slnil
    | cons next candidates =>
      rw [sizeVictims, List.dropLast_cons_cons]
      split
      · cases store.hot[victim]? with
        | some asset => exact (ih _ _).cons_cons victim
        | none => exact (ih _ _).cons victim
      · exact List.nil_sublist _

theorem evictionOrder_counted (store : AssetStore) :
    (store.evictAll store.countEvicted).evictionOrder = store.evictionOrder.drop
      (store.dynamicIds.length - store.hotConfig.maxDynamicAssets) := by
  rw [countEvicted_eq]
  exact evictionOrder_evictAll _ store

theorem sizeEvicted_sublist (store : AssetStore) :
    store.sizeEvicted.Sublist (store.evictAll store.countEvicted).evictionOrder.dropLast := by
  rw [sizeEvicted]
  split
  · exact List.nil_sublist _
  · exact sizeVictims_sublist _ _ _

/-- The victims are dynamic ids, in the order of their last use. -/
theorem victims_sublist (store : AssetStore) :
    (store.countEvicted ++ store.sizeEvicted).Sublist store.evictionOrder := by
  have hsize := store.sizeEvicted_sublist.trans (List.dropLast_sublist _)
  rw [evictionOrder_counted] at hsize
  conv =>
    right
    rw [← List.take_append_drop
      (store.dynamicIds.length - store.hotConfig.maxDynamicAssets) store.evictionOrder]
  rw [countEvicted_eq]
  exact hsize.append_left _

/-- The dynamic id that was used last is evicted only if none may stay. -/
theorem newest_notMem_victims (hdynamic : id ∈ store.dynamicIds)
    (hnewest : ∀ other ∈ store.dynamicIds, other ≠ id →
      rankKey store.useTick other < rankKey store.useTick id)
    (hmax : 1 ≤ store.hotConfig.maxDynamicAssets) :
    id ∉ store.countEvicted ++ store.sizeEvicted := by
  have hcount : id ∉ store.countEvicted := by
    rw [countEvicted_eq, ← length_evictionOrder, mem_take_sub_iff store.pairwise_evictionOrder]
    rintro ⟨-, hbehind⟩
    obtain ⟨other, hother⟩ := List.exists_mem_of_length_pos (Nat.lt_of_lt_of_le hmax hbehind)
    obtain ⟨hmem, hlater⟩ := List.mem_filter.mp hother
    have hlater := of_decide_eq_true hlater
    refine lt_asymm hlater (hnewest other (mem_evictionOrder.mp hmem) ?_)
    rintro rfl
    exact lt_irrefl _ hlater
  intro hid
  rcases List.mem_append.mp hid with hid | hid
  · exact hcount hid
  · have hlast := store.sizeEvicted_sublist.subset hid
    rw [evictionOrder_counted] at hlast
    refine notMem_dropLast (store.pairwise_evictionOrder.drop) ?_ hlast
    exact fun other hother ↦ hnewest other (mem_evictionOrder.mp (List.mem_of_mem_drop hother))

end EvictAll

/-! ## Uses -/

/-- A store with an asset in it that has passed the checks, before the eviction. -/
def placed (store : AssetStore) (asset : PerformanceAsset) : AssetStore :=
  { store.touch asset.id id with
    pinnedIds := if asset.isGenerated then store.pinnedIds else store.pinnedIds.insert asset.id
    hot := store.hot.insert asset.id asset }

/-- The store in which an operation looks for its victims. -/
def evictedFrom? (store : AssetStore) : Op → Option AssetStore
  | .insertHot asset => (store.accepted? asset).map store.placed
  | .resolve disk id => (store.inserted? (.resolve disk id)).map (store.hotGet id).1.placed
  | .setHotCacheConfig config => some { store with hotConfig := config }
  | _ => none

/-- The use of a resident asset. -/
def hits (store : AssetStore) (id : String) : List String :=
  if (store.hot[id]?).isSome then [id] else []

/-- The ids that an operation uses. -/
def used (store : AssetStore) : Op → List String
  | .insertHot asset => ((store.accepted? asset).map (·.id)).toList
  | .hotGet id | .persist _ id => store.hits id
  | .noteHotUse id _ => [id]
  | .resolve disk id => ((store.inserted? (.resolve disk id)).map (·.id)).toList ++ store.hits id
  | .invalidate _ id => if (store.localIndex[id]?).isSome then [] else store.hits id
  | .indexLocal _ | .setHotCacheConfig _ => []

/-- The uses, the newest first. -/
def recordUse (uses : List String) (e : StoreEvent) : List String := e.pre.used e.input ++ uses

/-- The clock counts the uses, and a resident asset has the time of its last one. -/
structure Timed (store : AssetStore) (uses : List String) : Prop where
  clock : store.nextUseTick = min uses.length u64Max
  used : ∀ id ∈ store.hot, (lastUse id uses).isSome ∧ store.useTick id = stamp uses id
  evictions : store.hotEvictions ≤ u64Max

section Times

variable {store store' : AssetStore} {uses : List String} {id : String} {asset : PerformanceAsset}

theorem new_timed (root : String) (runtime : RuntimeCompatibility)
    (estimateAssetBytes : PerformanceAsset → Nat) :
    (new root runtime estimateAssetBytes).Timed [] where
  clock := rfl
  used _ hid := absurd hid ExtTreeMap.not_mem_empty
  evictions := Nat.zero_le _

theorem Timed.congr (h : store.Timed uses) (hhot : ∀ id ∈ store'.hot, id ∈ store.hot)
    (husage : store'.hotUsage = store.hotUsage) (hclock : store'.nextUseTick = store.nextUseTick)
    (hevictions : store'.hotEvictions = store.hotEvictions) : store'.Timed uses where
  clock := hclock.trans h.clock
  used id hid := by
    rw [useTick, husage]
    exact h.used id (hhot id hid)
  evictions := hevictions ▸ h.evictions

/-- A use takes the next time. -/
theorem Timed.touch (h : store.Timed uses) (id : String) {f : HotUsage → HotUsage}
    (huse : ∀ usage, (f usage).useTick = usage.useTick) :
    (store.touch id f).nextUseTick = min (id :: uses).length u64Max ∧
      ∀ other, other ∈ store.hot ∨ other = id → (lastUse other (id :: uses)).isSome ∧
        (store.touch id f).useTick other = stamp (id :: uses) other := by
  refine ⟨?_, fun other hother ↦ ?_⟩
  · show satAdd store.nextUseTick 1 = _
    rw [h.clock, satAdd_min]
    rfl
  · rw [useTick, AssetStore.touch]
    simp only [ExtTreeMap.getElem?_insert, Std.LawfulEqCmp.compare_eq_iff_eq]
    by_cases heq : id = other
    · subst heq
      rw [if_pos rfl, lastUse_cons_self, stamp_cons_self, Option.elim_some, huse]
      exact ⟨rfl, h.clock⟩
    · rw [if_neg heq, lastUse_cons_of_ne heq, stamp_cons_of_ne heq]
      rcases hother with hother | rfl
      · exact h.used other hother
      · exact absurd rfl heq

theorem Timed.evict (h : store.Timed uses) (id : String) : (store.evict id).Timed uses where
  clock := h.clock
  used other hother := by
    rw [AssetStore.evict, ExtTreeMap.mem_erase, Ne, Std.LawfulEqCmp.compare_eq_iff_eq] at hother
    rw [useTick_evict (Ne.symm hother.1)]
    exact h.used other hother.2
  evictions := satAdd_le_max _ _

theorem Timed.evictDynamicToCapacity (h : store.Timed uses) :
    store.evictDynamicToCapacity.Timed uses :=
  evictRounds_induction (P := fun store ↦ store.Timed uses) (fun _ id h ↦ h.evict id) h

theorem Timed.placed (h : store.Timed uses) (asset : PerformanceAsset) :
    (store.placed asset).Timed (asset.id :: uses) := by
  obtain ⟨hclock, hused⟩ := h.touch asset.id (f := id) fun _ ↦ rfl
  refine ⟨hclock, fun other hother ↦ hused other ?_, h.evictions⟩
  rw [AssetStore.placed, ExtTreeMap.mem_insert, Std.LawfulEqCmp.compare_eq_iff_eq] at hother
  rcases hother with rfl | hother
  · exact .inr rfl
  · exact .inl hother

theorem Timed.hotGet (h : store.Timed uses) (id : String) :
    (store.hotGet id).1.Timed (store.hits id ++ uses) := by
  rw [AssetStore.hotGet, hits]
  cases store.hot[id]? with
  | none => exact h.congr (fun _ hid ↦ hid) rfl rfl rfl
  | some asset =>
    have hcounted : Timed { store with hotHits := satAdd store.hotHits 1 } uses :=
      h.congr (fun _ hid ↦ hid) rfl rfl rfl
    obtain ⟨hclock, hused⟩ := hcounted.touch id (f := fun usage ↦ usage) fun _ ↦ rfl
    exact ⟨hclock, fun other hother ↦ hused other (.inl hother), h.evictions⟩

theorem evictMetadataRounds_clock (rounds : Nat) (store : AssetStore) :
    (evictMetadataRounds rounds store).nextUseTick = store.nextUseTick ∧
      (evictMetadataRounds rounds store).hotEvictions = store.hotEvictions := by
  induction rounds generalizing store with
  | zero => exact ⟨rfl, rfl⟩
  | succ rounds ih =>
    rw [evictMetadataRounds]
    split
    · exact ⟨rfl, rfl⟩
    · split
      · exact ih _
      · exact ⟨rfl, rfl⟩

theorem Timed.noteHotUse (h : store.Timed uses) (id : String) (atMs : Nat) :
    (store.noteHotUse id atMs).Timed (id :: uses) := by
  obtain ⟨hclock, hused⟩ := h.touch id (f := fun usage ↦
    { usage with noteCount := satAdd usage.noteCount 1, lastUsedAtMs := some atMs }) fun _ ↦ rfl
  have htouched : Timed (store.touch id fun usage ↦
      { usage with noteCount := satAdd usage.noteCount 1, lastUsedAtMs := some atMs })
      (id :: uses) := ⟨hclock, fun other hother ↦ hused other (.inl hother), h.evictions⟩
  obtain ⟨hhot, -⟩ := store.noteHotUse_records id atMs
  refine htouched.congr (fun other hother ↦ hhot ▸ hother) ?_ ?_ ?_
  · exact evictMetadataRounds_hotUsage _ _
  · exact (evictMetadataRounds_clock _ _).1
  · exact (evictMetadataRounds_clock _ _).2

theorem Timed.elim_admitHot (h : store.Timed uses) (inserted : Option PerformanceAsset) :
    (inserted.elim store store.admitHot).Timed ((inserted.map (·.id)).toList ++ uses) := by
  cases inserted with
  | none => exact h
  | some asset => exact (h.placed asset).evictDynamicToCapacity

theorem Timed.persist (h : store.Timed uses) (disk : Disk) (id : String) :
    (store.persistGeneratedDescriptor disk id).1.Timed (store.hits id ++ uses) := by
  have hget := h.hotGet id
  rw [persistGeneratedDescriptor]
  dsimp only
  split
  · exact hget
  · exact hget.congr (fun _ hid ↦ hid) rfl rfl rfl

theorem Timed.invalidate (h : store.Timed uses) (disk : Disk) (id : String) :
    (store.invalidateGeneratedAsset disk id).1.Timed
      (store.used (.invalidate disk id) ++ uses) := by
  have hchecked : (store.ensureInvalidatable disk id).1.Timed
      (store.used (.invalidate disk id) ++ uses) := by
    rw [ensureInvalidatable, AssetStore.used]
    cases store.localIndex[id]? with
    | none => exact h.hotGet id
    | some entry => exact h
  have herase : ∀ {checked : AssetStore} (localIndex : ExtTreeMap String AssetIndexEntry),
      checked.Timed (store.used (.invalidate disk id) ++ uses) →
        Timed { checked with localIndex := localIndex, hot := checked.hot.erase id }
          (store.used (.invalidate disk id) ++ uses) := by
    intro checked localIndex hchecked
    refine hchecked.congr (fun other hother ↦ ?_) rfl rfl rfl
    exact (ExtTreeMap.mem_erase.mp hother).2
  rw [invalidateGeneratedAsset]
  split
  case h_1 checked error hcheck =>
    rw [hcheck] at hchecked
    exact hchecked
  case h_2 checked hcheck =>
    rw [hcheck] at hchecked
    split
    · exact herase _ hchecked
    · split
      · exact hchecked
      · exact herase _ hchecked

/-- Every operation keeps the times. -/
theorem Timed.perform (h : store.Timed uses) (op : Op) :
    (store.perform op).1.Timed (store.used op ++ uses) := by
  cases op with
  | insertHot asset =>
    rw [perform_insertHot]
    exact h.elim_admitHot _
  | hotGet id => exact h.hotGet id
  | noteHotUse id atMs => exact h.noteHotUse id atMs
  | resolve disk id =>
    rw [perform_resolve, AssetStore.used, List.append_assoc]
    exact (h.hotGet id).elim_admitHot _
  | persist disk id => exact h.persist disk id
  | invalidate disk id => exact h.invalidate disk id
  | indexLocal disk =>
    rw [AssetStore.perform, indexLocal_eq]
    cases store.reindexed? disk with
    | none => exact h
    | some next =>
      refine h.congr (fun other hother ↦ ?_) rfl rfl rfl
      exact (ExtTreeMap.mem_filter.mp hother).1
  | setHotCacheConfig config =>
    have hconfigured : Timed { store with hotConfig := config } uses :=
      h.congr (fun _ hid ↦ hid) rfl rfl rfl
    refine hconfigured.evictDynamicToCapacity.congr (fun other hother ↦ ?_) ?_ ?_ ?_
    · exact (evictMetadataRounds_frame _ _).1 ▸ hother
    · exact evictMetadataRounds_hotUsage _ _
    · exact (evictMetadataRounds_clock _ _).1
    · exact (evictMetadataRounds_clock _ _).2

/-- What was just used is the newest, until the clock runs out. -/
theorem Timed.newest (h : store.Timed (id :: uses)) (hid : id ∈ store.hot)
    (hclock : uses.length ≤ u64Max) : ∀ other ∈ store.dynamicIds, other ≠ id →
      rankKey store.useTick other < rankKey store.useTick id := by
  intro other hother hne
  obtain ⟨hused, htick⟩ := h.used other (mem_dynamicIds.mp hother).1
  obtain ⟨n, hn⟩ := Option.isSome_iff_exists.mp hused
  rw [lastUse_cons_of_ne (Ne.symm hne)] at hn
  rw [rankKey, rankKey, htick, (h.used _ hid).2, Prod.Lex.toLex_lt_toLex]
  exact .inl (stamp_lt_stamp_cons_self hn (Ne.symm hne) hclock)

end Times

theorem event_post (store : AssetStore) (op : Op) :
    (machine.event store op).post = (store.perform op).1 := rfl

/-- The store before the operations. -/
def emptyStore : AssetStore := new "assets" ⟨"1", none, none, none, none⟩ fun _ ↦ 1

end AssetStore

end Aivtuber
