import Mathlib.Data.List.Sort
import Std.Data.ExtTreeSet
import Aivtuber.AssetStore.Asset
import Aivtuber.Base.Machine

/-!
# The asset store

`AssetStore` of `crates/asset-store/src/lib.rs`: a hot tier in memory over an index of
local descriptors.  The files behind the index may change at any time, so each operation
that touches them is given what the disk answers to it.

An asset that was not generated is pinned when it is inserted; the others are evicted in
the order of their last use, down to a bound on their number and to a budget of bytes.
-/

open Saturating
open Std (ExtTreeMap ExtTreeSet)

namespace Aivtuber

inductive CacheTier where
  | memory | localStorage | generated
deriving DecidableEq, Repr

inductive AssetStoreError where
  | io (path source : String)
  | json (path message : String)
  | invalidAsset (path : Option String) (issues : List ValidationIssue)
  | duplicateId (id first second : String)
  | notFound (id : String)
  | incompatible (id : String) (mismatches : List CompatibilityMismatch)
  | notGenerated (id : String)
  | alreadyPersisted (id path : String)
deriving DecidableEq, Repr

/-- What the file system answers during an operation. -/
structure Disk where
  /-- The descriptors directly under the root, in the order of their paths. -/
  descriptors : Except AssetStoreError (List String)
  /-- A file, read and parsed. -/
  read : String → Except AssetStoreError PerformanceAsset
  createRoot : Except AssetStoreError Unit
  pathExists : String → Bool
  /-- A descriptor is serialized, written to a temporary file and renamed. -/
  write : String → Except AssetStoreError Unit
  remove : String → Except AssetStoreError Unit

def loadAssetFile (disk : Disk) (path : String) : Except AssetStoreError PerformanceAsset :=
  match disk.read path with
  | .error error => .error error
  | .ok asset =>
    match asset.validate with
    | .error issues => .error (.invalidAsset (some path) issues)
    | .ok () => .ok asset

def ensureGenerated (asset : PerformanceAsset) : Except AssetStoreError Unit :=
  if asset.isGenerated then .ok () else .error (.notGenerated asset.id)

structure AssetIndexEntry where
  identity : AssetIdentity
  path : String
  assetClass : AssetClass
  variantGroup : Option String
  compatibility : CompatibilityStatus
  semanticEmbedding : Option SemanticEmbedding
deriving DecidableEq

structure IndexReport where
  indexed : Nat
  usable : Nat
  incompatible : Nat
deriving DecidableEq, Repr

structure HotCacheConfig where
  maxDynamicAssets : Nat
  maxDynamicBytes : Nat
  maxPromotionMetadata : Nat
deriving DecidableEq, Repr

def HotCacheConfig.default : HotCacheConfig where
  maxDynamicAssets := 1024
  maxDynamicBytes := u64Max
  maxPromotionMetadata := 4096

structure PromotionMetadata where
  id : String
  useCount : Nat
  lastUsedAtMs : Option Nat
deriving DecidableEq, Repr

structure HotUsage where
  useTick : Nat
  lastUsedAtMs : Option Nat
  noteCount : Nat
deriving DecidableEq, Repr

def HotUsage.default : HotUsage := ⟨0, none, 0⟩

structure AssetStore where
  root : String
  runtime : RuntimeCompatibility
  /-- The serialized footprint of an asset. -/
  estimateAssetBytes : PerformanceAsset → Nat
  hot : ExtTreeMap String PerformanceAsset
  pinnedIds : ExtTreeSet String
  hotConfig : HotCacheConfig
  hotUsage : ExtTreeMap String HotUsage
  promotionMetadata : ExtTreeMap String PromotionMetadata
  promotionMetadataHighWater : Nat
  promotionMetadataEvictions : Nat
  hotHits : Nat
  hotMisses : Nat
  hotEvictions : Nat
  nextUseTick : Nat
  localIndex : ExtTreeMap String AssetIndexEntry

namespace AssetStore

def new (root : String) (runtime : RuntimeCompatibility)
    (estimateAssetBytes : PerformanceAsset → Nat) : AssetStore where
  root := root
  runtime := runtime
  estimateAssetBytes := estimateAssetBytes
  hot := ∅
  pinnedIds := ∅
  hotConfig := .default
  hotUsage := ∅
  promotionMetadata := ∅
  promotionMetadataHighWater := 0
  promotionMetadataEvictions := 0
  hotHits := 0
  hotMisses := 0
  hotEvictions := 0
  nextUseTick := 0
  localIndex := ∅

/-! ## Eviction -/

/-- The ids by their rank, and then by themselves. -/
def sortByRank (rank : String → Nat) (ids : List String) : List String :=
  ids.insertionSort fun a b ↦ rank a < rank b ∨ rank a = rank b ∧ a ≤ b

/-- The use tick of an id, zero without a record. -/
def useTick (store : AssetStore) (id : String) : Nat := (store.hotUsage[id]?).elim 0 (·.useTick)

def dynamicIds (store : AssetStore) : List String :=
  store.hot.keys.filter (!store.pinnedIds.contains ·)

def residentBytes (store : AssetStore) : Nat :=
  (store.hot.toList.map fun entry ↦ store.estimateAssetBytes entry.2).sum

def evict (store : AssetStore) (id : String) : AssetStore :=
  { store with
    hot := store.hot.erase id
    hotUsage := store.hotUsage.erase id
    hotEvictions := satAdd store.hotEvictions 1 }

/-- Evict candidates until the estimated bytes are in the budget, and keep the last one. -/
def evictBytes (estimated : Nat) : List String → AssetStore → AssetStore
  | victim :: next :: candidates, store =>
    if store.hotConfig.maxDynamicBytes < estimated then
      match store.hot[victim]? with
      | some asset =>
        evictBytes (estimated - store.estimateAssetBytes asset) (next :: candidates)
          (store.evict victim)
      | none => evictBytes estimated (next :: candidates) store
    else store
  | _, store => store

/-- The rounds of `evict_dynamic_to_capacity`. -/
def evictRounds : Nat → AssetStore → AssetStore
  | 0, store => store
  | rounds + 1, store =>
    let candidates := sortByRank store.useTick store.dynamicIds
    if store.dynamicIds.length ≤ store.hotConfig.maxDynamicAssets then
      if store.residentBytes ≤ store.hotConfig.maxDynamicBytes || store.dynamicIds.isEmpty then
        store
      else evictBytes store.residentBytes candidates store
    else
      match candidates with
      | victim :: _ => evictRounds rounds (store.evict victim)
      | [] => store

/-- Each round but the last evicts one resident asset. -/
def evictDynamicToCapacity (store : AssetStore) : AssetStore :=
  evictRounds (store.hot.size + 1) store

/-- The rounds of `evict_promotion_metadata_to_capacity`. -/
def evictMetadataRounds : Nat → AssetStore → AssetStore
  | 0, store => store
  | rounds + 1, store =>
    let lastUsed (id : String) : Nat :=
      ((store.promotionMetadata[id]?).bind (·.lastUsedAtMs)).getD 0
    if store.promotionMetadata.size ≤ store.hotConfig.maxPromotionMetadata then store
    else
      match sortByRank lastUsed store.promotionMetadata.keys with
      | victim :: _ =>
        evictMetadataRounds rounds
          { store with
            promotionMetadata := store.promotionMetadata.erase victim
            promotionMetadataEvictions := satAdd store.promotionMetadataEvictions 1 }
      | [] => store

def evictPromotionMetadataToCapacity (store : AssetStore) : AssetStore :=
  evictMetadataRounds (store.promotionMetadata.size + 1) store

def setHotCacheConfig (store : AssetStore) (config : HotCacheConfig) : AssetStore :=
  { store with hotConfig := config }.evictDynamicToCapacity.evictPromotionMetadataToCapacity

/-! ## The hot tier -/

/-- The record of an id, with the current tick, and the clock moved on. -/
def touch (store : AssetStore) (id : String) (use : HotUsage → HotUsage) : AssetStore :=
  let usage := (store.hotUsage[id]?).getD .default
  { store with
    nextUseTick := satAdd store.nextUseTick 1
    hotUsage := store.hotUsage.insert id (use { usage with useTick := store.nextUseTick }) }

def noteHotUse (store : AssetStore) (id : String) (atMs : Nat) : AssetStore :=
  let store := store.touch id fun usage ↦
    { usage with noteCount := satAdd usage.noteCount 1, lastUsedAtMs := some atMs }
  let useCount := (store.promotionMetadata[id]?).elim 0 (·.useCount)
  let store := { store with
    promotionMetadata := store.promotionMetadata.insert id
      { id, useCount := satAdd useCount 1, lastUsedAtMs := some atMs } }
  let store := store.evictPromotionMetadataToCapacity
  { store with
    promotionMetadataHighWater :=
      max store.promotionMetadataHighWater store.promotionMetadata.size }

/-- An asset that has passed the checks of `insert_hot`. -/
def admitHot (store : AssetStore) (asset : PerformanceAsset) : AssetStore :=
  let store := store.touch asset.id id
  { store with
    pinnedIds := if asset.isGenerated then store.pinnedIds else store.pinnedIds.insert asset.id
    hot := store.hot.insert asset.id asset }.evictDynamicToCapacity

def checkHot (store : AssetStore) (asset : PerformanceAsset) : Except AssetStoreError Unit :=
  match asset.validate with
  | .error issues => .error (.invalidAsset none issues)
  | .ok () =>
    match asset.compatibility.check store.runtime with
    | .incompatible mismatches => .error (.incompatible asset.id mismatches)
    | .usable => .ok ()

def insertHot (store : AssetStore) (asset : PerformanceAsset) :
    AssetStore × Except AssetStoreError PerformanceAsset :=
  match store.checkHot asset with
  | .error error => (store, .error error)
  | .ok () => (store.admitHot asset, .ok asset)

def hotGet (store : AssetStore) (id : String) : AssetStore × Option PerformanceAsset :=
  match store.hot[id]? with
  | some asset =>
    ({ store with hotHits := satAdd store.hotHits 1 }.touch id (fun usage ↦ usage), some asset)
  | none => ({ store with hotMisses := satAdd store.hotMisses 1 }, none)

/-! ## The local tier -/

def indexEntry (store : AssetStore) (path : String) (asset : PerformanceAsset) : AssetIndexEntry where
  identity := asset.identity
  path := path
  assetClass := asset.assetClass
  variantGroup := asset.variantGroup
  compatibility := asset.compatibility.check store.runtime
  semanticEmbedding := asset.semanticEmbedding

/-- The index of the descriptors, one after the other. -/
def indexPaths (store : AssetStore) (disk : Disk) (next : ExtTreeMap String AssetIndexEntry)
    (report : IndexReport) :
    List String → Except AssetStoreError (ExtTreeMap String AssetIndexEntry × IndexReport)
  | [] => .ok (next, report)
  | path :: paths =>
    match loadAssetFile disk path with
    | .error error => .error error
    | .ok asset =>
      match next[asset.id]? with
      | some previous => .error (.duplicateId asset.id previous.path path)
      | none =>
        let entry := store.indexEntry path asset
        store.indexPaths disk (next.insert asset.id entry)
          { indexed := report.indexed + 1
            usable := report.usable + if entry.compatibility.isUsable then 1 else 0
            incompatible :=
              report.incompatible + if entry.compatibility.isUsable then 0 else 1 }
          paths

/-- Resident assets that the new index names under another identity are dropped. -/
def indexLocal (store : AssetStore) (disk : Disk) : AssetStore × Except AssetStoreError IndexReport :=
  match disk.descriptors with
  | .error error => (store, .error error)
  | .ok paths =>
    match store.indexPaths disk ∅ ⟨0, 0, 0⟩ paths with
    | .error error => (store, .error error)
    | .ok (next, report) =>
      ({ store with
          localIndex := next
          hot := store.hot.filter fun id asset ↦
            (next[id]?).all fun entry ↦ entry.identity = asset.identity },
        .ok report)

/-- Where the descriptor of an asset is written. -/
def descriptorPath (store : AssetStore) (id : String) : String := store.root ++ "/" ++ id ++ ".json"

/-- The checks of `persist_generated_descriptor`, and its write. -/
def writeDescriptor (store : AssetStore) (disk : Disk) (id : String)
    (found : Option PerformanceAsset) : Except AssetStoreError PerformanceAsset := do
  let asset ← Check.expect (.notFound id) found
  ensureGenerated asset
  match asset.compatibility.check store.runtime with
  | .incompatible mismatches => throw (.incompatible id mismatches)
  | .usable => pure ()
  match store.localIndex[id]? with
  | some existing => throw (.alreadyPersisted id existing.path)
  | none => pure ()
  disk.createRoot
  Check.ensure (.alreadyPersisted id (store.descriptorPath id))
    (!disk.pathExists (store.descriptorPath id))
  disk.write (store.descriptorPath id)
  pure asset

def persistGeneratedDescriptor (store : AssetStore) (disk : Disk) (id : String) :
    AssetStore × Except AssetStoreError String :=
  let (store, found) := store.hotGet id
  match store.writeDescriptor disk id found with
  | .error error => (store, .error error)
  | .ok asset =>
    let entry := store.indexEntry (store.descriptorPath id) asset
    ({ store with localIndex := store.localIndex.insert id { entry with compatibility := .usable } },
      .ok (store.descriptorPath id))

/-- The check of provenance: on the descriptor if there is one, and on the resident asset
otherwise. -/
def ensureInvalidatable (store : AssetStore) (disk : Disk) (id : String) :
    AssetStore × Except AssetStoreError Unit :=
  match store.localIndex[id]? with
  | some entry =>
    (store, do
      let persisted ← loadAssetFile disk entry.path
      ensureGenerated persisted)
  | none =>
    let (store, found) := store.hotGet id
    (store, do
      let asset ← Check.expect (.notFound id) found
      ensureGenerated asset)

def invalidateGeneratedAsset (store : AssetStore) (disk : Disk) (id : String) :
    AssetStore × Except AssetStoreError Unit :=
  let localEntry := store.localIndex[id]?
  match store.ensureInvalidatable disk id with
  | (store, .error error) => (store, .error error)
  | (store, .ok ()) =>
    match localEntry with
    | none => ({ store with hot := store.hot.erase id }, .ok ())
    | some entry =>
      match disk.remove entry.path with
      | .error error => (store, .error error)
      | .ok () =>
        ({ store with localIndex := store.localIndex.erase id, hot := store.hot.erase id },
          .ok ())

/-- The descriptor behind an entry of the index, if it is still the one that was indexed. -/
def loadIndexed (store : AssetStore) (disk : Disk) (id : String) :
    Except AssetStoreError PerformanceAsset := do
  let entry ← Check.expect (.notFound id) store.localIndex[id]?
  match entry.compatibility with
  | .incompatible mismatches => throw (.incompatible id mismatches)
  | .usable => pure ()
  let asset ← loadAssetFile disk entry.path
  Check.ensure
    (.json entry.path ("indexed id " ++ id.quote ++ " changed to " ++ asset.id.quote ++
      "; rebuild the L1 index"))
    (asset.id = id)
  Check.ensure (.json entry.path "compatibility identity changed; rebuild the L1 index")
    (asset.identity = entry.identity)
  pure asset

def resolveWithTier (store : AssetStore) (disk : Disk) (id : String) :
    AssetStore × Except AssetStoreError (PerformanceAsset × CacheTier) :=
  match store.hotGet id with
  | (store, some asset) => (store, .ok (asset, .memory))
  | (store, none) =>
    match store.loadIndexed disk id with
    | .error error => (store, .error error)
    | .ok asset =>
      ((store.insertHot asset).1, (store.insertHot asset).2.map fun asset ↦ (asset, .localStorage))

/-! ## Variants -/

/-- A step of the hash over a byte. -/
def hashByte (hash : UInt64) (b : UInt8) : UInt64 := (hash ^^^ b.toUInt64) * 0x100000001b3

/-- The bytes of 64 bits, the lowest first. -/
def leBytes (n : Nat) : List UInt8 := (List.range 8).map fun i ↦ UInt8.ofNat (n >>> (8 * i))

def stableVariantIndex (seed : Nat) (variantGroup : String) (len : Nat) : Nat :=
  ((leBytes seed ++ Text.utf8 variantGroup).foldl hashByte 0xcbf29ce484222325).toNat % len

/-- The usable ids of a group, on disk or resident. -/
def variantIds (store : AssetStore) (variantGroup : String) : List String :=
  let indexed := store.localIndex.filter fun _ entry ↦
    entry.compatibility.isUsable && entry.variantGroup = some variantGroup
  let resident := store.hot.filter fun _ asset ↦
    asset.variantGroup = some variantGroup &&
      (asset.compatibility.check store.runtime).isUsable
  ((indexed.keys ++ resident.keys).foldl ExtTreeSet.insert (∅ : ExtTreeSet String)).toList

/-- A variant that was not used recently, if there is one. -/
def selectVariantId (store : AssetStore) (variantGroup : String) (seed : Nat)
    (recentlyUsed : List String) : Option String :=
  let all := store.variantIds variantGroup
  let preferred := all.filter (!recentlyUsed.contains ·)
  let candidates := if preferred.isEmpty then all else preferred
  if candidates.isEmpty then none
  else candidates[stableVariantIndex seed variantGroup candidates.length]?

def selectVariantWithTier (store : AssetStore) (disk : Disk) (variantGroup : String) (seed : Nat)
    (recentlyUsed : List String) : AssetStore × Except AssetStoreError (PerformanceAsset × CacheTier) :=
  match store.selectVariantId variantGroup seed recentlyUsed with
  | none => (store, .error (.notFound ("variant_group:" ++ variantGroup)))
  | some id => store.resolveWithTier disk id

/-! ## Runs -/

/-- An operation, with the disk that it finds. -/
inductive Op where
  | insertHot (asset : PerformanceAsset)
  | hotGet (id : String)
  | noteHotUse (id : String) (atMs : Nat)
  | resolve (disk : Disk) (id : String)
  | persist (disk : Disk) (id : String)
  | invalidate (disk : Disk) (id : String)
  | indexLocal (disk : Disk)
  | setHotCacheConfig (config : HotCacheConfig)

/-- An operation, and the asset that it returns. -/
def perform (store : AssetStore) :
    Op → AssetStore × Except AssetStoreError (Option PerformanceAsset)
  | .insertHot asset => ((store.insertHot asset).1, (store.insertHot asset).2.map some)
  | .hotGet id => ((store.hotGet id).1, .ok (store.hotGet id).2)
  | .noteHotUse id atMs => (store.noteHotUse id atMs, .ok none)
  | .resolve disk id =>
    ((store.resolveWithTier disk id).1,
      (store.resolveWithTier disk id).2.map fun found ↦ some found.1)
  | .persist disk id =>
    ((store.persistGeneratedDescriptor disk id).1,
      (store.persistGeneratedDescriptor disk id).2.map fun _ ↦ none)
  | .invalidate disk id =>
    ((store.invalidateGeneratedAsset disk id).1,
      (store.invalidateGeneratedAsset disk id).2.map fun _ ↦ none)
  | .indexLocal disk => ((store.indexLocal disk).1, (store.indexLocal disk).2.map fun _ ↦ none)
  | .setHotCacheConfig config => (store.setHotCacheConfig config, .ok none)

def machine : Machine AssetStore Op (Except AssetStoreError (Option PerformanceAsset)) := ⟨perform⟩

end AssetStore

end Aivtuber
