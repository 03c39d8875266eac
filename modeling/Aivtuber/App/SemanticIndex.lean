import Aivtuber.AssetStore.IdentityKey
import Aivtuber.AssetStore.Store
import Aivtuber.Reflex.Nearest

/-!
# The semantic index of an asset store

`build_semantic_index_from_asset_store` of `crates/app/src/semantic.rs`: the assets that the
store has indexed, can be played on its runtime, and have an embedding of the configured model.
The bits of a float are a parameter; they go into the version of the index only.
-/

open Aivtuber.Check Aivtuber.Text
open Std (ExtTreeMap)

namespace Aivtuber

def SemanticEmbedding.modelKey (embedding : SemanticEmbedding) : String :=
  embedding.model ++ "@" ++ embedding.modelVersion

structure AssetSemanticIndexConfig where
  retrieverVersion : String
  embeddingModel : String
  embeddingModelVersion : String
deriving DecidableEq, Repr

inductive AssetSemanticIndexError where
  | invalidConfig (message : String)
  | noCompatibleEmbeddings (model : String)
  | retrieval (error : RetrievalError)
deriving DecidableEq, Repr

namespace AssetSemanticIndexConfig

def embeddingModelKey (config : AssetSemanticIndexConfig) : String :=
  config.embeddingModel ++ "@" ++ config.embeddingModelVersion

def validate (config : AssetSemanticIndexConfig) : Except AssetSemanticIndexError Unit :=
  ensure (.invalidConfig "retriever and embedding model versions must not be empty")
    (!(isBlank config.retrieverVersion || isBlank config.embeddingModel ||
      isBlank config.embeddingModelVersion))

end AssetSemanticIndexConfig

def semanticTieBreakRule : String := "similarity_desc_then_asset_id_asc"

/-! ## The version -/

/-- A component, after its length. -/
def hashComponent (hash : UInt64) (bytes : List UInt8) : UInt64 :=
  (AssetStore.leBytes bytes.length ++ bytes).foldl AssetStore.hashByte hash

def hashAsset (toBits : Float64 → List UInt8) (hash : UInt64) (asset : IndexedAsset) : UInt64 :=
  let hash := hashComponent hash (utf8 asset.assetId)
  let hash := hashComponent hash (utf8 (asset.assetIdentity.getD ""))
  let hash := hashComponent hash (AssetStore.leBytes asset.embedding.length)
  asset.embedding.foldl (fun hash value ↦ hashComponent hash (toBits value)) hash

def deterministicIndexVersion (toBits : Float64 → List UInt8) (retrieverVersion embeddingModel
    assetCompilerVersion : String) (assets : List IndexedAsset) : String :=
  let hash := hashComponent 0xcbf29ce484222325 (utf8 retrieverVersion)
  let hash := hashComponent hash (utf8 embeddingModel)
  let hash := hashComponent hash (utf8 assetCompilerVersion)
  let hash := hashComponent hash (utf8 semanticTieBreakRule)
  let digits := Nat.toDigits 16 (assets.foldl (hashAsset toBits) hash).toNat
  "asset-semantic-fnv1a64-" ++
    String.ofList (List.replicate (16 - digits.length) '0' ++ digits)

/-! ## Building the index -/

/-- What is indexed of an entry, if it is. -/
def indexedAsset? (modelKey : String) (named : String × AssetIndexEntry) : Option IndexedAsset :=
  if named.2.compatibility.isUsable then
    named.2.semanticEmbedding.bind fun embedding ↦
      if embedding.modelKey = modelKey then
        some
          { assetId := named.1
            assetIdentity := some named.2.identity.stableKey
            embedding := embedding.vector }
      else none
  else none

/-- In the order of their ids. -/
def indexedAssets (store : AssetStore) (modelKey : String) : List IndexedAsset :=
  store.localIndex.toList.filterMap (indexedAsset? modelKey)

def buildSemanticIndexFromAssetStore (arith : VectorArith) (toBits : Float64 → List UInt8)
    (store : AssetStore) (config : AssetSemanticIndexConfig) :
    Except AssetSemanticIndexError SemanticIndex := do
  config.validate
  let assets := indexedAssets store config.embeddingModelKey
  ensure (.noCompatibleEmbeddings config.embeddingModelKey) (!assets.isEmpty)
  let metadata : RetrievalMetadata :=
    { retrieverVersion := config.retrieverVersion
      embeddingModel := config.embeddingModelKey
      indexVersion :=
        deterministicIndexVersion toBits config.retrieverVersion config.embeddingModelKey
          store.runtime.compilerVersion assets
      assetCompilerVersion := store.runtime.compilerVersion
      similarityMetric := .cosine
      tieBreakRule := semanticTieBreakRule }
  (SemanticIndex.new arith metadata assets).mapError .retrieval

/-! ## What is in the index -/

/-- The store offers an asset to a search in a model: it is indexed and usable, and has an
embedding of the model. -/
def Offers (store : AssetStore) (modelKey : String) (asset : IndexedAsset) : Prop :=
  ∃ entry embedding, store.localIndex[asset.assetId]? = some entry ∧
    entry.compatibility = .usable ∧ entry.semanticEmbedding = some embedding ∧
    embedding.modelKey = modelKey ∧ asset.assetIdentity = some entry.identity.stableKey ∧
    asset.embedding = embedding.vector

theorem indexedAsset?_eq_some {modelKey : String} {named : String × AssetIndexEntry}
    {asset : IndexedAsset} :
    indexedAsset? modelKey named = some asset ↔
      named.2.compatibility = .usable ∧ ∃ embedding,
        named.2.semanticEmbedding = some embedding ∧ embedding.modelKey = modelKey ∧
        asset = ⟨named.1, some named.2.identity.stableKey, embedding.vector⟩ := by
  have husable : ∀ status : CompatibilityStatus, status.isUsable = true ↔ status = .usable := by
    intro status
    cases status <;> simp [CompatibilityStatus.isUsable]
  rw [indexedAsset?, ← husable]
  split
  case isTrue h =>
    rw [Option.bind_eq_some_iff]
    refine (and_iff_right h).symm.trans (and_congr_right fun _ ↦ exists_congr fun embedding ↦ ?_)
    refine and_congr_right fun _ ↦ ?_
    split
    case isTrue hmodel => simp [hmodel, eq_comm]
    case isFalse hmodel => simp [hmodel]
  case isFalse h => simp [h]

theorem mem_indexedAssets {store : AssetStore} {modelKey : String} {asset : IndexedAsset} :
    asset ∈ indexedAssets store modelKey ↔ Offers store modelKey asset := by
  rw [indexedAssets, List.mem_filterMap]
  constructor
  · rintro ⟨⟨id, entry⟩, hmem, hindexed⟩
    rw [ExtTreeMap.mem_toList_iff_getElem?_eq_some] at hmem
    obtain ⟨husable, embedding, hembedding, hmodel, rfl⟩ := indexedAsset?_eq_some.mp hindexed
    exact ⟨entry, embedding, hmem, husable, hembedding, hmodel, rfl, rfl⟩
  · rintro ⟨entry, embedding, hentry, husable, hembedding, hmodel, hidentity, hvector⟩
    refine ⟨(asset.assetId, entry), ExtTreeMap.mem_toList_iff_getElem?_eq_some.mpr hentry, ?_⟩
    refine indexedAsset?_eq_some.mpr ⟨husable, embedding, hembedding, hmodel, ?_⟩
    cases asset
    cases hidentity
    cases hvector
    rfl

/-- The store lists its entries by id, so that sorting and removing doubles changes nothing. -/
theorem indexedAssets_ordered (store : AssetStore) (modelKey : String) :
    ((indexedAssets store modelKey).map (·.assetId)).Pairwise (· < ·) := by
  have hkeys : store.localIndex.toList.Pairwise fun a b ↦ a.1 < b.1 :=
    store.localIndex.ordered_keys_toList.imp compare_string_eq_lt
  rw [indexedAssets, List.pairwise_map, List.pairwise_filterMap]
  refine hkeys.imp ?_
  intro a b hab asset hasset other hother
  obtain ⟨-, embedding, -, -, rfl⟩ := indexedAsset?_eq_some.mp hasset
  obtain ⟨-, embedding', -, -, rfl⟩ := indexedAsset?_eq_some.mp hother
  exact hab

theorem distinctAssets_eq_self {assets : List IndexedAsset}
    (h : (assets.map (·.assetId)).Pairwise (· < ·)) : distinctAssets assets = assets := by
  rw [List.pairwise_map] at h
  have hsorted : assets.Pairwise fun left right ↦ left.assetId ≤ right.assetId := h.imp le_of_lt
  rw [distinctAssets, hsorted.insertionSort_eq]
  exact List.destutter_of_isChain _ _ (h.imp ne_of_lt).isChain

/-- The embeddings of a dimension that an index takes. -/
def Embeds (arith : VectorArith) (dimension : Nat) (asset : IndexedAsset) : Prop :=
  isBlank asset.assetId = false ∧ validateVector arith asset.embedding dimension = .ok ()

/-- An index takes assets that have names and valid embeddings of one dimension. -/
theorem new_eq_ok {arith : VectorArith} {metadata : RetrievalMetadata}
    {assets : List IndexedAsset} {index : SemanticIndex} :
    SemanticIndex.new arith metadata assets = .ok index ↔
      index.metadata = metadata ∧ index.assets = distinctAssets assets ∧ assets ≠ [] ∧
        0 < index.dimension ∧ ∀ asset ∈ assets, Embeds arith index.dimension asset := by
  rw [SemanticIndex.new, expect_bind_eq_ok]
  simp only [unit_bind_eq_ok, ensure_eq_ok, forM_eq_ok, Bool.not_eq_true', decide_eq_true_eq]
  constructor
  · rintro ⟨first, hfirst, hdimension, hembeds, hindex⟩
    cases hindex
    refine ⟨rfl, rfl, ?_, Nat.pos_of_ne_zero hdimension, hembeds⟩
    rintro rfl
    cases hfirst
  · rintro ⟨rfl, hassets, hne, hdimension, hembeds⟩
    obtain ⟨first, rest, rfl⟩ := List.exists_cons_of_ne_nil hne
    have hfirst := (hembeds first List.mem_cons_self).2
    rw [validateVector, unit_bind_eq_ok, ensure_eq_ok, decide_eq_true_eq] at hfirst
    obtain ⟨hlength, -⟩ := hfirst
    refine ⟨first, rfl, ?_, ?_, ?_⟩
    · rw [hlength]
      exact hdimension.ne'
    · rw [hlength]
      exact hembeds
    · cases index
      simp_all

section Build

variable {arith : VectorArith} {toBits : Float64 → List UInt8} {store : AssetStore}
  {config : AssetSemanticIndexConfig} {index : SemanticIndex}

/-- A built index has exactly what the store offers. -/
theorem mem_assets_of_build
    (h : buildSemanticIndexFromAssetStore arith toBits store config = .ok index)
    (asset : IndexedAsset) :
    asset ∈ index.assets ↔ Offers store config.embeddingModelKey asset := by
  rw [buildSemanticIndexFromAssetStore, unit_bind_eq_ok, unit_bind_eq_ok, mapError_eq_ok,
    new_eq_ok] at h
  obtain ⟨-, -, -, hassets, -⟩ := h
  rw [hassets, distinctAssets_eq_self (indexedAssets_ordered store _), mem_indexedAssets]

/-- When an index is built. -/
theorem build_iff :
    (∃ index, buildSemanticIndexFromAssetStore arith toBits store config = .ok index) ↔
      config.validate = .ok () ∧ (∃ asset, Offers store config.embeddingModelKey asset) ∧
        ∃ dimension, 0 < dimension ∧
          ∀ asset, Offers store config.embeddingModelKey asset →
            Embeds arith dimension asset := by
  have hoffers : (∃ asset, Offers store config.embeddingModelKey asset) ↔
      indexedAssets store config.embeddingModelKey ≠ [] := by
    simp only [← mem_indexedAssets]
    exact ⟨fun ⟨_, hmem⟩ ↦ List.ne_nil_of_mem hmem, List.exists_mem_of_ne_nil _⟩
  rw [hoffers]
  simp only [buildSemanticIndexFromAssetStore, unit_bind_eq_ok, mapError_eq_ok, new_eq_ok,
    ensure_eq_ok, ← mem_indexedAssets]
  constructor
  · rintro ⟨index, hconfig, -, -, -, hne, hdimension, hembeds⟩
    exact ⟨hconfig, hne, index.dimension, hdimension, hembeds⟩
  · rintro ⟨hconfig, hne, dimension, hdimension, hembeds⟩
    refine ⟨⟨_, dimension, _, distinctAssets_ordered _⟩, hconfig, ?_, rfl, rfl, hne, hdimension,
      hembeds⟩
    simpa using hne

/-- **A semantic search is over what can be played.**  An index is built exactly when the
configuration names its versions, the store offers some asset in the model, and all that it
offers embed in one dimension.  The index then has exactly what is offered, and where each
similarity is a number, a search finds the nearest of all of that: a candidate is a usable asset
under the key of its identity, and what is left out is farther away than each candidate. -/
theorem build_searches (arith : VectorArith) (toBits : Float64 → List UInt8) (store : AssetStore)
    (config : AssetSemanticIndexConfig) :
    ((∃ index, buildSemanticIndexFromAssetStore arith toBits store config = .ok index) ↔
      config.validate = .ok () ∧ (∃ asset, Offers store config.embeddingModelKey asset) ∧
        ∃ dimension, 0 < dimension ∧
          ∀ asset, Offers store config.embeddingModelKey asset → Embeds arith dimension asset) ∧
    ∀ index, buildSemanticIndexFromAssetStore arith toBits store config = .ok index →
      (∀ asset, asset ∈ index.assets ↔ Offers store config.embeddingModelKey asset) ∧
      ∀ query topK result, SemanticIndex.Comparable arith index query →
        index.search arith query topK = .ok result →
        result.candidates.length = min topK index.assets.length ∧
        (∀ candidate ∈ result.candidates, ∃ asset, Offers store config.embeddingModelKey asset ∧
          asset.assetId = candidate.assetId ∧ asset.assetIdentity = candidate.assetIdentity) ∧
        ∀ asset, Offers store config.embeddingModelKey asset →
          asset.assetId ∉ result.candidates.map (·.assetId) →
          ∀ candidate ∈ result.candidates, SemanticIndex.candidateDistance candidate <
            (SemanticIndex.score arith query asset).distance := by
  refine ⟨build_iff, ?_⟩
  intro index h
  refine ⟨mem_assets_of_build h, ?_⟩
  intro query topK result hcomparable hsearch
  have hnearest := SemanticIndex.nearest_of_search hcomparable hsearch
  refine ⟨hnearest.length, ?_, ?_⟩
  · intro candidate hcandidate
    obtain ⟨asset, hasset, hid, hidentity, -⟩ := hnearest.scored candidate hcandidate
    exact ⟨asset, (mem_assets_of_build h asset).mp hasset, hid, hidentity⟩
  · intro asset hoffers
    exact hnearest.nearest asset ((mem_assets_of_build h asset).mpr hoffers)

end Build

end Aivtuber
