import Mathlib.Data.List.Destutter
import Mathlib.Data.String.Basic
import Aivtuber.Base.Check
import Aivtuber.Base.Float64
import Aivtuber.Base.KeyedSort
import Aivtuber.Base.Text

/-!
# Semantic retrieval

`SemanticIndex` of `crates/reflex/src/retrieval.rs`: the assets nearest to a query.  An index
names each asset once, hence so does every result of a search.
-/

open Aivtuber.Check Aivtuber.Text

namespace Aivtuber

inductive SimilarityMetric where
  | cosine
deriving DecidableEq, Repr

structure RetrievalMetadata where
  retrieverVersion : String
  embeddingModel : String
  indexVersion : String
  assetCompilerVersion : String
  similarityMetric : SimilarityMetric
  tieBreakRule : String
deriving DecidableEq, Repr

structure RetrievalCandidate where
  assetId : String
  assetIdentity : Option String
  rank : Nat
  similarity : Float64
deriving DecidableEq

structure RetrievalResult where
  metadata : RetrievalMetadata
  candidates : List RetrievalCandidate
deriving DecidableEq

structure IndexedAsset where
  assetId : String
  assetIdentity : Option String
  embedding : List Float64
deriving DecidableEq

inductive RetrievalError where
  | emptyIndex | emptyAssetId | zeroDimension
  | dimensionMismatch (expected actual : Nat)
  | nonFiniteVector | zeroNormVector
deriving DecidableEq, Repr

/-! ## Vectors -/

/-- The rounded operations that vectors need. -/
structure VectorArith extends FloatArith where
  sqrt : Float64 → Float64

section Vectors

variable (arith : VectorArith)

def dot (left right : List Float64) : Float64 :=
  (left.zipWith arith.mul right).foldl arith.add (.finite 0)

def norm (vector : List Float64) : Float64 := arith.sqrt (dot arith vector vector)

def validateVector (vector : List Float64) (expected : Nat) : Except RetrievalError Unit := do
  ensure (.dimensionMismatch expected vector.length) (vector.length = expected)
  ensure .nonFiniteVector (vector.all Float64.isFinite)
  ensure .zeroNormVector (norm arith vector ≠ .finite 0)

end Vectors

/-- The order of two floats, if they have one. -/
def Float64.partialCmp (left right : Float64) : Option Ordering :=
  if left.lt right then some .lt
  else if right.lt left then some .gt
  else if left.le right then some .eq
  else none

/-! ## The index -/

structure SemanticIndex where
  metadata : RetrievalMetadata
  dimension : Nat
  assets : List IndexedAsset
  ordered : (assets.map (·.assetId)).Pairwise (· < ·)

/-- In the order of their ids, each id once. -/
def distinctAssets (assets : List IndexedAsset) : List IndexedAsset :=
  (assets.insertionSort fun left right ↦ left.assetId ≤ right.assetId).destutter
    fun left right ↦ left.assetId ≠ right.assetId

theorem distinctAssets_ordered (assets : List IndexedAsset) :
    ((distinctAssets assets).map (·.assetId)).Pairwise (· < ·) := by
  rw [List.pairwise_map]
  refine KeyedSort.pairwise_lt_of_isChain_ne ?_ (List.isChain_destutter _ _)
  exact (KeyedSort.pairwise_insertionSort IndexedAsset.assetId assets).sublist
    (List.destutter_sublist _ _)

namespace SemanticIndex

def new (arith : VectorArith) (metadata : RetrievalMetadata) (assets : List IndexedAsset) :
    Except RetrievalError SemanticIndex := do
  let first ← expect .emptyIndex assets.head?
  ensure .zeroDimension (first.embedding.length ≠ 0)
  assets.forM fun asset ↦ do
    ensure .emptyAssetId (!isBlank asset.assetId)
    validateVector arith asset.embedding first.embedding.length
  .ok
    { metadata
      dimension := first.embedding.length
      assets := distinctAssets assets
      ordered := distinctAssets_ordered assets }

/-- An asset with its similarity to a query. -/
structure ScoredAsset where
  assetId : String
  assetIdentity : Option String
  similarity : Float64

/-- The most similar first, ties by id. -/
def ScoredAsset.cmp (left right : ScoredAsset) : Ordering :=
  ((right.similarity.partialCmp left.similarity).getD .eq).then
    (compare left.assetId right.assetId)

/-- The candidate at a position; a rank has 32 bits. -/
def ranked (index : Nat) (scored : ScoredAsset) : RetrievalCandidate where
  assetId := scored.assetId
  assetIdentity := scored.assetIdentity
  rank := (index + 1) % 2 ^ 32
  similarity := scored.similarity

theorem ids_ranked (scored : List ScoredAsset) :
    (scored.mapIdx ranked).map (·.assetId) = scored.map (·.assetId) := by
  apply List.ext_getElem <;> simp [ranked]

section Search

variable (arith : VectorArith) (index : SemanticIndex) (query : List Float64) (topK : Nat)

def score (asset : IndexedAsset) : ScoredAsset where
  assetId := asset.assetId
  assetIdentity := asset.assetIdentity
  similarity :=
    arith.div (dot arith query asset.embedding)
      (arith.mul (norm arith query) (norm arith asset.embedding))

/-- The nearest `topK` assets; none at all when that is zero. -/
def search : Except RetrievalError RetrievalResult := do
  validateVector arith query index.dimension
  let scored := (index.assets.map (score arith query)).mergeSort fun left right ↦
    (left.cmp right).isLE
  .ok
    { metadata := index.metadata
      candidates := (scored.take topK).mapIdx ranked }

variable {arith index query topK} {result : RetrievalResult}

/-- **A search names each asset once**, with the identity that the index has for it. -/
theorem search_candidates (h : index.search arith query topK = .ok result) :
    (result.candidates.map (·.assetId)).Nodup ∧
    ∀ candidate ∈ result.candidates, ∃ asset ∈ index.assets,
      asset.assetId = candidate.assetId ∧ asset.assetIdentity = candidate.assetIdentity := by
  rw [search, unit_bind_eq_ok] at h
  obtain ⟨-, h⟩ := h
  cases h
  have hperm := List.mergeSort_perm (index.assets.map (score arith query)) fun left right ↦
    (left.cmp right).isLE
  constructor
  · have hids : (index.assets.map (·.assetId)).Nodup := index.ordered.imp ne_of_lt
    rw [ids_ranked, List.map_take]
    refine List.Nodup.sublist (List.take_sublist _ _) ((hperm.map _).nodup_iff.mpr ?_)
    rwa [List.map_map]
  · intro candidate hcandidate
    rw [List.mem_mapIdx] at hcandidate
    obtain ⟨rank, hrank, rfl⟩ := hcandidate
    have hmem := hperm.mem_iff.mp (List.mem_of_mem_take (List.getElem_mem hrank))
    rw [List.mem_map] at hmem
    obtain ⟨asset, hasset, hscore⟩ := hmem
    refine ⟨asset, hasset, ?_, ?_⟩ <;> simp only [← hscore] <;> rfl

end Search

end SemanticIndex

end Aivtuber
