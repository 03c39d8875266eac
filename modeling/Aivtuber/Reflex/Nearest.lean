import Mathlib.Order.WithBot
import Aivtuber.Reflex.Pipeline

/-!
# Nearest assets

What a search of `crates/reflex/src/retrieval.rs` finds.  Where each similarity is a number, the
comparison of scored assets is that of a key in a linear order: the similarity, the greater the
nearer, and then the id.  A search therefore gives the nearest assets in order, whatever the
sorting does, and asking for more only adds candidates at the end.
-/

open Aivtuber.Check

namespace Aivtuber

/-- The place of a float among the others; no place of its own for what is not a number. -/
def Float64.place : Float64 → WithBot (WithTop ℚ)
  | .finite value => ((value : WithTop ℚ) : WithBot (WithTop ℚ))
  | .infinite false => ⊤
  | .infinite true | .nan => ⊥

theorem Float64.lt_iff_place {left right : Float64} (hleft : left ≠ .nan) (hright : right ≠ .nan) :
    left.lt right = true ↔ left.place < right.place := by
  cases left with
  | finite value =>
    cases right with
    | finite other => simp [Float64.lt, Float64.place, WithBot.coe_lt_coe, WithTop.coe_lt_coe]
    | infinite negative =>
      cases negative with
      | true => simp [Float64.lt, Float64.place]
      | false =>
        have htop : ((value : WithTop ℚ) : WithBot (WithTop ℚ)) < ⊤ :=
          WithBot.coe_lt_coe.mpr (WithTop.coe_lt_top value)
        simp [Float64.lt, Float64.place, htop]
    | nan => exact absurd rfl hright
  | infinite negative =>
    cases right with
    | finite other =>
      have hbot : (⊥ : WithBot (WithTop ℚ)) < ((other : WithTop ℚ) : WithBot (WithTop ℚ)) :=
        WithBot.bot_lt_coe _
      cases negative <;> simp [Float64.lt, Float64.place, hbot]
    | infinite negative' =>
      have hbot : (⊥ : WithBot (WithTop ℚ)) < ⊤ := bot_lt_top
      cases negative <;> cases negative' <;> simp [Float64.lt, Float64.place, hbot]
    | nan => exact absurd rfl hright
  | nan => exact absurd rfl hleft

theorem Float64.le_of_unordered {left right : Float64} (hleft : left ≠ .nan) (hright : right ≠ .nan)
    (h : left.lt right = false) (h' : right.lt left = false) : left.le right = true := by
  cases left with
  | finite value =>
    cases right with
    | finite other =>
      simp only [Float64.lt, decide_eq_false_iff_not, not_lt] at h h'
      simp [Float64.le, h']
    | infinite negative => cases negative <;> simp_all [Float64.lt]
    | nan => exact absurd rfl hright
  | infinite negative =>
    cases right with
    | finite other => cases negative <;> simp_all [Float64.lt]
    | infinite negative' =>
      cases negative <;> cases negative' <;> simp_all [Float64.lt, Float64.le]
    | nan => exact absurd rfl hright
  | nan => exact absurd rfl hleft

theorem compare_string_eq_lt {a b : String} (h : compare a b = .lt) : a < b := by
  change compareOfLessAndEq a b = .lt at h
  rw [compareOfLessAndEq] at h
  split at h
  case isTrue hlt => exact hlt
  case isFalse => split at h <;> cases h

theorem isLE_compare_string {a b : String} : (compare a b).isLE = true ↔ a ≤ b := by
  change (compareOfLessAndEq a b).isLE = true ↔ a ≤ b
  rw [compareOfLessAndEq]
  split
  case isTrue h => exact iff_of_true rfl h.le
  case isFalse h =>
    split
    case isTrue heq => exact iff_of_true rfl heq.le
    case isFalse hne =>
      refine iff_of_false (by decide) ?_
      intro hle
      exact h (lt_of_le_of_ne hle hne)

namespace SemanticIndex

/-- How far a scored asset is from the query, ties by id. -/
def ScoredAsset.distance (scored : ScoredAsset) : (WithBot (WithTop ℚ))ᵒᵈ ×ₗ String :=
  toLex (OrderDual.toDual scored.similarity.place, scored.assetId)

/-- The nearer one comes first. -/
theorem ScoredAsset.isLE_cmp {left right : ScoredAsset} (hleft : left.similarity ≠ .nan)
    (hright : right.similarity ≠ .nan) :
    (left.cmp right).isLE = true ↔ left.distance ≤ right.distance := by
  have hnear := Float64.lt_iff_place hright hleft
  have hfar := Float64.lt_iff_place hleft hright
  have hdistance : left.distance ≤ right.distance ↔
      right.similarity.place < left.similarity.place ∨
        left.similarity.place = right.similarity.place ∧ left.assetId ≤ right.assetId := by
    rw [distance, distance, Prod.Lex.toLex_le_toLex]
    simp
  rw [hdistance, ScoredAsset.cmp, Float64.partialCmp]
  by_cases h : right.similarity.lt left.similarity = true
  · rw [if_pos h]
    exact iff_of_true rfl (Or.inl (hnear.mp h))
  by_cases h' : left.similarity.lt right.similarity = true
  · rw [if_neg h, if_pos h']
    refine iff_of_false (by simp [Ordering.then]) ?_
    have hlt := hfar.mp h'
    rintro (hgt | ⟨heq, -⟩)
    · exact lt_asymm hlt hgt
    · exact hlt.ne heq
  · have hle : right.similarity.le left.similarity = true := by
      rw [Bool.not_eq_true] at h h'
      exact Float64.le_of_unordered hright hleft h h'
    have heq : left.similarity.place = right.similarity.place :=
      le_antisymm (not_lt.mp fun hlt ↦ h (hnear.mpr hlt)) (not_lt.mp fun hlt ↦ h' (hfar.mpr hlt))
    rw [if_neg h, if_neg h', if_pos hle]
    simp [Ordering.then, heq, isLE_compare_string]

section Search

variable (arith : VectorArith) (index : SemanticIndex) (query : List Float64)

/-- Every asset has a similarity to the query that is a number. -/
def Comparable : Prop := ∀ asset ∈ index.assets, (score arith query asset).similarity ≠ .nan

/-- The assets of the index, the nearest first. -/
def byDistance : List ScoredAsset :=
  (index.assets.map (score arith query)).mergeSort fun left right ↦
    left.distance ≤ right.distance

variable {arith index query}

theorem byDistance_eq (h : Comparable arith index query) :
    ((index.assets.map (score arith query)).mergeSort fun left right ↦ (left.cmp right).isLE) =
      byDistance arith index query := by
  have hid : ∀ l : List ScoredAsset, l.map id = l := List.map_id
  have hmap := List.map_mergeSort (f := id) (l := index.assets.map (score arith query))
    (r := fun left right : ScoredAsset ↦ (left.cmp right).isLE)
    (s := fun left right ↦ decide (left.distance ≤ right.distance)) ?_
  · rw [hid, hid] at hmap
    exact hmap
  · intro a ha b hb
    obtain ⟨asset, hasset, rfl⟩ := List.mem_map.mp ha
    obtain ⟨other, hother, rfl⟩ := List.mem_map.mp hb
    rw [Bool.eq_iff_iff, ScoredAsset.isLE_cmp (h asset hasset) (h other hother), decide_eq_true_eq]
    rfl

theorem byDistance_perm (arith : VectorArith) (index : SemanticIndex) (query : List Float64) :
    (byDistance arith index query).Perm (index.assets.map (score arith query)) :=
  List.mergeSort_perm _ _

/-- No two assets are at the same distance, because of their ids. -/
theorem byDistance_ordered (arith : VectorArith) (index : SemanticIndex) (query : List Float64) :
    (byDistance arith index query).Pairwise fun a b ↦ a.distance < b.distance := by
  have hle : (byDistance arith index query).Pairwise fun a b ↦ a.distance ≤ b.distance := by
    refine (List.pairwise_mergeSort ?_ ?_ _).imp fun h ↦ of_decide_eq_true h
    · intro a b c hab hbc
      exact decide_eq_true (le_trans (of_decide_eq_true hab) (of_decide_eq_true hbc))
    · intro a b
      rw [Bool.or_eq_true, decide_eq_true_eq, decide_eq_true_eq]
      exact le_total _ _
  have hids : ((byDistance arith index query).map (·.assetId)).Nodup := by
    rw [((byDistance_perm arith index query).map _).nodup_iff, List.map_map]
    exact index.ordered.imp ne_of_lt
  rw [List.Nodup, List.pairwise_map] at hids
  refine (hle.and hids).imp ?_
  rintro a b ⟨hab, hne⟩
  refine lt_of_le_of_ne hab ?_
  intro heq
  exact hne (Prod.ext_iff.mp (toLex.injective heq)).2

/-- How far a candidate is from the query. -/
def candidateDistance (candidate : RetrievalCandidate) : (WithBot (WithTop ℚ))ᵒᵈ ×ₗ String :=
  toLex (OrderDual.toDual candidate.similarity.place, candidate.assetId)

@[simp] theorem candidateDistance_ranked (rank : Nat) (scored : ScoredAsset) :
    candidateDistance (ranked rank scored) = scored.distance := rfl

/-- The candidates are the nearest assets, in order. -/
structure Nearest (arith : VectorArith) (index : SemanticIndex) (query : List Float64)
    (topK : Nat) (candidates : List RetrievalCandidate) : Prop where
  length : candidates.length = min topK index.assets.length
  ranks : candidates.map (·.rank) =
    (List.range candidates.length).map fun index ↦ (index + 1) % 2 ^ 32
  ordered : candidates.Pairwise fun a b ↦ candidateDistance a < candidateDistance b
  scored : ∀ candidate ∈ candidates, ∃ asset ∈ index.assets,
    asset.assetId = candidate.assetId ∧ asset.assetIdentity = candidate.assetIdentity ∧
      (score arith query asset).similarity = candidate.similarity
  /-- An asset that is left out is farther away than all of them. -/
  nearest : ∀ asset ∈ index.assets, asset.assetId ∉ candidates.map (·.assetId) →
    ∀ candidate ∈ candidates, candidateDistance candidate < (score arith query asset).distance

theorem nearest_take (arith : VectorArith) (index : SemanticIndex) (query : List Float64)
    (topK : Nat) :
    Nearest arith index query topK (((byDistance arith index query).take topK).mapIdx ranked) := by
  have hordered := byDistance_ordered arith index query
  have hperm := byDistance_perm arith index query
  refine ⟨?_, ?_, ?_, ?_, ?_⟩
  · rw [List.length_mapIdx, List.length_take, hperm.length_eq, List.length_map]
  · apply List.ext_getElem <;> simp [ranked]
  · rw [List.pairwise_iff_getElem]
    intro i j hi hj hij
    rw [List.getElem_mapIdx, List.getElem_mapIdx, candidateDistance_ranked,
      candidateDistance_ranked]
    exact List.pairwise_iff_getElem.mp (hordered.sublist (List.take_sublist topK _)) i j _ _ hij
  · intro candidate hcandidate
    obtain ⟨rank, hrank, rfl⟩ := List.mem_mapIdx.mp hcandidate
    have hmem := hperm.mem_iff.mp (List.mem_of_mem_take (List.getElem_mem hrank))
    obtain ⟨asset, hasset, hscore⟩ := List.mem_map.mp hmem
    refine ⟨asset, hasset, ?_, ?_, ?_⟩ <;> simp only [← hscore] <;> rfl
  · intro asset hasset hout candidate hcandidate
    obtain ⟨rank, hrank, rfl⟩ := List.mem_mapIdx.mp hcandidate
    rw [candidateDistance_ranked]
    have hmem := hperm.mem_iff.mpr (List.mem_map_of_mem (f := score arith query) hasset)
    rw [← List.take_append_drop topK (byDistance arith index query), List.mem_append] at hmem
    rw [← List.take_append_drop topK (byDistance arith index query), List.pairwise_append]
      at hordered
    refine hordered.2.2 _ (List.getElem_mem hrank) _ (hmem.resolve_left ?_)
    intro htake
    apply hout
    rw [ids_ranked]
    exact List.mem_map_of_mem (f := ScoredAsset.assetId) htake

theorem nearest_of_search {topK : Nat} {result : RetrievalResult}
    (hcomparable : Comparable arith index query)
    (h : index.search arith query topK = .ok result) :
    Nearest arith index query topK result.candidates := by
  rw [search, unit_bind_eq_ok] at h
  obtain ⟨-, h⟩ := h
  cases h
  simp only [byDistance_eq hcomparable]
  exact nearest_take arith index query topK

/-- **A search finds the nearest assets.**  Where every similarity is a number, a search gives as
many candidates as it is asked for and the index has, ranked from one in 32 bits: the nearest
assets, by descending similarity and then by id, so that every other asset is farther away than
each of them; and a search for more begins with the same candidates. -/
theorem search_nearest {topK : Nat} {result : RetrievalResult}
    (hcomparable : Comparable arith index query)
    (h : index.search arith query topK = .ok result) :
    Nearest arith index query topK result.candidates ∧
      ∀ more, topK ≤ more → ∃ result', index.search arith query more = .ok result' ∧
        result.candidates = result'.candidates.take topK := by
  refine ⟨nearest_of_search hcomparable h, ?_⟩
  intro more hmore
  rw [search, unit_bind_eq_ok] at h
  obtain ⟨hvalid, h⟩ := h
  cases h
  refine ⟨_, unit_bind_eq_ok.mpr ⟨hvalid, rfl⟩, ?_⟩
  simp only [byDistance_eq hcomparable]
  apply List.ext_getElem
  · simp only [List.length_mapIdx, List.length_take]
    omega
  · intro rank hrank hrank'
    simp

/-- Two assets at a right angle, of which the second is the one that is asked for. -/
def corner : SemanticIndex where
  metadata := ⟨"semantic-v1", "embed-v1", "index-v1", "0.1.0", .cosine, "tie"⟩
  dimension := 2
  assets :=
    [⟨"asset.a", none, [.finite 1, .finite 0]⟩, ⟨"asset.b", none, [.finite 0, .finite 1]⟩]
  ordered := by decide +kernel

theorem corner_nearest : ∃ result,
    corner.search ReflexPipeline.exactArith [.finite 0, .finite 1] 1 = .ok result ∧
      Nearest ReflexPipeline.exactArith corner [.finite 0, .finite 1] 1 result.candidates := by
  have hcomparable : Comparable ReflexPipeline.exactArith corner [.finite 0, .finite 1] := by
    intro asset _ h
    cases h
  have hvalid : validateVector ReflexPipeline.exactArith [.finite 0, .finite 1] 2 = .ok () := by
    decide +kernel
  have hsearch : ∃ result, corner.search ReflexPipeline.exactArith [.finite 0, .finite 1] 1 =
      .ok result := ⟨_, unit_bind_eq_ok.mpr ⟨hvalid, rfl⟩⟩
  obtain ⟨result, hsearch⟩ := hsearch
  exact ⟨result, hsearch, (search_nearest hcomparable hsearch).1⟩

end Search

end SemanticIndex

end Aivtuber
