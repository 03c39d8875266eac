import Aivtuber.Adaptation.Recall
import Mathlib.Data.List.Nodup

/-!
# The order of recall

What a read selects it sorts, by keys in descending order, and cuts to the limit of its query.
The complete order of a context (`ranking`) has the claims that lead, on the topic or in the
place of one that is, in front of all others (`ranking_pairwise`).
-/

namespace Aivtuber

section Descending

variable {left right other : List Nat}

theorem descending_iff : descending left right = true ↔ ¬ left < right := by
  rw [descending, Bool.not_eq_true', decide_eq_false_iff_not]

theorem descending_trans (h : descending left right = true) (h' : descending right other = true) :
    descending left other = true := by
  rw [descending_iff] at h h' ⊢
  exact List.le_trans h' h

theorem descending_total (left right : List Nat) :
    (descending left right || descending right left) = true := by
  rw [Bool.or_eq_true, descending_iff, descending_iff]
  exact List.le_total right left

theorem eq_of_not_lt (h : ¬ left < right) (h' : ¬ right < left) : left = right :=
  List.le_antisymm h' h

/-- What is sorted by keys has them in descending order. -/
theorem pairwise_mergeSort_descending {α : Type} (rank : α → List Nat) (items : List α) :
    (items.mergeSort fun left right ↦ descending (rank left) (rank right)).Pairwise
      fun left right ↦ ¬ rank left < rank right := by
  refine (List.pairwise_mergeSort ?_ ?_ items).imp ?_
  · intro first second third
    exact descending_trans
  · intro first second
    exact descending_total _ _
  · intro first second h
    exact descending_iff.mp h

/-- What is sorted the other way is reversed. -/
theorem mergeSort_descending_eq_reverse {α : Type} {rank : α → List Nat} {items : List α}
    (h : (items.map rank).Pairwise (· < ·)) :
    (items.mergeSort fun left right ↦ descending (rank left) (rank right)) = items.reverse := by
  have hordered : items.Pairwise fun left right ↦ rank left < rank right := List.pairwise_map.mp h
  refine @List.Perm.eq_of_pairwise α (fun left right ↦ ¬ rank left < rank right) _ _ ?_ ?_ ?_ ?_
  · intro first second hfirst hsecond hnot hnot'
    rw [List.mem_mergeSort] at hfirst
    rw [List.mem_reverse] at hsecond
    have hnodup : (items.map rank).Nodup := by
      refine h.imp ?_
      intro left right hlt heq
      rw [heq] at hlt
      exact List.lt_irrefl _ hlt
    exact List.inj_on_of_nodup_map hnodup hfirst hsecond (eq_of_not_lt hnot hnot')
  · exact pairwise_mergeSort_descending rank items
  · exact List.pairwise_reverse.mpr (hordered.imp fun hlt ↦ List.lt_asymm hlt)
  · exact (List.mergeSort_perm _ _).trans (List.reverse_perm _).symm

end Descending

namespace WorkingMemory

variable (memory : WorkingMemory) (primitives : MemoryPrimitives) (sourceNamespace : String)
  (actorId topic : Option String) (nowMs : Nat)

/-- The speaker of a context, under a pseudonym. -/
def actorScope : Option String :=
  actorId.map (memory.pseudonymizer.pseudonymize primitives sourceNamespace)

/-- A claim that a context may show: no live one supersedes it, and it is in scope. -/
def isCurrent (scope : Option String) (entry : MemoryEntry) : Bool :=
  (memory.correctionOf nowMs entry.memoryId).isNone && inScope scope entry

/-- The corrections of claims on the topic. -/
def promotions : List Nat :=
  ((memory.liveEntries nowMs).filter (topicMatches primitives (topic.map (normalize primitives)))).filterMap
    fun entry ↦ memory.correctionOf nowMs entry.memoryId

/-- A claim is on the topic, or in the place of one that is. -/
def leads (entry : MemoryEntry) : Bool :=
  topicMatches primitives (topic.map (normalize primitives)) entry ||
    decide (entry.memoryId ∈ memory.promotions primitives topic nowMs)

def contextRank (entry : MemoryEntry) : List Nat :=
  [(memory.leads primitives topic nowMs entry).toNat, entry.createdAtMs, entry.memoryId]

/-- The current claims of a context, in order. -/
def ranking : List MemoryEntry :=
  ((memory.liveEntries nowMs).filter (memory.isCurrent nowMs
    (memory.actorScope primitives sourceNamespace actorId))).mergeSort fun left right ↦
      descending (memory.contextRank primitives topic nowMs left)
        (memory.contextRank primitives topic nowMs right)

/-- A context is a prefix of its order. -/
theorem contextFor_eq_take (limit : Nat) :
    memory.contextFor primitives sourceNamespace actorId topic limit nowMs =
      (memory.ranking primitives sourceNamespace actorId topic nowMs).take limit := by
  rw [contextFor]
  split
  case isTrue h => rw [h, List.take_zero]
  case isFalse => rfl

theorem ranking_pairwise :
    (memory.ranking primitives sourceNamespace actorId topic nowMs).Pairwise fun left right ↦
      ¬ memory.contextRank primitives topic nowMs left <
        memory.contextRank primitives topic nowMs right :=
  pairwise_mergeSort_descending _ _

variable {memory primitives sourceNamespace actorId topic nowMs} {entry : MemoryEntry}

theorem mem_ranking : entry ∈ memory.ranking primitives sourceNamespace actorId topic nowMs ↔
    entry ∈ memory.liveEntries nowMs ∧
      memory.isCurrent nowMs (memory.actorScope primitives sourceNamespace actorId) entry = true := by
  rw [ranking, List.mem_mergeSort, List.mem_filter]

end WorkingMemory

end Aivtuber
