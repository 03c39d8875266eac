import Mathlib.Data.List.Basic

/-!
# Pieces of a stream between separators

A stream of records ends each of them with a separator; the last one may lack it.  The
pieces are those of `List.splitOn`, without an empty one at the end.  A reader that sees
the stream in buffers finds one piece after the other: `pieces_append_cons` for a piece with
its separator, `pieces_eq_singleton` for the last one.
-/

universe u

namespace Framing

variable {α : Type u} [BEq α] (sep : α)

/-- The pieces of a stream. -/
def pieces (stream : List α) : List (List α) :=
  (stream.splitOn sep).dropLast ++ (stream.splitOn sep).getLast?.toList.filter (!·.isEmpty)

@[simp] theorem pieces_nil : pieces sep [] = [] := by simp [pieces, List.splitOn_nil]

variable {sep} [LawfulBEq α]

/-- A piece without its separator is the last one. -/
theorem pieces_eq_singleton {piece : List α} (h : sep ∉ piece) (hne : piece ≠ []) :
    pieces sep piece = [piece] := by
  rw [pieces, List.splitOn_eq_singleton h]
  simp [hne]

/-- The first piece ends at the first separator. -/
theorem pieces_append_cons {piece : List α} (h : sep ∉ piece) (rest : List α) :
    pieces sep (piece ++ sep :: rest) = piece :: pieces sep rest := by
  obtain ⟨first, others, hrest⟩ := List.exists_cons_of_ne_nil (List.splitOn_ne_nil sep rest)
  rw [pieces, pieces, List.splitOn_append_cons_self_of_not_mem h, hrest, List.dropLast_cons_cons,
    List.getLast?_cons_cons, List.cons_append]

/-- A start without separator is that of a piece. -/
theorem exists_piece_append {start : List α} (h : sep ∉ start) (hne : start ≠ [])
    (rest : List α) : ∃ more, start ++ more ∈ pieces sep (start ++ rest) := by
  by_cases hmem : sep ∈ rest
  · obtain ⟨more, others, rfl, hmore⟩ := List.eq_append_cons_of_mem hmem
    refine ⟨more, ?_⟩
    rw [← List.append_assoc, pieces_append_cons (by simp [h, hmore])]
    exact List.mem_cons_self
  · refine ⟨rest, ?_⟩
    rw [pieces_eq_singleton (by simp [h, hmem]) (by simp [hne])]
    exact List.mem_singleton_self _

/-- A buffer splits at the position of its first separator. -/
theorem eq_of_findIdx?_eq_some {buffer : List α} {index : Nat}
    (h : buffer.findIdx? (· == sep) = some index) :
    buffer = buffer.take index ++ sep :: buffer.drop (index + 1) ∧ sep ∉ buffer.take index := by
  obtain ⟨hindex, hsep, hbefore⟩ := List.findIdx?_eq_some_iff_getElem.mp h
  constructor
  · rw [← eq_of_beq hsep, List.getElem_cons_drop, List.take_append_drop]
  · intro hmem
    obtain ⟨i, hi, hget⟩ := List.mem_take_iff_getElem.mp hmem
    exact hbefore i (by omega) (by rw [hget, beq_self_eq_true])

theorem notMem_of_findIdx?_eq_none {buffer : List α}
    (h : buffer.findIdx? (· == sep) = none) : sep ∉ buffer := by
  intro hmem
  have hne := List.findIdx?_eq_none_iff.mp h sep hmem
  rw [beq_self_eq_true] at hne
  cases hne

end Framing
