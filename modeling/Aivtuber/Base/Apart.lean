import Aivtuber.Base.Words
import Mathlib.Data.List.Infix

/-!
# Texts that are not read across a mark

A text is *apart* from a mark if, wherever it occurs around a mark, it occurs before the mark or
after it.  A text is apart from a character that it does not have (`apart_singleton`), and from a
mark whose delimiters it does not have, unless it occurs between them (`apart_of_delimited`).  In
a text of pieces with marks between them, what is apart from the mark occurs in a piece
(`Apart.infix_intercalate`).
-/

namespace Aivtuber.Text

universe u

section Apart

variable {α : Type u} {mark text a b : List α} {x : α}

/-- Where `text` occurs around a mark, it occurs before or after it. -/
def Apart (mark text : List α) : Prop :=
  ∀ a b, text <:+: a ++ mark ++ b → text <:+: a ∨ text <:+: b

theorem apart_singleton (hx : x ∉ text) : Apart [x] text := by
  rintro a b ⟨u, v, h⟩
  rw [List.append_assoc, List.append_assoc, List.singleton_append] at h
  rcases List.append_eq_append_iff.mp h with ⟨k, rfl, hk⟩ | ⟨k, rfl, hk⟩
  · rcases List.append_eq_append_iff.mp hk with ⟨l, rfl, -⟩ | ⟨l, rfl, hl⟩
    · exact .inl ⟨u, l, List.append_assoc u text l⟩
    · cases l with
      | nil =>
        refine .inl ⟨u, [], ?_⟩
        rw [List.append_nil, List.append_nil]
      | cons y l =>
        cases hl
        exact absurd (List.mem_append_right k List.mem_cons_self) hx
  · cases k with
    | nil =>
      cases text with
      | nil => exact .inl (List.nil_infix)
      | cons y text =>
        cases hk
        exact absurd List.mem_cons_self hx
    | cons y k =>
      cases hk
      exact .inr ⟨k, v, List.append_assoc k text v⟩

/-- What begins a text and does not have `x` ends before it. -/
theorem prefix_of_not_mem (hx : x ∉ text) (h : text <+: a ++ x :: b) : text <+: a := by
  rcases List.prefix_or_prefix_of_prefix h (List.prefix_append a (x :: b)) with h' | ⟨k, rfl⟩
  · exact h'
  · cases k with
    | nil => exact ⟨[], by rw [List.append_nil, List.append_nil]⟩
    | cons y k =>
      have hk := (List.prefix_append_right_inj a).mp h
      rw [(List.cons_prefix_cons.mp hk).1] at hx
      exact absurd (List.mem_append_right a List.mem_cons_self) hx

/-- A mark with delimiters that the text does not have. -/
theorem apart_of_delimited {mid : List α} {y : α} (hx : x ∉ text) (hy : y ∉ text)
    (hmid : ¬text <:+: mid) : Apart (x :: (mid ++ [y])) text := by
  intro a b h
  have hopen : a ++ (x :: (mid ++ [y])) ++ b = a ++ [x] ++ (mid ++ [y] ++ b) := by
    simp only [List.append_assoc, List.cons_append, List.nil_append]
  rw [hopen] at h
  rcases apart_singleton hx _ _ h with h | h
  · exact .inl h
  · rcases apart_singleton hy _ _ h with h | h
    · exact absurd h hmid
    · exact .inr h

theorem Apart.infix_intercalate (h : Apart mark text) (hne : text ≠ []) {pieces : List (List α)}
    (hocc : text <:+: mark.intercalate pieces) : ∃ piece ∈ pieces, text <:+: piece := by
  induction pieces with
  | nil => exact absurd (List.infix_nil.mp hocc) hne
  | cons piece pieces ih =>
    cases pieces with
    | nil =>
      rw [List.intercalate_singleton] at hocc
      exact ⟨piece, List.mem_cons_self, hocc⟩
    | cons next pieces =>
      rw [List.intercalate_cons_cons] at hocc
      rcases h _ _ hocc with hocc | hocc
      · exact ⟨piece, List.mem_cons_self, hocc⟩
      · obtain ⟨other, hother, hocc⟩ := ih hocc
        exact ⟨other, List.mem_cons_of_mem _ hother, hocc⟩

end Apart

/-! ## Pieces -/

section Pieces

variable {α : Type u} {mark text : List α}

theorem intercalate_cons_head (c : α) (first : List α) (later : List (List α)) :
    mark.intercalate ((c :: first) :: later) = c :: mark.intercalate (first :: later) := by
  cases later with
  | nil => rw [List.intercalate_singleton, List.intercalate_singleton]
  | cons next later =>
    rw [List.intercalate_cons_cons, List.intercalate_cons_cons]
    rfl

theorem prefix_intercalate (first : List α) (later : List (List α)) :
    first <+: mark.intercalate (first :: later) := by
  cases later with
  | nil => rw [List.intercalate_singleton]
  | cons next later =>
    rw [List.intercalate_cons_cons, List.append_assoc]
    exact List.prefix_append _ _

/-- Each piece occurs in the text of the pieces. -/
theorem infix_intercalate_of_mem {piece : List α} {pieces : List (List α)} (h : piece ∈ pieces) :
    piece <:+: mark.intercalate pieces := by
  induction pieces with
  | nil => cases h
  | cons first pieces ih =>
    cases pieces with
    | nil =>
      rw [List.mem_singleton] at h
      rw [h, List.intercalate_singleton]
    | cons next pieces =>
      rw [List.intercalate_cons_cons]
      rcases List.mem_cons.mp h with rfl | h
      · rw [List.append_assoc]
        exact (List.prefix_append _ _).isInfix
      · exact (ih h).trans (List.suffix_append _ _).isInfix

/-- A later piece occurs behind a mark. -/
theorem infix_intercalate_of_mem_tail {piece : List α} {pieces : List (List α)}
    (h : piece ∈ pieces.tail) : mark ++ piece <:+: mark.intercalate pieces := by
  induction pieces with
  | nil => cases h
  | cons first pieces ih =>
    cases pieces with
    | nil => cases h
    | cons next pieces =>
      rw [List.intercalate_cons_cons, List.append_assoc]
      refine List.IsInfix.trans ?_ (List.suffix_append first _).isInfix
      rcases List.mem_cons.mp h with rfl | h
      · exact ((List.prefix_append_right_inj mark).mpr (prefix_intercalate _ _)).isInfix
      · exact (ih h).trans (List.suffix_append _ _).isInfix

end Pieces

/-! ## Words -/

variable {cs : List Char}

/-- The first piece of a text begins it, and the others occur in it. -/
theorem splitOnP_infix {head : List Char} {pieces : List (List Char)}
    (h : cs.splitOnP isWhitespace = head :: pieces) :
    head <+: cs ∧ ∀ piece ∈ pieces, piece <:+: cs := by
  induction cs generalizing head pieces with
  | nil =>
    rw [List.splitOnP_nil] at h
    cases h
    exact ⟨List.prefix_rfl, fun piece hpiece ↦ nomatch hpiece⟩
  | cons c cs ih =>
    cases hrest : cs.splitOnP isWhitespace with
    | nil => exact absurd hrest (List.splitOnP_ne_nil _ _)
    | cons first rest =>
      obtain ⟨hfirst, hlater⟩ := ih hrest
      have hcons {piece : List Char} (hpiece : piece <:+: cs) : piece <:+: c :: cs :=
        hpiece.trans (List.suffix_cons c cs).isInfix
      rw [List.splitOnP_cons_eq_if_modifyHead, hrest] at h
      split at h
      case isTrue =>
        cases h
        refine ⟨List.nil_prefix, fun piece hpiece ↦ ?_⟩
        rcases List.mem_cons.mp hpiece with rfl | hpiece
        · exact hcons hfirst.isInfix
        · exact hcons (hlater piece hpiece)
      case isFalse =>
        rw [List.modifyHead_cons] at h
        cases h
        exact ⟨(List.prefix_cons_inj c).mpr hfirst,
          fun piece hpiece ↦ hcons (hlater piece hpiece)⟩

/-- A word of a text occurs in it. -/
theorem infix_of_mem_wordsOf {word : List Char} (h : word ∈ wordsOf cs) : word <:+: cs := by
  have hmem := List.mem_of_mem_filter h
  cases hpieces : cs.splitOnP isWhitespace with
  | nil => exact absurd hpieces (List.splitOnP_ne_nil _ _)
  | cons head pieces =>
    rw [hpieces] at hmem
    obtain ⟨hhead, hlater⟩ := splitOnP_infix hpieces
    rcases List.mem_cons.mp hmem with rfl | hmem
    · exact hhead.isInfix
    · exact hlater word hmem

end Aivtuber.Text
