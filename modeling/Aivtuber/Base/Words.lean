import Aivtuber.Base.Text
import Mathlib.Data.String.Basic
import Mathlib.Algebra.Order.BigOperators.Group.List

/-!
# Words

The words of a text, joined by single spaces (`collapse`), are its words again
(`wordsOf_intercalate`) and no longer than the text (`length_collapse_le`); and a text
that fits is not cut (`truncateUtf8_eq_self`).
-/

namespace Aivtuber.Text

/-! ## Cuts -/

theorem takeBytes_eq_self {cs : List Char} {maxBytes : Nat} (h : String.utf8Len cs ≤ maxBytes) :
    takeBytes maxBytes cs = cs := by
  induction cs generalizing maxBytes with
  | nil => cases maxBytes <;> rfl
  | cons c cs ih =>
    rw [String.utf8Len_cons] at h
    rw [takeBytes, if_pos (by omega), ih (by omega)]

theorem takeBytes_isPrefix (maxBytes : Nat) (cs : List Char) : takeBytes maxBytes cs <+: cs := by
  induction cs generalizing maxBytes with
  | nil => cases maxBytes <;> exact List.prefix_rfl
  | cons c cs ih =>
    rw [takeBytes]
    split
    · exact (List.prefix_cons_inj c).mpr (ih _)
    · exact List.nil_prefix

theorem utf8Len_takeBytes_le (maxBytes : Nat) (cs : List Char) :
    String.utf8Len (takeBytes maxBytes cs) ≤ maxBytes := by
  induction cs generalizing maxBytes with
  | nil => cases maxBytes <;> exact Nat.zero_le _
  | cons c cs ih =>
    rw [takeBytes]
    split
    case isTrue h =>
      rw [String.utf8Len_cons]
      have hrest := ih (maxBytes - c.utf8Size)
      omega
    case isFalse => exact Nat.zero_le _

variable {s : String} {maxBytes : Nat}

theorem utf8Len_toList (s : String) : String.utf8Len s.toList = s.utf8ByteSize := by
  rw [← String.utf8ByteSize_ofList, String.ofList_toList]

/-- A text that fits is not cut. -/
theorem truncateUtf8_eq_self (h : s.utf8ByteSize ≤ maxBytes) : truncateUtf8 s maxBytes = s := by
  rw [← utf8Len_toList] at h
  rw [truncateUtf8, takeBytes_eq_self h, String.ofList_toList]

/-- What is cut is shorter. -/
theorem length_truncateUtf8_lt (h : maxBytes < s.utf8ByteSize) :
    (truncateUtf8 s maxBytes).length < s.length := by
  rw [truncateUtf8, ← String.length_toList, ← String.length_toList, String.toList_ofList]
  have hcut := takeBytes_isPrefix maxBytes s.toList
  refine Nat.lt_of_le_of_ne hcut.length_le fun hlength ↦ ?_
  have hbytes := utf8Len_takeBytes_le maxBytes s.toList
  rw [hcut.eq_of_length hlength, utf8Len_toList] at hbytes
  omega

/-! ## Words -/

/-- A word has characters, and none of them is white space. -/
structure IsWord (cs : List Char) : Prop where
  nonempty : cs ≠ []
  solid : ∀ c ∈ cs, isWhitespace c = false

def wordsOf (cs : List Char) : List (List Char) :=
  (cs.splitOnP isWhitespace).filter (· ≠ [])

/-- The characters of a piece are those of the text that are not white space. -/
theorem mem_splitOnP {cs piece : List Char} (h : piece ∈ cs.splitOnP isWhitespace) :
    ∀ c ∈ piece, c ∈ cs ∧ isWhitespace c = false := by
  induction cs generalizing piece with
  | nil =>
    rw [List.splitOnP_nil, List.mem_singleton] at h
    rw [h]
    intro c hc
    cases hc
  | cons first cs ih =>
    have hlater : ∀ piece ∈ cs.splitOnP isWhitespace, ∀ c ∈ piece,
        c ∈ first :: cs ∧ isWhitespace c = false := fun piece hpiece c hc ↦
      (ih hpiece c hc).imp_left (List.mem_cons_of_mem _)
    rw [List.splitOnP_cons_eq_if_modifyHead] at h
    split at h
    case isTrue =>
      rcases List.mem_cons.mp h with rfl | hrest
      · intro c hc
        cases hc
      · exact hlater piece hrest
    case isFalse hsolid =>
      cases hpieces : cs.splitOnP isWhitespace with
      | nil => exact absurd hpieces (List.splitOnP_ne_nil _ _)
      | cons head pieces =>
        rw [hpieces, List.modifyHead_cons] at h
        rw [hpieces] at hlater
        rcases List.mem_cons.mp h with rfl | hrest
        · intro c hc
          rcases List.mem_cons.mp hc with rfl | hhead
          · exact ⟨List.mem_cons_self, eq_false_of_ne_true hsolid⟩
          · exact hlater head List.mem_cons_self c hhead
        · exact hlater piece (List.mem_cons_of_mem _ hrest)

theorem isWord_of_mem_wordsOf {cs word : List Char} (h : word ∈ wordsOf cs) : IsWord word := by
  obtain ⟨hmem, hnonempty⟩ := List.mem_filter.mp h
  exact ⟨of_decide_eq_true hnonempty, fun c hc ↦ (mem_splitOnP hmem c hc).2⟩

/-- Words that are joined by single spaces are told apart. -/
theorem wordsOf_intercalate {words : List (List Char)} (h : ∀ word ∈ words, IsWord word) :
    wordsOf ([' '].intercalate words) = words := by
  induction words with
  | nil => rfl
  | cons word words ih =>
    have hword := h word List.mem_cons_self
    have hkeep (rest : List (List Char)) : (word :: rest).filter (· ≠ []) =
        word :: rest.filter (· ≠ []) := List.filter_cons_of_pos (decide_eq_true hword.nonempty)
    cases words with
    | nil =>
      rw [List.intercalate_singleton, wordsOf, List.splitOnP_eq_singleton hword.solid,
        hkeep, List.filter_nil]
    | cons next words =>
      rw [List.intercalate_cons_cons, List.append_assoc, List.singleton_append, wordsOf,
        List.splitOnP_append_cons_of_forall_mem hword.solid ' ' (by decide),
        hkeep]
      congr 1
      exact ih fun other hother ↦ h other (List.mem_cons_of_mem _ hother)

/-- A text with single spaces between its words, and none around them. -/
def collapse (s : String) : String := " ".intercalate (splitWhitespace s)

theorem toList_collapse (s : String) :
    (collapse s).toList = [' '].intercalate (wordsOf s.toList) := by
  have hmap : (splitWhitespace s).map String.toList = wordsOf s.toList := by
    rw [splitWhitespace, List.map_map]
    exact List.map_id'' (fun cs ↦ String.toList_ofList) _
  rw [collapse, String.toList_intercalate, hmap]
  rfl

theorem collapse_collapse (s : String) : collapse (collapse s) = collapse s := by
  rw [← String.toList_inj, toList_collapse, toList_collapse,
    wordsOf_intercalate fun _ hword ↦ isWord_of_mem_wordsOf hword]

/-- A text of one word is collapsed. -/
theorem collapse_word (h : IsWord s.toList) : collapse s = s := by
  have hone : wordsOf s.toList = [s.toList] := by
    have hall : ∀ word ∈ [s.toList], IsWord word := fun word hword ↦ List.mem_singleton.mp hword ▸ h
    have hwords := wordsOf_intercalate hall
    rwa [List.intercalate_singleton] at hwords
  rw [← String.toList_inj, toList_collapse, hone, List.intercalate_singleton]

/-- The characters of a collapsed text are its own, and spaces. -/
theorem mem_collapse {c : Char} (h : c ∈ (collapse s).toList) : c = ' ' ∨ c ∈ s.toList := by
  have hjoin (words : List (List Char)) (hc : c ∈ [' '].intercalate words) :
      c = ' ' ∨ ∃ word ∈ words, c ∈ word := by
    induction words with
    | nil => cases hc
    | cons word words ih =>
      cases words with
      | nil =>
        rw [List.intercalate_singleton] at hc
        exact .inr ⟨word, List.mem_cons_self, hc⟩
      | cons next words =>
        rw [List.intercalate_cons_cons, List.append_assoc, List.mem_append,
          List.singleton_append, List.mem_cons] at hc
        rcases hc with hword | hspace | hrest
        · exact .inr ⟨word, List.mem_cons_self, hword⟩
        · exact .inl hspace
        · exact (ih hrest).imp_right fun ⟨other, hother, hmem⟩ ↦
            ⟨other, List.mem_cons_of_mem _ hother, hmem⟩
  rw [toList_collapse] at h
  refine (hjoin _ h).imp_right fun ⟨word, hword, hc⟩ ↦ ?_
  exact (mem_splitOnP (List.mem_of_mem_filter hword) c hc).1

/-! ## Lengths -/

theorem sum_length_splitOnP (cs : List Char) :
    ((cs.splitOnP isWhitespace).map fun piece ↦ piece.length + 1).sum = cs.length + 1 := by
  induction cs with
  | nil => rfl
  | cons c cs ih =>
    rw [List.splitOnP_cons_eq_if_modifyHead]
    split
    case isTrue =>
      rw [List.map_cons, List.sum_cons, ih, List.length_nil, List.length_cons]
      omega
    case isFalse =>
      cases hpieces : cs.splitOnP isWhitespace with
      | nil => exact absurd hpieces (List.splitOnP_ne_nil _ _)
      | cons head pieces =>
        rw [hpieces, List.map_cons, List.sum_cons] at ih
        rw [List.modifyHead_cons, List.map_cons, List.sum_cons, List.length_cons,
          List.length_cons]
        omega

theorem length_intercalate_le (words : List (List Char)) :
    ([' '].intercalate words).length ≤ (words.map fun word ↦ word.length + 1).sum - 1 := by
  induction words with
  | nil => exact Nat.zero_le _
  | cons word words ih =>
    cases words with
    | nil =>
      rw [List.intercalate_singleton, List.map_singleton, List.sum_singleton]
      omega
    | cons next words =>
      rw [List.intercalate_cons_cons, List.length_append, List.length_append,
        List.length_singleton, List.map_cons, List.sum_cons]
      rw [List.map_cons, List.sum_cons] at ih ⊢
      omega

/-- Collapsing makes no text longer. -/
theorem length_collapse_le (s : String) : (collapse s).length ≤ s.length := by
  rw [← String.length_toList, ← String.length_toList, toList_collapse]
  have hsum : ((wordsOf s.toList).map fun word ↦ word.length + 1).sum ≤ s.toList.length + 1 := by
    rw [← sum_length_splitOnP]
    exact (List.filter_sublist.map _).sum_le_sum fun _ _ ↦ Nat.zero_le _
  exact (length_intercalate_le _).trans (by omega)

end Aivtuber.Text
