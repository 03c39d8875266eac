import Mathlib.Data.List.TakeWhile

/-!
# Placeholders in a text

A text has placeholders: names between an opening and a closing delimiter.  They are filled
with values in one of two ways.

* *Simultaneously*: the text is cut into its pieces, characters and holes, and each hole is
  filled once (`substitute`).  What is filled in is not looked at again.
* *One after the other*: each placeholder is replaced wherever it occurs, in the text as the
  replacements before left it (`replaceEach`).

The two agree as long as no opening delimiter of the filled text is followed by a closing one
(`replaceEach_eq_substitute`).  Otherwise a value may bring delimiters that look like a
placeholder, and a later replacement takes them for one.
-/

universe u

namespace Placeholder

/-- The delimiters of a placeholder. -/
structure Delimiters (α : Type u) where
  opening : α
  closing : α
  ne : opening ≠ closing

/-- A character of a text, or a placeholder in it. -/
inductive Piece (α : Type u) where
  | char (a : α)
  | hole (name : List α)

variable {α : Type u} (d : Delimiters α)

namespace Delimiters

/-- The placeholder of a name. -/
def placeholder (name : List α) : List α := d.opening :: (name ++ [d.closing])

/-- A name has no delimiter. -/
def IsName (name : List α) : Prop := d.opening ∉ name ∧ d.closing ∉ name

/-- No opening delimiter is followed by a closing one. -/
def Clean (text : List α) : Prop := ¬[d.opening, d.closing].Sublist text

/-- The text of pieces. -/
def flat : List (Piece α) → List α
  | [] => []
  | .char a :: rest => a :: flat rest
  | .hole name :: rest => d.placeholder name ++ flat rest

/-- The holes have names. -/
def WellFormed (pieces : List (Piece α)) : Prop := ∀ name, .hole name ∈ pieces → d.IsName name

end Delimiters

/-- The characters that are not in a hole. -/
def plain : List (Piece α) → List α
  | [] => []
  | .char a :: rest => a :: plain rest
  | .hole _ :: rest => plain rest

/-- Fill the holes that have a value. -/
def fill (value : List α → Option (List α)) : List (Piece α) → List (Piece α)
  | [] => []
  | .char a :: rest => .char a :: fill value rest
  | .hole name :: rest =>
    match value name with
    | some text => text.map .char ++ fill value rest
    | none => .hole name :: fill value rest

section Pieces

variable {d} {pieces : List (Piece α)} {text : List α}

theorem Delimiters.Clean.of_sublist {text' : List α} (h : d.Clean text)
    (hsub : text'.Sublist text) : d.Clean text' := fun hopen ↦ h (hopen.trans hsub)

theorem Delimiters.Clean.closing_notMem {rest : List α} (h : d.Clean (d.opening :: rest)) :
    d.closing ∉ rest :=
  fun hmem ↦ h ((List.singleton_sublist.mpr hmem).cons_cons d.opening)

theorem Delimiters.WellFormed.of_cons {piece : Piece α} (h : d.WellFormed (piece :: pieces)) :
    d.WellFormed pieces := fun name hname ↦ h name (List.mem_cons_of_mem _ hname)

@[simp] theorem flat_append (pieces pieces' : List (Piece α)) :
    d.flat (pieces ++ pieces') = d.flat pieces ++ d.flat pieces' := by
  induction pieces with
  | nil => rfl
  | cons piece rest ih =>
    cases piece <;> simp [Delimiters.flat, ih]

@[simp] theorem flat_map_char (text : List α) : d.flat (text.map .char) = text := by
  induction text with
  | nil => rfl
  | cons a rest ih => simp [Delimiters.flat, ih]

@[simp] theorem plain_append (pieces pieces' : List (Piece α)) :
    plain (pieces ++ pieces') = plain pieces ++ plain pieces' := by
  induction pieces with
  | nil => rfl
  | cons piece rest ih => cases piece <;> simp [plain, ih]

theorem plain_sublist_flat (pieces : List (Piece α)) : (plain pieces).Sublist (d.flat pieces) := by
  induction pieces with
  | nil => exact List.Sublist.refl _
  | cons piece rest ih =>
    cases piece with
    | char a => exact ih.cons_cons a
    | hole name => exact ih.trans (List.sublist_append_right _ _)

/-- Filling adds characters. -/
theorem plain_sublist_fill (value : List α → Option (List α)) (pieces : List (Piece α)) :
    (plain pieces).Sublist (plain (fill value pieces)) := by
  induction pieces with
  | nil => exact List.Sublist.refl _
  | cons piece rest ih =>
    cases piece with
    | char a => exact ih.cons_cons a
    | hole name =>
      rw [fill]
      cases value name with
      | none => exact ih
      | some text =>
        rw [plain_append]
        exact ih.trans (List.sublist_append_right _ _)

theorem fill_map_char (value : List α → Option (List α)) (text : List α)
    (pieces : List (Piece α)) :
    fill value (text.map .char ++ pieces) = text.map .char ++ fill value pieces := by
  induction text with
  | nil => rfl
  | cons a rest ih => exact congrArg (Piece.char a :: ·) ih

theorem Delimiters.WellFormed.fill (h : d.WellFormed pieces)
    (value : List α → Option (List α)) : d.WellFormed (fill value pieces) := by
  induction pieces with
  | nil => exact h
  | cons piece rest ih =>
    have hrest := ih h.of_cons
    intro name hname
    cases piece with
    | char a => exact hrest name ((List.mem_cons.mp hname).resolve_left (by simp))
    | hole other =>
      rw [Placeholder.fill] at hname
      cases hvalue : value other with
      | none =>
        rw [hvalue] at hname
        rcases List.mem_cons.mp hname with heq | hmem
        · exact h name (heq ▸ List.mem_cons_self)
        · exact hrest name hmem
      | some text =>
        rw [hvalue] at hname
        rcases List.mem_append.mp hname with hmem | hmem
        · simp at hmem
        · exact hrest name hmem

end Pieces

/-! ## The pieces of a text -/

section Parse

variable [DecidableEq α]

/-- The pieces behind the first `skip` characters.  A hole starts with an opening delimiter,
and the next delimiter closes it. -/
def piecesFrom : Nat → List α → List (Piece α)
  | _, [] => []
  | skip + 1, _ :: rest => piecesFrom skip rest
  | 0, a :: rest =>
    let name := rest.takeWhile fun b ↦ b ≠ d.opening && b ≠ d.closing
    if a = d.opening ∧ (rest.drop name.length).head? = some d.closing then
      .hole name :: piecesFrom (name.length + 1) rest
    else .char a :: piecesFrom 0 rest

/-- The pieces of a text. -/
def pieces (text : List α) : List (Piece α) := piecesFrom d 0 text

/-- The text with its placeholders filled. -/
def substitute (value : List α → Option (List α)) (text : List α) : List α :=
  d.flat (fill value (pieces d text))

omit [DecidableEq α] in
/-- A text starts with what is taken of it and the next character. -/
theorem takeWhile_append_of_head? {p : α → Bool} {text : List α} {a : α}
    (h : (text.drop (text.takeWhile p).length).head? = some a) :
    text.takeWhile p ++ ([a] ++ text.drop ((text.takeWhile p).length + 1)) = text := by
  have hdrop : text.drop (text.takeWhile p).length =
      a :: text.drop ((text.takeWhile p).length + 1) := by
    obtain ⟨rest, hrest⟩ := List.head?_eq_some_iff.mp h
    rw [← List.tail_drop, hrest]
    rfl
  rw [List.singleton_append, ← hdrop]
  exact List.prefix_iff_eq_append.mp (List.takeWhile_prefix p)

theorem flat_piecesFrom (skip : Nat) (text : List α) :
    d.flat (piecesFrom d skip text) = text.drop skip := by
  induction text generalizing skip with
  | nil => cases skip <;> rfl
  | cons a rest ih =>
    cases skip with
    | succ skip => exact ih skip
    | zero =>
      rw [piecesFrom]
      split
      next h =>
        obtain ⟨rfl, hclosing⟩ := h
        rw [Delimiters.flat, ih, Delimiters.placeholder, List.drop_zero, List.cons_append,
          List.append_assoc]
        refine congrArg (d.opening :: ·) ?_
        exact takeWhile_append_of_head? hclosing
      next => exact congrArg (a :: ·) (ih 0)

theorem piecesFrom_wellFormed (skip : Nat) (text : List α) :
    d.WellFormed (piecesFrom d skip text) := by
  induction text generalizing skip with
  | nil => cases skip <;> exact fun _ h ↦ (by cases h)
  | cons a rest ih =>
    cases skip with
    | succ skip => exact ih skip
    | zero =>
      rw [piecesFrom]
      intro name hname
      split at hname
      · rcases List.mem_cons.mp hname with heq | hmem
        · cases heq
          constructor
          · intro hmem
            simpa using List.mem_takeWhile_imp hmem
          · intro hmem
            simpa using List.mem_takeWhile_imp hmem
        · exact ih _ name hmem
      · exact ih 0 name ((List.mem_cons.mp hname).resolve_left (by simp))

end Parse

/-! ## Replacing one placeholder after the other -/

section Replace

variable [DecidableEq α]

/-- Replace a pattern behind the first `skip` characters, from the left. -/
def replaceFrom (pattern value : List α) : Nat → List α → List α
  | _, [] => []
  | skip + 1, _ :: rest => replaceFrom pattern value skip rest
  | 0, a :: rest =>
    if pattern.isPrefixOf (a :: rest) then
      value ++ replaceFrom pattern value (pattern.length - 1) rest
    else a :: replaceFrom pattern value 0 rest

/-- Replace all occurrences of a pattern that is not empty. -/
def replace (pattern value text : List α) : List α := replaceFrom pattern value 0 text

/-- Replace the placeholder of each name by its value, one after the other. -/
def replaceEach (slots : List (List α × List α)) (text : List α) : List α :=
  slots.foldl (fun text slot ↦ replace (d.placeholder slot.1) slot.2 text) text

section Rules

variable {d} {pattern value rest : List α} {name : List α} {ps : List (Piece α)}

omit [DecidableEq α] in
theorem placeholder_append (name rest : List α) :
    d.placeholder name ++ rest = d.opening :: (name ++ [d.closing] ++ rest) := rfl

/-- The rest of an occurrence is skipped. -/
theorem replaceFrom_length_append (pattern value occurrence rest : List α) :
    replaceFrom pattern value occurrence.length (occurrence ++ rest) =
      replaceFrom pattern value 0 rest := by
  induction occurrence with
  | nil => rfl
  | cons a occurrence ih => exact ih

theorem replaceFrom_of_occurs {a : α} (h : a :: pattern <+: a :: rest) :
    replaceFrom (a :: pattern) value 0 (a :: rest) =
      value ++ replaceFrom (a :: pattern) value pattern.length rest :=
  if_pos (List.isPrefixOf_iff_prefix.mpr h)

theorem replaceFrom_of_not_occurs {a : α} (h : ¬pattern <+: a :: rest) :
    replaceFrom pattern value 0 (a :: rest) = a :: replaceFrom pattern value 0 rest :=
  if_neg (mt List.isPrefixOf_iff_prefix.mp h)

/-- Nothing occurs where there is no opening delimiter. -/
theorem replaceFrom_append_of_notMem {start : List α} (h : d.opening ∉ start)
    (name value rest : List α) : replaceFrom (d.placeholder name) value 0 (start ++ rest) =
      start ++ replaceFrom (d.placeholder name) value 0 rest := by
  induction start with
  | nil => rfl
  | cons a start ih =>
    rw [List.mem_cons, not_or] at h
    rw [List.cons_append, replaceFrom_of_not_occurs, ih h.2]
    · rfl
    · exact fun hstart ↦ h.1 (List.cons_prefix_cons.mp hstart).1

omit [DecidableEq α] in
/-- A name that ends in the text ends in a hole of its own, or in a character. -/
theorem closing_mem_plain (hname : d.IsName name) (h : name ++ [d.closing] <+: d.flat ps) :
    d.closing ∈ plain ps := by
  induction ps generalizing name with
  | nil => simp [Delimiters.flat] at h
  | cons piece rest ih =>
    cases piece with
    | char b =>
      cases name with
      | nil => exact List.mem_cons.mpr (.inl (List.cons_prefix_cons.mp h).1)
      | cons a name =>
        have hname' : d.IsName name :=
          ⟨fun hmem ↦ hname.1 (List.mem_cons_of_mem _ hmem),
            fun hmem ↦ hname.2 (List.mem_cons_of_mem _ hmem)⟩
        exact List.mem_cons_of_mem _ (ih hname' (List.cons_prefix_cons.mp h).2)
    | hole other =>
      cases name with
      | nil => exact absurd (List.cons_prefix_cons.mp h).1.symm d.ne
      | cons a name =>
        exact absurd (List.mem_cons.mpr (.inl (List.cons_prefix_cons.mp h).1.symm)) hname.1

omit [DecidableEq α] in
/-- What stands in front of the first occurrence of an element. -/
theorem append_cons_left_inj {a : α} {start start' rest rest' : List α} (h : a ∉ start)
    (h' : a ∉ start') (heq : start ++ a :: rest = start' ++ a :: rest') : start = start' := by
  induction start generalizing start' with
  | nil =>
    cases start' with
    | nil => rfl
    | cons b start' => exact absurd (List.mem_cons.mpr (.inl (List.cons.inj heq).1)) h'
  | cons b start ih =>
    cases start' with
    | nil => exact absurd (List.mem_cons.mpr (.inl (List.cons.inj heq).1.symm)) h
    | cons c start' =>
      rw [List.mem_cons, not_or] at h h'
      obtain ⟨hhead, htail⟩ := List.cons.inj heq
      rw [hhead, ih h.2 h'.2 htail]

omit [DecidableEq α] in
/-- Placeholders of different names do not start alike. -/
theorem eq_of_same_start {other : List α} (hname : d.IsName name)
    (hother : d.IsName other) (h : d.placeholder name <+: d.placeholder other ++ rest) :
    name = other := by
  rw [placeholder_append, Delimiters.placeholder, List.cons_prefix_cons] at h
  obtain ⟨more, hmore⟩ := h.2
  rw [List.append_assoc, List.append_assoc] at hmore
  exact append_cons_left_inj hname.2 hother.2 hmore

/-- The value of one name. -/
def single (name value : List α) : List α → Option (List α) :=
  fun other ↦ if other = name then some value else none

/-- A replacement fills the holes of its name, and changes nothing else. -/
theorem replace_flat (hname : d.IsName name) (hps : d.WellFormed ps)
    (hclean : d.Clean (plain ps)) (value : List α) :
    replace (d.placeholder name) value (d.flat ps) = d.flat (fill (single name value) ps) := by
  rw [replace]
  induction ps with
  | nil => rfl
  | cons piece rest ih =>
    cases piece with
    | char a =>
      have ih' := ih hps.of_cons (hclean.of_sublist (List.sublist_cons_self _ _))
      rw [Delimiters.flat, fill, Delimiters.flat, ← ih']
      refine replaceFrom_of_not_occurs fun hstart ↦ ?_
      -- A character that opens would be followed by one that closes.
      rw [Delimiters.placeholder, List.cons_prefix_cons] at hstart
      obtain ⟨rfl, hstart⟩ := hstart
      exact hclean.closing_notMem (closing_mem_plain hname hstart)
    | hole other =>
      have hother := hps other List.mem_cons_self
      have ih' := ih hps.of_cons hclean
      rw [Delimiters.flat, fill, single]
      by_cases heq : other = name
      · subst heq
        rw [if_pos rfl, flat_append, flat_map_char, ← ih', placeholder_append]
        refine (replaceFrom_of_occurs (List.prefix_append _ _)).trans ?_
        exact congrArg (value ++ ·) (replaceFrom_length_append _ _ _ _)
      · rw [if_neg heq, placeholder_append]
        refine (replaceFrom_of_not_occurs fun hstart ↦ ?_).trans ?_
        · exact heq (eq_of_same_start hname hother hstart).symm
        · have hstart : d.opening ∉ other ++ [d.closing] := by
            simp [hother.1, d.ne]
          refine congrArg (d.opening :: ·) ?_
          refine (replaceFrom_append_of_notMem hstart name value (d.flat rest)).trans ?_
          rw [ih']
          rfl

/-- Filling one hole and then the others. -/
theorem fill_fill_single (name value : List α) (values : List α → Option (List α))
    (ps : List (Piece α)) : fill values (fill (single name value) ps) =
      fill (fun other ↦ if other = name then some value else values other) ps := by
  induction ps with
  | nil => rfl
  | cons piece rest ih =>
    cases piece with
    | char a => exact congrArg (Piece.char a :: ·) ih
    | hole other =>
      rw [fill, fill, single]
      by_cases heq : other = name
      · rw [if_pos heq, if_pos heq, fill_map_char, ih]
      · rw [if_neg heq, if_neg heq, fill, ih]

omit [DecidableEq α] in
/-- Without values nothing is filled. -/
theorem fill_none (ps : List (Piece α)) : fill (fun _ ↦ none) ps = ps := by
  induction ps with
  | nil => rfl
  | cons piece rest ih =>
    cases piece with
    | char a => exact congrArg (Piece.char a :: ·) ih
    | hole name => exact congrArg (Piece.hole name :: ·) ih

theorem lookup_cons_eq (slot : List α × List α) (slots : List (List α × List α)) :
    (fun name ↦ (slot :: slots).lookup name) =
      fun name ↦ if name = slot.1 then some slot.2 else slots.lookup name := by
  funext name
  by_cases heq : name = slot.1
  · rw [if_pos heq, heq, List.lookup_cons_self]
  · rw [if_neg heq, List.lookup_cons, beq_false_of_ne heq]

theorem replaceEach_flat {slots : List (List α × List α)}
    (hnames : ∀ slot ∈ slots, d.IsName slot.1) (hps : d.WellFormed ps)
    (hclean : d.Clean (d.flat (fill (fun name ↦ slots.lookup name) ps))) :
    replaceEach d slots (d.flat ps) = d.flat (fill (fun name ↦ slots.lookup name) ps) := by
  induction slots generalizing ps with
  | nil =>
    change _ = d.flat (fill (fun _ ↦ none) ps)
    rw [fill_none]
    rfl
  | cons slot slots ih =>
    rw [lookup_cons_eq, ← fill_fill_single] at hclean ⊢
    have hplain : d.Clean (plain ps) := hclean.of_sublist
      (((plain_sublist_fill _ ps).trans (plain_sublist_fill _ _)).trans (plain_sublist_flat _))
    have hfirst := replace_flat (hnames slot List.mem_cons_self) hps hplain slot.2
    rw [replaceEach, List.foldl_cons, hfirst]
    exact ih (fun other hother ↦ hnames other (List.mem_cons_of_mem _ hother)) (hps.fill _) hclean

/-- **Sequential and simultaneous substitution.**  When no opening delimiter of the filled text
is followed by a closing one, the placeholders can be replaced one after the other. -/
theorem replaceEach_eq_substitute {slots : List (List α × List α)} {text : List α}
    (hnames : ∀ slot ∈ slots, d.IsName slot.1)
    (hclean : d.Clean (substitute d (fun name ↦ slots.lookup name) text)) :
    replaceEach d slots text = substitute d (fun name ↦ slots.lookup name) text := by
  have h : replaceEach d slots (d.flat (pieces d text)) =
      substitute d (fun name ↦ slots.lookup name) text :=
    replaceEach_flat hnames (piecesFrom_wellFormed d 0 text) hclean
  rwa [show d.flat (pieces d text) = text from flat_piecesFrom d 0 text] at h

/-- A slot with one value is looked up in any order. -/
theorem lookup_eq_some_iff {slots : List (List α × List α)}
    (h : ∀ slot ∈ slots, ∀ slot' ∈ slots, slot.1 = slot'.1 → slot = slot') {name value : List α} :
    slots.lookup name = some value ↔ (name, value) ∈ slots := by
  induction slots with
  | nil => simp
  | cons slot slots ih =>
    have ih' := ih fun other hother other' hother' ↦
      h other (List.mem_cons_of_mem _ hother) other' (List.mem_cons_of_mem _ hother')
    by_cases heq : name = slot.1
    · rw [heq, List.lookup_cons_self, Option.some.injEq]
      constructor
      · rintro rfl
        exact List.mem_cons_self
      · intro hmem
        exact congrArg Prod.snd (h slot List.mem_cons_self (slot.1, value) hmem rfl)
    · rw [List.lookup_cons, beq_false_of_ne heq, List.mem_cons]
      constructor
      · exact fun hlookup ↦ .inr (ih'.mp hlookup)
      · rintro (hslot | hmem)
        · exact absurd (congrArg Prod.fst hslot) heq
        · exact ih'.mpr hmem

theorem lookup_eq_of_perm {slots slots' : List (List α × List α)} (hperm : slots'.Perm slots)
    (h : ∀ slot ∈ slots, ∀ slot' ∈ slots, slot.1 = slot'.1 → slot = slot') :
    (fun name ↦ slots'.lookup name) = fun name ↦ slots.lookup name := by
  funext name
  refine Option.ext fun value ↦ ?_
  rw [lookup_eq_some_iff h, lookup_eq_some_iff, hperm.mem_iff]
  exact fun slot hslot slot' hslot' ↦ h slot (hperm.mem_iff.mp hslot) slot' (hperm.mem_iff.mp hslot')

end Rules

end Replace

end Placeholder
