import Mathlib.Data.List.Infix
import Mathlib.Data.List.Perm.Subperm
import Aivtuber.Telemetry.Redactor

/-!
# What a redaction leaves

The secrets are replaced one after the other, so an earlier replacement can break a later
secret, and a marker can complete one.  Neither happens to a text that has a *reading*: a
sequence of plain characters and whole secrets such that no secret starts at a plain
character, and no other secret starts within a secret of the reading.  In a reading, the
occurrences that a replacement finds are its tokens, whichever secrets are markers by now
(`Legible.replaceAll_masked`): so all orders lead to the same text, in which each secret of
the reading is a marker as a whole.

What has to be excluded besides is that a secret can be read *across* a marker, some of
whose characters it shares.  A secret that shares none is never read across
(`not_across_of_disjoint`).
-/

namespace Aivtuber

namespace Redaction

/-- What replaces a secret. -/
def marker : List Char := "[REDACTED]".toList

inductive Token where
  | plain (c : Char)
  | secret (s : List Char)

def Token.chars : Token → List Char
  | .plain c => [c]
  | .secret s => s

/-- The text of a reading. -/
def spell (tokens : List Token) : List Char := tokens.flatMap Token.chars

/-- The characters of a token once the secrets of `marked` are replaced, and whether they
belong to a marker. -/
def Token.cells (marked : List (List Char)) : Token → List (Char × Bool)
  | .plain c => [(c, false)]
  | .secret s => if s ∈ marked then marker.map (·, true) else s.map (·, false)

def cells (marked : List (List Char)) (tokens : List Token) : List (Char × Bool) :=
  tokens.flatMap (Token.cells marked)

/-- The text of a reading once the secrets of `marked` are replaced. -/
def masked (marked : List (List Char)) (tokens : List Token) : List Char :=
  (cells marked tokens).map Prod.fst

/-- A reading: no secret starts at a plain character, and none but `s` within the secret
`s`. -/
inductive Reading (secrets : List (List Char)) : List Token → Prop
  | nil : Reading secrets []
  | plain {c : Char} {tokens : List Token}
      (hnone : ∀ t ∈ secrets, ¬t <+: c :: spell tokens) (h : Reading secrets tokens) :
      Reading secrets (.plain c :: tokens)
  | secret {s : List Char} {tokens : List Token} (hs : s ∈ secrets)
      (halone : ∀ t ∈ secrets, t ≠ s → ∀ u, u ≠ [] → u <:+ s → ¬t <+: u ++ spell tokens)
      (h : Reading secrets tokens) : Reading secrets (.secret s :: tokens)

/-- `t` can be read across a marker. -/
def Across (t : List Char) (cells : List (Char × Bool)) : Prop :=
  ∃ o, o <:+: cells ∧ o.map Prod.fst = t ∧ ∃ cell ∈ o, cell.2 = true

/-- A reading in which no secret is read across a marker, neither when it is its turn nor
when all are replaced. -/
structure Legible (secrets : List (List Char)) (tokens : List Token) : Prop where
  reading : Reading secrets tokens
  turn : ∀ t marked, (t :: marked).Subperm secrets → ¬Across t (cells marked tokens)
  final : ∀ t ∈ secrets, ¬Across t (cells secrets tokens)

/-! ## Cells -/

section Cells

variable {marked secrets : List (List Char)} {t : List Char} {tokens : List Token}

@[simp] theorem spell_nil : spell [] = [] := rfl

@[simp] theorem spell_cons (token : Token) (tokens : List Token) :
    spell (token :: tokens) = token.chars ++ spell tokens := rfl

@[simp] theorem cells_nil : cells marked [] = [] := rfl

@[simp] theorem cells_cons (token : Token) (tokens : List Token) :
    cells marked (token :: tokens) = token.cells marked ++ cells marked tokens := rfl

@[simp] theorem masked_nil : masked marked [] = [] := rfl

theorem masked_cons (token : Token) (tokens : List Token) :
    masked marked (token :: tokens) = (token.cells marked).map Prod.fst ++ masked marked tokens := by
  rw [masked, cells_cons, List.map_append]
  rfl

theorem spell_append (left right : List Token) :
    spell (left ++ right) = spell left ++ spell right := List.flatMap_append

theorem cells_append (left right : List Token) :
    cells marked (left ++ right) = cells marked left ++ cells marked right := List.flatMap_append

theorem masked_append (left right : List Token) :
    masked marked (left ++ right) = masked marked left ++ masked marked right := by
  rw [masked, cells_append, List.map_append]
  rfl

theorem Across.mono {cells cells' : List (Char × Bool)} (h : Across t cells)
    (hsub : cells <:+: cells') : Across t cells' := by
  obtain ⟨o, ho, hrest⟩ := h
  exact ⟨o, ho.trans hsub, hrest⟩

theorem prefix_append_cases {α : Type} {o a b : List α} (h : o <+: a ++ b) :
    o <+: a ∨ ∃ o', o = a ++ o' ∧ o' <+: b := by
  rcases List.prefix_or_prefix_of_prefix h (List.prefix_append a b) with h' | ⟨o', rfl⟩
  · exact Or.inl h'
  · exact Or.inr ⟨o', rfl, (List.prefix_append_right_inj a).mp h⟩

/-- The cells of a token that is not replaced are its characters, those of one that is are
a marker. -/
theorem token_cells_cases (marked : List (List Char)) (token : Token) :
    token.cells marked = token.chars.map (·, false) ∨
      (∃ s ∈ marked, token = .secret s) ∧ token.cells marked = marker.map (·, true) := by
  cases token with
  | plain c => exact Or.inl rfl
  | secret s =>
    rw [Token.cells]
    split
    case isTrue hs => exact Or.inr ⟨⟨s, hs, rfl⟩, rfl⟩
    case isFalse => exact Or.inl rfl

theorem map_fst_unmarked (u : List Char) : (u.map (·, false)).map Prod.fst = u := by
  rw [List.map_map]
  exact List.map_id u

/-- An occurrence in front that is not across any marker lies in the original text. -/
theorem prefix_of_unmarked {o : List (Char × Bool)} {tokens : List Token}
    (ho : o <+: cells marked tokens) (hunmarked : ∀ cell ∈ o, cell.2 = false) :
    o.map Prod.fst <+: spell tokens := by
  induction tokens generalizing o with
  | nil =>
    rw [cells_nil, List.prefix_nil] at ho
    rw [ho]
    exact List.nil_prefix
  | cons token tokens ih =>
    rw [cells_cons] at ho
    rw [spell_cons]
    rcases token_cells_cases marked token with htoken | ⟨-, htoken⟩
    · rw [htoken] at ho
      rcases prefix_append_cases ho with ho | ⟨o', rfl, ho'⟩
      · have hmap := ho.map Prod.fst
        rw [map_fst_unmarked] at hmap
        exact hmap.trans (List.prefix_append _ _)
      · rw [List.map_append, map_fst_unmarked]
        exact (List.prefix_append_right_inj _).mpr
          (ih ho' fun cell hcell ↦ hunmarked cell (List.mem_append_right _ hcell))
    · cases o with
      | nil => exact List.nil_prefix
      | cons cell o =>
        -- the first cell of the occurrence is that of the marker
        rw [htoken] at ho
        obtain ⟨rfl, -⟩ := List.cons_prefix_cons.mp (show cell :: o <+: ('[', true) :: _ from ho)
        cases hunmarked _ List.mem_cons_self

theorem exists_prefix_of_map {α β : Type} {f : α → β} {t : List β} {l : List α}
    (h : t <+: l.map f) : ∃ o, o <+: l ∧ o.map f = t := by
  obtain ⟨rest, hrest⟩ := h
  obtain ⟨o, o', rfl, hmap, -⟩ := List.map_eq_append_iff.mp hrest.symm
  exact ⟨o, List.prefix_append o o', hmap⟩

/-- What does not start the original text starts a masked one only across a marker. -/
theorem not_prefix_masked (hspell : ¬t <+: spell tokens) (hacross : ¬Across t (cells marked tokens)) :
    ¬t <+: masked marked tokens := by
  intro h
  obtain ⟨o, ho, hmap⟩ := exists_prefix_of_map h
  refine hacross ⟨o, ho.isInfix, hmap, ?_⟩
  by_contra hunmarked
  refine hspell (hmap ▸ prefix_of_unmarked ho fun cell hcell ↦ ?_)
  cases hcell2 : cell.2 with
  | false => rfl
  | true => exact absurd ⟨cell, hcell, hcell2⟩ hunmarked

/-- What starts at a marker is read across it. -/
theorem across_of_start {c : Char} {l : List (Char × Bool)} (hne : t ≠ [])
    (h : t <+: ((c, true) :: l).map Prod.fst) : Across t ((c, true) :: l) := by
  obtain ⟨o, ho, hmap⟩ := exists_prefix_of_map h
  refine ⟨o, ho.isInfix, hmap, ?_⟩
  cases o with
  | nil => exact absurd hmap.symm hne
  | cons cell o =>
    obtain ⟨rfl, -⟩ := List.cons_prefix_cons.mp ho
    exact ⟨_, List.mem_cons_self, rfl⟩

end Cells

/-! ## One replacement -/

section Replace

variable {marked secrets : List (List Char)} {t : List Char} {tokens : List Token}

/-- Where the pattern does not start, the text is kept. -/
theorem replaceAll_keep {m u v : List Char} (h : ∀ u', u' ≠ [] → u' <:+ u → ¬t <+: u' ++ v) :
    replaceAll t m 0 (u ++ v) = u ++ replaceAll t m 0 v := by
  induction u with
  | nil => rfl
  | cons c u ih =>
    have hno : ¬t.isPrefixOf (c :: (u ++ v)) = true := by
      rw [List.isPrefixOf_iff_prefix]
      exact h (c :: u) (List.cons_ne_nil c u) List.suffix_rfl
    rw [List.cons_append, replaceAll, if_neg hno,
      ih fun u' hne hu' ↦ h u' hne (hu'.trans (List.suffix_cons c u))]
    rfl

theorem replaceAll_skip (m u v : List Char) :
    replaceAll t m u.length (u ++ v) = replaceAll t m 0 v := by
  induction u with
  | nil => rfl
  | cons c u ih => exact ih

theorem replaceAll_hit (hne : t ≠ []) (m v : List Char) :
    replaceAll t m 0 (t ++ v) = m ++ replaceAll t m 0 v := by
  cases t with
  | nil => exact absurd rfl hne
  | cons c t =>
    have hyes : (c :: t).isPrefixOf (c :: (t ++ v)) = true := by
      rw [List.isPrefixOf_iff_prefix]
      exact List.prefix_append (c :: t) v
    rw [List.cons_append, replaceAll, if_pos hyes]
    exact congrArg _ (replaceAll_skip m t v)

/-- The tokens of characters that are not replaced. -/
theorem cells_plain (u : List Char) :
    cells marked (u.map .plain ++ tokens) = u.map (·, false) ++ cells marked tokens := by
  induction u with
  | nil => rfl
  | cons c u ih => exact congrArg ((c, false) :: ·) ih

theorem spell_plain (u : List Char) : spell (u.map .plain ++ tokens) = u ++ spell tokens := by
  induction u with
  | nil => rfl
  | cons c u ih => exact congrArg (c :: ·) ih

theorem masked_plain (u : List Char) :
    masked marked (u.map .plain ++ tokens) = u ++ masked marked tokens := by
  rw [masked, cells_plain, List.map_append, map_fst_unmarked]
  rfl

/-- Past a part of a secret, which `t` does not start in. -/
theorem not_prefix_part {s u : List Char} (hu : u <:+ s) (hspell : ¬t <+: u ++ spell tokens)
    (hacross : ¬Across t (s.map (·, false) ++ cells marked tokens)) :
    ¬t <+: u ++ masked marked tokens := by
  have hpart : ¬t <+: masked marked (u.map .plain ++ tokens) := by
    refine not_prefix_masked (by rwa [spell_plain]) fun h ↦ hacross (h.mono ?_)
    obtain ⟨p, rfl⟩ := hu
    rw [cells_plain, List.map_append, List.append_assoc]
    exact (List.suffix_append _ _).isInfix
  rwa [masked_plain] at hpart

/-- Within a marker, which nothing is read across. -/
theorem not_prefix_marker {u : List Char} (hne : t ≠ []) (hu : u <:+ marker) (hu' : u ≠ [])
    (hacross : ¬Across t (marker.map (·, true) ++ cells marked tokens)) :
    ¬t <+: u ++ masked marked tokens := by
  intro h
  obtain ⟨p, hp⟩ := hu
  cases u with
  | nil => exact hu' rfl
  | cons c u =>
    have hcells : (c :: u) ++ masked marked tokens =
        ((c, true) :: (u.map (·, true) ++ cells marked tokens)).map Prod.fst := by
      rw [List.map_cons, List.map_append, List.map_map, List.cons_append]
      exact congrArg (fun v ↦ c :: (v ++ _)) (List.map_id u).symm
    rw [hcells] at h
    refine hacross ((across_of_start hne h).mono ?_)
    rw [← hp, List.map_append, List.append_assoc]
    exact (List.suffix_append _ _).isInfix

/-- **One replacement** finds the tokens of its secret, whichever others are markers. -/
theorem Reading.replaceAll_masked (h : Reading secrets tokens) (ht : t ∈ secrets) (hne : t ≠ [])
    (hacross : ¬Across t (cells marked tokens)) :
    replaceAll t marker 0 (masked marked tokens) = masked (t :: marked) tokens := by
  induction h with
  | nil => rfl
  | @plain c tokens hnone _ ih =>
    have hrest := ih fun h ↦ hacross (h.mono (List.suffix_append _ _).isInfix)
    rw [masked_cons, masked_cons, ← hrest]
    refine replaceAll_keep fun u' hu' hsuffix ↦ ?_
    obtain rfl : u' = [c] := by
      rcases List.suffix_cons_iff.mp hsuffix with rfl | hnil
      · rfl
      · exact absurd (List.suffix_nil.mp hnil) hu'
    exact not_prefix_masked (hnone t ht) hacross
  | @secret s tokens hs halone _ ih =>
    have hrest := ih fun h ↦ hacross (h.mono (List.suffix_append _ _).isInfix)
    rw [masked_cons, masked_cons, ← hrest, Token.cells, Token.cells]
    rw [cells_cons, Token.cells] at hacross
    by_cases hmarked : s ∈ marked
    · rw [if_pos hmarked] at hacross ⊢
      rw [if_pos (List.mem_cons_of_mem t hmarked)]
      exact replaceAll_keep fun u' hu' hsuffix ↦ not_prefix_marker hne hsuffix hu' hacross
    · rw [if_neg hmarked] at hacross ⊢
      rw [map_fst_unmarked]
      by_cases hst : s = t
      · rw [if_pos (hst ▸ List.mem_cons_self), hst]
        exact replaceAll_hit hne marker _
      · rw [if_neg (by simp [hst, hmarked]), map_fst_unmarked]
        exact replaceAll_keep fun u' hu' hsuffix ↦
          not_prefix_part hsuffix (halone t ht (Ne.symm hst) u' hu' hsuffix) hacross

end Replace

/-! ## All replacements -/

/-- The replacements of `order`, one after the other. -/
def redactChars (order : List (List Char)) (text : List Char) : List Char :=
  order.foldl (fun output s ↦ replaceAll s marker 0 output) text

section Order

variable {secrets order : List (List Char)} {t : List Char} {tokens : List Token}

theorem masked_congr {marked marked' : List (List Char)} (h : ∀ s, s ∈ marked ↔ s ∈ marked')
    (tokens : List Token) : masked marked tokens = masked marked' tokens := by
  induction tokens with
  | nil => rfl
  | cons token tokens ih =>
    rw [masked_cons, masked_cons, ih]
    cases token with
    | plain c => rfl
    | secret s =>
      rw [Token.cells, Token.cells]
      simp only [h s]

theorem masked_none (tokens : List Token) : masked [] tokens = spell tokens := by
  induction tokens with
  | nil => rfl
  | cons token tokens ih =>
    rw [masked_cons, spell_cons, ih]
    cases token with
    | plain c => rfl
    | secret s =>
      rw [Token.cells, if_neg List.not_mem_nil, map_fst_unmarked]
      rfl

theorem Legible.foldl_masked (h : Legible secrets tokens) (hne : ∀ s ∈ secrets, s ≠ [])
    (marked : List (List Char)) (hsub : (order ++ marked).Subperm secrets) :
    redactChars order (masked marked tokens) = masked (order ++ marked) tokens := by
  induction order generalizing marked with
  | nil => rfl
  | cons t order ih =>
    have hturn : (t :: marked).Subperm secrets :=
      (((List.sublist_append_right order marked).cons_cons t).subperm).trans hsub
    have ht : t ∈ secrets := hturn.subset List.mem_cons_self
    have hnext : (order ++ t :: marked).Subperm secrets :=
      List.perm_middle.subperm.trans hsub
    calc redactChars (t :: order) (masked marked tokens)
        = redactChars order (replaceAll t marker 0 (masked marked tokens)) := rfl
      _ = redactChars order (masked (t :: marked) tokens) := by
          rw [h.reading.replaceAll_masked ht (hne t ht) (h.turn t marked hturn)]
      _ = masked (order ++ t :: marked) tokens := ih (t :: marked) hnext
      _ = masked (t :: order ++ marked) tokens :=
          masked_congr (fun _ ↦ List.perm_middle.mem_iff) tokens

/-- **All orders** replace the secrets of the reading, and nothing else. -/
theorem Legible.redactChars_eq (h : Legible secrets tokens) (hne : ∀ s ∈ secrets, s ≠ [])
    (horder : order.Perm secrets) : redactChars order (spell tokens) = masked secrets tokens := by
  rw [← masked_none, h.foldl_masked hne [] (by rw [List.append_nil]; exact horder.subperm),
    List.append_nil]
  exact masked_congr (fun _ ↦ horder.mem_iff) tokens

/-! ## No secret is left -/

/-- An occurrence behind a marker, when it is not across it. -/
theorem infix_of_unmarked {o l : List (Char × Bool)} (m : List Char) (hne : o ≠ [])
    (hunmarked : ∀ cell ∈ o, cell.2 = false) (h : o <:+: m.map (·, true) ++ l) : o <:+: l := by
  induction m with
  | nil => exact h
  | cons c m ih =>
    rw [List.map_cons, List.cons_append] at h
    rcases List.infix_cons_iff.mp h with h | h
    · cases o with
      | nil => exact absurd rfl hne
      | cons cell o =>
        obtain ⟨rfl, -⟩ := List.cons_prefix_cons.mp h
        cases hunmarked _ List.mem_cons_self
    · exact ih h

/-- Once every secret is replaced, none is left in the original characters. -/
theorem Reading.not_infix {marked : List (List Char)} (h : Reading secrets tokens)
    (hmarked : ∀ s ∈ secrets, s ∈ marked) (ht : t ∈ secrets) {o : List (Char × Bool)} (hne : o ≠ [])
    (hunmarked : ∀ cell ∈ o, cell.2 = false) (hmap : o.map Prod.fst = t) :
    ¬o <:+: cells marked tokens := by
  induction h with
  | nil => exact fun h ↦ hne (List.infix_nil.mp h)
  | @plain c tokens hnone _ ih =>
    intro h
    rcases List.infix_cons_iff.mp h with h | h
    · have hstart : o.map Prod.fst <+: spell (.plain c :: tokens) :=
        prefix_of_unmarked h hunmarked
      exact hnone t ht (hmap ▸ hstart)
    · exact ih h
  | @secret s tokens hs _ _ ih =>
    intro h
    rw [cells_cons, Token.cells, if_pos (hmarked s hs)] at h
    exact ih (infix_of_unmarked marker hne hunmarked h)

theorem Legible.absent (h : Legible secrets tokens) (ht : t ∈ secrets) (hne : t ≠ []) :
    ¬t <:+: masked secrets tokens := by
  rintro ⟨u, v, heq⟩
  obtain ⟨l, o', hcells, hl, ho'⟩ := List.map_eq_append_iff.mp heq.symm
  obtain ⟨p, o, rfl, hp, ho⟩ := List.map_eq_append_iff.mp hl
  have hinfix : o <:+: cells secrets tokens := ⟨p, o', hcells.symm⟩
  refine h.reading.not_infix (fun _ hs ↦ hs) ht (o := o) ?_ (fun cell hcell ↦ ?_) ho hinfix
  · rintro rfl
    exact hne ho.symm
  · cases hcell2 : cell.2 with
    | false => rfl
    | true => exact absurd ⟨o, hinfix, ho, cell, hcell, hcell2⟩ (h.final t ht)

/-! ## Occurrences are replaced as a whole -/

/-- An occurrence of `t` that its replacement alone finds, with what is before and after. -/
inductive Hit (t : List Char) : List Char → List Char → List Char → Prop
  | here (after : List Char) : Hit t (t ++ after) [] after
  | keep {c : Char} {text before after : List Char} (hno : ¬t <+: c :: text)
      (h : Hit t text before after) : Hit t (c :: text) (c :: before) after
  | past {text before after : List Char} (h : Hit t text before after) :
      Hit t (t ++ text) (t ++ before) after

/-- Within another secret, the search for `t` goes on. -/
theorem Hit.behind {u text before after : List Char} (h : Hit t (u ++ text) before after)
    (hno : ∀ u', u' ≠ [] → u' <:+ u → ¬t <+: u' ++ text) :
    ∃ before', before = u ++ before' ∧ Hit t text before' after := by
  induction u generalizing before with
  | nil => exact ⟨before, rfl, h⟩
  | cons c u ih =>
    have hc := hno (c :: u) (List.cons_ne_nil c u) List.suffix_rfl
    generalize heq : c :: u ++ text = full at h
    cases h with
    | here => exact absurd ⟨after, heq.symm⟩ hc
    | past h => exact absurd ⟨_, heq.symm⟩ hc
    | keep hno' h =>
      obtain ⟨rfl, rfl⟩ := List.cons.inj heq
      obtain ⟨before', rfl, h'⟩ :=
        ih h fun u' hne hu' ↦ hno u' hne (hu'.trans (List.suffix_cons c u))
      exact ⟨before', rfl, h'⟩

/-- An occurrence that a replacement finds is a token of the reading. -/
theorem Reading.exists_token (h : Reading secrets tokens) (hne : ∀ s ∈ secrets, s ≠ [])
    (ht : t ∈ secrets) {before after : List Char} (hhit : Hit t (spell tokens) before after) :
    ∃ left right, tokens = left ++ .secret t :: right ∧ spell left = before ∧
      spell right = after := by
  induction h generalizing before with
  | nil =>
    generalize heq : spell [] = full at hhit
    cases hhit with
    | here => exact absurd (List.append_eq_nil_iff.mp heq.symm).1 (hne t ht)
    | past => exact absurd (List.append_eq_nil_iff.mp heq.symm).1 (hne t ht)
    | keep => cases heq
  | @plain c tokens hnone _ ih =>
    have hc : ¬t <+: [c] ++ spell tokens := hnone t ht
    obtain ⟨before', rfl, hhit'⟩ := Hit.behind (u := [c]) hhit fun u' hu' hsuffix ↦ by
      rcases List.suffix_cons_iff.mp hsuffix with rfl | hnil
      · exact hc
      · exact absurd (List.suffix_nil.mp hnil) hu'
    obtain ⟨left, right, rfl, rfl, hright⟩ := ih hhit'
    exact ⟨.plain c :: left, right, rfl, rfl, hright⟩
  | @secret s tokens hs halone _ ih =>
    by_cases hst : s = t
    · subst hst
      generalize heq : spell (.secret s :: tokens) = full at hhit
      cases hhit with
      | here => exact ⟨[], tokens, rfl, rfl, List.append_cancel_left heq⟩
      | keep hno => exact absurd ⟨_, heq⟩ hno
      | past hhit' =>
        obtain rfl := List.append_cancel_left heq
        obtain ⟨left, right, rfl, rfl, hright⟩ := ih hhit'
        exact ⟨.secret s :: left, right, rfl, rfl, hright⟩
    · obtain ⟨before', rfl, hhit'⟩ := hhit.behind (halone t ht (Ne.symm hst))
      obtain ⟨left, right, rfl, rfl, hright⟩ := ih hhit'
      exact ⟨.secret s :: left, right, rfl, rfl, hright⟩

theorem Reading.right {left : List Token} (h : Reading secrets (left ++ tokens)) :
    Reading secrets tokens := by
  induction left with
  | nil => exact h
  | cons token left ih =>
    cases h with
    | plain _ h => exact ih h
    | secret _ _ h => exact ih h

theorem Reading.left {right : List Token} (h : Reading secrets (tokens ++ right)) :
    Reading secrets tokens := by
  induction tokens with
  | nil => exact .nil
  | cons token tokens ih =>
    have hspell : spell tokens <+: spell (tokens ++ right) := by
      rw [spell_append]
      exact List.prefix_append _ _
    cases h with
    | plain hnone h =>
      refine .plain (fun t ht hstart ↦ hnone t ht (hstart.trans ?_)) (ih h)
      exact (List.prefix_append_right_inj [_]).mpr hspell
    | secret hs halone h =>
      refine .secret hs (fun t ht hts u hu hsuffix hstart ↦
        halone t ht hts u hu hsuffix (hstart.trans ?_)) (ih h)
      exact (List.prefix_append_right_inj u).mpr hspell

/-- A part of a reading is legible if the reading is. -/
theorem Legible.part (h : Legible secrets tokens) {part : List Token}
    (hreading : Reading secrets part) (hcells : ∀ marked, cells marked part <:+: cells marked tokens) :
    Legible secrets part where
  reading := hreading
  turn t marked hsub hacross := h.turn t marked hsub (hacross.mono (hcells marked))
  final t ht hacross := h.final t ht (hacross.mono (hcells secrets))

/-- **An occurrence is replaced as a whole**, and what is before and after it as without it. -/
theorem Legible.whole (h : Legible secrets tokens) (hne : ∀ s ∈ secrets, s ≠ []) (ht : t ∈ secrets)
    {before after : List Char} (hhit : Hit t (spell tokens) before after) :
    redactChars secrets (spell tokens) =
      redactChars secrets before ++ marker ++ redactChars secrets after := by
  obtain ⟨left, right, rfl, rfl, rfl⟩ := h.reading.exists_token hne ht hhit
  have hleft : Legible secrets left := h.part h.reading.left fun marked ↦ by
    rw [cells_append]
    exact (List.prefix_append _ _).isInfix
  have hright : Legible secrets right := by
    have hreading : Reading secrets ((left ++ [.secret t]) ++ right) := by simpa using h.reading
    refine h.part hreading.right fun marked ↦ ?_
    rw [cells_append, cells_cons, ← List.append_assoc]
    exact (List.suffix_append _ _).isInfix
  rw [h.redactChars_eq hne (List.Perm.refl _), hleft.redactChars_eq hne (List.Perm.refl _),
    hright.redactChars_eq hne (List.Perm.refl _), masked_append, masked_cons, Token.cells,
    if_pos ht, List.append_assoc]
  rfl

/-! ## Secrets that share no character with the marker -/

/-- What is in a marker is one of its characters. -/
theorem mem_marker_of_mem_cells {marked : List (List Char)} {cell : Char × Bool}
    (h : cell ∈ cells marked tokens) (hmarked : cell.2 = true) : cell.1 ∈ marker := by
  obtain ⟨token, -, htoken⟩ := List.mem_flatMap.mp h
  rcases token_cells_cases marked token with hcells | ⟨-, hcells⟩
  · rw [hcells] at htoken
    obtain ⟨c, -, rfl⟩ := List.mem_map.mp htoken
    cases hmarked
  · rw [hcells] at htoken
    obtain ⟨c, hc, rfl⟩ := List.mem_map.mp htoken
    exact hc

theorem not_across_of_disjoint {marked : List (List Char)} (h : ∀ c ∈ t, c ∉ marker) :
    ¬Across t (cells marked tokens) := by
  rintro ⟨o, ho, rfl, cell, hcell, hmarked⟩
  refine h cell.1 (List.mem_map_of_mem hcell) ?_
  exact mem_marker_of_mem_cells (ho.subset hcell) hmarked

theorem Reading.legible (h : Reading secrets tokens) (hdisjoint : ∀ t ∈ secrets, ∀ c ∈ t, c ∉ marker) :
    Legible secrets tokens where
  reading := h
  turn t _ hsub := not_across_of_disjoint (hdisjoint t (hsub.subset List.mem_cons_self))
  final t ht := not_across_of_disjoint (hdisjoint t ht)

end Order

end Redaction

/-! ## The redactor -/

namespace SecretRedactor

open Redaction

variable {secrets : List String} {text : String}

/-- The configured secrets, as characters. -/
def patterns (secrets : List String) : List (List Char) :=
  (new secrets).secrets.map String.toList

/-- What a redaction leaves: no secret, nothing of an occurrence of one, and the same text
whatever the order of the secrets. -/
structure Redacted (secrets : List String) (text : String) : Prop where
  absent : ∀ secret ∈ secrets, secret ≠ "" →
    ¬secret.toList <:+: ((new secrets).redact text).toList
  whole : ∀ secret ∈ secrets, secret ≠ "" → ∀ before after : String,
    Hit secret.toList text.toList before.toList after.toList →
      (new secrets).redact text =
        (new secrets).redact before ++ "[REDACTED]" ++ (new secrets).redact after
  ordered : ∀ order : List String, order.Perm secrets →
    (new order).redact text = (new secrets).redact text

/-- The text has a reading with the configured secrets, and none is read across a marker. -/
def Separable (secrets : List String) (text : String) : Prop :=
  ∃ tokens, spell tokens = text.toList ∧ Legible (patterns secrets) tokens

theorem toList_redact (secrets : List String) (text : String) :
    ((new secrets).redact text).toList = redactChars (patterns secrets) text.toList := by
  rw [redact, patterns, redactChars]
  induction (new secrets).secrets generalizing text with
  | nil => rfl
  | cons secret secrets ih =>
    rw [List.foldl_cons, ih, String.toList_ofList, List.map_cons, List.foldl_cons]
    rfl

theorem mem_patterns {secret : String} (h : secret ∈ secrets) (hne : secret ≠ "") :
    secret.toList ∈ patterns secrets :=
  List.mem_map_of_mem (List.mem_filter.mpr ⟨h, decide_eq_true hne⟩)

theorem toList_ne_nil {secret : String} (hne : secret ≠ "") : secret.toList ≠ [] :=
  fun h ↦ hne (String.toList_inj.mp h)

theorem patterns_ne_nil (secrets : List String) : ∀ s ∈ patterns secrets, s ≠ [] := by
  intro s hs
  obtain ⟨secret, hsecret, rfl⟩ := List.mem_map.mp hs
  exact toList_ne_nil ((new secrets).secrets_nonempty secret hsecret)

/-- **Redaction leaves no secret** in a text whose occurrences of secrets are separable. -/
theorem redacted_of_separable (h : Separable secrets text) : Redacted secrets text := by
  obtain ⟨tokens, htext, hlegible⟩ := h
  have hne := patterns_ne_nil secrets
  refine ⟨fun secret hsecret hempty ↦ ?_, fun secret hsecret hempty before after hhit ↦ ?_,
    fun order horder ↦ ?_⟩
  · rw [toList_redact, ← htext, hlegible.redactChars_eq hne (List.Perm.refl _)]
    exact hlegible.absent (mem_patterns hsecret hempty) (toList_ne_nil hempty)
  · rw [← htext] at hhit
    have hwhole := hlegible.whole hne (mem_patterns hsecret hempty) hhit
    apply String.toList_inj.mp
    rw [String.toList_append, String.toList_append, toList_redact, toList_redact, toList_redact,
      ← htext]
    exact hwhole
  · have hpatterns : (patterns order).Perm (patterns secrets) := (horder.filter _).map _
    apply String.toList_inj.mp
    rw [toList_redact, toList_redact, ← htext, hlegible.redactChars_eq hne hpatterns,
      hlegible.redactChars_eq hne (List.Perm.refl _)]

/-- Two secrets side by side. -/
theorem redacted_side_by_side : Redacted ["key", "pass"] "a keypass" := by
  refine redacted_of_separable
    ⟨[.plain 'a', .plain ' ', .secret "key".toList, .secret "pass".toList], by decide, ?_⟩
  refine Reading.legible (.plain (by decide) (.plain (by decide) (.secret (by decide) ?_
    (.secret (by decide) ?_ .nil)))) ?_
  · intro t ht hne u hu hsuffix
    have hall : ∀ t ∈ patterns ["key", "pass"], t ≠ "key".toList → ∀ u ∈ "key".toList.tails,
        u ≠ [] → ¬t <+: u ++ spell [.secret "pass".toList] := by decide
    exact hall t ht hne u ((List.mem_tails u _).mpr hsuffix) hu
  · intro t ht hne u hu hsuffix
    have hall : ∀ t ∈ patterns ["key", "pass"], t ≠ "pass".toList → ∀ u ∈ "pass".toList.tails,
        u ≠ [] → ¬t <+: u ++ spell [] := by decide
    exact hall t ht hne u ((List.mem_tails u _).mpr hsuffix) hu
  · have hdisjoint : ∀ t ∈ patterns ["key", "pass"], t.all (· ∉ marker) = true := by decide
    intro t ht c hc
    exact of_decide_eq_true (List.all_eq_true.mp (hdisjoint t ht) c hc)

/-- The shorter of two nested secrets is replaced first, and breaks the longer one. -/
theorem nested_secret_broken : ¬Redacted ["abc", "abcdef"] "abcdef" := by
  intro h
  exact absurd (h.ordered ["abcdef", "abc"] (List.Perm.swap _ _ _)) (by decide)

end SecretRedactor

end Aivtuber
