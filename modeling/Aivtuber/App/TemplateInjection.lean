import Aivtuber.App.Template

/-!
# What a slot value can do to a template

The value of a slot is text from an event.  The composer replaces the placeholders one after
the other, so that a later replacement also sees the values before it.  What is rendered is the
simultaneous substitution, whatever the order of the slots, exactly when that substitution has
no opening brace in front of a closing one (`rendered_iff`); otherwise a value has brought
braces that a later slot was put in.
-/

open Aivtuber.Check Aivtuber.Text Placeholder

namespace Aivtuber

namespace ResponseTemplate

/-- The declared slots with their normalized values. -/
def bound (template : ResponseTemplate) (slots : List (String × String)) :
    List (List Char × List Char) :=
  (slots.filter fun slot ↦ template.slots.contains slot.1).map fun slot ↦
    (slot.1.toList, normalizeSlot slot.2)

/-- The simultaneous substitution of the placeholders by the values of their slots. -/
def substituted (template : ResponseTemplate) (slots : List (String × String)) : List Char :=
  substitute braces (fun name ↦ (template.bound slots).lookup name) template.text.toList

/-- A slot has one value. -/
def OneValue (slots : List (String × String)) : Prop :=
  ∀ slot ∈ slots, ∀ slot' ∈ slots, slot.1 = slot'.1 → slot = slot'

/-- The names of the slots can stand in a placeholder. -/
def NamesSlots (template : ResponseTemplate) : Prop :=
  ∀ name ∈ template.slots, braces.IsName name.toList

variable {template : ResponseTemplate} {slots slots' : List (String × String)}

/-! ## The rendered text -/

theorem interpolate_eq_replaceEach (template : ResponseTemplate)
    (slots : List (String × String)) : template.interpolate slots =
      replaceEach braces (template.bound slots) template.text.toList := by
  rw [interpolate, bound, replaceEach]
  generalize template.text.toList = text
  induction slots generalizing text with
  | nil => rfl
  | cons slot slots ih =>
    obtain ⟨name, value⟩ := slot
    rw [List.foldl_cons, List.filter_cons]
    dsimp only
    by_cases hdeclared : template.slots.contains name = true
    · rw [if_pos hdeclared, if_pos hdeclared, List.map_cons, List.foldl_cons, ih]
    · rw [if_neg hdeclared, if_neg hdeclared]
      exact ih _

/-- Where the substitution has no group in braces, the slots can be bound one by one. -/
theorem interpolate_eq_substituted (hnames : template.NamesSlots)
    (hclean : braces.Clean (template.substituted slots)) :
    template.interpolate slots = template.substituted slots := by
  rw [interpolate_eq_replaceEach]
  refine replaceEach_eq_substitute (fun slot hslot ↦ ?_) hclean
  obtain ⟨⟨name, value⟩, hmem, rfl⟩ := List.mem_map.mp hslot
  exact hnames name (List.contains_iff_mem.mp (List.mem_filter.mp hmem).2)

/-- The substitution does not depend on the order of the slots. -/
theorem substituted_of_perm (hvalues : OneValue slots) (hperm : slots'.Perm slots) :
    template.substituted slots' = template.substituted slots := by
  rw [substituted, substituted]
  congr 1
  refine lookup_eq_of_perm ((hperm.filter _).map _) ?_
  intro slot hslot slot' hslot' heq
  obtain ⟨first, hfirst, rfl⟩ := List.mem_map.mp hslot
  obtain ⟨second, hsecond, rfl⟩ := List.mem_map.mp hslot'
  rw [hvalues first (List.mem_filter.mp hfirst).1 second (List.mem_filter.mp hsecond).1
    (String.toList_inj.mp heq)]

theorem forM_ensure {ε α : Type} (error : ε) (p : α → Bool) (l : List α) :
    l.forM (fun a ↦ ensure error (p a)) = ensure error (l.all p) := by
  induction l with
  | nil => rfl
  | cons a l ih =>
    rw [List.forM_eq_forM] at ih
    rw [List.forM_eq_forM, List.forM_cons, ih, List.all_cons]
    cases p a <;> rfl

theorem checkSlots_of_perm (hperm : slots'.Perm slots) :
    template.checkSlots slots' = template.checkSlots slots := by
  rw [checkSlots, checkSlots, hperm.length_eq, forM_ensure, forM_ensure, hperm.all_eq]

/-! ## Groups in braces -/

theorem length_removeGroups_le (inGroup : Bool) (text : List Char) :
    (removeGroups inGroup text).length ≤ text.length := by
  induction text generalizing inGroup with
  | nil => exact Nat.le_refl _
  | cons c rest ih =>
    cases inGroup with
    | true => exact (ih _).trans (Nat.le_succ _)
    | false =>
      rw [removeGroups]
      split
      · exact (ih _).trans (Nat.le_succ _)
      · exact Nat.succ_le_succ (ih _)

/-- A text is left as it is when it has no groups. -/
theorem removePlaceholders_eq_self_iff {text : List Char} :
    removePlaceholders text = text ↔ braces.Clean text := by
  rw [removePlaceholders]
  induction text with
  | nil => simp [removeGroups, Delimiters.Clean]
  | cons c rest ih =>
    rw [removeGroups]
    split
    next hgroup =>
      constructor
      · intro heq
        have hlength := length_removeGroups_le true rest
        rw [heq, List.length_cons] at hlength
        omega
      · intro hclean
        rw [hgroup.1] at hclean
        exact absurd hgroup.2 hclean.closing_notMem
    next hgroup =>
      rw [List.cons_inj_right, ih]
      constructor
      · intro hclean hsub
        rcases List.sublist_cons_iff.mp hsub with hrest | ⟨tail, heq, htail⟩
        · exact hclean hrest
        · obtain ⟨hopen, rfl⟩ := List.cons.inj heq
          exact hgroup ⟨hopen.symm, List.singleton_sublist.mp htail⟩
      · exact fun hclean ↦ hclean.of_sublist (List.sublist_cons_self _ _)

def isBrace (c : Char) : Bool := c = '{' || c = '}'

theorem filter_dropWhile_whitespace (text : List Char) :
    (text.dropWhile isWhitespace).filter isBrace = text.filter isBrace := by
  induction text with
  | nil => rfl
  | cons c rest ih =>
    rw [List.dropWhile_cons]
    split
    next hspace =>
      have hbrace : isBrace c = false := by
        rw [isBrace, Bool.or_eq_false_iff, decide_eq_false_iff_not, decide_eq_false_iff_not]
        constructor <;> rintro rfl <;> exact absurd hspace (by decide)
      rw [ih, List.filter_cons_of_neg (by rw [hbrace]; exact Bool.false_ne_true)]
    next => rfl

theorem toList_trim_ofList (text : List Char) : (trim (String.ofList text)).toList =
    ((text.dropWhile isWhitespace).reverse.dropWhile isWhitespace).reverse := by
  rw [trim, String.toList_ofList, String.toList_ofList]

/-- What a text keeps of its white space at the ends says nothing about its groups. -/
theorem clean_trim_iff {text : List Char} :
    braces.Clean (trim (String.ofList text)).toList ↔ braces.Clean text := by
  rw [toList_trim_ofList]
  constructor
  · intro hclean hsub
    have hfilter : ((text.dropWhile isWhitespace).reverse.dropWhile isWhitespace).reverse.filter
        isBrace = text.filter isBrace := by
      rw [List.filter_reverse, filter_dropWhile_whitespace, List.filter_reverse,
        List.reverse_reverse, filter_dropWhile_whitespace]
    refine hclean ((hsub.filter isBrace).trans ?_)
    rw [← hfilter]
    exact List.filter_sublist
  · intro hclean
    refine hclean.of_sublist ?_
    have hinner := List.dropWhile_sublist isWhitespace
      (l := (text.dropWhile isWhitespace).reverse)
    have houter := List.dropWhile_sublist isWhitespace (l := text)
    simpa using hinner.reverse.trans (by simpa using houter)

/-- A completed text has no group in braces. -/
theorem complete_eq_ok {rendered : List Char} {composition : TemplateComposition}
    (h : template.complete rendered = .ok composition) :
    composition.text = trim (String.ofList rendered) ∧ braces.Clean rendered := by
  obtain ⟨-, h⟩ := unit_bind_eq_ok.mp h
  obtain ⟨hgroups, h⟩ := unit_bind_eq_ok.mp h
  obtain ⟨-, h⟩ := unit_bind_eq_ok.mp h
  refine ⟨(congrArg TemplateComposition.text (Except.ok.inj h)).symm, ?_⟩
  rw [ensure_eq_ok, Bool.or_eq_true, Bool.not_eq_true', Bool.and_eq_false_iff,
    decide_eq_true_eq] at hgroups
  rcases hgroups with (hopen | hclose) | hsame
  · intro hsub
    have hmem : '{' ∈ rendered := hsub.subset (List.mem_cons_self)
    rw [← List.contains_iff_mem, hopen] at hmem
    cases hmem
  · intro hsub
    have hmem : '}' ∈ rendered := hsub.subset (List.mem_cons_of_mem _ List.mem_cons_self)
    rw [← List.contains_iff_mem, hclose] at hmem
    cases hmem
  · exact removePlaceholders_eq_self_iff.mp hsame

end ResponseTemplate

open ResponseTemplate in
/-- **Injection.**  A rendered text is the simultaneous substitution of the placeholders by the
values of their slots, without the white space at its ends, and the same is rendered for every
order of the slots, if and only if no opening brace of that substitution is followed by a
closing one. -/
theorem rendered_iff (template : ResponseTemplate) (slots : List (String × String))
    (composition : TemplateComposition) (hnames : template.NamesSlots) (hvalues : OneValue slots)
    (hrendered : template.render slots = .ok composition) :
    (composition.text = trim (String.ofList (template.substituted slots)) ∧
        ∀ slots', slots'.Perm slots → template.render slots' = .ok composition) ↔
      braces.Clean (template.substituted slots) := by
  obtain ⟨hchecks, hcomplete⟩ := unit_bind_eq_ok.mp hrendered
  obtain ⟨htext, hclean⟩ := complete_eq_ok hcomplete
  constructor
  · rintro ⟨hsubstituted, -⟩
    rw [← clean_trim_iff, ← hsubstituted, htext, clean_trim_iff]
    exact hclean
  · intro hclean
    have hbound := interpolate_eq_substituted hnames hclean
    refine ⟨by rw [htext, hbound], fun slots' hperm ↦ ?_⟩
    have hsame : template.substituted slots' = template.substituted slots :=
      substituted_of_perm hvalues hperm
    rw [← hsame] at hclean
    have hbound' := interpolate_eq_substituted hnames hclean
    refine unit_bind_eq_ok.mpr ⟨?_, ?_⟩
    · rw [checkSlots_of_perm hperm]
      exact hchecks
    · rw [hbound', hsame, ← hbound]
      exact hcomplete

/-- A greeting of two people. -/
def greeting : ResponseTemplate := ⟨"greet", "v1", "{a} {b}", ["a", "b"]⟩

/-- Two plain names. -/
theorem rendered_iff_greeting :
    ("x y" = trim (String.ofList (greeting.substituted [("a", "x"), ("b", "y")])) ∧
        ∀ slots', slots'.Perm [("a", "x"), ("b", "y")] →
          greeting.render slots' = .ok ⟨"greet", "v1", "x y"⟩) ↔
      braces.Clean (greeting.substituted [("a", "x"), ("b", "y")]) :=
  rendered_iff greeting [("a", "x"), ("b", "y")] ⟨"greet", "v1", "x y"⟩
    (by unfold ResponseTemplate.NamesSlots Delimiters.IsName; decide +kernel)
    (by unfold ResponseTemplate.OneValue; decide +kernel) (by decide +kernel)

/-- The value of the first slot is taken for the placeholder of the second one. -/
theorem value_expanded : ¬∀ composition,
    greeting.render [("a", "{b}"), ("b", "x")] = .ok composition →
      composition.text =
        trim (String.ofList (greeting.substituted [("a", "{b}"), ("b", "x")])) := by
  intro h
  have hrendered : greeting.render [("a", "{b}"), ("b", "x")] = .ok ⟨"greet", "v1", "x x"⟩ := by
    decide +kernel
  have htext : "x x" = trim (String.ofList (greeting.substituted [("a", "{b}"), ("b", "x")])) :=
    h _ hrendered
  exact absurd htext (by decide +kernel)

/-! ## The route of an event -/

namespace TemplatePlanner

variable {planner : TemplatePlanner} {event : EventEnvelope} {templateId : String}

/-- The slots of an event have one value each. -/
theorem templateSlots_oneValue (planner : TemplatePlanner) (event : EventEnvelope)
    (templateId : String) :
    ResponseTemplate.OneValue (planner.templateSlots event templateId) := by
  rw [templateSlots]
  cases planner.templates.get templateId with
  | none => exact fun _ h ↦ (by cases h)
  | some template =>
    intro slot hslot slot' hslot' heq
    obtain ⟨name, -, hname⟩ := List.mem_filterMap.mp hslot
    obtain ⟨name', -, hname'⟩ := List.mem_filterMap.mp hslot'
    obtain ⟨value, hvalue, rfl⟩ := Option.map_eq_some_iff.mp hname
    obtain ⟨value', hvalue', rfl⟩ := Option.map_eq_some_iff.mp hname'
    obtain rfl : name = name' := heq
    rw [Option.some.inj (hvalue.symm.trans hvalue')]

end TemplatePlanner

end Aivtuber
