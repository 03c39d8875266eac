import Aivtuber.Base.Json

/-!
# Canonical texts that agree

Two programs write the canonical text of one document: each sorts the members of an object by an
order of its own, and writes numbers in its own way.  The two texts are the same exactly when every
object comes out in the same order and every number is written alike (`canonical_eq_iff`).  For a
text tells where each of its parts ends, as long as nothing but a delimiter follows
(`Delimited`): so two equal texts are equal part by part.
-/

namespace Json

variable {ν : Type}

/-! ## Where a part ends -/

/-- The end of a text, or what can follow a value in one. -/
def Delimited (rest : List Char) : Prop :=
  ∀ c ∈ rest.head?, c = ',' ∨ c = ']' ∨ c = '}'

theorem delimited_nil : Delimited [] := by
  rintro c ⟨⟩

theorem delimited_cons {c : Char} (h : c = ',' ∨ c = ']' ∨ c = '}') (rest : List Char) :
    Delimited (c :: rest) := by
  rintro c ⟨⟩
  exact h

/-- A part without a delimiter ends where one follows. -/
theorem append_inj_of_delimited {p : Char → Prop} (hp : ∀ c, p c → c ≠ ',' ∧ c ≠ ']' ∧ c ≠ '}')
    {a b x y : List Char} (ha : ∀ c ∈ a, p c) (hb : ∀ c ∈ b, p c) (hx : Delimited x)
    (hy : Delimited y) (h : a ++ x = b ++ y) : a = b ∧ x = y := by
  have hnot : ∀ {c : Char} {rest : List Char}, p c → ¬Delimited (c :: rest) := by
    intro c rest hc hdelimited
    obtain ⟨hcomma, hbracket, hbrace⟩ := hp c hc
    rcases hdelimited c rfl with rfl | rfl | rfl
    · exact hcomma rfl
    · exact hbracket rfl
    · exact hbrace rfl
  induction a generalizing b with
  | nil =>
    cases b with
    | nil => exact ⟨rfl, h⟩
    | cons c b =>
      rw [List.nil_append] at h
      rw [h] at hx
      exact absurd hx (hnot (hb c List.mem_cons_self))
  | cons c a ih =>
    cases b with
    | nil =>
      rw [List.nil_append] at h
      rw [← h] at hy
      exact absurd hy (hnot (ha c List.mem_cons_self))
    | cons d b =>
      obtain ⟨rfl, hrest⟩ := List.cons.inj h
      obtain ⟨rfl, hxy⟩ := ih (fun c hc ↦ ha c (List.mem_cons_of_mem _ hc))
        (fun c hc ↦ hb c (List.mem_cons_of_mem _ hc)) hrest
      exact ⟨rfl, hxy⟩

/-! ## Quoted texts -/

/-- The characters that are written as an escape. -/
def escaped : List Char := '"' :: '\\' :: (List.range 32).map Char.ofNat

theorem escape_of_notMem {c : Char} (h : c ∉ escaped) : escape c = [c] := by
  have hcontrol : ∀ n < 32, c ≠ Char.ofNat n := by
    rintro n hn rfl
    exact h (List.mem_cons_of_mem _ (List.mem_cons_of_mem _
      (List.mem_map_of_mem (List.mem_range.mpr hn))))
  have hsmall : ¬c.toNat < 32 := by
    intro hlt
    exact hcontrol c.toNat hlt (Char.ofNat_toNat c).symm
  have hquote : c ≠ '"' := by
    rintro rfl
    exact h List.mem_cons_self
  have hbackslash : c ≠ '\\' := by
    rintro rfl
    exact h (List.mem_cons_of_mem _ List.mem_cons_self)
  rw [escape, if_neg hquote, if_neg hbackslash, if_neg (hcontrol 10 (by decide)),
    if_neg (hcontrol 13 (by decide)), if_neg (hcontrol 9 (by decide)), if_neg (by omega),
    if_neg (by omega), if_neg hsmall]

theorem head_escape {c : Char} (h : c ∈ escaped) : (escape c).head? = some '\\' := by
  have hall : (escaped.all fun c ↦ (escape c).head? == some '\\') = true := by decide +kernel
  exact eq_of_beq (List.all_eq_true.mp hall c h)

/-- No escape starts another. -/
theorem escape_starts_escaped {c d : Char} (hc : c ∈ escaped) (hd : d ∈ escaped)
    (h : escape c <+: escape d) : c = d := by
  have hall : (escaped.all fun c ↦ escaped.all fun d ↦
      !(escape c).isPrefixOf (escape d) || c == d) = true := by decide +kernel
  have hapart := List.all_eq_true.mp (List.all_eq_true.mp hall c hc) d hd
  rw [List.isPrefixOf_iff_prefix.mpr h] at hapart
  exact eq_of_beq hapart

theorem escape_starts {c d : Char} (h : escape c <+: escape d) : c = d := by
  have hescape : ∀ e ∈ escaped, ∀ f ∉ escaped, (escape e).head? ≠ (escape f).head? := by
    intro e he f hf heq
    rw [head_escape he, escape_of_notMem hf] at heq
    cases heq
    exact hf (by decide)
  have hhead : (escape c).head? = (escape d).head? := by
    obtain ⟨rest, hrest⟩ := h
    rw [← hrest]
    cases hc : escape c with
    | nil =>
      by_cases hmem : c ∈ escaped
      · have hcons := head_escape hmem
        rw [hc] at hcons
        cases hcons
      · rw [escape_of_notMem hmem] at hc
        cases hc
    | cons => rfl
  by_cases hc : c ∈ escaped <;> by_cases hd : d ∈ escaped
  · exact escape_starts_escaped hc hd h
  · exact absurd hhead (hescape c hc d hd)
  · exact absurd hhead.symm (hescape d hd c hc)
  · rw [escape_of_notMem hc, escape_of_notMem hd] at hhead
    exact Option.some.inj hhead

theorem escape_append_inj {c d : Char} {x y : List Char} (h : escape c ++ x = escape d ++ y) :
    c = d ∧ x = y := by
  have hcd : c = d := by
    have hx : escape c <+: escape d ++ y := ⟨x, h⟩
    rcases List.prefix_or_prefix_of_prefix hx (List.prefix_append _ y) with hpre | hpre
    · exact escape_starts hpre
    · exact (escape_starts hpre).symm
  subst hcd
  exact ⟨rfl, List.append_cancel_left h⟩

/-- An escape is not the end of a quoted text. -/
theorem escape_append_ne (c : Char) (x y : List Char) : escape c ++ x ≠ '"' :: y := by
  intro h
  by_cases hmem : c ∈ escaped
  · have hhead := head_escape hmem
    cases hc : escape c with
    | nil =>
      rw [hc] at hhead
      cases hhead
    | cons d rest =>
      rw [hc] at hhead h
      cases hhead
      exact absurd (List.cons.inj h).1 (by decide)
  · rw [escape_of_notMem hmem] at h
    exact hmem ((List.cons.inj h).1 ▸ List.mem_cons_self)

theorem flatMap_escape_append_inj {s t x y : List Char}
    (h : s.flatMap escape ++ '"' :: x = t.flatMap escape ++ '"' :: y) : s = t ∧ x = y := by
  induction s generalizing t with
  | nil =>
    cases t with
    | nil => exact ⟨rfl, (List.cons.inj h).2⟩
    | cons d t =>
      rw [List.flatMap_cons, List.append_assoc] at h
      exact absurd h.symm (escape_append_ne d _ _)
  | cons c s ih =>
    cases t with
    | nil =>
      rw [List.flatMap_cons, List.append_assoc] at h
      exact absurd h (escape_append_ne c _ _)
    | cons d t =>
      rw [List.flatMap_cons, List.flatMap_cons, List.append_assoc, List.append_assoc] at h
      obtain ⟨rfl, hrest⟩ := escape_append_inj h
      obtain ⟨rfl, hxy⟩ := ih hrest
      exact ⟨rfl, hxy⟩

theorem toList_quote (s : String) :
    (quote s).toList = '"' :: (s.toList.flatMap escape ++ ['"']) := by
  simp [quote]

/-- **A quoted text tells where it ends.** -/
theorem quote_append_inj {s t : String} {x y : List Char}
    (h : (quote s).toList ++ x = (quote t).toList ++ y) : s = t ∧ x = y := by
  rw [toList_quote, toList_quote, List.cons_append, List.cons_append, List.append_assoc,
    List.append_assoc] at h
  obtain ⟨hst, hxy⟩ := flatMap_escape_append_inj (List.cons.inj h).2
  exact ⟨String.toList_inj.mp hst, hxy⟩

/-! ## Members in order -/

/-- The keys of an object in an order. -/
def sortedKeys (order : String → List Nat) (keys : List String) : List String :=
  keys.insertionSort fun a b ↦ order a ≤ order b

/-- The members of an object in the order of their keys. -/
def inOrder (order : String → List Nat) (members : List (String × Json ν)) :
    List (String × Json ν) :=
  members.insertionSort fun a b ↦ order a.1 ≤ order b.1

theorem keys_inOrder (order : String → List Nat) (members : List (String × Json ν)) :
    (inOrder order members).map (·.1) = sortedKeys order (members.map (·.1)) :=
  List.map_insertionSort (fun a b : String × Json ν ↦ order a.1 ≤ order b.1)
    (fun a b ↦ order a ≤ order b) (·.1) members fun _ _ _ _ ↦ Iff.rfl

/-- Where members are told apart by their keys, so are their lists. -/
theorem eq_of_map_eq {α β : Type} {f : α → β} {l l' : List α}
    (hinj : ∀ a ∈ l, ∀ b ∈ l', f a = f b → a = b) (h : l.map f = l'.map f) : l = l' := by
  induction l generalizing l' with
  | nil => exact (List.map_eq_nil_iff.mp h.symm).symm
  | cons a l ih =>
    cases l' with
    | nil => cases h
    | cons b l' =>
      obtain ⟨hab, hrest⟩ := List.cons.inj h
      rw [hinj a List.mem_cons_self b List.mem_cons_self hab,
        ih (fun a ha b hb ↦ hinj a (List.mem_cons_of_mem _ ha) b (List.mem_cons_of_mem _ hb))
          hrest]

theorem mem_inOrder {order : String → List Nat} {members : List (String × Json ν)}
    {member : String × Json ν} : member ∈ inOrder order members ↔ member ∈ members :=
  List.mem_insertionSort _

variable {order order' : String → List Nat} {number number' : ν → String} {good : ν → Prop}

theorem canonicalMembers_eq (members : List (String × Json ν)) :
    canonicalMembers order number members =
      members.map fun member ↦ (member.1, canonical order number member.2) := by
  induction members with
  | nil => rfl
  | cons member members ih =>
    obtain ⟨key, value⟩ := member
    rw [canonicalMembers, ih]
    rfl

theorem canonicalValues_eq (values : List (Json ν)) :
    canonicalValues order number values = values.map (canonical order number) := by
  induction values with
  | nil => rfl
  | cons value values ih =>
    rw [canonicalValues, ih]
    rfl

/-- The text of a member. -/
def memberText (order : String → List Nat) (number : ν → String) (member : String × Json ν) :
    String :=
  quote member.1 ++ ":" ++ canonical order number member.2

theorem canonical_obj (members : List (String × Json ν)) :
    canonical order number (obj members) =
      "\x7b" ++ ",".intercalate ((inOrder order members).map (memberText order number)) ++
        "\x7d" := by
  have hsorted : sortMembers order (canonicalMembers order number members) =
      (inOrder order members).map
        fun member ↦ (member.1, canonical order number member.2) := by
    rw [canonicalMembers_eq, sortMembers, inOrder]
    exact (List.map_insertionSort (fun a b : String × Json ν ↦ order a.1 ≤ order b.1)
      (fun a b : String × String ↦ order a.1 ≤ order b.1) _ members fun _ _ _ _ ↦ Iff.rfl).symm
  rw [canonical, hsorted, List.map_map]
  rfl

/-! ## Alike -/

mutual

/-- Every object has one key once. -/
def Keyed : Json ν → Prop
  | null | bool _ | num _ | str _ => True
  | arr values => KeyedValues values
  | obj members => (members.map (·.1)).Nodup ∧ KeyedMembers members

def KeyedValues : List (Json ν) → Prop
  | [] => True
  | value :: values => value.Keyed ∧ KeyedValues values

def KeyedMembers : List (String × Json ν) → Prop
  | [] => True
  | (_, value) :: members => value.Keyed ∧ KeyedMembers members

end

mutual

/-- Every number is good, and every object comes out in the same order. -/
def Alike (order order' : String → List Nat) (good : ν → Prop) : Json ν → Prop
  | null | bool _ | str _ => True
  | num value => good value
  | arr values => AlikeValues order order' good values
  | obj members =>
    sortedKeys order (members.map (·.1)) = sortedKeys order' (members.map (·.1)) ∧
      AlikeMembers order order' good members

def AlikeValues (order order' : String → List Nat) (good : ν → Prop) : List (Json ν) → Prop
  | [] => True
  | value :: values => value.Alike order order' good ∧ AlikeValues order order' good values

def AlikeMembers (order order' : String → List Nat) (good : ν → Prop) :
    List (String × Json ν) → Prop
  | [] => True
  | (_, value) :: members => value.Alike order order' good ∧ AlikeMembers order order' good members

end

theorem alikeMembers_iff {members : List (String × Json ν)} :
    AlikeMembers order order' good members ↔
      ∀ member ∈ members, member.2.Alike order order' good := by
  induction members with
  | nil => simp [AlikeMembers]
  | cons member members ih =>
    obtain ⟨key, value⟩ := member
    rw [AlikeMembers, ih, List.forall_mem_cons]

/-! ## Texts part by part -/

/-- How two texts of one value compare: with whatever is delimited behind them. -/
def Told (order order' : String → List Nat) (number number' : ν → String) (good : ν → Prop)
    (value : Json ν) : Prop :=
  ∀ x y, Delimited x → Delimited y →
    (canonical order number value).toList ++ x = (canonical order' number' value).toList ++ y →
    value.Alike order order' good ∧ x = y

/-- Elements behind each other, and what closes them. -/
def closing (close : Char) (texts : List (List Char)) (rest : List Char) : List Char :=
  [','].intercalate texts ++ close :: rest

theorem closing_cons_cons (close : Char) (text next : List Char) (texts : List (List Char))
    (rest : List Char) :
    closing close (text :: next :: texts) rest =
      text ++ ',' :: closing close (next :: texts) rest := by
  simp [closing]

theorem closing_singleton (close : Char) (text rest : List Char) :
    closing close [text] rest = text ++ close :: rest := by
  simp [closing]

theorem told_values {values : List (Json ν)} {x y : List Char}
    (htold : ∀ value ∈ values, Told order order' number number' good value)
    (h : closing ']' (values.map fun value ↦ (canonical order number value).toList) x =
      closing ']' (values.map fun value ↦ (canonical order' number' value).toList) y) :
    AlikeValues order order' good values ∧ x = y := by
  induction values with
  | nil => exact ⟨trivial, (List.cons.inj h).2⟩
  | cons value values ih =>
    have hvalue := htold value List.mem_cons_self
    have hrest := fun other hother ↦ htold other (List.mem_cons_of_mem value hother)
    cases values with
    | nil =>
      rw [List.map_cons, List.map_cons, List.map_nil, List.map_nil, closing_singleton,
        closing_singleton] at h
      obtain ⟨halike, hxy⟩ := hvalue _ _ (delimited_cons (.inr (.inl rfl)) x)
        (delimited_cons (.inr (.inl rfl)) y) h
      exact ⟨⟨halike, trivial⟩, (List.cons.inj hxy).2⟩
    | cons next values =>
      rw [List.map_cons, List.map_cons, List.map_cons, List.map_cons, closing_cons_cons,
        closing_cons_cons] at h
      obtain ⟨halike, hrests⟩ := hvalue _ _ (delimited_cons (.inl rfl) _)
        (delimited_cons (.inl rfl) _) h
      obtain ⟨halikes, hxy⟩ := ih hrest (List.cons.inj hrests).2
      exact ⟨⟨halike, halikes⟩, hxy⟩

theorem memberText_append (member : String × Json ν) (x : List Char) :
    (memberText order number member).toList ++ x =
      (quote member.1).toList ++ ':' :: ((canonical order number member.2).toList ++ x) := by
  simp [memberText]

/-- The first members of two texts are one, as long as their keys say which they are. -/
theorem told_member {a b : String × Json ν} (hab : a.1 = b.1 → a = b)
    (htold : Told order order' number number' good a.2) {x y : List Char} (hx : Delimited x)
    (hy : Delimited y)
    (h : (memberText order number a).toList ++ x = (memberText order' number' b).toList ++ y) :
    a = b ∧ a.2.Alike order order' good ∧ x = y := by
  rw [memberText_append, memberText_append] at h
  obtain ⟨hkey, hvalue⟩ := quote_append_inj h
  obtain rfl := hab hkey
  exact ⟨rfl, htold x y hx hy (List.cons.inj hvalue).2⟩

theorem closing_members_ne_nil (members : List (String × Json ν)) (member : String × Json ν)
    (x y : List Char) :
    closing '}' ((member :: members).map fun member ↦ (memberText order number member).toList) x ≠
      '}' :: y := by
  intro h
  have hhead : ∀ rest, (memberText order number member).toList ++ rest ≠ '}' :: y := by
    intro rest hrest
    rw [memberText_append, toList_quote] at hrest
    exact absurd (List.cons.inj hrest).1 (by decide)
  cases members with
  | nil =>
    rw [List.map_cons, List.map_nil, closing_singleton] at h
    exact hhead _ h
  | cons next members =>
    rw [List.map_cons, List.map_cons, closing_cons_cons] at h
    exact hhead _ h

theorem told_members {members others : List (String × Json ν)} {x y : List Char}
    (hkeys : ∀ a ∈ members, ∀ b ∈ others, a.1 = b.1 → a = b)
    (htold : ∀ member ∈ members, Told order order' number number' good member.2)
    (h : closing '}' (members.map fun member ↦ (memberText order number member).toList) x =
      closing '}' (others.map fun member ↦ (memberText order' number' member).toList) y) :
    members = others ∧ (∀ member ∈ members, member.2.Alike order order' good) ∧ x = y := by
  induction members generalizing others with
  | nil =>
    cases others with
    | nil => exact ⟨rfl, fun _ h ↦ absurd h List.not_mem_nil, (List.cons.inj h).2⟩
    | cons other others => exact absurd h.symm (closing_members_ne_nil others other y x)
  | cons member members ih =>
    cases others with
    | nil => exact absurd h (closing_members_ne_nil members member x y)
    | cons other others =>
      have hmember := htold member List.mem_cons_self
      have hfirst := hkeys member List.mem_cons_self other List.mem_cons_self
      have hrest := fun a ha b hb ↦ hkeys a (List.mem_cons_of_mem member ha) b
        (List.mem_cons_of_mem other hb)
      have htolds := fun a ha ↦ htold a (List.mem_cons_of_mem member ha)
      cases members with
      | nil =>
        cases others with
        | nil =>
          rw [List.map_cons, List.map_cons, List.map_nil, List.map_nil,
            closing_singleton, closing_singleton] at h
          obtain ⟨rfl, halike, hxy⟩ := told_member hfirst hmember
            (delimited_cons (.inr (.inr rfl)) x) (delimited_cons (.inr (.inr rfl)) y) h
          refine ⟨rfl, ?_, (List.cons.inj hxy).2⟩
          simpa using halike
        | cons next others =>
          rw [List.map_cons, List.map_nil, closing_singleton, List.map_cons,
            List.map_cons, closing_cons_cons] at h
          obtain ⟨-, -, hxy⟩ := told_member hfirst hmember
            (delimited_cons (.inr (.inr rfl)) x) (delimited_cons (.inl rfl) _) h
          exact absurd (List.cons.inj hxy).1 (by decide)
      | cons next members =>
        cases others with
        | nil =>
          rw [List.map_cons, List.map_cons, closing_cons_cons, List.map_cons,
            List.map_nil, closing_singleton] at h
          obtain ⟨-, -, hxy⟩ := told_member hfirst hmember
            (delimited_cons (.inl rfl) _) (delimited_cons (.inr (.inr rfl)) y) h
          exact absurd (List.cons.inj hxy).1 (by decide)
        | cons next' others =>
          rw [List.map_cons, List.map_cons, closing_cons_cons, List.map_cons,
            List.map_cons, closing_cons_cons] at h
          obtain ⟨rfl, halike, hrests⟩ := told_member hfirst hmember
            (delimited_cons (.inl rfl) _) (delimited_cons (.inl rfl) _) h
          obtain ⟨hsame, halikes, hxy⟩ := ih hrest htolds (List.cons.inj hrests).2
          refine ⟨by rw [hsame], ?_, hxy⟩
          rw [List.forall_mem_cons]
          exact ⟨halike, halikes⟩

theorem toList_arr (values : List (Json ν)) (x : List Char) :
    (canonical order number (arr values)).toList ++ x =
      '[' :: closing ']' (values.map fun value ↦ (canonical order number value).toList) x := by
  rw [canonical, canonicalValues_eq]
  simp [closing, Function.comp_def]

theorem toList_obj (members : List (String × Json ν)) (x : List Char) :
    (canonical order number (obj members)).toList ++ x =
      '\x7b' :: closing '}' ((inOrder order members).map
        fun member ↦ (memberText order number member).toList) x := by
  rw [canonical_obj]
  simp [closing, Function.comp_def]

section Agree

/-- What is asked of the two ways of writing numbers. -/
structure Numerals (number number' : ν → String) (good : ν → Prop) : Prop where
  alike : ∀ n, good n → number n = number' n
  told : ∀ n x y, Delimited x → Delimited y →
    (number n).toList ++ x = (number' n).toList ++ y → good n ∧ x = y

mutual

theorem told_of_keyed (hnumerals : Numerals number number' good) :
    ∀ value : Json ν, value.Keyed → Told order order' number number' good value
  | null, _ | bool _, _ | str _, _ => fun _ _ _ _ h ↦ ⟨trivial, List.append_cancel_left h⟩
  | num value, _ => fun x y hx hy h ↦ hnumerals.told value x y hx hy h
  | arr values, hkeyed => fun x y _ _ h ↦ by
      rw [toList_arr, toList_arr] at h
      exact told_values (told_of_keyedValues hnumerals values hkeyed) (List.cons.inj h).2
  | obj members, hkeyed => fun x y _ _ h ↦ by
      obtain ⟨hnodup, hmembers⟩ := hkeyed
      have htold := told_of_keyedMembers hnumerals members hmembers
      rw [toList_obj, toList_obj] at h
      obtain ⟨hsame, halike, hxy⟩ := told_members
        (fun a ha b hb hkey ↦ List.inj_on_of_nodup_map hnodup (mem_inOrder.mp ha)
          (mem_inOrder.mp hb) hkey)
        (fun member hmember ↦ htold member (mem_inOrder.mp hmember)) (List.cons.inj h).2
      refine ⟨⟨?_, alikeMembers_iff.mpr fun member hmember ↦ halike member
        (mem_inOrder.mpr hmember)⟩, hxy⟩
      rw [← keys_inOrder, ← keys_inOrder, hsame]

theorem told_of_keyedValues (hnumerals : Numerals number number' good) :
    ∀ values : List (Json ν), KeyedValues values →
      ∀ value ∈ values, Told order order' number number' good value
  | [], _ => fun _ h ↦ absurd h List.not_mem_nil
  | value :: values, hkeyed => by
    rw [List.forall_mem_cons]
    exact ⟨told_of_keyed hnumerals value hkeyed.1,
      told_of_keyedValues hnumerals values hkeyed.2⟩

theorem told_of_keyedMembers (hnumerals : Numerals number number' good) :
    ∀ members : List (String × Json ν), KeyedMembers members →
      ∀ member ∈ members, Told order order' number number' good member.2
  | [], _ => fun _ h ↦ absurd h List.not_mem_nil
  | (_, value) :: members, hkeyed => by
    rw [List.forall_mem_cons]
    exact ⟨told_of_keyed hnumerals value hkeyed.1,
      told_of_keyedMembers hnumerals members hkeyed.2⟩

end

mutual

theorem canonical_eq_of_alike (hnumerals : Numerals number number' good) :
    ∀ value : Json ν, value.Keyed → value.Alike order order' good →
      canonical order number value = canonical order' number' value
  | null, _, _ | bool _, _, _ | str _, _, _ => rfl
  | num value, _, h => hnumerals.alike value h
  | arr values, hkeyed, h => by
    rw [canonical, canonical, canonicalValues_eq, canonicalValues_eq,
      List.map_congr_left (canonical_eq_of_alikeValues hnumerals values hkeyed h)]
  | obj members, hkeyed, h => by
    obtain ⟨hnodup, hmembers⟩ := hkeyed
    obtain ⟨hkeys, halike⟩ := h
    have hsame : inOrder order members = inOrder order' members := by
      refine eq_of_map_eq (fun a ha b hb hkey ↦ List.inj_on_of_nodup_map hnodup
        (mem_inOrder.mp ha) (mem_inOrder.mp hb) hkey) ?_
      rw [keys_inOrder, keys_inOrder, hkeys]
    have htexts := canonical_eq_of_alikeMembers hnumerals members hmembers halike
    rw [canonical_obj, canonical_obj, hsame, List.map_congr_left fun member hmember ↦ ?_]
    rw [memberText, memberText, htexts member (mem_inOrder.mp hmember)]

theorem canonical_eq_of_alikeValues (hnumerals : Numerals number number' good) :
    ∀ values : List (Json ν), KeyedValues values → AlikeValues order order' good values →
      ∀ value ∈ values, canonical order number value = canonical order' number' value
  | [], _, _ => fun _ h ↦ absurd h List.not_mem_nil
  | value :: values, hkeyed, h => by
    rw [List.forall_mem_cons]
    exact ⟨canonical_eq_of_alike hnumerals value hkeyed.1 h.1,
      canonical_eq_of_alikeValues hnumerals values hkeyed.2 h.2⟩

theorem canonical_eq_of_alikeMembers (hnumerals : Numerals number number' good) :
    ∀ members : List (String × Json ν), KeyedMembers members →
      AlikeMembers order order' good members →
      ∀ member ∈ members,
        canonical order number member.2 = canonical order' number' member.2
  | [], _, _ => fun _ h ↦ absurd h List.not_mem_nil
  | (_, value) :: members, hkeyed, h => by
    rw [List.forall_mem_cons]
    exact ⟨canonical_eq_of_alike hnumerals value hkeyed.1 h.1,
      canonical_eq_of_alikeMembers hnumerals members hkeyed.2 h.2⟩

end

/-- **Two canonical texts agree** exactly when they agree part by part. -/
theorem canonical_eq_iff (hnumerals : Numerals number number' good) {value : Json ν}
    (hkeyed : value.Keyed) :
    canonical order number value = canonical order' number' value ↔
      value.Alike order order' good := by
  constructor
  · intro h
    refine (told_of_keyed hnumerals value hkeyed [] [] delimited_nil delimited_nil ?_).1
    rw [h]
  · exact canonical_eq_of_alike hnumerals value hkeyed

end Agree

end Json
