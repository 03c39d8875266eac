import Mathlib.Data.List.Basic

/-!
# Prefix codes

A code whose words tell where they end, whatever follows them (`PrefixCode`).  Words of such
codes may be written one after the other, and a record that is written field by field is read
back in one way only.
-/

/-- No word is the beginning of another one: what stands before a rest tells the value. -/
def PrefixCode {α β : Type*} (encode : α → List β) : Prop :=
  ∀ ⦃a b : α⦄ ⦃x y : List β⦄, encode a ++ x = encode b ++ y → a = b ∧ x = y

namespace PrefixCode

variable {α β γ : Type*} {encode : α → List β}

/-- A text up to the first separator determines where it ends. -/
theorem append_cons_inj {sep : β} {a b x y : List β} (ha : sep ∉ a) (hb : sep ∉ b)
    (h : a ++ sep :: x = b ++ sep :: y) : a = b ∧ x = y := by
  induction a generalizing b with
  | nil =>
    cases b with
    | nil => exact ⟨rfl, (List.cons.inj h).2⟩
    | cons c b => exact absurd (List.mem_cons.mpr (Or.inl (List.cons.inj h).1)) hb
  | cons c a ih =>
    cases b with
    | nil => exact absurd (List.mem_cons.mpr (Or.inl (List.cons.inj h).1.symm)) ha
    | cons d b =>
      obtain ⟨hcd, hrest⟩ := List.cons.inj h
      obtain ⟨hab, hxy⟩ := ih (fun hmem ↦ ha (List.mem_cons_of_mem c hmem))
        (fun hmem ↦ hb (List.mem_cons_of_mem d hmem)) hrest
      exact ⟨by rw [hcd, hab], hxy⟩

/-- The same text before every word. -/
theorem lead (h : PrefixCode encode) (text : List β) : PrefixCode fun a ↦ text ++ encode a := by
  intro a b x y hxy
  rw [List.append_assoc, List.append_assoc] at hxy
  exact h (List.append_cancel_left hxy)

/-- The same text behind every word. -/
theorem trail (h : PrefixCode encode) (text : List β) : PrefixCode fun a ↦ encode a ++ text := by
  intro a b x y hxy
  rw [List.append_assoc, List.append_assoc] at hxy
  obtain ⟨hab, htext⟩ := h hxy
  exact ⟨hab, List.append_cancel_left htext⟩

theorem comap (h : PrefixCode encode) {f : γ → α} (hf : Function.Injective f) :
    PrefixCode fun c ↦ encode (f c) := by
  intro a b x y hxy
  obtain ⟨hab, hrest⟩ := h hxy
  exact ⟨hf hab, hrest⟩

/-- A mark that begins no word stands for a value that is missing. -/
theorem option (h : PrefixCode encode) {mark : β}
    (hmark : ∀ a, ∃ c word, encode a = c :: word ∧ c ≠ mark) :
    PrefixCode fun a : Option α ↦ a.elim [mark] encode := by
  have hapart : ∀ a x y, encode a ++ x ≠ mark :: y := by
    intro a x y heq
    obtain ⟨c, word, hword, hc⟩ := hmark a
    rw [hword] at heq
    exact hc (List.cons.inj heq).1
  intro a b x y hxy
  cases a with
  | none =>
    cases b with
    | none => exact ⟨rfl, (List.cons.inj hxy).2⟩
    | some b => exact absurd hxy.symm (hapart b y x)
  | some a =>
    cases b with
    | none => exact absurd hxy (hapart a x y)
    | some b =>
      obtain ⟨rfl, hrest⟩ := h hxy
      exact ⟨rfl, hrest⟩

/-- **Netstrings.**  A text behind its length is a word, if the numeral of the length ends where
the separator stands. -/
theorem netstring {numeral : Nat → List β} (hnumeral : Function.Injective numeral) {sep : β}
    (hsep : ∀ n, sep ∉ numeral n) :
    PrefixCode fun text : List β ↦ numeral text.length ++ sep :: text := by
  intro s t x y hxy
  rw [List.append_assoc, List.append_assoc, List.cons_append, List.cons_append] at hxy
  obtain ⟨hlength, hrest⟩ := append_cons_inj (hsep _) (hsep _) hxy
  exact List.append_inj hrest (hnumeral hlength)

end PrefixCode
