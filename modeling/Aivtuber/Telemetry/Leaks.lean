import Aivtuber.Base.Apart
import Aivtuber.Telemetry.Redaction

/-!
# Redactions that leave no secret

A replacement cuts a text into the pieces between the occurrences and joins them with markers
(`exists_pieces`).  So what is not read across a marker occurs after it only if it did before, and
a secret that is not read across a marker occurs nowhere, however the secrets overlap
(`not_infix_redact`).
-/

open Aivtuber.Text

namespace Aivtuber

namespace Redaction

variable {pattern mark text o : List Char}

/-- A replacement puts the mark between the pieces that the pattern was between, and the pattern
occurs in none of them. -/
theorem exists_pieces (hne : pattern ≠ []) (mark text : List Char) :
    ∃ first later, pattern.intercalate (first :: later) = text ∧
      replaceAll pattern mark 0 text = mark.intercalate (first :: later) ∧
      ∀ piece ∈ first :: later, ¬pattern <:+: piece := by
  induction hlength : text.length using Nat.strong_induction_on generalizing text with
  | h n ih =>
    cases text with
    | nil =>
      refine ⟨[], [], rfl, rfl, fun piece hpiece hocc ↦ ?_⟩
      rw [List.mem_singleton.mp hpiece, List.infix_nil] at hocc
      exact hne hocc
    | cons c text =>
      by_cases hhit : pattern <+: c :: text
      · obtain ⟨rest, hrest⟩ := hhit
        have hshorter : rest.length < n := by
          have hpos := List.length_pos_iff.mpr hne
          rw [← hlength, ← hrest, List.length_append]
          omega
        obtain ⟨first, later, htext, hreplace, hnone⟩ := ih _ hshorter rest rfl
        refine ⟨[], first :: later, ?_, ?_, ?_⟩
        · rw [List.intercalate_cons_cons, htext, List.nil_append, hrest]
        · rw [List.intercalate_cons_cons, ← hrest, replaceAll_hit hne, hreplace,
            List.nil_append]
        · intro piece hpiece hocc
          rcases List.mem_cons.mp hpiece with rfl | hpiece
          · exact hne (List.infix_nil.mp hocc)
          · exact hnone piece hpiece hocc
      · have hshorter : text.length < n := hlength ▸ Nat.lt_succ_self text.length
        obtain ⟨first, later, htext, hreplace, hnone⟩ := ih _ hshorter text rfl
        have hno : ¬pattern.isPrefixOf (c :: text) = true := by
          rwa [List.isPrefixOf_iff_prefix]
        refine ⟨c :: first, later, ?_, ?_, ?_⟩
        · rw [intercalate_cons_head, htext]
        · rw [intercalate_cons_head, replaceAll, if_neg hno, hreplace]
        · intro piece hpiece hocc
          rcases List.mem_cons.mp hpiece with rfl | hpiece
          · rcases List.infix_cons_iff.mp hocc with hstart | hocc
            · refine hhit (hstart.trans ((List.prefix_cons_inj c).mpr ?_))
              rw [← htext]
              exact prefix_intercalate first later
            · exact hnone first List.mem_cons_self hocc
          · exact hnone piece (List.mem_cons_of_mem _ hpiece) hocc

/-- What is not read across the mark occurs after a replacement only if it did before. -/
theorem infix_of_infix_replaceAll (hne : pattern ≠ []) (hapart : Apart mark o) (ho : o ≠ [])
    (h : o <:+: replaceAll pattern mark 0 text) : o <:+: text := by
  obtain ⟨first, later, rfl, hreplace, -⟩ := exists_pieces hne mark text
  rw [hreplace] at h
  obtain ⟨piece, hpiece, hocc⟩ := hapart.infix_intercalate ho h
  exact hocc.trans (infix_intercalate_of_mem hpiece)

/-- The pattern itself occurs no more. -/
theorem not_infix_replaceAll (hne : pattern ≠ []) (hapart : Apart mark pattern) :
    ¬pattern <:+: replaceAll pattern mark 0 text := by
  intro h
  obtain ⟨first, later, -, hreplace, hnone⟩ := exists_pieces hne mark text
  rw [hreplace] at h
  obtain ⟨piece, hpiece, hocc⟩ := hapart.infix_intercalate hne h
  exact hnone piece hpiece hocc

theorem infix_of_infix_redactChars {order : List (List Char)} (hne : ∀ s ∈ order, s ≠ [])
    (hapart : Apart marker o) (ho : o ≠ []) (h : o <:+: redactChars order text) : o <:+: text := by
  induction order generalizing text with
  | nil => exact h
  | cons s order ih =>
    have hlater := ih (fun t ht ↦ hne t (List.mem_cons_of_mem s ht)) h
    exact infix_of_infix_replaceAll (hne s List.mem_cons_self) hapart ho hlater

/-- A secret that is not read across a marker is not left. -/
theorem not_infix_redactChars {order : List (List Char)} (hne : ∀ s ∈ order, s ≠ [])
    {secret : List Char} (hsecret : secret ∈ order) (hapart : Apart marker secret) :
    ¬secret <:+: redactChars order text := by
  induction order generalizing text with
  | nil => cases hsecret
  | cons s order ih =>
    have hnext : ∀ t ∈ order, t ≠ [] := fun t ht ↦ hne t (List.mem_cons_of_mem s ht)
    rcases List.mem_cons.mp hsecret with rfl | hsecret
    · have hpattern := hne secret List.mem_cons_self
      intro h
      exact not_infix_replaceAll hpattern hapart
        (infix_of_infix_redactChars hnext hapart hpattern h)
    · exact ih hnext hsecret

/-- Where a text behind a character begins within a marker or after it, it begins after it. -/
theorem follows_within {c : Char} {w b : List Char} (hclose : ']' ∉ o) (hmarker : ¬o <:+: marker)
    (hw : w <:+ marker) (h : c :: o <:+: w ++ b) : c :: o <:+: b ∨ o <+: b := by
  induction w with
  | nil => exact .inl h
  | cons z w ih =>
    have hw' : w <:+ marker := (List.suffix_cons z w).trans hw
    rcases List.infix_cons_iff.mp h with hstart | hrest
    · have ho := (List.cons_prefix_cons.mp hstart).2
      rcases prefix_append_cases ho with ho | ⟨o', rfl, ho'⟩
      · exact absurd (ho.isInfix.trans hw'.isInfix) hmarker
      · rcases List.eq_nil_or_concat w with rfl | ⟨w, y, rfl⟩
        · exact .inr ho'
        · -- the part of the marker ends with its delimiter
          obtain ⟨front, hfront⟩ := hw'
          have hlast := congrArg List.getLast? hfront
          rw [List.concat_eq_append, ← List.append_assoc, List.getLast?_concat] at hlast
          have hy : y = ']' := Option.some.inj hlast
          refine absurd ?_ hclose
          rw [hy, List.concat_eq_append]
          exact List.mem_append_left _ (List.mem_append_right _ List.mem_cons_self)
    · exact ih hw' hrest

/-- What is not read across a marker, behind a character that may be: it is in front of the marker,
or behind it, or right behind it. -/
theorem follows_marker {c : Char} {a b : List Char} (hopen : '[' ∉ o) (hclose : ']' ∉ o)
    (hmarker : ¬o <:+: marker) (h : c :: o <:+: a ++ marker ++ b) :
    c :: o <:+: a ∨ c :: o <:+: b ∨ o <+: b := by
  induction a with
  | nil => exact .inr (follows_within hclose hmarker List.suffix_rfl h)
  | cons z a ih =>
    rcases List.infix_cons_iff.mp h with hstart | hrest
    · obtain ⟨rfl, hrest⟩ := List.cons_prefix_cons.mp hstart
      have ho : o <+: a ++ (marker ++ b) := (List.append_assoc a marker b) ▸ hrest
      exact .inl ((List.prefix_cons_inj c).mpr (prefix_of_not_mem hopen ho)).isInfix
    · rcases ih hrest with hleft | hright
      · exact .inl (hleft.trans (List.suffix_cons z a).isInfix)
      · exact .inr hright

/-- Behind a character, it is in a piece with the character or begins a later piece. -/
theorem follows_pieces {c : Char} {first : List Char} {later : List (List Char)}
    (hopen : '[' ∉ o) (hclose : ']' ∉ o) (hmarker : ¬o <:+: marker)
    (h : c :: o <:+: marker.intercalate (first :: later)) :
    (∃ piece ∈ first :: later, c :: o <:+: piece) ∨ ∃ piece ∈ later, o <+: piece := by
  induction later generalizing first with
  | nil =>
    rw [List.intercalate_singleton] at h
    exact .inl ⟨first, List.mem_cons_self, h⟩
  | cons next later ih =>
    rw [List.intercalate_cons_cons] at h
    rcases follows_marker hopen hclose hmarker h with h | h | h
    · exact .inl ⟨first, List.mem_cons_self, h⟩
    · rcases ih h with ⟨piece, hpiece, hocc⟩ | ⟨piece, hpiece, hstart⟩
      · exact .inl ⟨piece, List.mem_cons_of_mem _ hpiece, hocc⟩
      · exact .inr ⟨piece, List.mem_cons_of_mem _ hpiece, hstart⟩
    · refine .inr ⟨next, List.mem_cons_self, ?_⟩
      cases later with
      | nil => rwa [List.intercalate_singleton] at h
      | cons last later =>
        rw [List.intercalate_cons_cons, List.append_assoc] at h
        exact prefix_of_not_mem hopen h

/-- What is not read across a marker follows, after a replacement, the character that it followed,
or it followed the last character of the pattern. -/
theorem exists_follows {c : Char} (hne : pattern ≠ []) (hopen : '[' ∉ o) (hclose : ']' ∉ o)
    (hmarker : ¬o <:+: marker) (h : c :: o <:+: replaceAll pattern marker 0 text) :
    ∃ c', (c' = c ∨ pattern.getLast? = some c') ∧ c' :: o <:+: text := by
  obtain ⟨first, later, rfl, hreplace, -⟩ := exists_pieces hne marker text
  rw [hreplace] at h
  rcases follows_pieces hopen hclose hmarker h with ⟨piece, hpiece, hocc⟩ | ⟨piece, hpiece, hstart⟩
  · exact ⟨c, .inl rfl, hocc.trans (infix_intercalate_of_mem hpiece)⟩
  · rcases List.eq_nil_or_concat pattern with rfl | ⟨front, last, rfl⟩
    · exact absurd rfl hne
    · refine ⟨last, .inr ?_, ?_⟩
      · rw [List.concat_eq_append, List.getLast?_concat]
      · have htail : piece ∈ (first :: later).tail := hpiece
        refine List.IsInfix.trans ?_ (infix_intercalate_of_mem_tail htail)
        obtain ⟨rest, rfl⟩ := hstart
        refine ⟨front, rest, ?_⟩
        rw [List.concat_eq_append, List.append_assoc, List.append_assoc, List.cons_append]
        rfl

theorem exists_follows_redactChars {order : List (List Char)} (hne : ∀ s ∈ order, s ≠ [])
    (hopen : '[' ∉ o) (hclose : ']' ∉ o) (hmarker : ¬o <:+: marker) {c : Char}
    (h : c :: o <:+: redactChars order text) :
    ∃ c', (c' = c ∨ ∃ s ∈ order, s.getLast? = some c') ∧ c' :: o <:+: text := by
  induction order generalizing text with
  | nil => exact ⟨c, .inl rfl, h⟩
  | cons s order ih =>
    obtain ⟨c₁, hc₁, h⟩ := ih (fun t ht ↦ hne t (List.mem_cons_of_mem s ht)) h
    obtain ⟨c₂, hc₂, h⟩ := exists_follows (hne s List.mem_cons_self) hopen hclose hmarker h
    refine ⟨c₂, ?_, h⟩
    rcases hc₂ with rfl | hlast
    · exact hc₁.imp_right fun ⟨t, ht, hlast⟩ ↦ ⟨t, List.mem_cons_of_mem s ht, hlast⟩
    · exact .inr ⟨s, List.mem_cons_self, hlast⟩

end Redaction

/-! ## The redactor -/

namespace SecretRedactor

open Redaction

variable {redactor : SecretRedactor} {text : String}

/-- The text has none of the secrets. -/
def Misses (redactor : SecretRedactor) (text : String) : Prop :=
  ∀ secret ∈ redactor.secrets, ¬secret.toList <:+: text.toList

theorem new_secrets (redactor : SecretRedactor) : new redactor.secrets = redactor := by
  have hfilter : redactor.secrets.filter (· ≠ "") = redactor.secrets :=
    List.filter_eq_self.mpr fun secret h ↦ decide_eq_true (redactor.secrets_nonempty secret h)
  obtain ⟨secrets, hnonempty⟩ := redactor
  simp only [new, hfilter]

theorem toList_redact_chars (redactor : SecretRedactor) (text : String) :
    (redactor.redact text).toList = redactChars (patterns redactor.secrets) text.toList := by
  rw [← toList_redact, new_secrets]

theorem mem_patterns_iff {s : List Char} :
    s ∈ patterns redactor.secrets ↔ ∃ secret ∈ redactor.secrets, secret.toList = s := by
  rw [patterns, new_secrets, List.mem_map]

/-- **Redaction leaves no secret** that is not read across a marker. -/
theorem misses_redact (hapart : ∀ secret ∈ redactor.secrets, Apart marker secret.toList)
    (text : String) : redactor.Misses (redactor.redact text) := by
  intro secret hsecret
  rw [toList_redact_chars]
  exact not_infix_redactChars (patterns_ne_nil _) (mem_patterns_iff.mpr ⟨secret, hsecret, rfl⟩)
    (hapart secret hsecret)

theorem Misses.of_infix (h : redactor.Misses text) {part : String}
    (hpart : part.toList <:+: text.toList) : redactor.Misses part :=
  fun secret hsecret hocc ↦ h secret hsecret (hocc.trans hpart)

theorem misses_empty (redactor : SecretRedactor) : redactor.Misses "" := fun secret hsecret hocc ↦
  toList_ne_nil (redactor.secrets_nonempty secret hsecret) (List.infix_nil.mp hocc)

/-- Secrets without a space are not read across it. -/
theorem Misses.space (hspace : ∀ secret ∈ redactor.secrets, ' ' ∉ secret.toList)
    {before after : String} (hbefore : redactor.Misses before) (hafter : redactor.Misses after) :
    redactor.Misses (before ++ " " ++ after) := by
  intro secret hsecret hocc
  have hjoin : (before ++ " " ++ after).toList = before.toList ++ [' '] ++ after.toList := by
    rw [String.toList_append, String.toList_append]
    rfl
  rw [hjoin] at hocc
  rcases apart_singleton (hspace secret hsecret) _ _ hocc with h | h
  · exact hbefore secret hsecret h
  · exact hafter secret hsecret h

/-- Secrets that do not end with white space are not completed by it. -/
theorem Misses.newline
    (hend : ∀ secret ∈ redactor.secrets, ∀ c,
      secret.toList.getLast? = some c → isWhitespace c = false)
    {before : String} (hbefore : redactor.Misses before) : redactor.Misses (before ++ "\n") := by
  intro secret hsecret hocc
  have hjoin : (before ++ "\n").toList = before.toList ++ ['\n'] := String.toList_append
  rw [hjoin, List.infix_concat_iff] at hocc
  rcases hocc with ⟨front, hsuffix⟩ | hocc
  · have hlast : secret.toList.getLast? = some '\n' := by
      have hwhole := congrArg List.getLast? hsuffix
      rw [List.getLast?_concat] at hwhole
      rwa [List.getLast?_append_of_ne_nil _
        (toList_ne_nil (redactor.secrets_nonempty secret hsecret))] at hwhole
    exact Bool.false_ne_true ((hend secret hsecret _ hlast).symm.trans (by decide))
  · exact hbefore secret hsecret hocc

end SecretRedactor

end Aivtuber
