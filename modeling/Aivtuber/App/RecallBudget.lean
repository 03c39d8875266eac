import Aivtuber.Adaptation.LinkGraph
import Aivtuber.Adaptation.Ranking
import Aivtuber.App.MemoryContext
import Aivtuber.Base.Words

/-!
# Filling the budget of a request

The budget is meant as one pass over the ranked claims (`singlePass`): a claim that is larger
than an item may be is skipped, and the next one uses the room.  So does `boundedPrefix` with
what it is given (`boundedPrefix_eq_singlePass`); but `retainedMemoryContext` gives it no more
claims than a request may carry, so that a claim which is skipped may have cost another its
place (`retained_eq_singlePass_iff`).
-/

open Aivtuber.Check Saturating

namespace Aivtuber

section Budget

variable {α : Type} {text : α → String} {content items rest : List α} {next : α}
  {usedBytes chargedBytes taken : Nat}

/-- As many items as fit behind the bytes that are used. -/
def fitting (text : α → String) : List α → Nat → List α
  | [], _ => []
  | item :: items, usedBytes =>
    if maxThinkingContextBytes < usedBytes + (text item).utf8ByteSize then []
    else item :: fitting text items (usedBytes + (text item).utf8ByteSize)

/-- An item within its own bound. -/
def isOrdinary (text : α → String) (item : α) : Bool :=
  (text item).utf8ByteSize ≤ maxThinkingTextBytes

def totalBytes (text : α → String) (items : List α) : Nat :=
  (items.map fun item ↦ (text item).utf8ByteSize).sum

/-- One pass over ranked items: those over their own bound are skipped, the others are taken
until the count or the budget is reached. -/
def singlePass (text : α → String) (ranked : List α) (chargedBytes : Nat) : List α :=
  fitting text ((ranked.filter (isOrdinary text)).take maxThinkingContextItems) chargedBytes

theorem boundedPrefix_eq (text : α → String) (content : List α) (usedBytes taken : Nat) :
    boundedPrefix text content usedBytes taken =
      fitting text ((content.filter (isOrdinary text)).take (maxThinkingContextItems - taken))
        usedBytes := by
  induction content generalizing usedBytes taken with
  | nil =>
    rw [List.filter_nil, List.take_nil]
    rfl
  | cons item content ih =>
    rw [boundedPrefix]
    split
    case isTrue hfull =>
      rw [Nat.sub_eq_zero_of_le hfull, List.take_zero]
      rfl
    case isFalse hroom =>
      split
      case isTrue hlarge =>
        rw [ih, List.filter_cons_of_neg]
        rw [isOrdinary, decide_eq_true_eq]
        exact Nat.not_le_of_lt hlarge
      case isFalse hordinary =>
        have hcount : maxThinkingContextItems - taken =
            maxThinkingContextItems - (taken + 1) + 1 := by omega
        have hsmall : isOrdinary text item = true := decide_eq_true (Nat.le_of_not_lt hordinary)
        rw [List.filter_cons_of_pos hsmall, hcount, List.take_succ_cons, fitting, ih]
        -- below the budget, nothing saturates
        have hsat : maxThinkingContextBytes < satAdd usedBytes (text item).utf8ByteSize ↔
            maxThinkingContextBytes < usedBytes + (text item).utf8ByteSize := by
          simp only [satAdd, u64Max, maxThinkingContextBytes]
          omega
        simp only [hsat]

/-- Given all ranked items, the budget is filled in one pass. -/
theorem boundedPrefix_eq_singlePass (text : α → String) (ranked : List α) (chargedBytes : Nat) :
    boundedPrefix text ranked chargedBytes 0 = singlePass text ranked chargedBytes :=
  boundedPrefix_eq text ranked chargedBytes 0

/-- More items change nothing exactly when the first of them does not fit. -/
theorem fitting_append_cons_iff (text : α → String) (items : List α) (next : α) (rest : List α)
    (usedBytes : Nat) :
    fitting text items usedBytes = fitting text (items ++ next :: rest) usedBytes ↔
      maxThinkingContextBytes <
        usedBytes + totalBytes text items + (text next).utf8ByteSize := by
  induction items generalizing usedBytes with
  | nil =>
    simp only [List.nil_append, fitting, totalBytes, List.map_nil, List.sum_nil, Nat.add_zero]
    split
    case isTrue h => exact iff_of_true rfl h
    case isFalse h => exact iff_of_false (by simp) h
  | cons item items ih =>
    have htotal : usedBytes + totalBytes text (item :: items) =
        usedBytes + (text item).utf8ByteSize + totalBytes text items := by
      rw [totalBytes, totalBytes, List.map_cons, List.sum_cons, Nat.add_assoc]
    rw [List.cons_append, fitting, fitting, htotal]
    split
    case isTrue h => exact iff_of_true rfl (by omega)
    case isFalse =>
      rw [List.cons.injEq, eq_self_iff_true, true_and]
      exact ih _

/-- If one of the first claims is too large, the first ordinary claim behind them would not fit
behind the ordinary ones of them. -/
def RoomUseless (text : α → String) (ranked : List α) (chargedBytes : Nat) : Prop :=
  (∃ item ∈ ranked.take maxThinkingContextItems, isOrdinary text item = false) →
    ∀ next ∈ (ranked.drop maxThinkingContextItems).find? (isOrdinary text),
      maxThinkingContextBytes < chargedBytes +
        totalBytes text ((ranked.take maxThinkingContextItems).filter (isOrdinary text)) +
          (text next).utf8ByteSize

/-- Cutting the order first gives the result of one pass exactly when the room of what is
skipped is of no use. -/
theorem boundedPrefix_take_iff (text : α → String) (ranked : List α) (chargedBytes : Nat) :
    boundedPrefix text (ranked.take maxThinkingContextItems) chargedBytes 0 =
      singlePass text ranked chargedBytes ↔ RoomUseless text ranked chargedBytes := by
  let shown := (ranked.take maxThinkingContextItems).filter (isOrdinary text)
  let behind := (ranked.drop maxThinkingContextItems).filter (isOrdinary text)
  have hshown : shown.length ≤ maxThinkingContextItems :=
    (List.length_filter_le _ _).trans (List.length_take_le _ _)
  have hcut : boundedPrefix text (ranked.take maxThinkingContextItems) chargedBytes 0 =
      fitting text shown chargedBytes := by
    rw [boundedPrefix_eq, Nat.sub_zero, List.take_of_length_le hshown]
  have hpass : singlePass text ranked chargedBytes =
      fitting text (shown ++ behind.take (maxThinkingContextItems - shown.length))
        chargedBytes := by
    have hsplit : ranked.filter (isOrdinary text) = shown ++ behind := by
      rw [← List.filter_append, List.take_append_drop]
    rw [singlePass, hsplit, List.take_append, List.take_of_length_le hshown]
  rw [hcut, hpass, RoomUseless, ← List.head?_filter]
  by_cases hlarge : ∃ item ∈ ranked.take maxThinkingContextItems, isOrdinary text item = false
  · -- a claim is skipped, so there is room for what is behind
    have hroom : 0 < maxThinkingContextItems - shown.length := by
      obtain ⟨item, hitem, hskipped⟩ := hlarge
      have hless : shown.length < (ranked.take maxThinkingContextItems).length :=
        List.length_filter_lt_length_iff_exists.mpr ⟨item, hitem, by simp [hskipped]⟩
      have hcount := List.length_take_le maxThinkingContextItems ranked
      omega
    obtain ⟨room, hroom⟩ := Nat.exists_eq_succ_of_ne_zero (Nat.ne_of_gt hroom)
    rw [hroom]
    cases hbehind : behind with
    | nil =>
      rw [List.take_nil, List.append_nil]
      refine iff_of_true rfl fun _ next hnext ↦ ?_
      rw [show (ranked.drop maxThinkingContextItems).filter (isOrdinary text) = [] from hbehind]
        at hnext
      cases hnext
    | cons next rest =>
      rw [List.take_succ_cons, fitting_append_cons_iff,
        show (ranked.drop maxThinkingContextItems).filter (isOrdinary text) = next :: rest
          from hbehind]
      constructor
      · intro hfull _ other hother
        cases hother
        exact hfull
      · intro huseless
        exact huseless hlarge next rfl
  · -- nothing is skipped: either the count is reached, or nothing is behind
    refine iff_of_true ?_ fun hskipped ↦ absurd hskipped hlarge
    have hall : shown = ranked.take maxThinkingContextItems := by
      rw [List.filter_eq_self]
      intro item hitem
      by_contra hordinary
      exact hlarge ⟨item, hitem, eq_false_of_ne_true hordinary⟩
    by_cases hlong : maxThinkingContextItems ≤ ranked.length
    · have hcount : maxThinkingContextItems - shown.length = 0 := by
        rw [hall, List.length_take, Nat.min_eq_left hlong, Nat.sub_self]
      rw [hcount, List.take_zero, List.append_nil]
    · have hnone : behind = [] := by
        rw [show behind = (ranked.drop maxThinkingContextItems).filter (isOrdinary text) from rfl,
          List.drop_of_length_le (by omega), List.filter_nil]
      rw [hnone, List.take_nil, List.append_nil]

end Budget

/-! ## Recall -/

/-- **Recall in rank order.**  What is retained for a request is what one pass over all ranked
claims takes, exactly when the room of what is skipped is of no use. -/
theorem retained_eq_singlePass_iff (memory : WorkingMemory) (primitives : MemoryPrimitives)
    (sourceNamespace : String) (actorId topic : Option String) (nowMs chargedBytes : Nat) :
    let ranked := (memory.ranking primitives sourceNamespace actorId topic nowMs).map memoryContent
    retainedMemoryContext memory primitives sourceNamespace actorId topic nowMs chargedBytes =
        singlePass ThinkingContent.text ranked chargedBytes ↔
      RoomUseless ThinkingContent.text ranked chargedBytes := by
  intro ranked
  rw [← boundedPrefix_take_iff, retainedMemoryContext, WorkingMemory.contextFor_eq_take,
    List.map_take]
  rfl

namespace WorkingMemory

/-- A store for claims that are larger than an item of a request may be. -/
def largeClaims : WorkingMemoryConfig := { WorkingMemoryConfig.default with maxClaimBytes := 5000 }

/-- What the stream notes, of nobody. -/
def note : EventEnvelope := { viewerMessage "note" with sourceClass := .timer, actorId := none }

/-- A word of four bytes for each of its characters. -/
def wideWord (count : Nat) : String := String.ofList (List.replicate count '😀')

/-- The entry of a note, before it is stored. -/
def noteEntry (claim : String) : MemoryEntry where
  source := ⟨"note", "chat", .timer, .untrusted, none⟩
  normalizedClaim := claim
  topic := none
  createdAtMs := 13
  expiresAtMs := 900013
  retention := .working
  writeDecision := .workingOnly
  epistemicClass := EpistemicClass.derive .timer .untrusted false
  epistemicVersion := memoryEpistemicVocabVersion
  memoryId := 0

/-- Twelve greetings. -/
def greetings : List Op :=
  (List.range 12).map fun n ↦ .rememberWorking note "Hello" none (n + 1)

/-- A store with these entries and nothing else. -/
def storeOf (entries : List MemoryEntry) : WorkingMemory where
  config := largeClaims
  pseudonymizer := ⟨"v1", List.replicate 32 1⟩
  entries
  links := []
  compactions := []
  entriesHighWater := entries.length
  linksHighWater := 0
  compactionsHighWater := 0
  compactionsEvicted := 0
  nextMemoryId := entries.length + 1

def greetingEntries : List MemoryEntry :=
  (List.range 12).map fun n ↦
    { noteEntry "hello" with
      createdAtMs := n + 1
      expiresAtMs := 900001 + n
      memoryId := n + 1 }

theorem wideWord_size (count : Nat) : (wideWord count).utf8ByteSize = 4 * count := by
  rw [← Text.utf8Len_toList, wideWord, String.toList_ofList]
  induction count with
  | zero => rfl
  | succ count ih =>
    rw [List.replicate_succ, String.utf8Len_cons, ih]
    rfl

theorem normalize_wideWord {count : Nat} (h : 0 < count) :
    normalize .ascii (wideWord count) = wideWord count := by
  have hword : Text.IsWord (wideWord count).toList := by
    rw [wideWord, String.toList_ofList]
    refine ⟨by simpa using Nat.ne_of_gt h, fun c hc ↦ ?_⟩
    rw [List.eq_of_mem_replicate hc]
    decide
  change MemoryPrimitives.ascii.toLowercase (Text.collapse (wideWord count)) = wideWord count
  rw [Text.collapse_word hword]
  simp only [MemoryPrimitives.ascii, wideWord, String.toList_ofList, List.map_replicate]
  rfl

theorem entryFromEvent_note {memory : WorkingMemory} {claim : String}
    (hconfig : memory.config = largeClaims) (hnormal : normalize .ascii claim = claim)
    (hnonempty : claim ≠ "") (hfits : claim.utf8ByteSize ≤ 5000) :
    memory.entryFromEvent .ascii note claim none 13 .working .workingOnly =
      .ok (noteEntry claim) := by
  have hclaim : boundedNonempty .ascii claim memory.config.maxClaimBytes "memory claim" =
      .ok claim := by
    rw [boundedNonempty, hnormal, decide_eq_true hnonempty, hconfig]
    exact congrArg Except.ok (Text.truncateUtf8_eq_self hfits)
  rw [entryFromEvent, newEntry]
  dsimp only [note, viewerMessage]
  rw [hclaim, hconfig]
  rfl

theorem next_rememberWorking (memory : WorkingMemory) (primitives : MemoryPrimitives)
    (event : EventEnvelope) (claim : String) (topic : Option String) (nowMs : Nat) :
    (machine primitives).next memory (.rememberWorking event claim topic nowMs) =
      (memory.rememberWorking primitives event claim topic nowMs).1 := rfl

/-- A claim that is too large is skipped, and the oldest greeting lost its place to it. -/
theorem costs_greeting {claim : String} (hnormal : normalize .ascii claim = claim)
    (hlarge : maxThinkingTextBytes < claim.utf8ByteSize) (hfits : claim.utf8ByteSize ≤ 5000) :
    let state := (machine .ascii).run (storeOf [])
      (greetings ++ [.rememberWorking note claim none 13])
    (retainedMemoryContext state .ascii "chat" none none 13 0).length = 11 ∧
      (singlePass ThinkingContent.text ((state.ranking .ascii "chat" none none 13).map
        memoryContent) 0).length = 12 := by
  intro state
  let last : MemoryEntry := { noteEntry claim with memoryId := 13 }
  have hnext : state = ((storeOf greetingEntries).pushBounded (noteEntry claim) 13).1 := by
    have hgreeted : (machine .ascii).run (storeOf []) greetings = storeOf greetingEntries := by rfl
    have hnonempty : claim ≠ "" := by
      rintro rfl
      exact absurd hlarge (by decide)
    have hentry : (storeOf greetingEntries).entryFromEvent .ascii note claim none 13 .working
        .workingOnly = .ok (noteEntry claim) := entryFromEvent_note rfl hnormal hnonempty hfits
    rw [show state = _ from Machine.run_concat _ _ _ _, hgreeted, next_rememberWorking,
      rememberWorking, hentry]
  have hentries : state.entries = greetingEntries ++ [last] := by
    have hlive : 13 < (noteEntry claim).expiresAtMs := by
      change 13 < 900013
      decide
    rw [hnext, pushBounded_entries (by decide) hlive (by decide)]
    rfl
  have hlinks : state.links = [] := by
    rw [hnext]
    exact List.sublist_nil.mp pushBounded_links_sublist
  have hcurrent : (state.liveEntries 13).filter (state.isCurrent 13 none) =
      greetingEntries ++ [last] := by
    have hscope : state.isCurrent 13 none = inScope none := by
      funext entry
      rw [isCurrent, correctionOf, hlinks]
      rfl
    rw [hscope, liveEntries, hentries]
    rfl
  have hrank : state.contextRank .ascii none 13 =
      fun entry ↦ [0, entry.createdAtMs, entry.memoryId] := by
    have hnone : state.promotions .ascii none 13 = [] := by
      have hmatches : topicMatches .ascii (Option.map (normalize .ascii) none) = fun _ ↦ false := rfl
      rw [promotions, hmatches, List.filter_false, List.filterMap_nil]
    funext entry
    rw [contextRank, leads, hnone]
    rfl
  have hranking : state.ranking .ascii "chat" none none 13 = last :: greetingEntries.reverse := by
    have hsorted : ((greetingEntries ++ [last]).map fun entry ↦
        [0, entry.createdAtMs, entry.memoryId]).Pairwise (· < ·) := by
      change ((greetingEntries.map fun entry : MemoryEntry ↦
        [0, entry.createdAtMs, entry.memoryId]) ++ [[0, 13, 13]]).Pairwise (· < ·)
      decide
    change ((state.liveEntries 13).filter (state.isCurrent 13 none)).mergeSort _ = _
    rw [hcurrent, hrank, mergeSort_descending_eq_reverse hsorted, List.reverse_append]
    rfl
  have hskipped : isOrdinary ThinkingContent.text (memoryContent last) = false := by
    rw [isOrdinary, decide_eq_false_iff_not, Nat.not_le]
    exact hlarge
  constructor
  · dsimp only [retainedMemoryContext, boundedContext]
    rw [contextFor_eq_take, hranking, boundedPrefix_eq, maxThinkingContextItems, List.take_succ_cons,
      List.map_cons, List.filter_cons_of_neg (by rw [hskipped]; decide)]
    decide
  · rw [hranking, singlePass, List.map_cons, List.filter_cons_of_neg (by rw [hskipped]; decide)]
    decide

/-- Twelve greetings and a word of 4100 bytes: one pass recalls all greetings. -/
theorem wideWord_costs_greeting : ∃ memory,
    new largeClaims ⟨"v1", List.replicate 32 1⟩ = .ok memory ∧
      let state := (machine .ascii).run memory
        (greetings ++ [.rememberWorking note (wideWord 1025) none 13])
      (retainedMemoryContext state .ascii "chat" none none 13 0).length = 11 ∧
        (singlePass ThinkingContent.text ((state.ranking .ascii "chat" none none 13).map
          memoryContent) 0).length = 12 := by
  refine ⟨storeOf [], rfl, costs_greeting ?_ ?_ ?_⟩
  · exact normalize_wideWord (Nat.succ_pos 1024)
  · rw [wideWord_size]
    decide
  · rw [wideWord_size]
    decide

end WorkingMemory

end Aivtuber
