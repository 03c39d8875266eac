import Aivtuber.Adaptation.LinkGraph
import Aivtuber.Adaptation.Ranking

/-!
# Corrections in recall

A claim on the topic of a query may be corrected by one on another topic, which is then promoted
to lead the context in its place.  Promotion follows the first recorded correction of a claim
alone, and for one step: a second correction of the same claim, or the correction of a
correction, ranks as any other claim (`correctionsLead_iff`).
-/

namespace Aivtuber

/-! ## Cuts of a ranked list -/

section Cut

variable {α : Type} {rank : α → List Nat} {items before after : List α} {item : α} {count : Nat}

/-- How many items outrank this one. -/
def outranking (rank : α → List Nat) (items : List α) (item : α) : Nat :=
  items.countP fun other ↦ rank item < rank other

/-- What a cut leaves is outranked by less than its length. -/
theorem outranking_lt_of_take (h : items.Pairwise fun left right ↦ ¬ rank left < rank right)
    (htake : items.take count = before ++ item :: after) : outranking rank items item < count := by
  have hsplit : items = before ++ item :: (after ++ items.drop count) := by
    conv_lhs => rw [← List.take_append_drop count items, htake]
    rw [List.append_assoc, List.cons_append]
  have hlength : before.length < count := by
    have hcut := List.length_take_le count items
    rw [htake, List.length_append, List.length_cons] at hcut
    omega
  rw [hsplit] at h ⊢
  obtain ⟨-, hbehind, -⟩ := List.pairwise_append.mp h
  have hnone : (item :: (after ++ items.drop count)).countP (fun other ↦ rank item < rank other) =
      0 := by
    refine List.countP_eq_zero.mpr fun other hother hlt ↦ ?_
    rw [decide_eq_true_eq] at hlt
    rcases List.mem_cons.mp hother with rfl | hlater
    · exact List.lt_irrefl _ hlt
    · exact (List.pairwise_cons.mp hbehind).1 other hlater hlt
  rw [outranking, List.countP_append, hnone, Nat.add_zero]
  exact List.countP_le_length.trans_lt hlength

/-- What is outranked by less than the length of a cut is left by it. -/
theorem mem_take_of_outranking (h : items.Pairwise fun left right ↦ rank right < rank left)
    (hitem : item ∈ items) (hcount : outranking rank items item < count) :
    item ∈ items.take count := by
  obtain ⟨before, after, rfl⟩ := List.append_of_mem hitem
  obtain ⟨-, -, hacross⟩ := List.pairwise_append.mp h
  have hall : before.countP (fun other ↦ rank item < rank other) = before.length := by
    rw [List.countP_eq_length]
    intro other hother
    exact decide_eq_true (hacross other hother item List.mem_cons_self)
  rw [outranking, List.countP_append, hall] at hcount
  obtain ⟨room, hroom⟩ : ∃ room, count - before.length = room + 1 :=
    ⟨count - before.length - 1, by omega⟩
  rw [List.take_append, hroom, List.take_succ_cons]
  exact List.mem_append_right _ List.mem_cons_self

/-- What outranks an item stands before it. -/
theorem mem_before_of_lt (h : (before ++ item :: after).Pairwise fun left right ↦
      ¬ rank left < rank right) {other : α} (hother : other ∈ before ++ item :: after)
    (hlt : rank item < rank other) : other ∈ before := by
  rcases List.mem_append.mp hother with hbefore | hbehind
  · exact hbefore
  · obtain ⟨-, hpairwise, -⟩ := List.pairwise_append.mp h
    rcases List.mem_cons.mp hbehind with rfl | hafter
    · exact absurd hlt (List.lt_irrefl _)
    · exact absurd hlt ((List.pairwise_cons.mp hpairwise).1 other hafter)

end Cut

namespace WorkingMemory

/-! ## What the law is about -/

/-- A live node is recorded as superseding another. -/
def Corrects (memory : WorkingMemory) (nowMs : Nat) (earlier later : Nat) : Prop :=
  ∃ link ∈ memory.links, link.kind = .supersedes ∧ link.createdAtMs ≤ nowMs ∧
    link.target = earlier ∧ link.source = later ∧
      ∃ entry ∈ memory.liveEntries nowMs, entry.memoryId = later

/-- A claim that is live, in scope and not superseded, and corrects a claim on the topic in one
or more steps. -/
structure IsCorrection (memory : WorkingMemory) (primitives : MemoryPrimitives)
    (scope : Option String) (topic : String) (nowMs : Nat) (entry : MemoryEntry) : Prop where
  live : entry ∈ memory.liveEntries nowMs
  visible : inScope scope entry = true
  current : ∀ later, ¬ memory.Corrects nowMs entry.memoryId later
  corrects : ∃ claim ∈ memory.liveEntries nowMs,
    topicMatches primitives (some (normalize primitives topic)) claim = true ∧
      Relation.TransGen (memory.Corrects nowMs) claim.memoryId entry.memoryId

/-- A claim that is neither on the topic nor a correction of one that is. -/
def IsOther (memory : WorkingMemory) (primitives : MemoryPrimitives) (scope : Option String)
    (topic : String) (nowMs : Nat) (entry : MemoryEntry) : Prop :=
  topicMatches primitives (some (normalize primitives topic)) entry = false ∧
    ¬ memory.IsCorrection primitives scope topic nowMs entry

/-- Every correction stands before every other claim that a context shows. -/
def CorrectionsLead (memory : WorkingMemory) (primitives : MemoryPrimitives)
    (sourceNamespace : String) (actorId : Option String) (topic : String) (limit nowMs : Nat) :
    Prop :=
  let scope := memory.actorScope primitives sourceNamespace actorId
  ∀ entry, memory.IsCorrection primitives scope topic nowMs entry → ∀ before other after,
    memory.contextFor primitives sourceNamespace actorId (some topic) limit nowMs =
      before ++ other :: after → memory.IsOther primitives scope topic nowMs other → entry ∈ before

/-- A correction that is not promoted is recorded after every other claim that the limit has
room for. -/
def UnpromotedNewer (memory : WorkingMemory) (primitives : MemoryPrimitives)
    (sourceNamespace : String) (actorId : Option String) (topic : String) (limit nowMs : Nat) :
    Prop :=
  let scope := memory.actorScope primitives sourceNamespace actorId
  let ranked := memory.ranking primitives sourceNamespace actorId (some topic) nowMs
  ∀ entry, memory.IsCorrection primitives scope topic nowMs entry →
    memory.leads primitives (some topic) nowMs entry = false →
      ∀ other ∈ ranked, memory.IsOther primitives scope topic nowMs other →
        [entry.createdAtMs, entry.memoryId] < [other.createdAtMs, other.memoryId] →
          limit ≤ outranking (memory.contextRank primitives (some topic) nowMs) ranked other

section Promotion

variable {memory : WorkingMemory} {primitives : MemoryPrimitives} {scope : Option String}
  {sourceNamespace topic : String} {actorId : Option String} {limit nowMs : Nat}
  {entry other : MemoryEntry}

theorem correctionOf_eq_none_iff {id : Nat} : memory.correctionOf nowMs id = none ↔
    ∀ later, ¬ memory.Corrects nowMs id later := by
  constructor
  · rintro hnone later ⟨link, hlink, hkind, hrecorded, rfl, rfl, entry, hentry, hid⟩
    have hlive : link.source ∈ memory.liveIds nowMs := hid ▸ List.mem_map_of_mem hentry
    exact correctionOf_ne_none hlink hkind hrecorded hlive hnone
  · intro hcurrent
    rw [correctionOf, Option.map_eq_none_iff, List.find?_eq_none]
    intro link hlink hfound
    simp only [Bool.and_eq_true, decide_eq_true_eq, List.any_eq_true] at hfound
    obtain ⟨⟨⟨hkind, hrecorded⟩, htarget⟩, entry, hentry, hid, hlive⟩ := hfound
    exact hcurrent link.source ⟨link, hlink, hkind, hrecorded, htarget, rfl, entry,
      List.mem_filter.mpr ⟨hentry, hlive⟩, hid⟩

theorem corrects_of_correctionOf {earlier later : Nat}
    (h : memory.correctionOf nowMs earlier = some later) : memory.Corrects nowMs earlier later := by
  rw [correctionOf, Option.map_eq_some_iff] at h
  obtain ⟨link, hfound, rfl⟩ := h
  have hshown := List.find?_some hfound
  simp only [Bool.and_eq_true, decide_eq_true_eq, List.any_eq_true] at hshown
  obtain ⟨⟨⟨hkind, hrecorded⟩, htarget⟩, entry, hentry, hid, hlive⟩ := hshown
  exact ⟨link, List.mem_of_find?_eq_some hfound, hkind, hrecorded, htarget, rfl, entry,
    List.mem_filter.mpr ⟨hentry, hlive⟩, hid⟩

theorem mem_ranking_iff : entry ∈ memory.ranking primitives sourceNamespace actorId (some topic)
    nowMs ↔ entry ∈ memory.liveEntries nowMs ∧
      inScope (memory.actorScope primitives sourceNamespace actorId) entry = true ∧
        ∀ later, ¬ memory.Corrects nowMs entry.memoryId later := by
  rw [mem_ranking, isCurrent, Bool.and_eq_true, Option.isNone_iff_eq_none, correctionOf_eq_none_iff,
    and_comm (b := inScope _ _ = true)]

/-- What is promoted is a correction, in one step. -/
theorem isCorrection_of_promoted (hentry : entry ∈ memory.ranking primitives sourceNamespace actorId
      (some topic) nowMs)
    (h : entry.memoryId ∈ memory.promotions primitives (some topic) nowMs) :
    memory.IsCorrection primitives (memory.actorScope primitives sourceNamespace actorId) topic nowMs
      entry := by
  obtain ⟨hlive, hscoped, hcurrent⟩ := mem_ranking_iff.mp hentry
  obtain ⟨claim, hclaim, hcorrection⟩ := List.mem_filterMap.mp h
  obtain ⟨hmem, hmatches⟩ := List.mem_filter.mp hclaim
  exact ⟨hlive, hscoped, hcurrent, claim, hmem, hmatches,
    Relation.TransGen.single (corrects_of_correctionOf hcorrection)⟩

theorem leads_of_isOther (hentry : entry ∈ memory.ranking primitives sourceNamespace actorId
      (some topic) nowMs)
    (h : memory.IsOther primitives (memory.actorScope primitives sourceNamespace actorId) topic nowMs
      entry) : memory.leads primitives (some topic) nowMs entry = false := by
  obtain ⟨hmatches, hcorrection⟩ := h
  have hpromoted : entry.memoryId ∉ memory.promotions primitives (some topic) nowMs :=
    fun hpromoted ↦ hcorrection (isCorrection_of_promoted hentry hpromoted)
  rw [leads, decide_eq_false hpromoted, Bool.or_false]
  exact hmatches

/-- The order of a context has no ties. -/
theorem Sequenced.ranking_strict (hs : memory.Sequenced) :
    (memory.ranking primitives sourceNamespace actorId (some topic) nowMs).Pairwise
      fun left right ↦ memory.contextRank primitives (some topic) nowMs right <
        memory.contextRank primitives (some topic) nowMs left := by
  have hids : (memory.ranking primitives sourceNamespace actorId (some topic) nowMs).Pairwise
      fun left right ↦ left.memoryId ≠ right.memoryId := by
    have hnodup : ((memory.ranking primitives sourceNamespace actorId (some topic) nowMs).map
        MemoryEntry.memoryId).Nodup := by
      refine ((List.mergeSort_perm _ _).map MemoryEntry.memoryId).nodup_iff.mpr ?_
      refine List.pairwise_map.mpr (((hs.ordered.filter _).filter _).imp ?_)
      intro earlier later hlt
      exact Nat.ne_of_lt hlt
    exact List.pairwise_map.mp hnodup
  refine ((ranking_pairwise memory primitives sourceNamespace actorId (some topic) nowMs).and
    hids).imp ?_
  rintro left right ⟨hnot, hne⟩
  by_contra hlt
  have heq := eq_of_not_lt hnot hlt
  simp only [contextRank, List.cons.injEq] at heq
  exact hne heq.2.2.1

/-- Of two claims that do not lead, the newer one ranks first. -/
theorem contextRank_lt_iff (hentry : memory.leads primitives (some topic) nowMs entry = false)
    (hother : memory.leads primitives (some topic) nowMs other = false) :
    memory.contextRank primitives (some topic) nowMs entry <
        memory.contextRank primitives (some topic) nowMs other ↔
      [entry.createdAtMs, entry.memoryId] < [other.createdAtMs, other.memoryId] := by
  rw [contextRank, contextRank, hentry, hother, List.cons_lt_cons_self]

/-- **Corrections in one context.**  They lead exactly when those that are not promoted are newer
than the others. -/
theorem Sequenced.lead_iff_newer (hs : memory.Sequenced) :
    memory.CorrectionsLead primitives sourceNamespace actorId topic limit nowMs ↔
      memory.UnpromotedNewer primitives sourceNamespace actorId topic limit nowMs := by
  let ranked := memory.ranking primitives sourceNamespace actorId (some topic) nowMs
  have hordered : ranked.Pairwise fun left right ↦
      ¬ memory.contextRank primitives (some topic) nowMs left <
        memory.contextRank primitives (some topic) nowMs right := ranking_pairwise ..
  have hcontext : memory.contextFor primitives sourceNamespace actorId (some topic) limit nowMs =
      ranked.take limit := contextFor_eq_take ..
  constructor
  · intro hlead entry hcorrection hunpromoted other hother hneither hnewer
    by_contra hroom
    have hshown := mem_take_of_outranking hs.ranking_strict hother (Nat.lt_of_not_le hroom)
    obtain ⟨before, after, hsplit⟩ := List.append_of_mem hshown
    have hbefore := hlead entry hcorrection before other after (hcontext.trans hsplit) hneither
    -- what stands before does not rank behind
    have hcut := hordered.sublist (List.take_sublist limit ranked)
    rw [hsplit] at hcut
    have hnot := (List.pairwise_append.mp hcut).2.2 entry hbefore other List.mem_cons_self
    have hlt := (contextRank_lt_iff hunpromoted (leads_of_isOther hother hneither)).mpr hnewer
    exact hnot hlt
  · intro hnewer entry hcorrection before other after hsplit hneither
    have htake : ranked.take limit = before ++ other :: after := hcontext.symm.trans hsplit
    have hshown : other ∈ ranked.take limit := by
      rw [htake]
      exact List.mem_append_right _ List.mem_cons_self
    have hother := List.mem_of_mem_take hshown
    have hentry : entry ∈ ranked :=
      mem_ranking_iff.mpr ⟨hcorrection.live, hcorrection.visible, hcorrection.current⟩
    have hbehind := leads_of_isOther hother hneither
    have hlt : memory.contextRank primitives (some topic) nowMs other <
        memory.contextRank primitives (some topic) nowMs entry := by
      cases hleads : memory.leads primitives (some topic) nowMs entry with
      | true =>
        rw [contextRank, contextRank, hleads, hbehind]
        exact List.Lex.rel (by decide)
      | false =>
        rw [contextRank_lt_iff hbehind hleads]
        by_contra hnotnewer
        by_cases hless : [entry.createdAtMs, entry.memoryId] < [other.createdAtMs, other.memoryId]
        · -- an older one that is shown has no room
          have hfull := hnewer entry hcorrection hleads other hother hneither hless
          exact absurd (outranking_lt_of_take hordered htake) (Nat.not_lt.mpr hfull)
        · have hsame := eq_of_not_lt hless hnotnewer
          simp only [List.cons.injEq, and_true] at hsame
          have heq := hs.unique (mem_liveEntries.mp hcorrection.live).1
            (mem_liveEntries.mp (mem_ranking_iff.mp hother).1).1 hsame.2
          rw [heq] at hcorrection
          exact hneither.2 hcorrection
    have hall : ranked = before ++ other :: (after ++ ranked.drop limit) := by
      conv_lhs => rw [← List.take_append_drop limit ranked, htake]
      rw [List.append_assoc, List.cons_append]
    rw [hall] at hordered hentry
    exact mem_before_of_lt hordered hentry hlt

end Promotion

/-- **Corrections in recall.**  In every state of a run, the corrections of claims on the topic of a
query lead its context, exactly when those that are not promoted are newer than all others
that it has room for. -/
theorem correctionsLead_iff (primitives : MemoryPrimitives) {config : WorkingMemoryConfig}
    {pseudonymizer : ActorPseudonymizer} {memory : WorkingMemory}
    (h : new config pseudonymizer = .ok memory) (ops : List Op) (sourceNamespace : String)
    (actorId : Option String) (topic : String) (limit nowMs : Nat) :
    let state := (machine primitives).run memory ops
    state.CorrectionsLead primitives sourceNamespace actorId topic limit nowMs ↔
      state.UnpromotedNewer primitives sourceNamespace actorId topic limit nowMs :=
  (run_invariants primitives h ops).2.1.lead_iff_newer

/-- A claim on cats, its correction on pets and the correction of that on animals; and a later
claim on dogs. -/
def correctedTwice : List Op :=
  let permit (eventId claim : String) : MemoryWritePermit :=
    { eventId
      source := "engine"
      sourceClass := .system
      trustLevel := .trusted
      actorId := none
      decision := .allowedSystemSource
      sourceClaim := some claim }
  [.rememberDurable (permit "first" "Seven lives") "Seven lives" (some "cats") 10,
    .rememberDurableSuperseding (permit "second" "Nine lives") "Nine lives" (some "pets") 20
      ["first"],
    .rememberDurableSuperseding (permit "third" "Eight lives") "Eight lives" (some "animals") 30
      ["second"],
    .rememberDurable (permit "fourth" "Dogs bark") "Dogs bark" (some "dogs") 40]

/-- The last correction stands behind the claim on dogs. -/
theorem correctedTwice_behind : ∃ memory,
    new .default ⟨"v1", List.replicate 32 1⟩ = .ok memory ∧
      ¬ ((machine .ascii).run memory correctedTwice).CorrectionsLead .ascii "engine" none "cats" 4
        50 := by
  refine ⟨_, rfl, ?_⟩
  generalize hstate : (machine .ascii).run _ correctedTwice = state
  have hsorted : (((state.liveEntries 50).filter (state.isCurrent 50 none)).map
      (state.contextRank .ascii (some "cats") 50)).Pairwise (· < ·) := by
    rw [← hstate]
    decide +kernel
  have hids : ((state.liveEntries 50).filter (state.isCurrent 50 none)).map MemoryEntry.memoryId =
      [3, 4] := by
    rw [← hstate]
    decide +kernel
  have hcats : ∃ claim ∈ state.liveEntries 50,
      topicMatches .ascii (some (normalize .ascii "cats")) claim = true ∧ claim.memoryId = 1 := by
    rw [← hstate]
    decide +kernel
  have hdogs : ∀ entry ∈ state.liveEntries 50, entry.memoryId = 4 →
      topicMatches .ascii (some (normalize .ascii "cats")) entry = false := by
    rw [← hstate]
    decide +kernel
  have hsecond : state.Corrects 50 1 2 := by
    rw [← hstate]
    unfold Corrects
    decide +kernel
  have hthird : state.Corrects 50 2 3 := by
    rw [← hstate]
    unfold Corrects
    decide +kernel
  have hlast : ∀ link ∈ state.links, link.source ≠ 4 := by
    rw [← hstate]
    decide +kernel
  have hranking : state.ranking .ascii "engine" none (some "cats") 50 =
      ((state.liveEntries 50).filter (state.isCurrent 50 none)).reverse :=
    mergeSort_descending_eq_reverse hsorted
  obtain ⟨third, rest, hfiltered, hid, hrest⟩ := List.map_eq_cons_iff.mp hids
  obtain ⟨fourth, rest, rfl, hother, hnil⟩ := List.map_eq_cons_iff.mp hrest
  rw [List.map_eq_nil_iff.mp hnil] at hfiltered
  rw [hfiltered] at hranking
  have hcorrection : state.IsCorrection .ascii none "cats" 50 third := by
    have hmem : third ∈ state.ranking .ascii "engine" none (some "cats") 50 := by
      rw [hranking, List.mem_reverse]
      exact List.mem_cons_self
    obtain ⟨hlive, hvisible, hcurrent⟩ := mem_ranking_iff.mp hmem
    obtain ⟨claim, hclaim, hmatches, hfirst⟩ := hcats
    refine ⟨hlive, hvisible, hcurrent, claim, hclaim, hmatches, ?_⟩
    rw [hfirst, hid]
    exact (Relation.TransGen.single hsecond).tail hthird
  have hneither : state.IsOther .ascii none "cats" 50 fourth := by
    have hmem : fourth ∈ state.ranking .ascii "engine" none (some "cats") 50 := by
      rw [hranking]
      exact List.mem_cons_self
    refine ⟨hdogs fourth (mem_ranking_iff.mp hmem).1 hother, ?_⟩
    rintro ⟨-, -, -, claim, -, -, hreaches⟩
    rw [hother] at hreaches
    have hnone (earlier : Nat) : ¬ state.Corrects 50 earlier 4 := by
      rintro ⟨link, hlink, -, -, -, hsource, -⟩
      exact hlast link hlink hsource
    cases hreaches with
    | single hstep => exact hnone _ hstep
    | tail _ hstep => exact hnone _ hstep
  intro hlead
  have hbefore := hlead third hcorrection [] fourth [third]
    (by rw [contextFor_eq_take, hranking]; rfl) hneither
  cases hbefore

theorem correctionsLead_iff_correctedTwice :
    ∃ memory, new .default ⟨"v1", List.replicate 32 1⟩ = .ok memory ∧
      (((machine .ascii).run memory correctedTwice).CorrectionsLead .ascii "engine" none "cats" 4
          50 ↔
        ((machine .ascii).run memory correctedTwice).UnpromotedNewer .ascii "engine" none "cats" 4
          50) := by
  have hnew : new .default ⟨"v1", List.replicate 32 1⟩ = .ok _ := rfl
  exact ⟨_, hnew, correctionsLead_iff .ascii hnew correctedTwice "engine" none "cats" 4 50⟩

end WorkingMemory

end Aivtuber
