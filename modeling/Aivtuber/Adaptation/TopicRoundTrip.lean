import Aivtuber.Adaptation.Supersession
import Aivtuber.Base.Words

/-!
# Topics through the store

A topic is stored in its normal form, cut to the bound of the store; a query compares the normal
form of its own topic, which is not cut, with that of what is stored.  So a topic over the
bound is lost to queries that name it, and is taken for its own beginning
(`topics_iff_fit`).
-/

open Aivtuber.Check Saturating

namespace Aivtuber

/-! ## Normal forms -/

/-- What the lower case of texts does: it leaves characters of lower case texts and spaces as they
are, and the white space where it is. -/
structure MemoryPrimitives.LowerCase (primitives : MemoryPrimitives) : Prop where
  fixed : ∀ text : String, (∀ c ∈ text.toList, c = ' ' ∨
    ∃ source, c ∈ (primitives.toLowercase source).toList) → primitives.toLowercase text = text
  spaced : ∀ text, Text.collapse text = text →
    Text.collapse (primitives.toLowercase text) = primitives.toLowercase text

section Normal

variable {primitives : MemoryPrimitives} {maxBytes : Nat}

theorem normalize_eq (value : String) :
    normalize primitives value = primitives.toLowercase (Text.collapse value) := rfl

/-- A normal form is its own. -/
theorem normalize_normalize (h : primitives.LowerCase) (value : String) :
    normalize primitives (normalize primitives value) = normalize primitives value := by
  rw [normalize_eq (normalize primitives value), normalize_eq value,
    h.spaced _ (Text.collapse_collapse value)]
  exact h.fixed _ fun c hc ↦ .inr ⟨_, hc⟩

/-- A normal form is found again behind the cut exactly when it is not cut. -/
theorem normalize_truncate_iff (h : primitives.LowerCase) (value : String) :
    normalize primitives (Text.truncateUtf8 (normalize primitives value) maxBytes) =
        normalize primitives value ↔
      (normalize primitives value).utf8ByteSize ≤ maxBytes := by
  constructor
  · intro hsame
    by_contra hlong
    have hshorter := Text.length_truncateUtf8_lt (Nat.lt_of_not_le hlong)
    -- the cut text has no upper case left, so that its normal form is not longer
    have hlower : normalize primitives (Text.truncateUtf8 (normalize primitives value) maxBytes) =
        Text.collapse (Text.truncateUtf8 (normalize primitives value) maxBytes) := by
      refine h.fixed _ fun c hc ↦ ?_
      refine (Text.mem_collapse hc).imp_right fun hmem ↦ ⟨Text.collapse value, ?_⟩
      rw [Text.truncateUtf8, String.toList_ofList] at hmem
      exact (Text.takeBytes_isPrefix _ _).subset hmem
    have hlength := Text.length_collapse_le
      (Text.truncateUtf8 (normalize primitives value) maxBytes)
    rw [← hlower, hsame] at hlength
    omega
  · intro hfits
    rw [Text.truncateUtf8_eq_self hfits, normalize_normalize h]

end Normal

namespace WorkingMemory

/-! ## What was written -/

def Op.topic : Op → Option String
  | .rememberWorking _ _ topic _ | .rememberDurable _ _ topic _
  | .rememberDurableSuperseding _ _ topic _ _ | .rememberDurableWithEvidence _ _ topic _ _ => topic
  | .compact _ => none

/-- A node, and the topic that it was written with. -/
structure WrittenTopic where
  id : Nat
  topic : String
deriving DecidableEq, Repr

/-- The topics of the accepted writes, after one more step. -/
def observeTopics (written : List WrittenTopic) (e : MemoryEvent) : List WrittenTopic :=
  match e.output with
  | .error _ => written
  | .ok _ => written ++ (e.input.topic.map fun topic ↦ ⟨e.pre.nextMemoryId, topic⟩).toList

/-- Whether a query for the topic counts the entry as a match. -/
def MatchesTopic (primitives : MemoryPrimitives) (topic : String) (entry : MemoryEntry) : Prop :=
  topicMatches primitives (some (normalize primitives topic)) entry = true

/-- Retained entries match the topics with the normal form of their own, and no others. -/
def TopicsKept (primitives : MemoryPrimitives) (memory : WorkingMemory)
    (written : List WrittenTopic) : Prop :=
  ∀ known ∈ written, ∀ entry ∈ memory.entries, entry.memoryId = known.id → ∀ topic,
    MatchesTopic primitives topic entry ↔
      normalize primitives known.topic = normalize primitives topic

/-- The temporal spine of a new node: earlier durable entries of its topic are candidates, the
newest ones within the budget are linked unless the store is full, and nothing of another
topic is. -/
structure SpineKept (primitives : MemoryPrimitives) (written : List WrittenTopic)
    (post : WorkingMemory) (newId : Nat) (topic spineTopic : String) (nowMs budget : Nat) : Prop where
  candidates : ∀ known ∈ written, ∀ entry ∈ post.entries, entry.memoryId = known.id →
    entry.retention = .durable → entry.createdAtMs ≤ nowMs →
      normalize primitives known.topic = normalize primitives topic →
        (entry.createdAtMs, entry.memoryId) ∈
          post.olderOnTopic primitives newId spineTopic nowMs
  linked : ∀ candidate ∈ (post.olderOnTopic primitives newId spineTopic nowMs).take budget,
    (∃ link ∈ post.links, link.kind = .temporalBefore ∧ link.source = candidate.2 ∧
      link.target = newId) ∨ post.config.maxLinks ≤ post.links.length
  alone : ∀ link ∈ post.links, link.kind = .temporalBefore → link.target = newId →
    ∀ known ∈ written, known.id = link.source →
      normalize primitives known.topic = normalize primitives topic

/-- Accepted durable writes keep their spines, within the budget that their evidence leaves. -/
def SpinesKept (primitives : MemoryPrimitives) (written : List WrittenTopic) (e : MemoryEvent) :
    Prop :=
  ∀ a, e.output = .ok a → ∀ evidence nowMs, e.input.declared = some (evidence, nowMs) →
    ∀ topic ∈ e.input.topic, ∀ stored ∈ e.post.entries, stored.memoryId = e.pre.nextMemoryId →
      ∀ spineTopic ∈ stored.topic, SpineKept primitives written e.post e.pre.nextMemoryId topic
        spineTopic nowMs (e.pre.config.maxLinksPerMemory - (e.pre.declaredLinks e.input).length)

/-- The topics of retained entries are within the bound. -/
def TopicsFit (primitives : MemoryPrimitives) (memory : WorkingMemory)
    (written : List WrittenTopic) : Prop :=
  ∀ known ∈ written, (∃ entry ∈ memory.entries, entry.memoryId = known.id) →
    (normalize primitives known.topic).utf8ByteSize ≤ memory.config.maxTopicBytes

/-- Entries carry the topics that they were written with, in normal form and cut. -/
def Tagged (primitives : MemoryPrimitives) (memory : WorkingMemory) (written : List WrittenTopic) :
    Prop :=
  ∀ known ∈ written, known.id < memory.nextMemoryId ∧
    ∀ entry ∈ memory.entries, entry.memoryId = known.id → entry.topic =
      some (Text.truncateUtf8 (normalize primitives known.topic) memory.config.maxTopicBytes)

section Step

variable {memory : WorkingMemory} {primitives : MemoryPrimitives} {entry stored : MemoryEntry}
  {written : List WrittenTopic} {nowMs : Nat} {permit : MemoryWritePermit} {claim : String}
  {topic : Option String} {evidence : MemoryEvidence} {targets causes : List Nat} {op : Op}
  {a : Answer}

/-! ## What a step writes -/

theorem writes_topic (h : memory.Writes primitives entry op) :
    entry.topic = op.topic.map fun topic ↦
      Text.truncateUtf8 (normalize primitives topic) memory.config.maxTopicBytes := by
  cases op with
  | rememberWorking event claim topic nowMs => exact (newEntry_eq_ok h).2.2.2
  | rememberDurable permit claim topic nowMs => exact (newEntry_eq_ok h).2.2.2
  | rememberDurableSuperseding permit claim topic nowMs supersedes => exact (newEntry_eq_ok h).2.2.2
  | rememberDurableWithEvidence permit claim topic nowMs evidence => exact (newEntry_eq_ok h).2.2.2
  | compact nowMs => cases h

theorem le_pushBounded_nextMemoryId :
    memory.nextMemoryId ≤ (memory.pushBounded entry nowMs).1.nextMemoryId := by
  by_cases hid : memory.nextMemoryId + 1 < 2 ^ 64
  · rw [pushBounded_nextMemoryId hid]
    exact Nat.le_succ _
  · rw [pushBounded, if_neg hid]

/-- Node ids are not given twice. -/
theorem le_perform_nextMemoryId (op : Op) :
    memory.nextMemoryId ≤ (perform primitives memory op).1.nextMemoryId := by
  rcases perform_cases op with hsame | ⟨nowMs, hcompact⟩ |
    ⟨entry, nowMs, -, hpushed | ⟨id, targets, causes, hlinked⟩⟩
  · rw [hsame]
  · rw [hcompact, compact_nextMemoryId]
  · rw [hpushed]
    exact le_pushBounded_nextMemoryId
  · rw [hlinked, linkNewMemory_nextMemoryId]
    exact le_pushBounded_nextMemoryId

theorem Sequenced.lt_perform_nextMemoryId (hs : memory.Sequenced)
    (hanswer : (WorkingMemory.perform primitives memory op).2 = .ok a) (htopic : op.topic ≠ none) :
    memory.nextMemoryId < (WorkingMemory.perform primitives memory op).1.nextMemoryId := by
  have hdurable (permit : MemoryWritePermit) (claim : String) (topic : Option String) (nowMs : Nat)
      (evidence : MemoryEvidence)
      (hanswer : (answer (memory.rememberDurableWithEvidence primitives permit claim topic nowMs
        evidence)).2 = .ok a) : memory.nextMemoryId < (memory.rememberDurableWithEvidence primitives
          permit claim topic nowMs evidence).1.nextMemoryId := by
    obtain ⟨stored, hstored⟩ := answer_eq_ok hanswer
    obtain ⟨entry, targets, causes, -, -, haccepted⟩ := hs.accepted_entry hstored
    rw [haccepted.result, linkNewMemory_nextMemoryId, pushBounded_nextMemoryId haccepted.id]
    exact Nat.lt_succ_self _
  cases op with
  | rememberWorking event claim topic nowMs =>
    obtain ⟨stored, hstored⟩ := answer_eq_ok hanswer
    change memory.nextMemoryId <
      (memory.rememberWorking primitives event claim topic nowMs).1.nextMemoryId
    rw [WorkingMemory.rememberWorking] at hstored ⊢
    split at hstored
    case h_1 => cases hstored
    case h_2 entry hentry =>
      rw [pushBounded_nextMemoryId (pushBounded_eq_ok hstored).1]
      exact Nat.lt_succ_self _
  | rememberDurable permit claim topic nowMs => exact hdurable _ _ _ _ _ hanswer
  | rememberDurableSuperseding permit claim topic nowMs supersedes =>
    exact hdurable _ _ _ _ _ hanswer
  | rememberDurableWithEvidence permit claim topic nowMs evidence =>
    exact hdurable _ _ _ _ _ hanswer
  | compact nowMs => exact absurd rfl htopic

theorem mem_observeTopics {e : MemoryEvent} {known : WrittenTopic}
    (h : known ∈ observeTopics written e) : known ∈ written ∨
      (∃ a, e.output = .ok a) ∧ known.id = e.pre.nextMemoryId ∧
        e.input.topic = some known.topic := by
  rw [observeTopics] at h
  split at h
  case h_1 => exact .inl h
  case h_2 a hanswer =>
    refine (List.mem_append.mp h).imp_right fun hnew ↦ ⟨⟨a, hanswer⟩, ?_⟩
    rw [Option.mem_toList, Option.map_eq_some_iff] at hnew
    obtain ⟨topic, htopic, rfl⟩ := hnew
    exact ⟨rfl, htopic⟩

/-- A step tags what it writes. -/
theorem Tagged.perform (h : Tagged primitives memory written) (hs : memory.Sequenced) (op : Op) :
    Tagged primitives ((machine primitives).next memory op)
      (observeTopics written ((machine primitives).event memory op)) := by
  have hconfig : ((machine primitives).next memory op).config = memory.config := perform_config op
  intro known hknown
  rw [hconfig]
  rcases mem_observeTopics hknown with hold | ⟨⟨a, hanswer⟩, hid, htopic⟩
  · obtain ⟨hlt, htagged⟩ := h known hold
    refine ⟨hlt.trans_le (le_perform_nextMemoryId op), fun entry hentry hsame ↦ ?_⟩
    rcases mem_perform_entries hentry with hkept | ⟨new, -, rfl⟩
    · exact htagged entry hkept hsame
    · exact absurd (hsame ▸ hlt) (Nat.lt_irrefl _)
  · have hwritten : op.topic = some known.topic := htopic
    have hlt : memory.nextMemoryId < ((machine primitives).next memory op).nextMemoryId :=
      hs.lt_perform_nextMemoryId hanswer (by rw [hwritten]; exact Option.some_ne_none _)
    refine ⟨hid ▸ hlt, fun entry hentry hsame ↦ ?_⟩
    rcases mem_perform_entries hentry with hkept | ⟨new, hnew, rfl⟩
    · have hfresh := hs.fresh entry hkept
      rw [hsame, hid] at hfresh
      exact absurd hfresh (Nat.lt_irrefl _)
    · have htag := writes_topic hnew
      rw [hwritten] at htag
      exact htag

/-! ## Matches -/

theorem matchesTopic_iff {cut topic : String} (h : entry.topic = some cut) :
    MatchesTopic primitives topic entry ↔
      normalize primitives topic = normalize primitives cut := by
  rw [MatchesTopic, topicMatches, Option.isSome_some, Bool.true_and, decide_eq_true_eq, h,
    Option.map_some, Option.some_inj]

/-- What is retained matches its own topics alone, exactly where they fit. -/
theorem Tagged.topicsKept_iff (h : Tagged primitives memory written)
    (hlower : primitives.LowerCase) :
    TopicsKept primitives memory written ↔ TopicsFit primitives memory written := by
  constructor
  · rintro hkept known hknown ⟨entry, hentry, hid⟩
    have hmatches := (hkept known hknown entry hentry hid known.topic).mpr rfl
    rw [matchesTopic_iff ((h known hknown).2 entry hentry hid)] at hmatches
    exact (normalize_truncate_iff hlower _).mp hmatches.symm
  · intro hfit known hknown entry hentry hid topic
    have hsame := (normalize_truncate_iff hlower _).mpr (hfit known hknown ⟨entry, hentry, hid⟩)
    rw [matchesTopic_iff ((h known hknown).2 entry hentry hid), hsame]
    exact eq_comm

/-! ## Spines -/

theorem mem_olderOnTopic {newId id createdAtMs : Nat} {topic : String} :
    (createdAtMs, id) ∈ memory.olderOnTopic primitives newId topic nowMs ↔
      ∃ entry ∈ memory.entries, entry.retention = .durable ∧ entry.memoryId ≠ newId ∧
        entry.topic.map (normalize primitives) = some (normalize primitives topic) ∧
          entry.createdAtMs ≤ nowMs ∧ entry.createdAtMs = createdAtMs ∧ entry.memoryId = id := by
  rw [olderOnTopic, List.mem_mergeSort, List.mem_map]
  simp only [List.mem_filter, Bool.and_eq_true, decide_eq_true_eq, Prod.mk.injEq, and_assoc]

/-- Derived links are shed down to the bound, and no further. -/
theorem shedDerived_eq_or (maxLinks fuel : Nat) (links : List MemoryLink) :
    shedDerived maxLinks links fuel = links ∨
      maxLinks ≤ (shedDerived maxLinks links fuel).length := by
  induction fuel generalizing links with
  | zero => exact .inl rfl
  | succ fuel ih =>
    rw [shedDerived]
    split
    case isFalse => exact .inl rfl
    case isTrue hover =>
      split
      case h_1 => exact .inl rfl
      case h_2 derived hfound =>
        obtain ⟨hlt, -, -⟩ := List.findIdx?_eq_some_iff_getElem.mp hfound
        refine .inr ?_
        rcases ih (links.eraseIdx derived) with hsame | hbound
        · rw [hsame, List.length_eraseIdx_of_lt hlt]
          omega
        · exact hbound

/-- What a write pushes is linked, unless the store is full. -/
theorem linked_or_full {newId : Nat} {link : MemoryLink}
    (h : link ∈ memory.newLinks primitives newId topic nowMs targets causes)
    (hsource : memory.retains link.source = true) (htarget : memory.retains link.target = true) :
    (∃ existing ∈ (memory.linkNewMemory primitives newId topic nowMs targets causes).links,
      existing.kind = link.kind ∧ existing.source = link.source ∧
        existing.target = link.target) ∨
    memory.config.maxLinks ≤
      (memory.linkNewMemory primitives newId topic nowMs targets causes).links.length := by
  let pushed := (memory.newLinks primitives newId topic nowMs targets causes).foldl pushLink memory
  have hpushed : ∃ existing ∈ pushed.links, existing.kind = link.kind ∧
      existing.source = link.source ∧ existing.target = link.target := exists_mem_foldl_pushLink h
  obtain ⟨existing, hexisting, hkind, hfrom, hto⟩ := hpushed
  have hpruned : existing ∈ pushed.pruneLinks.links := by
    refine mem_pruneLinks.mpr ⟨hexisting, ?_, ?_⟩
    · rw [hfrom, retains, foldl_pushLink_entries]
      exact hsource
    · rw [hto, retains, foldl_pushLink_entries]
      exact htarget
  have hlinks : (memory.linkNewMemory primitives newId topic nowMs targets causes).links =
      shedDerived memory.config.maxLinks pushed.pruneLinks.links
        pushed.pruneLinks.links.length := by
    have hconfig : pushed.pruneLinks.config = memory.config := foldl_pushLink_config
    rw [linkNewMemory, enforceLinkBound]
    dsimp only
    rw [hconfig]
  rw [hlinks]
  refine (shedDerived_eq_or _ _ _).imp_left fun hsame ↦ ?_
  rw [hsame]
  exact ⟨existing, hpruned, hkind, hfrom, hto⟩

/-- Derived links lead from candidates. -/
theorem candidate_of_mem_newLinks {newId : Nat} {link : MemoryLink}
    (h : link ∈ memory.newLinks primitives newId topic nowMs targets causes)
    (hkind : link.kind = .temporalBefore) : ∃ spineTopic ∈ topic, ∃ createdAtMs,
      (createdAtMs, link.source) ∈ memory.olderOnTopic primitives newId spineTopic nowMs := by
  rcases List.mem_append.mp h with hevidence | hderived
  · have hmem : link ∈ evidenceLinks newId nowMs targets causes := List.mem_of_mem_take hevidence
    exact absurd hkind (mem_evidenceLinks hmem).2.2.1
  · obtain ⟨candidate, hcandidate, rfl⟩ := List.mem_map.mp hderived
    have holder := List.mem_of_mem_take hcandidate
    cases topic with
    | none => cases holder
    | some spineTopic => exact ⟨spineTopic, rfl, candidate.1, holder⟩

/-- Accepted durable writes keep their spines where the topics fit. -/
theorem Accepted.spineKept {post : WorkingMemory} {topic spineTopic : String}
    (h : Accepted memory primitives nowMs post entry targets causes) (hs : memory.Sequenced)
    (hgraph : memory.LinkGraph) (htagged : Tagged primitives memory written)
    (hlower : primitives.LowerCase) (htopic : entry.topic = some spineTopic)
    (hspine : spineTopic =
      Text.truncateUtf8 (normalize primitives topic) memory.config.maxTopicBytes)
    (hfits : (normalize primitives topic).utf8ByteSize ≤ memory.config.maxTopicBytes)
    (hfit : TopicsFit primitives post written) :
    SpineKept primitives written post memory.nextMemoryId topic spineTopic nowMs
      (memory.config.maxLinksPerMemory - (targets.length + causes.length)) := by
  let pushed := (memory.pushBounded entry nowMs).1
  have hentries : post.entries = pushed.entries := by
    rw [h.result, linkNewMemory_entries]
  have hpushed : pushed.config = memory.config := pushBounded_config
  have holder : post.olderOnTopic primitives memory.nextMemoryId spineTopic nowMs =
      pushed.olderOnTopic primitives memory.nextMemoryId spineTopic nowMs := by
    rw [olderOnTopic, olderOnTopic, hentries]
  -- an older entry of a known topic carries it in normal form
  have hknown : ∀ known ∈ written, ∀ other ∈ post.entries, other.memoryId = known.id →
      known.id < memory.nextMemoryId ∧ other.topic =
        some (Text.truncateUtf8 (normalize primitives known.topic)
          memory.config.maxTopicBytes) := by
    intro known hmem other hother hid
    obtain ⟨hlt, htag⟩ := htagged known hmem
    refine ⟨hlt, ?_⟩
    rcases h.mem_entries hs hother with hold | rfl
    · exact htag other (mem_survivors hold) hid
    · exact absurd (hid ▸ hlt) (Nat.lt_irrefl _)
  constructor
  · intro known hmem other hother hid hdurable hrecorded hsame
    obtain ⟨hlt, htag⟩ := hknown known hmem other hother hid
    refine mem_olderOnTopic.mpr ⟨other, hother, hdurable, ?_, ?_, hrecorded, rfl, rfl⟩
    · rw [hid]
      exact Nat.ne_of_lt hlt
    · rw [htag, hspine, hsame, Option.map_some]
  · intro candidate hcandidate
    rw [holder] at hcandidate
    let link : MemoryLink := ⟨candidate.2, memory.nextMemoryId, .temporalBefore, nowMs⟩
    have hlink : link ∈ pushed.newLinks primitives memory.nextMemoryId entry.topic nowMs targets
        causes := by
      have hevidence : (evidenceLinks memory.nextMemoryId nowMs targets causes).length =
          targets.length + causes.length := by
        rw [evidenceLinks, List.length_append, List.length_map, List.length_map]
      refine List.mem_append_right _ ?_
      change link ∈ List.map _ (List.take (pushed.config.maxLinksPerMemory -
        ((evidenceLinks memory.nextMemoryId nowMs targets causes).take
          pushed.config.maxLinksPerMemory).length) _)
      have hall : (evidenceLinks memory.nextMemoryId nowMs targets causes).take
          memory.config.maxLinksPerMemory = evidenceLinks memory.nextMemoryId nowMs targets causes :=
        List.take_of_length_le (hevidence.trans_le h.budget)
      rw [htopic, Option.elim_some, hpushed, hall, hevidence]
      exact List.mem_map_of_mem hcandidate
    obtain ⟨older, holder, -, -, -, -, -, hid⟩ :=
      mem_olderOnTopic.mp (List.mem_of_mem_take hcandidate)
    have hstored : { entry with memoryId := memory.nextMemoryId } ∈ pushed.entries := by
      rw [← hentries, h.entries hs]
      exact List.mem_append_right _ List.mem_cons_self
    have hfull := linked_or_full hlink (retains_iff.mpr ⟨older, holder, hid⟩)
      (retains_iff.mpr ⟨_, hstored, rfl⟩)
    rw [h.result, linkNewMemory_config]
    exact hfull
  · intro link hlink hkind htarget known hmem hsource
    rw [h.result] at hlink
    rcases mem_linkNewMemory hlink with hold | hnew
    · -- the links of older nodes do not lead to the new one
      have hlt := retains_lt hs (hgraph.endpoints link (pushBounded_links_sublist.subset hold)).2
      omega
    · obtain ⟨shared, hshared, createdAtMs, holder⟩ := candidate_of_mem_newLinks hnew hkind
      rw [htopic, Option.mem_def, Option.some_inj] at hshared
      subst hshared
      obtain ⟨older, holder, -, -, hon, -, -, hid⟩ := mem_olderOnTopic.mp holder
      have hpost : older ∈ post.entries := by
        rw [hentries]
        exact holder
      obtain ⟨-, htag⟩ := hknown known hmem older hpost (hid.trans hsource.symm)
      have hbound := hfit known hmem ⟨older, hpost, hid.trans hsource.symm⟩
      rw [h.config] at hbound
      rw [htag, Option.map_some, Option.some_inj, (normalize_truncate_iff hlower _).mpr hbound,
        hspine, (normalize_truncate_iff hlower _).mpr hfits] at hon
      exact hon

/-! ## Runs -/

theorem Tagged.spinesKept (h : Tagged primitives memory written) (hs : memory.Sequenced)
    (hgraph : memory.LinkGraph) (hlower : primitives.LowerCase)
    (hfit : TopicsFit primitives ((machine primitives).next memory op)
      (observeTopics written ((machine primitives).event memory op))) :
    SpinesKept primitives written ((machine primitives).event memory op) := by
  have hdurable (permit : MemoryWritePermit) (claim : String) (topic : Option String) (nowMs : Nat)
      (evidence : MemoryEvidence)
      (hfit : TopicsFit primitives ((machine primitives).next memory
          (.rememberDurableWithEvidence permit claim topic nowMs evidence))
        (observeTopics written ((machine primitives).event memory
          (.rememberDurableWithEvidence permit claim topic nowMs evidence)))) :
      SpinesKept primitives written ((machine primitives).event memory
        (.rememberDurableWithEvidence permit claim topic nowMs evidence)) := by
    intro a hanswer declared atMs hdeclared topic htopic stored hstored hid spineTopic hspine
    cases hdeclared
    cases htopic
    obtain ⟨last, hlast⟩ := answer_eq_ok hanswer
    obtain ⟨entry, targets, causes, hevidence, hpermit, haccepted⟩ := hs.accepted_entry hlast
    have htag : entry.topic = some (Text.truncateUtf8 (normalize primitives topic)
        memory.config.maxTopicBytes) := (newEntry_eq_ok hpermit).2.2.2
    have hnew : stored = { entry with memoryId := memory.nextMemoryId } := by
      rcases haccepted.mem_entries hs hstored with hold | hnew
      · have hfresh := hs.fresh stored (mem_survivors hold)
        rw [show stored.memoryId = memory.nextMemoryId from hid] at hfresh
        exact absurd hfresh (Nat.lt_irrefl _)
      · exact hnew
    have hcut : some spineTopic = some (Text.truncateUtf8 (normalize primitives topic)
        memory.config.maxTopicBytes) := by
      rw [← htag, ← Option.mem_def.mp hspine, hnew]
    have hdeclaredLinks : (memory.declaredLinks (.rememberDurableWithEvidence permit claim
        (some topic) nowMs evidence)).length = targets.length + causes.length := by
      rw [declaredLinks, Op.declared]
      dsimp only
      rw [hevidence]
      dsimp only
      rw [evidenceLinks, List.length_append, List.length_map, List.length_map]
    have hobserved : observeTopics written ((machine primitives).event memory
        (.rememberDurableWithEvidence permit claim (some topic) nowMs evidence)) =
          written ++ [⟨memory.nextMemoryId, topic⟩] := by
      rw [observeTopics, hanswer]
      rfl
    rw [hobserved] at hfit
    have hfits : (normalize primitives topic).utf8ByteSize ≤ memory.config.maxTopicBytes := by
      have hbound := hfit ⟨memory.nextMemoryId, topic⟩ (List.mem_append_right _ List.mem_cons_self)
        ⟨stored, hstored, hid⟩
      rwa [show ((machine primitives).next memory _).config = memory.config from
        perform_config _] at hbound
    change SpineKept primitives written _ memory.nextMemoryId topic spineTopic nowMs
      (memory.config.maxLinksPerMemory - (memory.declaredLinks (.rememberDurableWithEvidence permit
        claim (some topic) nowMs evidence)).length)
    rw [hdeclaredLinks]
    refine haccepted.spineKept hs hgraph h hlower (htag.trans hcut.symm) (Option.some.inj hcut)
      hfits ?_
    intro known hknown
    exact hfit known (List.mem_append_left _ hknown)
  cases op with
  | rememberWorking event claim topic nowMs =>
    intro a _ declared atMs hdeclared
    cases hdeclared
  | rememberDurable permit claim topic nowMs =>
    exact hdurable permit claim topic nowMs ⟨[], []⟩ hfit
  | rememberDurableSuperseding permit claim topic nowMs supersedes =>
    exact hdurable permit claim topic nowMs ⟨supersedes, []⟩ hfit
  | rememberDurableWithEvidence permit claim topic nowMs evidence =>
    exact hdurable permit claim topic nowMs evidence hfit
  | compact nowMs =>
    intro a _ declared atMs hdeclared
    cases hdeclared

/-- **Topics through the store.**  In every run, retained entries match their own topics and no
others and are on the spines of these, exactly when the topics of retained entries are within the
bound. -/
theorem topics_iff_fit (primitives : MemoryPrimitives) (hlower : primitives.LowerCase)
    {config : WorkingMemoryConfig} {pseudonymizer : ActorPseudonymizer}
    (h : new config pseudonymizer = .ok memory) (ops : List Op) :
    (machine primitives).Meets observeTopics (fun written e ↦
        TopicsKept primitives e.post (observeTopics written e) ∧ SpinesKept primitives written e)
      memory [] ops ↔
    (machine primitives).Meets observeTopics (fun written e ↦
        TopicsFit primitives e.post (observeTopics written e)) memory [] ops := by
  refine (machine primitives).meets_congr_of_watch
    (P := fun memory written ↦ memory.Sequenced ∧ memory.LinkGraph ∧
      Tagged primitives memory written)
    ?_ ?_ ⟨new_sequenced h, new_linkGraph h, fun known hnone ↦ by cases hnone⟩ ops
  · intro state written op ⟨hs, hgraph, htagged⟩ _
    exact ⟨hs.perform op, hgraph.perform hs op, htagged.perform hs op⟩
  · intro state written op ⟨hs, hgraph, htagged⟩
    have hkept := (htagged.perform hs op).topicsKept_iff hlower
    constructor
    · rintro ⟨htopics, -⟩
      exact hkept.mp htopics
    · intro hfit
      exact ⟨hkept.mpr hfit, htagged.spinesKept hs hgraph hlower hfit⟩

end Step

/-- Texts without upper case. -/
def lowerTexts : MemoryPrimitives where
  toLowercase value := value
  hmacSha256 _ _ := []

theorem lowerTexts_lowerCase : lowerTexts.LowerCase where
  fixed _ _ := rfl
  spaced _ h := h

/-- A store for topics of four bytes, and a message on kittens. -/
def shortTopics : WorkingMemoryConfig := { WorkingMemoryConfig.default with maxTopicBytes := 4 }

def onKittens : List Op := [.rememberWorking (viewerMessage "message") "hello" (some "kittens") 10]

/-- The message is not found under its topic, but under another. -/
theorem onKittens_lost : ∃ memory,
    new shortTopics ⟨"v1", List.replicate 32 1⟩ = .ok memory ∧
      let state := (machine .ascii).run memory onKittens
      state.relevant .ascii ⟨none, none, some "kittens", 5⟩ 20 = [] ∧
        (state.relevant .ascii ⟨none, none, some "kitt", 5⟩ 20).length = 1 ∧
          normalize .ascii "kitt" ≠ normalize .ascii "kittens" := by
  refine ⟨_, rfl, ?_⟩
  decide +kernel

theorem topics_iff_fit_onKittens : ∃ memory,
    new .default ⟨"v1", List.replicate 32 1⟩ = .ok memory ∧
      (machine lowerTexts).Meets observeTopics (fun written e ↦
          TopicsKept lowerTexts e.post (observeTopics written e) ∧ SpinesKept lowerTexts written e)
        memory [] onKittens := by
  refine ⟨_, rfl, ?_⟩
  have hnew : new .default ⟨"v1", List.replicate 32 1⟩ = .ok _ := rfl
  refine (topics_iff_fit lowerTexts lowerTexts_lowerCase hnew onKittens).mpr ⟨?_, trivial⟩
  intro known hknown _
  rcases mem_observeTopics hknown with hnone | ⟨-, -, htopic⟩
  · cases hnone
  · have hwritten : some "kittens" = some known.topic := htopic
    rw [← Option.some_inj.mp hwritten]
    decide +kernel

end WorkingMemory

end Aivtuber
