import Aivtuber.Adaptation.Correction
import Mathlib.Data.List.Count
import Mathlib.Logic.Relation

/-!
# The graph of links

The links of a working memory are a bounded graph on its retained entries
(`LinkGraph`): an explicit link leads to an older node, so that evidence is never circular
(`LinkGraph.evidence_acyclic`), and a derived one to a newer node that was recorded no
earlier.  A write is refused before it is stored if its evidence would not fit; what is
left of the store by then is foreseen by `projectedSurvivors`, and is what the two
compactions of the write leave (`projectedSurvivors_eq`).
-/

open Aivtuber.Check Saturating

namespace Aivtuber

namespace WorkingMemory

/-- Two links between the same nodes, of the same kind. -/
def SameLink (link other : MemoryLink) : Prop :=
  link.kind = other.kind ∧ link.source = other.source ∧ link.target = other.target

/-- An explicit link. -/
def IsEvidence (link : MemoryLink) : Prop := MemoryLinkKind.isExplicit link.kind = true

/-- A bounded graph on the retained entries. -/
structure LinkGraph (memory : WorkingMemory) : Prop where
  bound : memory.links.length ≤ memory.config.maxLinks
  endpoints : ∀ link ∈ memory.links,
    memory.retains link.source = true ∧ memory.retains link.target = true
  distinct : memory.links.Pairwise fun link other ↦ ¬ SameLink link other
  evidence : ∀ link ∈ memory.links, IsEvidence link → link.target < link.source
  spine : ∀ link ∈ memory.links, link.kind = .temporalBefore → link.source < link.target ∧
    ∀ earlier ∈ memory.entries, ∀ later ∈ memory.entries, earlier.memoryId = link.source →
      later.memoryId = link.target → earlier.createdAtMs ≤ later.createdAtMs

/-- One node is evidence of the other. -/
def Cites (memory : WorkingMemory) (source target : Nat) : Prop :=
  ∃ link ∈ memory.links, IsEvidence link ∧ link.source = source ∧ link.target = target

section Graph

variable {memory : WorkingMemory} {link other : MemoryLink} {links : List MemoryLink}
  {entry : MemoryEntry} {nowMs : Nat}

/-- Evidence is never circular. -/
theorem LinkGraph.evidence_acyclic (h : memory.LinkGraph) (id : Nat) :
    ¬ Relation.TransGen memory.Cites id id := by
  have hdown : ∀ source target, Relation.TransGen memory.Cites source target →
      target < source := by
    intro source target hpath
    induction hpath with
    | single hcites =>
      obtain ⟨link, hlink, hevidence, rfl, rfl⟩ := hcites
      exact h.evidence link hlink hevidence
    | tail _ hcites ih =>
      obtain ⟨link, hlink, hevidence, rfl, rfl⟩ := hcites
      exact (h.evidence link hlink hevidence).trans ih
  intro hcycle
  exact Nat.lt_irrefl id (hdown id id hcycle)

theorem isEvidence_iff : IsEvidence link ↔ link.kind ≠ .temporalBefore := by
  rw [IsEvidence]
  cases link.kind <;> simp [MemoryLinkKind.isExplicit]

theorem retains_iff {id : Nat} :
    memory.retains id = true ↔ ∃ entry ∈ memory.entries, entry.memoryId = id := by
  simp only [retains, List.any_eq_true, decide_eq_true_eq]

/-! ## Pushing and shedding -/

theorem pushLink_distinct (h : memory.links.Pairwise fun link other ↦ ¬ SameLink link other) :
    (memory.pushLink link).links.Pairwise fun link other ↦ ¬ SameLink link other := by
  rw [pushLink]
  split
  case isTrue => exact h
  case isFalse hnew =>
    refine List.pairwise_append.mpr ⟨h, List.pairwise_singleton _ _, ?_⟩
    intro existing hexisting pushed hpushed hsame
    rw [List.mem_singleton.mp hpushed] at hsame
    apply hnew
    refine List.any_eq_true.mpr ⟨existing, hexisting, ?_⟩
    simp only [hsame.1, hsame.2.1, hsame.2.2, decide_true, Bool.and_self]

theorem foldl_pushLink_distinct (links : List MemoryLink)
    (h : memory.links.Pairwise fun link other ↦ ¬ SameLink link other) :
    (links.foldl pushLink memory).links.Pairwise fun link other ↦ ¬ SameLink link other := by
  induction links generalizing memory with
  | nil => exact h
  | cons link links ih => exact ih (pushLink_distinct h)

theorem pushLink_sublist : (memory.pushLink link).links.Sublist (memory.links ++ [link]) := by
  rw [pushLink]
  split
  case isTrue => exact List.sublist_append_left _ _
  case isFalse => exact List.Sublist.refl _

theorem foldl_pushLink_sublist :
    (links.foldl pushLink memory).links.Sublist (memory.links ++ links) := by
  induction links generalizing memory with
  | nil => exact List.sublist_append_left _ _
  | cons link links ih =>
    rw [List.foldl_cons, List.append_cons]
    exact ih.trans (List.Sublist.append pushLink_sublist (List.Sublist.refl links))

/-- Where the evidence alone fits, shedding derived links reaches the bound. -/
theorem length_shedDerived_le {maxLinks fuel : Nat}
    (hevidence : links.countP (fun link ↦ MemoryLinkKind.isExplicit link.kind) ≤ maxLinks)
    (hfuel : links.length ≤ fuel) : (shedDerived maxLinks links fuel).length ≤ maxLinks := by
  induction fuel generalizing links with
  | zero =>
    rw [shedDerived]
    exact hfuel.trans (Nat.zero_le _)
  | succ fuel ih =>
    rw [shedDerived]
    split
    case isFalse h => exact Nat.le_of_not_lt h
    case isTrue hfull =>
      split
      case h_1 hnone =>
        -- all that is left is evidence
        have hall : links.countP (fun link ↦ MemoryLinkKind.isExplicit link.kind) =
            links.length := by
          rw [List.countP_eq_length]
          intro link hlink
          have hkind := List.findIdx?_eq_none_iff.mp hnone link hlink
          rw [decide_eq_false_iff_not] at hkind
          exact isEvidence_iff.mpr hkind
        omega
      case h_2 derived hfound =>
        obtain ⟨hlt, -, -⟩ := List.findIdx?_eq_some_iff_getElem.mp hfound
        apply ih
        · exact ((List.eraseIdx_sublist links derived).countP_le).trans hevidence
        · rw [List.length_eraseIdx_of_lt hlt]
          omega

theorem retains_lt (hs : memory.Sequenced) {id : Nat} (h : memory.retains id = true) :
    id < memory.nextMemoryId := by
  obtain ⟨entry, hentry, rfl⟩ := retains_iff.mp h
  exact hs.fresh entry hentry

/-! ## The graph through a write -/

theorem retains_compact {id : Nat} (h : (memory.compact nowMs).1.retains id = true) :
    memory.retains id = true := by
  obtain ⟨entry, hentry, hid⟩ := retains_iff.mp h
  rw [compact_entries] at hentry
  exact retains_iff.mpr ⟨entry, (mem_kept hentry).1, hid⟩

theorem mem_compact_links : link ∈ (memory.compact nowMs).1.links ↔ link ∈ memory.links ∧
    (memory.compact nowMs).1.retains link.source = true ∧
      (memory.compact nowMs).1.retains link.target = true := by
  rw [retains, retains, compact_entries, compact_links, List.mem_filter, Bool.and_eq_true]

theorem LinkGraph.compact (h : memory.LinkGraph) (nowMs : Nat) :
    (memory.compact nowMs).1.LinkGraph where
  bound := by
    rw [compact_links, compact_config]
    exact (List.length_filter_le _ _).trans h.bound
  endpoints link hlink := (mem_compact_links.mp hlink).2
  distinct := by
    rw [compact_links]
    exact h.distinct.filter _
  evidence link hlink := h.evidence link (mem_compact_links.mp hlink).1
  spine link hlink hkind := by
    obtain ⟨hlt, htimes⟩ := h.spine link (mem_compact_links.mp hlink).1 hkind
    refine ⟨hlt, fun earlier hearlier later hlater ↦ ?_⟩
    rw [compact_entries] at hearlier hlater
    exact htimes earlier (mem_kept hearlier).1 later (mem_kept hlater).1

theorem retains_insertEntry {id : Nat} : (memory.insertEntry entry).retains id = true ↔
    memory.retains id = true ∨ id = memory.nextMemoryId := by
  simp only [retains_iff, insertEntry, List.mem_append, List.mem_singleton]
  constructor
  · rintro ⟨stored, hold | rfl, rfl⟩
    · exact Or.inl ⟨stored, hold, rfl⟩
    · exact Or.inr rfl
  · rintro (⟨stored, hold, rfl⟩ | rfl)
    · exact ⟨stored, Or.inl hold, rfl⟩
    · exact ⟨_, Or.inr rfl, rfl⟩

theorem LinkGraph.insertEntry (h : memory.LinkGraph) (hs : memory.Sequenced) (entry : MemoryEntry) :
    (memory.insertEntry entry).LinkGraph where
  bound := h.bound
  endpoints link hlink :=
    ⟨retains_insertEntry.mpr (Or.inl (h.endpoints link hlink).1),
      retains_insertEntry.mpr (Or.inl (h.endpoints link hlink).2)⟩
  distinct := h.distinct
  evidence := h.evidence
  spine link hlink hkind := by
    obtain ⟨hlt, htimes⟩ := h.spine link hlink hkind
    have hsource := retains_lt hs (h.endpoints link hlink).1
    have htarget := retains_lt hs (h.endpoints link hlink).2
    refine ⟨hlt, fun earlier hearlier later hlater hfrom hto ↦ ?_⟩
    -- the new node has no links yet
    have hold : ∀ other ∈ (memory.insertEntry entry).entries,
        other.memoryId < memory.nextMemoryId → other ∈ memory.entries := by
      intro other hother hknown
      rcases List.mem_append.mp hother with hold | hnew
      · exact hold
      · rw [List.mem_singleton.mp hnew] at hknown
        exact absurd hknown (Nat.lt_irrefl _)
    rw [← hfrom] at hsource
    rw [← hto] at htarget
    exact htimes earlier (hold earlier hearlier hsource) later (hold later hlater htarget) hfrom hto

theorem LinkGraph.pushBounded (h : memory.LinkGraph) (hs : memory.Sequenced)
    (entry : MemoryEntry) (nowMs : Nat) : (memory.pushBounded entry nowMs).1.LinkGraph := by
  by_cases hid : memory.nextMemoryId + 1 < 2 ^ 64
  · rw [pushBounded_eq _ _ _ hid]
    exact ((h.compact nowMs).insertEntry (hs.compact nowMs) entry).compact nowMs
  · rw [WorkingMemory.pushBounded, if_neg hid]
    exact h

variable {primitives : MemoryPrimitives} {newId : Nat} {topic : Option String}
  {targets causes : List Nat}

/-- The links of a write between retained nodes: they fit the bound when its evidence does. -/
theorem length_linkNewMemory_le
    (hfits : ((memory.newLinks primitives newId topic nowMs targets causes).foldl pushLink
      memory).pruneLinks.links.countP (fun link ↦ MemoryLinkKind.isExplicit link.kind) ≤
        memory.config.maxLinks) :
    (memory.linkNewMemory primitives newId topic nowMs targets causes).links.length ≤
      memory.config.maxLinks := by
  have hconfig : ((memory.newLinks primitives newId topic nowMs targets causes).foldl pushLink
      memory).pruneLinks.config = memory.config := foldl_pushLink_config
  rw [linkNewMemory, enforceLinkBound]
  dsimp only
  rw [hconfig]
  exact length_shedDerived_le hfits le_rfl

theorem mem_linkNewMemory_endpoints
    (h : link ∈ (memory.linkNewMemory primitives newId topic nowMs targets causes).links) :
    memory.retains link.source = true ∧ memory.retains link.target = true := by
  have hpruned := (mem_pruneLinks.mp ((shedDerived_sublist _ _).subset h)).2
  simpa only [retains, foldl_pushLink_entries] using hpruned

/-- Derived links of a write lead to its node from others that were recorded by then. -/
theorem spine_of_mem_newLinks
    (h : link ∈ memory.newLinks primitives newId topic nowMs targets causes)
    (hkind : link.kind = .temporalBefore) : link.target = newId ∧
      ∃ entry ∈ memory.entries, entry.memoryId = link.source ∧ entry.memoryId ≠ newId ∧
        entry.createdAtMs ≤ nowMs := by
  rcases List.mem_append.mp h with hevidence | hderived
  · have hmem : link ∈ evidenceLinks newId nowMs targets causes := List.mem_of_mem_take hevidence
    exact absurd hkind (mem_evidenceLinks hmem).2.2.1
  · obtain ⟨candidate, hcandidate, rfl⟩ := List.mem_map.mp hderived
    refine ⟨rfl, ?_⟩
    have holder := List.mem_of_mem_take hcandidate
    cases topic with
    | none => cases holder
    | some topic =>
      rw [Option.elim_some, olderOnTopic, List.mem_mergeSort, List.mem_map] at holder
      obtain ⟨entry, hentry, rfl⟩ := holder
      obtain ⟨hmem, hon⟩ := List.mem_filter.mp hentry
      simp only [Bool.and_eq_true, decide_eq_true_eq] at hon
      exact ⟨entry, hmem, rfl, hon.1.1.2, hon.2⟩

/-- Explicit links of a write lead from its node to what it declared. -/
theorem evidence_of_mem_newLinks
    (h : link ∈ memory.newLinks primitives newId topic nowMs targets causes)
    (hevidence : IsEvidence link) :
    link.source = newId ∧ (link.target ∈ targets ∨ link.target ∈ causes) := by
  rcases List.mem_append.mp h with hexplicit | hderived
  · have hmem : link ∈ evidenceLinks newId nowMs targets causes := List.mem_of_mem_take hexplicit
    exact ⟨(mem_evidenceLinks hmem).1, (mem_evidenceLinks hmem).2.2.2⟩
  · obtain ⟨candidate, -, rfl⟩ := List.mem_map.mp hderived
    cases hevidence

theorem LinkGraph.linkNewMemory (h : memory.LinkGraph) (hs : memory.Sequenced)
    (hentry : entry ∈ memory.entries) (hcreated : entry.createdAtMs = nowMs)
    (hnewest : ∀ other ∈ memory.entries, other.memoryId ≤ entry.memoryId)
    (hdeclared : ∀ target, target ∈ targets ∨ target ∈ causes → target < entry.memoryId)
    (hfits : ((memory.newLinks primitives entry.memoryId topic nowMs targets causes).foldl pushLink
      memory).pruneLinks.links.countP (fun link ↦ MemoryLinkKind.isExplicit link.kind) ≤
        memory.config.maxLinks) :
    (memory.linkNewMemory primitives entry.memoryId topic nowMs targets causes).LinkGraph where
  bound := by
    rw [linkNewMemory_config]
    exact length_linkNewMemory_le hfits
  endpoints link hlink := by
    simp only [retains, linkNewMemory_entries]
    exact mem_linkNewMemory_endpoints hlink
  distinct := by
    have hpruned := (foldl_pushLink_distinct (memory.newLinks primitives entry.memoryId topic nowMs
      targets causes) h.distinct).filter fun link ↦
        memory.retains link.source && memory.retains link.target
    refine List.Pairwise.sublist (shedDerived_sublist _ _) ?_
    simpa only [pruneLinks, retains, foldl_pushLink_entries] using hpruned
  evidence link hlink hevidence := by
    rcases mem_linkNewMemory hlink with hold | hnew
    · exact h.evidence link hold hevidence
    · obtain ⟨hsource, htarget⟩ := evidence_of_mem_newLinks hnew hevidence
      rw [hsource]
      exact hdeclared _ htarget
  spine link hlink hkind := by
    rw [linkNewMemory_entries]
    rcases mem_linkNewMemory hlink with hold | hnew
    · exact h.spine link hold hkind
    · obtain ⟨htarget, older, holder, hsource, hother, hrecorded⟩ :=
        spine_of_mem_newLinks hnew hkind
      constructor
      · rw [htarget, ← hsource]
        exact Nat.lt_of_le_of_ne (hnewest older holder) hother
      · intro earlier hearlier later hlater hfrom hto
        rw [hs.unique hearlier holder (hfrom.trans hsource.symm),
          hs.unique hlater hentry (hto.trans htarget), hcreated]
        exact hrecorded

/-! ## What a write leaves -/

/-- The entries that are kept, if there is to be room for one more. -/
def survivors (memory : WorkingMemory) (nowMs : Nat) : List MemoryEntry :=
  (memory.kept nowMs).drop ((memory.kept nowMs).length + 1 - memory.config.maxEntries)

theorem projectedSurvivors_eq_map :
    memory.projectedSurvivors nowMs = (memory.survivors nowMs).map MemoryEntry.memoryId := by
  simp only [projectedSurvivors, survivors, kept, List.map_drop, List.length_map, List.length_drop]

theorem mem_survivors (h : entry ∈ memory.survivors nowMs) : entry ∈ memory.entries :=
  (mem_kept (List.mem_of_mem_drop h)).1

theorem pushBounded_entries (hid : memory.nextMemoryId + 1 < 2 ^ 64)
    (hlive : nowMs < entry.expiresAtMs) (hbound : 0 < memory.config.maxEntries) :
    (memory.pushBounded entry nowMs).1.entries =
      memory.survivors nowMs ++ [{ entry with memoryId := memory.nextMemoryId }] := by
  have hcompacted : 0 < (memory.compact nowMs).1.config.maxEntries := by
    rw [compact_config]
    exact hbound
  rw [pushBounded_eq _ _ _ hid]
  dsimp only
  rw [compact_entries, kept_insertEntry hlive hcompacted, compact_entries, filter_kept,
    compact_config, compact_nextMemoryId]
  rfl

/-- When time is up, nothing is kept. -/
theorem kept_eq_nil (hs : memory.Sequenced) (hnow : u64Max ≤ nowMs) : memory.kept nowMs = [] := by
  refine List.eq_nil_iff_forall_not_mem.mpr fun entry hentry ↦ ?_
  have hlive := (mem_kept hentry).2
  have hexpiry := hs.expiry entry (mem_kept hentry).1
  omega

/-- **The projection is exact.**  The nodes that a write foresees are the older ones that its
compactions leave. -/
theorem projectedSurvivors_eq (hs : memory.Sequenced) (hid : memory.nextMemoryId + 1 < 2 ^ 64)
    (hexpires : nowMs < u64Max → nowMs < entry.expiresAtMs) (hexpiry : memory.Storable entry) :
    memory.projectedSurvivors nowMs = ((memory.pushBounded entry nowMs).1.entries.filter
      (· ∈ memory.entries)).map MemoryEntry.memoryId := by
  rw [projectedSurvivors_eq_map]
  congr 1
  by_cases hnow : nowMs < u64Max
  · rw [pushBounded_entries hid (hexpires hnow) hs.maxEntries, List.filter_append]
    have hold : (memory.survivors nowMs).filter (· ∈ memory.entries) = memory.survivors nowMs :=
      List.filter_eq_self.mpr fun other hother ↦ decide_eq_true (mem_survivors hother)
    have hnew : [{ entry with memoryId := memory.nextMemoryId }].filter (· ∈ memory.entries) =
        [] := by
      refine List.filter_eq_nil_iff.mpr fun other hother hmem ↦ ?_
      rw [List.mem_singleton.mp hother, decide_eq_true_eq] at hmem
      exact Nat.lt_irrefl _ (hs.fresh _ hmem)
    rw [hold, hnew, List.append_nil]
  · have hnone : (memory.pushBounded entry nowMs).1.entries = [] := by
      rw [pushBounded_eq _ _ _ hid]
      dsimp only
      rw [compact_entries]
      exact kept_eq_nil (hs.compact_insertEntry hexpiry nowMs) (Nat.le_of_not_lt hnow)
    rw [hnone, survivors, kept_eq_nil hs (Nat.le_of_not_lt hnow), List.drop_nil, List.filter_nil]

theorem mem_resolveTargets {relation : DeclaredRelation} {ids : List String} {target : Nat}
    (h : memory.resolveTargets nowMs relation ids = .ok targets) (htarget : target ∈ targets) :
    memory.retains target = true := by
  induction ids generalizing targets with
  | nil =>
    cases h
    cases htarget
  | cons id ids ih =>
    obtain ⟨first, hfirst, h⟩ := bind_eq_ok.mp h
    obtain ⟨rest, hrest, h⟩ := bind_eq_ok.mp h
    cases h
    rcases List.mem_cons.mp htarget with rfl | hlater
    · rw [resolveDeclaredTarget] at hfirst
      split at hfirst
      · cases hfirst
      · split at hfirst
        case h_1 => cases hfirst
        case h_2 => cases hfirst
        case h_3 found hfound =>
          split at hfirst
          · cases hfirst
          · cases hfirst
            have hmem := List.mem_of_mem_filter (hfound ▸ List.mem_cons_self)
            exact retains_of_mem (List.mem_of_mem_filter hmem)
    · exact ih hrest hlater

theorem resolveEvidence_retains {evidence : MemoryEvidence}
    (h : memory.resolveEvidence nowMs evidence = .ok (targets, causes)) {target : Nat}
    (htarget : target ∈ targets ∨ target ∈ causes) : memory.retains target = true := by
  obtain ⟨-, h⟩ := unit_bind_eq_ok.mp h
  obtain ⟨⟨supersedes, budget⟩, -, h⟩ := bind_eq_ok.mp h
  obtain ⟨⟨causedBy, rest⟩, -, h⟩ := bind_eq_ok.mp h
  obtain ⟨found, hfound, h⟩ := bind_eq_ok.mp h
  obtain ⟨caused, hcaused, h⟩ := bind_eq_ok.mp h
  obtain ⟨-, h⟩ := unit_bind_eq_ok.mp h
  cases h
  rcases htarget with hsuperseded | hcause
  · exact mem_resolveTargets hfound hsuperseded
  · exact mem_resolveTargets hcaused hcause

theorem resolveEvidence_fits {evidence : MemoryEvidence}
    (h : memory.resolveEvidence nowMs evidence = .ok (targets, causes)) :
    memory.evidenceFits nowMs targets causes = true := by
  obtain ⟨-, h⟩ := unit_bind_eq_ok.mp h
  obtain ⟨⟨supersedes, budget⟩, -, h⟩ := bind_eq_ok.mp h
  obtain ⟨⟨causedBy, rest⟩, -, h⟩ := bind_eq_ok.mp h
  obtain ⟨found, hfound, h⟩ := bind_eq_ok.mp h
  obtain ⟨caused, hcaused, h⟩ := bind_eq_ok.mp h
  obtain ⟨hfits, h⟩ := unit_bind_eq_ok.mp h
  cases h
  exact ensure_eq_ok.mp hfits

/-- After a write, an older node is retained when the projection has it. -/
theorem retains_pushBounded (hid : memory.nextMemoryId + 1 < 2 ^ 64)
    (hlive : nowMs < entry.expiresAtMs) (hbound : 0 < memory.config.maxEntries) {id : Nat}
    (hold : id < memory.nextMemoryId) : (memory.pushBounded entry nowMs).1.retains id = true ↔
      id ∈ memory.projectedSurvivors nowMs := by
  rw [retains_iff, pushBounded_entries hid hlive hbound, projectedSurvivors_eq_map, List.mem_map]
  constructor
  · rintro ⟨other, hother, rfl⟩
    rcases List.mem_append.mp hother with hsurvivor | hnew
    · exact ⟨other, hsurvivor, rfl⟩
    · rw [List.mem_singleton.mp hnew] at hold
      exact absurd hold (Nat.lt_irrefl _)
  · rintro ⟨other, hother, rfl⟩
    exact ⟨other, List.mem_append_left _ hother, rfl⟩

/-- What counts explicit links only counts the evidence of a write. -/
theorem countP_newLinks_le {p : MemoryLink → Bool} {q : Nat → Bool}
    (hexplicit : ∀ link, p link = true → IsEvidence link)
    (htarget : ∀ link, p link = true → link.target ∈ targets ++ causes → q link.target = true) :
    (memory.newLinks primitives newId topic nowMs targets causes).countP p ≤
      (targets ++ causes).countP q := by
  have hevidence : (evidenceLinks newId nowMs targets causes).countP p ≤
      (targets ++ causes).countP q := by
    rw [evidenceLinks, List.countP_append, List.countP_map, List.countP_map, List.countP_append]
    apply Nat.add_le_add
    · refine List.countP_mono_left fun target hmem hp ↦ ?_
      exact htarget _ hp (List.mem_append_left _ hmem)
    · refine List.countP_mono_left fun target hmem hp ↦ ?_
      exact htarget _ hp (List.mem_append_right _ hmem)
  have hderived (candidates : List (Nat × Nat)) : (candidates.map fun candidate ↦
      (⟨candidate.2, newId, .temporalBefore, nowMs⟩ : MemoryLink)).countP p = 0 := by
    refine List.countP_eq_zero.mpr fun link hlink hp ↦ ?_
    obtain ⟨candidate, -, rfl⟩ := List.mem_map.mp hlink
    cases hexplicit _ hp
  rw [newLinks, List.countP_append, hderived, Nat.add_zero]
  exact ((List.take_sublist _ _).countP_le).trans hevidence

/-- The evidence of a write that is not refused fits beside what the write leaves. -/
theorem LinkGraph.fits (h : memory.LinkGraph) (hs : memory.Sequenced)
    (hid : memory.nextMemoryId + 1 < 2 ^ 64) (hlive : nowMs < entry.expiresAtMs)
    {evidence : MemoryEvidence}
    (hevidence : memory.resolveEvidence nowMs evidence = .ok (targets, causes)) :
    (((memory.pushBounded entry nowMs).1.newLinks primitives memory.nextMemoryId topic nowMs targets
      causes).foldl pushLink (memory.pushBounded entry nowMs).1).pruneLinks.links.countP
        (fun link ↦ MemoryLinkKind.isExplicit link.kind) ≤ memory.config.maxLinks := by
  let pushed := (memory.pushBounded entry nowMs).1
  let links := pushed.newLinks primitives memory.nextMemoryId topic nowMs targets causes
  let shown (link : MemoryLink) : Bool := MemoryLinkKind.isExplicit link.kind &&
    (pushed.retains link.source && pushed.retains link.target)
  have hretains {id : Nat} (hold : id < memory.nextMemoryId) :
      pushed.retains id = decide (id ∈ memory.projectedSurvivors nowMs) := by
    rw [Bool.eq_iff_iff, decide_eq_true_eq]
    exact retains_pushBounded hid hlive hs.maxEntries hold
  have hpruned : (links.foldl pushLink pushed).pruneLinks.links.countP
      (fun link ↦ MemoryLinkKind.isExplicit link.kind) =
        (links.foldl pushLink pushed).links.countP shown := by
    simp only [pruneLinks, List.countP_filter, retains, foldl_pushLink_entries, shown]
  -- the older evidence is what the projection counts
  have hold : pushed.links.countP shown ≤ memory.links.countP fun link ↦
      MemoryLinkKind.isExplicit link.kind &&
        decide (link.source ∈ memory.projectedSurvivors nowMs) &&
          decide (link.target ∈ memory.projectedSurvivors nowMs) := by
    refine (pushBounded_links_sublist.countP_le).trans (le_of_eq ?_)
    refine List.countP_congr fun link hlink ↦ ?_
    obtain ⟨hsource, htarget⟩ := h.endpoints link hlink
    simp only [shown, hretains (retains_lt hs hsource), hretains (retains_lt hs htarget),
      Bool.and_assoc]
  have hnew : links.countP shown ≤
      (targets ++ causes).countP (· ∈ memory.projectedSurvivors nowMs) := by
    apply countP_newLinks_le
    · intro link hshown
      exact (Bool.and_eq_true _ _ ▸ hshown).1
    · intro link hshown htarget
      have hretained := resolveEvidence_retains hevidence (List.mem_append.mp htarget)
      rw [← hretains (retains_lt hs hretained)]
      simp only [shown, Bool.and_eq_true] at hshown
      exact hshown.2.2
  calc (links.foldl pushLink pushed).pruneLinks.links.countP
        (fun link ↦ MemoryLinkKind.isExplicit link.kind)
      = (links.foldl pushLink pushed).links.countP shown := hpruned
    _ ≤ (pushed.links ++ links).countP shown := foldl_pushLink_sublist.countP_le
    _ = pushed.links.countP shown + links.countP shown := List.countP_append
    _ ≤ _ := Nat.add_le_add hold hnew
    _ ≤ memory.config.maxLinks := of_decide_eq_true (resolveEvidence_fits hevidence)

/-! ## Steps -/

theorem LinkGraph.rememberWorking (h : memory.LinkGraph) (hs : memory.Sequenced)
    (event : EventEnvelope) (claim : String) (topic : Option String) (nowMs : Nat) :
    (memory.rememberWorking primitives event claim topic nowMs).1.LinkGraph := by
  rw [WorkingMemory.rememberWorking]
  split
  case h_1 => exact h
  case h_2 entry _ => exact h.pushBounded hs entry nowMs

variable (permit : MemoryWritePermit) (claim : String) (topic : Option String) (nowMs : Nat)
  (evidence : MemoryEvidence)

theorem LinkGraph.rememberDurableWithEvidence (h : memory.LinkGraph) (hs : memory.Sequenced) :
    (memory.rememberDurableWithEvidence primitives permit claim topic nowMs
      evidence).1.LinkGraph := by
  rcases rememberDurableWithEvidence_cases memory primitives nowMs permit claim topic evidence with
    ⟨hsame, -⟩ | ⟨entry, targets, causes, hprepared, ⟨hpushed, -⟩ | ⟨stored, hpush, hlinked⟩⟩
  · rw [hsame]
    exact h
  · rw [hpushed]
    exact h.pushBounded hs entry nowMs
  · obtain ⟨hevidence, hpermit⟩ := prepareDurable_eq_ok hprepared
    obtain ⟨hcreated, -, hexpires⟩ := (newEntry_eq_ok hpermit).1
    have hstorable : memory.Storable entry := storable_of_newEntry hpermit
    have hlive := hs.live_of_pushBounded hstorable hexpires hpush
    obtain ⟨rfl, hstored⟩ := hs.pushBounded_eq hstorable hexpires hpush
    obtain ⟨hid, -⟩ := pushBounded_eq_ok hpush
    have hpushed := hs.pushBounded hstorable nowMs
    rw [hlinked]
    apply (h.pushBounded hs entry nowMs).linkNewMemory hpushed hstored hcreated
    · intro other hother
      have hfresh := hpushed.fresh other hother
      rw [pushBounded_nextMemoryId hid] at hfresh
      exact Nat.le_of_lt_succ hfresh
    · intro target htarget
      exact retains_lt hs (resolveEvidence_retains hevidence htarget)
    · rw [pushBounded_config]
      exact h.fits hs hid hlive hevidence

variable {permit claim topic nowMs evidence}

theorem LinkGraph.perform (h : memory.LinkGraph) (hs : memory.Sequenced) (op : Op) :
    (perform primitives memory op).1.LinkGraph := by
  cases op with
  | rememberWorking event claim topic nowMs => exact h.rememberWorking hs event claim topic nowMs
  | rememberDurable permit claim topic nowMs => exact h.rememberDurableWithEvidence _ _ _ _ _ hs
  | rememberDurableSuperseding permit claim topic nowMs supersedes =>
    exact h.rememberDurableWithEvidence _ _ _ _ _ hs
  | rememberDurableWithEvidence permit claim topic nowMs evidence =>
    exact h.rememberDurableWithEvidence _ _ _ _ _ hs
  | compact nowMs => exact h.compact nowMs

/-! ## Accepted evidence -/

/-- The evidence that a durable write declares, and when. -/
def Op.declared : Op → Option (MemoryEvidence × Nat)
  | .rememberDurable _ _ _ nowMs => some (⟨[], []⟩, nowMs)
  | .rememberDurableSuperseding _ _ _ nowMs supersedes => some (⟨supersedes, []⟩, nowMs)
  | .rememberDurableWithEvidence _ _ _ nowMs evidence => some (evidence, nowMs)
  | .rememberWorking .. | .compact _ => none

/-- The explicit links that an operation declares. -/
def declaredLinks (memory : WorkingMemory) (op : Op) : List MemoryLink :=
  match op.declared with
  | none => []
  | some (evidence, nowMs) =>
    match memory.resolveEvidence nowMs evidence with
    | .ok (targets, causes) => evidenceLinks memory.nextMemoryId nowMs targets causes
    | .error _ => []

/-- The accepted evidence after one more step. -/
def observeEvidence (accepted : List MemoryLink) (e : MemoryEvent) : List MemoryLink :=
  match e.output with
  | .error _ => accepted
  | .ok _ => accepted ++ e.pre.declaredLinks e.input

/-- An explicit link of known nodes is there as long as both are retained. -/
structure Held (memory : WorkingMemory) (link : MemoryLink) : Prop where
  evidence : IsEvidence link
  source : link.source < memory.nextMemoryId
  target : link.target < memory.nextMemoryId
  kept : memory.retains link.source = true → memory.retains link.target = true →
    link ∈ memory.links

theorem Held.compact (h : memory.Held link) (nowMs : Nat) :
    (memory.compact nowMs).1.Held link where
  evidence := h.evidence
  source := by
    rw [compact_nextMemoryId]
    exact h.source
  target := by
    rw [compact_nextMemoryId]
    exact h.target
  kept hsource htarget := mem_compact_links.mpr
    ⟨h.kept (retains_compact hsource) (retains_compact htarget), hsource, htarget⟩

theorem Held.insertEntry (h : memory.Held link) (entry : MemoryEntry) :
    (memory.insertEntry entry).Held link where
  evidence := h.evidence
  source := Nat.lt_succ_of_lt h.source
  target := Nat.lt_succ_of_lt h.target
  kept hsource htarget := by
    have hold {id : Nat} (hretained : (memory.insertEntry entry).retains id = true)
        (hknown : id < memory.nextMemoryId) : memory.retains id = true := by
      rcases retains_insertEntry.mp hretained with hold | hnew
      · exact hold
      · omega
    exact h.kept (hold hsource h.source) (hold htarget h.target)

theorem Held.pushBounded (h : memory.Held link) (entry : MemoryEntry) (nowMs : Nat) :
    (memory.pushBounded entry nowMs).1.Held link := by
  by_cases hid : memory.nextMemoryId + 1 < 2 ^ 64
  · rw [pushBounded_eq _ _ _ hid]
    exact ((h.compact nowMs).insertEntry entry).compact nowMs
  · rw [WorkingMemory.pushBounded, if_neg hid]
    exact h

theorem Held.linkNewMemory (h : memory.Held link) (newId : Nat) (topic : Option String)
    (nowMs : Nat) (targets causes : List Nat) :
    (memory.linkNewMemory primitives newId topic nowMs targets causes).Held link where
  evidence := h.evidence
  source := by
    rw [linkNewMemory_nextMemoryId]
    exact h.source
  target := by
    rw [linkNewMemory_nextMemoryId]
    exact h.target
  kept hsource htarget := by
    simp only [retains, linkNewMemory_entries] at hsource htarget
    apply linkNewMemory_of_mem (foldl_pushLink_of_mem (h.kept hsource htarget))
    · exact isEvidence_iff.mp h.evidence
    · exact hsource
    · exact htarget

theorem Held.perform (h : memory.Held link) (op : Op) :
    (perform primitives memory op).1.Held link := by
  rcases perform_cases op with hsame | ⟨nowMs, hcompact⟩ |
    ⟨entry, nowMs, -, hpushed | ⟨id, targets, causes, hlinked⟩⟩
  · rw [hsame]
    exact h
  · rw [hcompact]
    exact h.compact nowMs
  · rw [hpushed]
    exact h.pushBounded entry nowMs
  · rw [hlinked]
    exact (h.pushBounded entry nowMs).linkNewMemory _ _ _ _ _

/-- Once a write is accepted, what it declared is held. -/
theorem Sequenced.held_of_accepted (hs : memory.Sequenced) {stored : MemoryEntry}
    (hanswer : (memory.rememberDurableWithEvidence primitives permit claim topic nowMs
      evidence).2 = .ok stored)
    (hevidence : memory.resolveEvidence nowMs evidence = .ok (targets, causes))
    (hlink : link ∈ evidenceLinks memory.nextMemoryId nowMs targets causes) :
    (memory.rememberDurableWithEvidence primitives permit claim topic nowMs evidence).1.Held
      link := by
  rcases rememberDurableWithEvidence_cases memory primitives nowMs permit claim topic evidence with
    ⟨-, hrefused⟩ | ⟨entry, found, caused, hprepared, ⟨-, hrefused⟩ | ⟨stored, hpush, hlinked⟩⟩
  · exact absurd hanswer (hrefused stored)
  · exact absurd hanswer (hrefused stored)
  · obtain ⟨hresolved, hpermit⟩ := prepareDurable_eq_ok hprepared
    obtain ⟨-, -, hexpires⟩ := (newEntry_eq_ok hpermit).1
    have hstorable : memory.Storable entry := storable_of_newEntry hpermit
    obtain ⟨rfl, hstored⟩ := hs.pushBounded_eq hstorable hexpires hpush
    obtain ⟨hid, -⟩ := pushBounded_eq_ok hpush
    rw [hevidence] at hresolved
    cases hresolved
    obtain ⟨hsource, -, hexplicit, htarget⟩ := mem_evidenceLinks hlink
    have hknown := retains_lt hs (resolveEvidence_retains hevidence htarget)
    rw [hlinked]
    constructor
    · exact isEvidence_iff.mpr hexplicit
    · rw [linkNewMemory_nextMemoryId, pushBounded_nextMemoryId hid, hsource]
      exact Nat.lt_succ_self _
    · rw [linkNewMemory_nextMemoryId, pushBounded_nextMemoryId hid]
      exact Nat.lt_succ_of_lt hknown
    · intro _ hretained
      simp only [retains, linkNewMemory_entries] at hretained
      apply evidence_mem_linkNewMemory _ _ hlink (retains_of_mem hstored) hretained
      · intro other hother
        exact Nat.ne_of_lt (hs.links other (pushBounded_links_sublist.subset hother))
      · rw [pushBounded_config]
        exact (resolveEvidence_eq_ok hevidence).1

theorem Sequenced.held_of_perform (hs : memory.Sequenced) {op : Op} {a : Answer}
    (hanswer : (WorkingMemory.perform primitives memory op).2 = .ok a)
    (hlink : link ∈ memory.declaredLinks op) :
    (WorkingMemory.perform primitives memory op).1.Held link := by
  have hdurable (permit : MemoryWritePermit) (claim : String) (topic : Option String) (nowMs : Nat)
      (evidence : MemoryEvidence)
      (hanswer : (answer (memory.rememberDurableWithEvidence primitives permit claim topic nowMs
        evidence)).2 = .ok a)
      (hlink : link ∈ memory.declaredLinks (.rememberDurableWithEvidence permit claim topic nowMs
        evidence)) :
      (memory.rememberDurableWithEvidence primitives permit claim topic nowMs evidence).1.Held
        link := by
    obtain ⟨stored, hstored⟩ := answer_eq_ok hanswer
    rw [declaredLinks, Op.declared] at hlink
    dsimp only at hlink
    split at hlink
    case h_1 hevidence => exact hs.held_of_accepted hstored hevidence hlink
    case h_2 => cases hlink
  cases op with
  | rememberWorking event claim topic nowMs => cases hlink
  | rememberDurable permit claim topic nowMs => exact hdurable _ _ _ _ ⟨[], []⟩ hanswer hlink
  | rememberDurableSuperseding permit claim topic nowMs supersedes =>
    exact hdurable _ _ _ _ ⟨supersedes, []⟩ hanswer hlink
  | rememberDurableWithEvidence permit claim topic nowMs evidence =>
    exact hdurable _ _ _ _ _ hanswer hlink
  | compact nowMs => cases hlink

theorem mem_observeEvidence {accepted : List MemoryLink} {e : MemoryEvent}
    (h : link ∈ observeEvidence accepted e) :
    link ∈ accepted ∨ (∃ a, e.output = .ok a) ∧ link ∈ e.pre.declaredLinks e.input := by
  rw [observeEvidence] at h
  split at h
  case h_1 => exact Or.inl h
  case h_2 a hanswer => exact (List.mem_append.mp h).imp_right fun hnew ↦ ⟨⟨a, hanswer⟩, hnew⟩

/-! ## Runs -/

variable {config : WorkingMemoryConfig} {pseudonymizer : ActorPseudonymizer}

theorem new_linkGraph (h : new config pseudonymizer = .ok memory) : memory.LinkGraph := by
  obtain ⟨-, h⟩ := unit_bind_eq_ok.mp h
  cases h
  exact {
    bound := Nat.zero_le _
    endpoints := fun _ h ↦ by cases h
    distinct := List.Pairwise.nil
    evidence := fun _ h ↦ by cases h
    spine := fun _ h ↦ by cases h }

theorem run_invariants (primitives : MemoryPrimitives) (h : new config pseudonymizer = .ok memory)
    (ops : List Op) : let state := (machine primitives).run memory ops
    state.config = config ∧ state.Sequenced ∧ state.LinkGraph ∧
      ∀ link ∈ (machine primitives).watch observeEvidence memory [] ops, state.Held link := by
  have hconfig : memory.config = config := by
    obtain ⟨-, h⟩ := unit_bind_eq_ok.mp h
    cases h
    rfl
  refine (machine primitives).watch_invariant
    (P := fun memory accepted ↦ memory.config = config ∧ memory.Sequenced ∧ memory.LinkGraph ∧
      ∀ link ∈ accepted, memory.Held link)
    ?_ ⟨hconfig, new_sequenced h, new_linkGraph h, fun _ hnone ↦ by cases hnone⟩ ops
  intro memory accepted op ⟨hconfig, hs, hgraph, hheld⟩
  refine ⟨(perform_config op).trans hconfig, hs.perform op, hgraph.perform hs op, ?_⟩
  intro link hlink
  rcases mem_observeEvidence hlink with hold | ⟨⟨a, hanswer⟩, hnew⟩
  · exact (hheld link hold).perform op
  · exact hs.held_of_perform hanswer hnew

/-- What one more write would leave is foreseen; one that finds no node id leaves the store as
it is. -/
structure Foreseen (memory : WorkingMemory) (entry : MemoryEntry) (nowMs : Nat) : Prop where
  stored : memory.nextMemoryId + 1 < 2 ^ 64 → memory.projectedSurvivors nowMs =
    ((memory.pushBounded entry nowMs).1.entries.filter (· ∈ memory.entries)).map
      MemoryEntry.memoryId
  refused : ¬ memory.nextMemoryId + 1 < 2 ^ 64 → (memory.pushBounded entry nowMs).1 = memory

theorem ttlMs_pos (h : config.validate = .ok ()) (retention : RetentionClass) :
    0 < config.ttlMs retention := by
  obtain ⟨hpositive, -⟩ := unit_bind_eq_ok.mp h
  rw [ensure_eq_ok] at hpositive
  simp only [Bool.not_eq_true', Bool.or_eq_false_iff, decide_eq_false_iff_not] at hpositive
  cases retention with
  | working => exact Nat.pos_of_ne_zero hpositive.1.1.1.1.1.1.2
  | durable => exact Nat.pos_of_ne_zero hpositive.1.1.1.1.1.2

/-- **The link graph.**  In every state of a run, the links are a bounded graph on the retained
entries without circular evidence, accepted evidence is there as long as both of its nodes
are, and the projection of a write is exact. -/
theorem links_sound (primitives : MemoryPrimitives) (h : new config pseudonymizer = .ok memory)
    (ops : List Op) : let state := (machine primitives).run memory ops
    state.LinkGraph ∧ (∀ id, ¬ Relation.TransGen state.Cites id id) ∧
      (∀ link ∈ (machine primitives).watch observeEvidence memory [] ops, state.Held link) ∧
      ∀ entry : MemoryEntry, ∀ nowMs, entry.createdAtMs = nowMs →
        entry.expiresAtMs = satAdd nowMs (config.ttlMs entry.retention) →
          state.Foreseen entry nowMs := by
  intro state
  obtain ⟨hconfig, hs, hgraph, hheld⟩ := run_invariants primitives h ops
  refine ⟨hgraph, hgraph.evidence_acyclic, hheld, fun entry nowMs hcreated hexpires ↦ ?_⟩
  constructor
  · intro hid
    apply projectedSurvivors_eq hs hid
    · intro hnow
      rw [hexpires, lt_satAdd_iff (Or.inr hnow)]
      exact Nat.lt_add_of_pos_right (ttlMs_pos (unit_bind_eq_ok.mp h).1 _)
    · constructor
      · rw [hexpires]
        exact satAdd_le_max _ _
      · intro hdurable
        rw [hexpires, hcreated, hdurable, ← hconfig]
        rfl
  · intro hid
    rw [pushBounded, if_neg hid]

end Graph

theorem links_sound_correctedClaim :
    ∃ memory, new .default ⟨"v1", List.replicate 32 1⟩ = .ok memory ∧
      ((machine .ascii).run memory correctedClaim).links = [⟨2, 1, .supersedes, 20⟩] ∧
      ((machine .ascii).run memory correctedClaim).LinkGraph := by
  refine ⟨_, rfl, ?_, ?_⟩
  · decide +kernel
  · have hnew : new .default ⟨"v1", List.replicate 32 1⟩ = .ok _ := rfl
    exact (links_sound .ascii hnew correctedClaim).1

end WorkingMemory

end Aivtuber
