import Aivtuber.Adaptation.LinkGraph

/-!
# Supersessions

An accepted durable write stores its entry behind those that its compactions leave
(`Sequenced.accepted`), and between the entries that are retained then, it adds the supersessions
that it declared, and takes none away (`Accepted.supersedes_iff`).
-/

open Aivtuber.Check Saturating

namespace Aivtuber

namespace WorkingMemory

/-- One entry is linked as superseding the other. -/
def Supersedes (memory : WorkingMemory) (later earlier : MemoryEntry) : Prop :=
  ∃ link ∈ memory.links, link.kind = .supersedes ∧ link.source = later.memoryId ∧
    link.target = earlier.memoryId

section Evidence

variable {memory : WorkingMemory} {nowMs : Nat} {relation : DeclaredRelation}

/-- What is declared for a write was handed to it. -/
theorem declareTargets_subset {budget rest : Nat} {declared targets all : List String}
    (h : declareTargets budget declared targets = .ok (all, rest)) : all ⊆ declared ++ targets := by
  induction targets generalizing budget declared with
  | nil =>
    cases h
    rw [List.append_nil]
    exact List.Subset.refl _
  | cons target targets ih =>
    unfold declareTargets at h
    split at h
    case isTrue hdeclared =>
      intro id hid
      rcases List.mem_append.mp (ih h hid) with hold | hlater
      · exact List.mem_append_left _ hold
      · exact List.mem_append_right _ (List.mem_cons_of_mem _ hlater)
    case isFalse =>
      cases budget with
      | zero => cases h
      | succ budget =>
        have hall := ih h
        rwa [List.append_assoc, List.singleton_append] at hall

theorem exists_of_mem_resolveTargets {ids : List String} {targets : List Nat} {target : Nat}
    (h : memory.resolveTargets nowMs relation ids = .ok targets) (htarget : target ∈ targets) :
    ∃ id ∈ ids, memory.resolveDeclaredTarget nowMs relation id = .ok target := by
  induction ids generalizing targets with
  | nil =>
    cases h
    cases htarget
  | cons id ids ih =>
    obtain ⟨first, hfirst, h⟩ := bind_eq_ok.mp h
    obtain ⟨rest, hrest, h⟩ := bind_eq_ok.mp h
    cases h
    rcases List.mem_cons.mp htarget with rfl | hlater
    · exact ⟨id, List.mem_cons_self, hfirst⟩
    · obtain ⟨other, hother, hresolved⟩ := ih hrest hlater
      exact ⟨other, List.mem_cons_of_mem _ hother, hresolved⟩

/-- What a declaration is resolved to is retained. -/
theorem entry_of_resolveDeclaredTarget {id : String} {target : Nat}
    (h : memory.resolveDeclaredTarget nowMs relation id = .ok target) :
    ∃ entry ∈ memory.durableOf id, entry.createdAtMs ≤ nowMs ∧ entry.memoryId = target := by
  rw [resolveDeclaredTarget] at h
  split at h
  · cases h
  · split at h
    case h_1 => cases h
    case h_2 => cases h
    case h_3 found hfound =>
      split at h
      · cases h
      case isFalse hrecorded =>
        cases h
        have hmem := List.mem_of_mem_filter (hfound ▸ List.mem_cons_self)
        exact ⟨found, hmem, Nat.le_of_not_lt hrecorded, rfl⟩

/-- The nodes that a write supersedes are what its declarations name. -/
theorem resolveEvidence_supersedes {evidence : MemoryEvidence} {targets causes : List Nat}
    (h : memory.resolveEvidence nowMs evidence = .ok (targets, causes)) :
    (∀ id ∈ evidence.supersedes, ∃ entry ∈ memory.durableOf id,
      entry.createdAtMs ≤ nowMs ∧ entry.memoryId ∈ targets) ∧
    ∀ target ∈ targets, ∃ id ∈ evidence.supersedes, ∃ entry ∈ memory.durableOf id,
      entry.memoryId = target := by
  obtain ⟨-, h⟩ := unit_bind_eq_ok.mp h
  obtain ⟨⟨supersedes, budget⟩, hsupersedes, h⟩ := bind_eq_ok.mp h
  obtain ⟨⟨causedBy, rest⟩, -, h⟩ := bind_eq_ok.mp h
  obtain ⟨found, hfound, h⟩ := bind_eq_ok.mp h
  obtain ⟨caused, -, h⟩ := bind_eq_ok.mp h
  obtain ⟨-, h⟩ := unit_bind_eq_ok.mp h
  cases h
  constructor
  · intro id hid
    obtain ⟨target, htarget, hresolved⟩ :=
      (resolveTargets_eq_ok hfound).2 id ((declareTargets_eq_ok hsupersedes).2 hid)
    obtain ⟨entry, hentry, hrecorded, rfl⟩ := entry_of_resolveDeclaredTarget hresolved
    exact ⟨entry, hentry, hrecorded, htarget⟩
  · intro target htarget
    obtain ⟨id, hid, hresolved⟩ := exists_of_mem_resolveTargets hfound htarget
    obtain ⟨entry, hentry, -, heq⟩ := entry_of_resolveDeclaredTarget hresolved
    exact ⟨id, declareTargets_subset hsupersedes hid, entry, hentry, heq⟩

end Evidence

section Writes

variable {memory memory' : WorkingMemory} {primitives : MemoryPrimitives} {entry : MemoryEntry}
  {permit : MemoryWritePermit} {claim : String} {topic : Option String} {nowMs : Nat}
  {evidence : MemoryEvidence} {targets causes : List Nat} {stored : MemoryEntry}

/-- What an accepted durable write does: its entry stands behind the survivors, and its evidence
is linked. -/
structure Accepted (memory : WorkingMemory) (primitives : MemoryPrimitives) (nowMs : Nat)
    (memory' : WorkingMemory) (entry : MemoryEntry) (targets causes : List Nat) : Prop where
  id : memory.nextMemoryId + 1 < 2 ^ 64
  live : nowMs < entry.expiresAtMs
  created : entry.createdAtMs = nowMs
  retention : entry.retention = .durable
  budget : targets.length + causes.length ≤ memory.config.maxLinksPerMemory
  result : memory' = (memory.pushBounded entry nowMs).1.linkNewMemory primitives
    memory.nextMemoryId entry.topic nowMs targets causes

theorem Sequenced.accepted_entry (h : memory.Sequenced)
    (hanswer : (memory.rememberDurableWithEvidence primitives permit claim topic nowMs
      evidence).2 = .ok stored) :
    ∃ entry targets causes, memory.resolveEvidence nowMs evidence = .ok (targets, causes) ∧
      memory.entryFromPermit primitives permit claim topic nowMs = .ok entry ∧
        Accepted memory primitives nowMs
          (memory.rememberDurableWithEvidence primitives permit claim topic nowMs evidence).1
          entry targets causes := by
  rcases rememberDurableWithEvidence_cases memory primitives nowMs permit claim topic evidence with
    ⟨-, hrefused⟩ | ⟨entry, targets, causes, hprepared, ⟨-, hrefused⟩ | ⟨pushed, hpush, hlinked⟩⟩
  · exact absurd hanswer (hrefused stored)
  · exact absurd hanswer (hrefused stored)
  · obtain ⟨hevidence, hpermit⟩ := prepareDurable_eq_ok hprepared
    obtain ⟨hcreated, hretention, hexpires⟩ := (newEntry_eq_ok hpermit).1
    have hstorable : memory.Storable entry := storable_of_newEntry hpermit
    obtain ⟨rfl, -⟩ := h.pushBounded_eq hstorable hexpires hpush
    exact ⟨entry, targets, causes, hevidence, hpermit, {
      id := (pushBounded_eq_ok hpush).1
      live := h.live_of_pushBounded hstorable hexpires hpush
      created := hcreated
      retention := hretention
      budget := (resolveEvidence_eq_ok hevidence).1
      result := hlinked }⟩

theorem Sequenced.accepted (h : memory.Sequenced)
    (hanswer : (memory.rememberDurableWithEvidence primitives permit claim topic nowMs
      evidence).2 = .ok stored) :
    ∃ entry targets causes, memory.resolveEvidence nowMs evidence = .ok (targets, causes) ∧
      entry.source.eventId = permit.eventId ∧ Accepted memory primitives nowMs
        (memory.rememberDurableWithEvidence primitives permit claim topic nowMs evidence).1
        entry targets causes := by
  obtain ⟨entry, targets, causes, hevidence, hpermit, haccepted⟩ := h.accepted_entry hanswer
  refine ⟨entry, targets, causes, hevidence, ?_, haccepted⟩
  rw [(newEntry_eq_ok hpermit).2.1]

namespace Accepted

variable (h : Accepted memory primitives nowMs memory' entry targets causes)

include h

theorem entries (hs : memory.Sequenced) : memory'.entries =
    memory.survivors nowMs ++ [{ entry with memoryId := memory.nextMemoryId }] := by
  rw [h.result, linkNewMemory_entries, pushBounded_entries h.id h.live hs.maxEntries]

theorem config : memory'.config = memory.config := by
  rw [h.result, linkNewMemory_config, pushBounded_config]

theorem mem_entries (hs : memory.Sequenced) {other : MemoryEntry} (hother : other ∈ memory'.entries) :
    other ∈ memory.survivors nowMs ∨ other = { entry with memoryId := memory.nextMemoryId } := by
  rw [h.entries hs] at hother
  exact (List.mem_append.mp hother).imp_right List.mem_singleton.mp

/-- A node that was known is left by the first compaction. -/
theorem retains_compact (hs : memory.Sequenced) {other : MemoryEntry}
    (hother : other ∈ memory'.entries) (hid : other.memoryId ≠ memory.nextMemoryId) :
    (memory.compact nowMs).1.retains other.memoryId = true := by
  rcases h.mem_entries hs hother with hold | rfl
  · apply retains_of_mem
    rw [compact_entries]
    exact List.mem_of_mem_drop hold
  · exact absurd rfl hid

/-- **What a write supersedes.**  Between retained entries, the supersessions are those from
before, and those that the write declared. -/
theorem supersedes_iff (hs : memory.Sequenced)
    (htargets : ∀ link ∈ memory.links, memory.retains link.target = true)
    {later earlier : MemoryEntry} (hlater : later ∈ memory'.entries)
    (hearlier : earlier ∈ memory'.entries) : memory'.Supersedes later earlier ↔
      memory.Supersedes later earlier ∨
        later.memoryId = memory.nextMemoryId ∧ earlier.memoryId ∈ targets := by
  have hpushed : ∀ other ∈ memory'.entries,
      (memory.pushBounded entry nowMs).1.retains other.memoryId = true := by
    intro other hother
    rw [h.result, linkNewMemory_entries] at hother
    exact retains_of_mem hother
  constructor
  · rintro ⟨link, hlink, hkind, hsource, htarget⟩
    rw [h.result] at hlink
    rcases mem_linkNewMemory hlink with hold | hnew
    · exact Or.inl ⟨link, pushBounded_links_sublist.subset hold, hkind, hsource, htarget⟩
    · right
      rcases List.mem_append.mp hnew with hexplicit | hderived
      · rcases List.mem_append.mp (List.mem_of_mem_take hexplicit) with hsuperseded | hcaused
        · obtain ⟨target, hmem, rfl⟩ := List.mem_map.mp hsuperseded
          exact ⟨hsource.symm, htarget ▸ hmem⟩
        · obtain ⟨target, hmem, rfl⟩ := List.mem_map.mp hcaused
          cases hkind
      · obtain ⟨candidate, -, rfl⟩ := List.mem_map.mp hderived
        cases hkind
  · rintro (⟨link, hlink, hkind, hsource, htarget⟩ | ⟨hnew, hmem⟩)
    · -- an old link keeps both of its nodes
      have hfrom : later.memoryId ≠ memory.nextMemoryId :=
        hsource ▸ Nat.ne_of_lt (hs.links link hlink)
      have hto : earlier.memoryId ≠ memory.nextMemoryId :=
        htarget ▸ Nat.ne_of_lt (retains_lt hs (htargets link hlink))
      refine ⟨link, ?_, hkind, hsource, htarget⟩
      have hstays : link ∈ (memory.pushBounded entry nowMs).1.links := by
        have hretained := And.intro (hpushed later hlater) (hpushed earlier hearlier)
        rw [pushBounded_eq _ _ _ h.id] at hretained ⊢
        refine mem_compact_links.mpr ⟨mem_compact_links.mpr ⟨hlink, ?_, ?_⟩, ?_, ?_⟩
        · rw [hsource]
          exact h.retains_compact hs hlater hfrom
        · rw [htarget]
          exact h.retains_compact hs hearlier hto
        · rw [hsource]
          exact hretained.1
        · rw [htarget]
          exact hretained.2
      rw [h.result]
      apply linkNewMemory_of_mem (foldl_pushLink_of_mem hstays)
      · rw [hkind]
        exact MemoryLinkKind.noConfusion
      · rw [hsource]
        exact hpushed later hlater
      · rw [htarget]
        exact hpushed earlier hearlier
    · refine ⟨⟨memory.nextMemoryId, earlier.memoryId, .supersedes, nowMs⟩, ?_, rfl, hnew.symm, rfl⟩
      rw [h.result]
      apply evidence_mem_linkNewMemory
      · intro link hlink
        exact Nat.ne_of_lt (hs.links link (pushBounded_links_sublist.subset hlink))
      · rw [pushBounded_config]
        exact h.budget
      · exact List.mem_append_left _ (List.mem_map.mpr ⟨_, hmem, rfl⟩)
      · rw [← hnew]
        exact hpushed later hlater
      · exact hpushed earlier hearlier

theorem endpoints : ∀ link ∈ memory'.links, memory'.retains link.target = true := by
  intro link hlink
  rw [h.result] at hlink ⊢
  simp only [retains, linkNewMemory_entries]
  exact (mem_linkNewMemory_endpoints hlink).2

end Accepted

end Writes

end WorkingMemory

end Aivtuber
