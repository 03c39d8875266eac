import Aivtuber.Adaptation.MemoryRun
import Aivtuber.Adaptation.Recall
import Aivtuber.Base.Newest

/-!
# Corrected memories

A durable write supersedes its targets with a link.  The superseding node is stored behind
its target, and expires no earlier, so that whatever removes it removes the target first;
and the link is explicit, so that it goes with an endpoint alone.  Hence a corrected memory
never comes back (`no_resurrection`): no generation context contains it, and linked recall
shows it as stale.
-/

open Aivtuber.Check Saturating

namespace Aivtuber

namespace WorkingMemory

/-! ## Corrections -/

/-- A memory that was superseded by a write. -/
structure Correction where
  target : Nat
  atMs : Nat
deriving DecidableEq, Repr

/-- What an operation declares to supersede, and when. -/
def Op.supersession : Op → List String × Nat
  | .rememberDurableSuperseding _ _ _ nowMs supersedes => (supersedes, nowMs)
  | .rememberDurableWithEvidence _ _ _ nowMs evidence => (evidence.supersedes, nowMs)
  | .rememberDurable _ _ _ nowMs | .rememberWorking _ _ _ nowMs | .compact nowMs => ([], nowMs)

/-- The targets of a supersession: the live durable nodes of its source events. -/
def targets (memory : WorkingMemory) (supersedes : List String) (nowMs : Nat) : List MemoryEntry :=
  memory.entries.filter fun entry ↦ decide (entry.source.eventId ∈ supersedes) &&
    entry.retention = .durable && nowMs < entry.expiresAtMs

/-- The corrections after one more step. -/
def observeCorrections (corrections : List Correction) (e : MemoryEvent) : List Correction :=
  match e.output with
  | .error _ => corrections
  | .ok _ =>
    let (supersedes, nowMs) := e.input.supersession
    corrections ++ (e.pre.targets supersedes nowMs).map fun entry ↦ ⟨entry.memoryId, nowMs⟩

/-- From the correction on, no context contains its target, and linked recall shows it as
stale. -/
def Corrected (primitives : MemoryPrimitives) (memory : WorkingMemory) (correction : Correction) :
    Prop :=
  ∀ nowMs, correction.atMs ≤ nowMs →
    (∀ sourceNamespace actorId topic limit,
      ∀ entry ∈ memory.contextFor primitives sourceNamespace actorId topic limit nowMs,
        entry.memoryId ≠ correction.target) ∧
    ∀ query, ∀ result ∈ memory.relevantLinked primitives query nowMs,
      result.entry.memoryId = correction.target → result.stale = true

/-! ## The invariants -/

/-- Nodes are stored in the order of their ids, and links lead from known ones. -/
structure Sequenced (memory : WorkingMemory) : Prop where
  maxEntries : 0 < memory.config.maxEntries
  ttl : 0 < memory.config.durableTtlMs
  ordered : memory.entries.Pairwise fun earlier later ↦ earlier.memoryId < later.memoryId
  fresh : ∀ entry ∈ memory.entries, entry.memoryId < memory.nextMemoryId
  expiry : ∀ entry ∈ memory.entries, entry.expiresAtMs ≤ u64Max
  durable : ∀ entry ∈ memory.entries, entry.retention = .durable →
    entry.expiresAtMs = satAdd entry.createdAtMs memory.config.durableTtlMs
  links : ∀ link ∈ memory.links, link.source < memory.nextMemoryId

/-- The link of a correction. -/
def Correction.link (correction : Correction) (source : Nat) : MemoryLink :=
  ⟨source, correction.target, .supersedes, correction.atMs⟩

/-- As long as the target is retained, a later node that lives as long supersedes it. -/
def Upheld (memory : WorkingMemory) (correction : Correction) : Prop :=
  ∃ source, correction.target < source ∧ source < memory.nextMemoryId ∧
    ∀ entry ∈ memory.entries, entry.memoryId = correction.target →
      correction.link source ∈ memory.links ∧
        ∃ successor ∈ memory.entries, successor.memoryId = source ∧
          successor.createdAtMs = correction.atMs ∧ entry.expiresAtMs ≤ successor.expiresAtMs

section Store

variable {memory : WorkingMemory} {correction : Correction} {entry other : MemoryEntry}
  {nowMs : Nat}

theorem new_sequenced {config : WorkingMemoryConfig} {pseudonymizer : ActorPseudonymizer}
    (h : new config pseudonymizer = .ok memory) : memory.Sequenced := by
  obtain ⟨hvalid, h⟩ := unit_bind_eq_ok.mp h
  obtain ⟨hpositive, -⟩ := unit_bind_eq_ok.mp hvalid
  rw [ensure_eq_ok] at hpositive
  simp only [Bool.not_eq_true', Bool.or_eq_false_iff, decide_eq_false_iff_not] at hpositive
  cases h
  exact {
    maxEntries := Nat.pos_of_ne_zero hpositive.1.1.1.1.1.1.1
    ttl := Nat.pos_of_ne_zero hpositive.1.1.1.1.1.2
    ordered := List.Pairwise.nil
    fresh := fun _ h ↦ by cases h
    expiry := fun _ h ↦ by cases h
    durable := fun _ h ↦ by cases h
    links := fun _ h ↦ by cases h }

/-- A node id names one entry. -/
theorem Sequenced.unique (h : memory.Sequenced) (hentry : entry ∈ memory.entries)
    (hother : other ∈ memory.entries) (hid : entry.memoryId = other.memoryId) : entry = other := by
  have hnodup : (memory.entries.map MemoryEntry.memoryId).Nodup := by
    refine List.pairwise_map.mpr (h.ordered.imp fun {earlier later} hlt ↦ ?_)
    exact Nat.ne_of_lt hlt
  exact List.inj_on_of_nodup_map hnodup hentry hother hid

theorem Sequenced.compact (h : memory.Sequenced) (nowMs : Nat) :
    (memory.compact nowMs).1.Sequenced where
  maxEntries := by
    rw [compact_config]
    exact h.maxEntries
  ttl := by
    rw [compact_config]
    exact h.ttl
  ordered := by
    rw [compact_entries]
    exact h.ordered.sublist (memory.kept_sublist nowMs)
  fresh entry hentry := by
    rw [compact_entries] at hentry
    rw [compact_nextMemoryId]
    exact h.fresh entry (mem_kept hentry).1
  expiry entry hentry := by
    rw [compact_entries] at hentry
    exact h.expiry entry (mem_kept hentry).1
  durable entry hentry hdurable := by
    rw [compact_entries] at hentry
    rw [compact_config]
    exact h.durable entry (mem_kept hentry).1 hdurable
  links link hlink := by
    rw [compact_links] at hlink
    rw [compact_nextMemoryId]
    exact h.links link (List.mem_filter.mp hlink).1

/-- A compaction that keeps a target keeps what supersedes it: it is stored behind, and
expires no earlier. -/
theorem Upheld.compact (h : memory.Upheld correction) (hs : memory.Sequenced) (nowMs : Nat) :
    (memory.compact nowMs).1.Upheld correction := by
  obtain ⟨source, hlt, hsource, hentries⟩ := h
  refine ⟨source, hlt, by rwa [compact_nextMemoryId], fun entry hentry hid ↦ ?_⟩
  rw [compact_entries] at hentry ⊢
  obtain ⟨hmem, hlive⟩ := mem_kept hentry
  obtain ⟨hlink, successor, hsuccessor, rfl, hat, hexpires⟩ := hentries entry hmem hid
  have hfilter : successor ∈ memory.entries.filter (nowMs < ·.expiresAtMs) :=
    List.mem_filter.mpr ⟨hsuccessor, decide_eq_true (hlive.trans_le hexpires)⟩
  have hkept : successor ∈ memory.kept nowMs := by
    refine List.mem_drop_of_lt (hs.ordered.filter _) hentry hfilter ?_
    rw [hid]
    exact hlt
  refine ⟨?_, successor, hkept, rfl, hat, hexpires⟩
  rw [compact_links, List.mem_filter, Bool.and_eq_true, List.any_eq_true, List.any_eq_true]
  exact ⟨hlink, ⟨successor, hkept, decide_eq_true rfl⟩, entry, hentry, decide_eq_true hid⟩

/-- An entry that a write may store. -/
structure Storable (memory : WorkingMemory) (entry : MemoryEntry) : Prop where
  expiry : entry.expiresAtMs ≤ u64Max
  durable : entry.retention = .durable →
    entry.expiresAtMs = satAdd entry.createdAtMs memory.config.durableTtlMs

theorem Sequenced.insertEntry (h : memory.Sequenced) (hentry : memory.Storable entry) :
    (memory.insertEntry entry).Sequenced where
  maxEntries := h.maxEntries
  ttl := h.ttl
  ordered := by
    refine List.pairwise_append.mpr ⟨h.ordered, List.pairwise_singleton _ _, ?_⟩
    intro earlier hearlier later hlater
    rw [List.mem_singleton.mp hlater]
    exact h.fresh earlier hearlier
  fresh other hother := by
    rcases List.mem_append.mp hother with hold | hnew
    · exact Nat.lt_succ_of_lt (h.fresh other hold)
    · rw [List.mem_singleton.mp hnew]
      exact Nat.lt_succ_self _
  expiry other hother := by
    rcases List.mem_append.mp hother with hold | hnew
    · exact h.expiry other hold
    · rw [List.mem_singleton.mp hnew]
      exact hentry.expiry
  durable other hother hdurable := by
    rcases List.mem_append.mp hother with hold | hnew
    · exact h.durable other hold hdurable
    · rw [List.mem_singleton.mp hnew] at hdurable ⊢
      exact hentry.durable hdurable
  links link hlink := Nat.lt_succ_of_lt (h.links link hlink)

/-- A write compacts before it stores. -/
theorem Sequenced.compact_insertEntry (h : memory.Sequenced) (hentry : memory.Storable entry)
    (nowMs : Nat) : ((memory.compact nowMs).1.insertEntry entry).Sequenced := by
  refine (h.compact nowMs).insertEntry ⟨hentry.expiry, ?_⟩
  rw [compact_config]
  exact hentry.durable

theorem Upheld.insertEntry (h : memory.Upheld correction) (entry : MemoryEntry) :
    (memory.insertEntry entry).Upheld correction := by
  obtain ⟨source, hlt, hsource, hentries⟩ := h
  refine ⟨source, hlt, Nat.lt_succ_of_lt hsource, fun other hother hid ↦ ?_⟩
  rcases List.mem_append.mp hother with hold | hnew
  · obtain ⟨hlink, successor, hsuccessor, hrest⟩ := hentries other hold hid
    exact ⟨hlink, successor, List.mem_append_left _ hsuccessor, hrest⟩
  · rw [List.mem_singleton.mp hnew] at hid
    change memory.nextMemoryId = correction.target at hid
    omega

theorem Sequenced.pushBounded (h : memory.Sequenced) (hentry : memory.Storable entry)
    (nowMs : Nat) : (memory.pushBounded entry nowMs).1.Sequenced := by
  by_cases hid : memory.nextMemoryId + 1 < 2 ^ 64
  · rw [pushBounded_eq _ _ _ hid]
    exact (h.compact_insertEntry hentry nowMs).compact nowMs
  · rw [WorkingMemory.pushBounded, if_neg hid]
    exact h

theorem Upheld.pushBounded (h : memory.Upheld correction) (hs : memory.Sequenced)
    (hentry : memory.Storable entry) (nowMs : Nat) :
    (memory.pushBounded entry nowMs).1.Upheld correction := by
  by_cases hid : memory.nextMemoryId + 1 < 2 ^ 64
  · rw [pushBounded_eq _ _ _ hid]
    exact ((h.compact hs nowMs).insertEntry entry).compact (hs.compact_insertEntry hentry nowMs)
      nowMs
  · rw [WorkingMemory.pushBounded, if_neg hid]
    exact h

variable {primitives : MemoryPrimitives} {newId : Nat}

theorem Sequenced.linkNewMemory (h : memory.Sequenced) (hnew : newId < memory.nextMemoryId)
    (topic : Option String) (nowMs : Nat) (targets causes : List Nat) :
    (memory.linkNewMemory primitives newId topic nowMs targets causes).Sequenced where
  maxEntries := by
    rw [linkNewMemory_config]
    exact h.maxEntries
  ttl := by
    rw [linkNewMemory_config]
    exact h.ttl
  ordered := by
    rw [linkNewMemory_entries]
    exact h.ordered
  fresh := by
    rw [linkNewMemory_entries, linkNewMemory_nextMemoryId]
    exact h.fresh
  expiry := by
    rw [linkNewMemory_entries]
    exact h.expiry
  durable := by
    rw [linkNewMemory_entries, linkNewMemory_config]
    exact h.durable
  links := by
    intro link hlink
    rw [linkNewMemory_nextMemoryId]
    rcases mem_linkNewMemory hlink with hold | hlinked
    · exact h.links link hold
    · rcases (mem_newLinks hlinked).2 with hsource | ⟨entry, hentry, hsource⟩
      · rw [hsource]
        exact hnew
      · rw [← hsource]
        exact h.fresh entry hentry

theorem retains_of_mem (h : entry ∈ memory.entries) : memory.retains entry.memoryId = true :=
  List.any_eq_true.mpr ⟨entry, h, decide_eq_true rfl⟩

theorem Upheld.linkNewMemory (h : memory.Upheld correction) (newId : Nat) (topic : Option String)
    (nowMs : Nat) (targets causes : List Nat) :
    (memory.linkNewMemory primitives newId topic nowMs targets causes).Upheld correction := by
  obtain ⟨source, hlt, hsource, hentries⟩ := h
  refine ⟨source, hlt, by rwa [linkNewMemory_nextMemoryId], fun entry hentry hid ↦ ?_⟩
  rw [linkNewMemory_entries] at hentry ⊢
  obtain ⟨hlink, successor, hsuccessor, rfl, hrest⟩ := hentries entry hentry hid
  refine ⟨?_, successor, hsuccessor, rfl, hrest⟩
  apply linkNewMemory_of_mem (foldl_pushLink_of_mem hlink)
  · intro hkind
    cases hkind
  · exact retains_of_mem hsuccessor
  · change memory.retains correction.target = true
    rw [← hid]
    exact retains_of_mem hentry

/-! ## Durable writes -/

variable {permit : MemoryWritePermit} {claim : String} {topic : Option String}
  {evidence : MemoryEvidence} {targets causes : List Nat} {stored : MemoryEntry}

theorem storable_of_newEntry {eventId source : String} {sourceClass : SourceClass}
    {trustLevel : TrustLevel} {actorId sourceClaim : Option String} {retention : RetentionClass}
    {writeDecision : MemoryGateDecision}
    (h : memory.newEntry primitives eventId source sourceClass trustLevel actorId sourceClaim claim
      topic nowMs retention writeDecision = .ok entry) : memory.Storable entry := by
  obtain ⟨hcreated, hretention, hexpires⟩ := (newEntry_eq_ok h).1
  constructor
  · rw [hexpires]
    exact satAdd_le_max _ _
  · intro hdurable
    rw [hexpires, hcreated, ← hretention, hdurable]
    rfl

/-- Nothing is stored when time is up. -/
theorem Sequenced.lt_max_of_pushBounded (h : memory.Sequenced) (hentry : memory.Storable entry)
    (hpush : (memory.pushBounded entry nowMs).2 = .ok stored) : nowMs < u64Max := by
  have hmem := mem_kept (List.mem_of_getLast? (pushBounded_eq_ok hpush).2)
  exact hmem.2.trans_le ((h.compact_insertEntry hentry nowMs).expiry stored hmem.1)

theorem Sequenced.live_of_pushBounded (h : memory.Sequenced) (hentry : memory.Storable entry)
    (hexpires : entry.expiresAtMs = satAdd nowMs memory.config.durableTtlMs)
    (hpush : (memory.pushBounded entry nowMs).2 = .ok stored) : nowMs < entry.expiresAtMs := by
  rw [hexpires, lt_satAdd_iff (Or.inr (h.lt_max_of_pushBounded hentry hpush))]
  exact Nat.lt_add_of_pos_right h.ttl

/-- Durable entries are stored under the next id. -/
theorem Sequenced.pushBounded_eq (h : memory.Sequenced) (hentry : memory.Storable entry)
    (hexpires : entry.expiresAtMs = satAdd nowMs memory.config.durableTtlMs)
    (hpush : (memory.pushBounded entry nowMs).2 = .ok stored) :
    stored = { entry with memoryId := memory.nextMemoryId } ∧
      stored ∈ (memory.pushBounded entry nowMs).1.entries := by
  have hlive := h.live_of_pushBounded hentry hexpires hpush
  obtain ⟨hid, hlast⟩ := pushBounded_eq_ok hpush
  have hmem := List.mem_of_getLast? hlast
  constructor
  · have hbound : 0 < (memory.compact nowMs).1.config.maxEntries := (h.compact nowMs).maxEntries
    rw [kept_insertEntry hlive hbound, List.getLast?_concat, Option.some_inj,
      compact_nextMemoryId] at hlast
    exact hlast.symm
  · rw [WorkingMemory.pushBounded_eq _ _ _ hid]
    simp only [compact_entries]
    exact hmem

/-- An accepted durable write upholds each of its supersessions. -/
theorem Sequenced.supersede (h : memory.Sequenced)
    (hprepared : memory.prepareDurable primitives permit claim topic nowMs evidence =
      .ok (entry, targets, causes))
    (hpush : (memory.pushBounded entry nowMs).2 = .ok stored) {target : MemoryEntry}
    (htarget : target ∈ memory.targets evidence.supersedes nowMs) :
    ((memory.pushBounded entry nowMs).1.linkNewMemory primitives stored.memoryId entry.topic nowMs
      targets causes).Upheld ⟨target.memoryId, nowMs⟩ := by
  obtain ⟨hevidence, hpermit⟩ := prepareDurable_eq_ok hprepared
  obtain ⟨hcreated, -, hexpires⟩ := (newEntry_eq_ok hpermit).1
  have hstorable : memory.Storable entry := storable_of_newEntry hpermit
  obtain ⟨rfl, hstored⟩ := h.pushBounded_eq hstorable hexpires hpush
  obtain ⟨hid, -⟩ := pushBounded_eq_ok hpush
  obtain ⟨hmem, hnamed⟩ := List.mem_filter.mp htarget
  simp only [Bool.and_eq_true, decide_eq_true_eq] at hnamed
  obtain ⟨⟨hsource, hdurable⟩, hlive⟩ := hnamed
  obtain ⟨hbudget, hresolved⟩ := resolveEvidence_eq_ok hevidence
  obtain ⟨hresolved, holder⟩ := hresolved _ hsource target
    (List.mem_filter.mpr ⟨hmem, by simp only [hdurable, decide_true, Bool.and_self]⟩) hlive
  have hfresh := h.fresh target hmem
  refine ⟨memory.nextMemoryId, hfresh, ?_, fun other hother hsame ↦ ?_⟩
  · rw [linkNewMemory_nextMemoryId, pushBounded_nextMemoryId hid]
    exact Nat.lt_succ_self _
  rw [linkNewMemory_entries] at hother ⊢
  -- what is left of the target is the target
  have heq : other = target := by
    rcases mem_pushBounded_entries hother with hold | rfl
    · exact h.unique hold hmem hsame
    · exact absurd hsame (Nat.ne_of_gt hfresh)
  subst heq
  refine ⟨?_, _, hstored, rfl, hcreated, ?_⟩
  · apply evidence_mem_linkNewMemory
    · intro link hlink
      exact Nat.ne_of_lt (h.links link (pushBounded_links_sublist.subset hlink))
    · rw [pushBounded_config]
      exact hbudget
    · exact List.mem_append_left _ (List.mem_map.mpr ⟨_, hresolved, rfl⟩)
    · exact retains_of_mem hstored
    · exact retains_of_mem hother
  · rw [h.durable other hmem hdurable]
    change _ ≤ entry.expiresAtMs
    rw [hexpires]
    exact satAdd_mono holder le_rfl

/-! ## Steps -/

theorem Sequenced.rememberWorking (h : memory.Sequenced) (event : EventEnvelope) (claim : String)
    (topic : Option String) (nowMs : Nat) :
    (memory.rememberWorking primitives event claim topic nowMs).1.Sequenced := by
  rw [WorkingMemory.rememberWorking]
  split
  case h_1 => exact h
  case h_2 entry hentry => exact h.pushBounded (storable_of_newEntry hentry) nowMs

theorem Upheld.rememberWorking (h : memory.Upheld correction) (hs : memory.Sequenced)
    (event : EventEnvelope) (claim : String) (topic : Option String) (nowMs : Nat) :
    (memory.rememberWorking primitives event claim topic nowMs).1.Upheld correction := by
  rw [WorkingMemory.rememberWorking]
  split
  case h_1 => exact h
  case h_2 entry hentry => exact h.pushBounded hs (storable_of_newEntry hentry) nowMs

variable (permit claim topic nowMs evidence)

theorem Sequenced.rememberDurableWithEvidence (h : memory.Sequenced) :
    (memory.rememberDurableWithEvidence primitives permit claim topic nowMs
      evidence).1.Sequenced := by
  rcases rememberDurableWithEvidence_cases memory primitives nowMs permit claim topic evidence with
    ⟨hsame, -⟩ | ⟨entry, targets, causes, hprepared, ⟨hpushed, -⟩ | ⟨stored, hpush, hlinked⟩⟩
  · rw [hsame]
    exact h
  · rw [hpushed]
    exact h.pushBounded (storable_of_newEntry (prepareDurable_eq_ok hprepared).2) nowMs
  · have hpermit := (prepareDurable_eq_ok hprepared).2
    have hpushed := h.pushBounded (storable_of_newEntry hpermit) nowMs
    have hexpires := (newEntry_eq_ok hpermit).1.2.2
    have hstored := (h.pushBounded_eq (storable_of_newEntry hpermit) hexpires hpush).2
    rw [hlinked]
    exact hpushed.linkNewMemory (hpushed.fresh stored hstored) _ _ _ _

theorem Upheld.rememberDurableWithEvidence (h : memory.Upheld correction) (hs : memory.Sequenced) :
    (memory.rememberDurableWithEvidence primitives permit claim topic nowMs evidence).1.Upheld
      correction := by
  rcases rememberDurableWithEvidence_cases memory primitives nowMs permit claim topic evidence with
    ⟨hsame, -⟩ | ⟨entry, targets, causes, hprepared, ⟨hpushed, -⟩ | ⟨stored, -, hlinked⟩⟩
  · rw [hsame]
    exact h
  · rw [hpushed]
    exact h.pushBounded hs (storable_of_newEntry (prepareDurable_eq_ok hprepared).2) nowMs
  · rw [hlinked]
    have hpermit := (prepareDurable_eq_ok hprepared).2
    exact (h.pushBounded hs (storable_of_newEntry hpermit) nowMs).linkNewMemory _ _ _ _ _

/-- Once a durable write is accepted, its supersessions are upheld. -/
theorem Sequenced.upheld_of_accepted (h : memory.Sequenced)
    (hanswer : (memory.rememberDurableWithEvidence primitives permit claim topic nowMs
      evidence).2 = .ok stored)
    {target : MemoryEntry} (htarget : target ∈ memory.targets evidence.supersedes nowMs) :
    (memory.rememberDurableWithEvidence primitives permit claim topic nowMs evidence).1.Upheld
      ⟨target.memoryId, nowMs⟩ := by
  rcases rememberDurableWithEvidence_cases memory primitives nowMs permit claim topic evidence with
    ⟨-, hrefused⟩ | ⟨entry, targets, causes, hprepared, ⟨-, hrefused⟩ | ⟨stored, hpush, hlinked⟩⟩
  · exact absurd hanswer (hrefused stored)
  · exact absurd hanswer (hrefused stored)
  · rw [hlinked]
    exact h.supersede hprepared hpush htarget

variable {permit claim topic nowMs evidence}

theorem Sequenced.perform (h : memory.Sequenced) (op : Op) :
    (perform primitives memory op).1.Sequenced := by
  cases op with
  | rememberWorking event claim topic nowMs => exact h.rememberWorking event claim topic nowMs
  | rememberDurable permit claim topic nowMs => exact h.rememberDurableWithEvidence _ _ _ _ _
  | rememberDurableSuperseding permit claim topic nowMs supersedes =>
    exact h.rememberDurableWithEvidence _ _ _ _ _
  | rememberDurableWithEvidence permit claim topic nowMs evidence =>
    exact h.rememberDurableWithEvidence _ _ _ _ _
  | compact nowMs => exact h.compact nowMs

theorem Upheld.perform (h : memory.Upheld correction) (hs : memory.Sequenced) (op : Op) :
    (perform primitives memory op).1.Upheld correction := by
  cases op with
  | rememberWorking event claim topic nowMs => exact h.rememberWorking hs event claim topic nowMs
  | rememberDurable permit claim topic nowMs => exact h.rememberDurableWithEvidence _ _ _ _ _ hs
  | rememberDurableSuperseding permit claim topic nowMs supersedes =>
    exact h.rememberDurableWithEvidence _ _ _ _ _ hs
  | rememberDurableWithEvidence permit claim topic nowMs evidence =>
    exact h.rememberDurableWithEvidence _ _ _ _ _ hs
  | compact nowMs => exact h.compact hs nowMs

@[simp] theorem targets_nil : memory.targets [] nowMs = [] := by
  apply List.filter_eq_nil_iff.mpr
  intro entry _ h
  simp at h

theorem Sequenced.upheld_of_perform (h : memory.Sequenced) {op : Op} {a : Answer}
    (hanswer : (WorkingMemory.perform primitives memory op).2 = .ok a) {target : MemoryEntry}
    (htarget : target ∈ memory.targets op.supersession.1 op.supersession.2) :
    (WorkingMemory.perform primitives memory op).1.Upheld
      ⟨target.memoryId, op.supersession.2⟩ := by
  cases op with
  | rememberWorking event claim topic nowMs =>
    rw [Op.supersession, targets_nil] at htarget
    cases htarget
  | rememberDurable permit claim topic nowMs =>
    rw [Op.supersession, targets_nil] at htarget
    cases htarget
  | rememberDurableSuperseding permit claim topic nowMs supersedes =>
    obtain ⟨stored, hstored⟩ := answer_eq_ok hanswer
    exact h.upheld_of_accepted _ _ _ _ ⟨supersedes, []⟩ hstored htarget
  | rememberDurableWithEvidence permit claim topic nowMs evidence =>
    obtain ⟨stored, hstored⟩ := answer_eq_ok hanswer
    exact h.upheld_of_accepted _ _ _ _ _ hstored htarget
  | compact nowMs =>
    rw [Op.supersession, targets_nil] at htarget
    cases htarget

theorem mem_observeCorrections {corrections : List Correction} {e : MemoryEvent}
    (h : correction ∈ observeCorrections corrections e) :
    correction ∈ corrections ∨ (∃ a, e.output = .ok a) ∧
      ∃ target ∈ e.pre.targets e.input.supersession.1 e.input.supersession.2,
        correction = ⟨target.memoryId, e.input.supersession.2⟩ := by
  rw [observeCorrections] at h
  split at h
  case h_1 => exact Or.inl h
  case h_2 a hanswer =>
    rcases List.mem_append.mp h with hold | hnew
    · exact Or.inl hold
    · obtain ⟨target, htarget, rfl⟩ := List.mem_map.mp hnew
      exact Or.inr ⟨⟨a, hanswer⟩, target, htarget, rfl⟩

/-! ## Reads -/

/-- What supersedes a live node is live. -/
theorem Upheld.superseded (h : memory.Upheld correction) (hat : correction.atMs ≤ nowMs)
    (hlive : correction.target ∈ memory.liveIds nowMs) :
    ∃ source ∈ memory.liveIds nowMs, correction.link source ∈ memory.links := by
  obtain ⟨source, -, -, hentries⟩ := h
  obtain ⟨entry, hentry, hid⟩ := List.mem_map.mp hlive
  obtain ⟨hmem, hexpires, -⟩ := mem_liveEntries.mp hentry
  obtain ⟨hlink, successor, hsuccessor, rfl, hcreated, hlonger⟩ := hentries entry hmem hid
  refine ⟨_, List.mem_map_of_mem (mem_liveEntries.mpr ⟨hsuccessor, ?_, ?_⟩), hlink⟩
  · exact hexpires.trans_le hlonger
  · rw [hcreated]
    exact hat

theorem Upheld.corrected (h : memory.Upheld correction) : Corrected primitives memory correction := by
  intro nowMs hat
  constructor
  · intro sourceNamespace actorId topic limit entry hentry hid
    obtain ⟨hlive, hcorrection, -⟩ := mem_contextFor hentry
    have htarget : correction.target ∈ memory.liveIds nowMs := by
      rw [← hid]
      exact List.mem_map_of_mem hlive
    obtain ⟨source, hsource, hlink⟩ := h.superseded hat htarget
    rw [hid] at hcorrection
    exact correctionOf_ne_none hlink rfl hat hsource hcorrection
  · intro query result hresult hid
    obtain ⟨entry, hlive, rfl⟩ := mem_relevantLinked hresult
    change entry.memoryId = correction.target at hid
    rw [hid] at hlive
    obtain ⟨source, hsource, hlink⟩ := h.superseded hat hlive
    exact linked_stale hlink rfl hat hsource hlive hid

/-! ## Runs -/

/-- **No resurrection of a corrected memory.**  Whatever is written, expires, is evicted or
shed after a write superseded a memory, no generation context contains the memory, and
linked recall shows it as stale. -/
theorem no_resurrection (primitives : MemoryPrimitives) {config : WorkingMemoryConfig}
    {pseudonymizer : ActorPseudonymizer} (h : new config pseudonymizer = .ok memory)
    (ops : List Op) :
    ∀ correction ∈ (machine primitives).watch observeCorrections memory [] ops,
      Corrected primitives ((machine primitives).run memory ops) correction := by
  have hinvariant : ((machine primitives).run memory ops).Sequenced ∧
      ∀ correction ∈ (machine primitives).watch observeCorrections memory [] ops,
        ((machine primitives).run memory ops).Upheld correction := by
    refine (machine primitives).watch_invariant
      (P := fun memory corrections ↦ memory.Sequenced ∧ ∀ c ∈ corrections, memory.Upheld c)
      ?_ ⟨new_sequenced h, fun _ hnone ↦ by cases hnone⟩ ops
    intro memory corrections op ⟨hs, hupheld⟩
    refine ⟨hs.perform op, fun correction hcorrection ↦ ?_⟩
    rcases mem_observeCorrections hcorrection with hold | ⟨⟨a, hanswer⟩, target, htarget, rfl⟩
    · exact (hupheld correction hold).perform hs op
    · exact hs.upheld_of_perform hanswer htarget
  intro correction hcorrection
  exact (hinvariant.2 correction hcorrection).corrected

end Store

/-- A claim of the engine, and another one that supersedes it. -/
def correctedClaim : List Op :=
  let permit (eventId claim : String) : MemoryWritePermit :=
    { eventId
      source := "engine"
      sourceClass := .system
      trustLevel := .trusted
      actorId := none
      decision := .allowedSystemSource
      sourceClaim := some claim }
  [.rememberDurable (permit "first" "Seven lives") "Seven lives" none 10,
    .rememberDurableSuperseding (permit "second" "Nine lives") "Nine lives" none 20 ["first"]]

theorem no_resurrection_correctedClaim :
    ∃ memory, new .default ⟨"v1", List.replicate 32 1⟩ = .ok memory ∧
      ⟨1, 20⟩ ∈ (machine .ascii).watch observeCorrections memory [] correctedClaim ∧
      Corrected .ascii ((machine .ascii).run memory correctedClaim) ⟨1, 20⟩ := by
  refine ⟨_, rfl, ?_, ?_⟩
  · decide +kernel
  · have hnew : new .default ⟨"v1", List.replicate 32 1⟩ = .ok _ := rfl
    apply no_resurrection .ascii hnew correctedClaim
    decide +kernel

end WorkingMemory

end Aivtuber
