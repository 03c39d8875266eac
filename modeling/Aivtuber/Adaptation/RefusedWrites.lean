import Aivtuber.Adaptation.LinkGraph

/-!
# Refused writes

A write checks what it is given before it stores anything, so that a refusal leaves the store
as it was; and what an accepted write declares is linked once (`DeclaredOnce`).  At the end of
time alone does a write fail behind its checks: its entry is expired when it is stored, and
with it everything else (`refused_iff_inTime`).
-/

open Aivtuber.Check Saturating

namespace Aivtuber

namespace WorkingMemory

/-! ## What writes promise -/

/-- A link of this kind between the nodes. -/
def joins (source target : Nat) (kind : MemoryLinkKind) (link : MemoryLink) : Bool :=
  link.kind = kind && link.source = source && link.target = target

def touches (id : Nat) (link : MemoryLink) : Bool := link.source = id || link.target = id

/-- A write declares a relation of this kind to the node. -/
def Declares (memory : WorkingMemory) (evidence : MemoryEvidence) (nowMs : Nat)
    (kind : MemoryLinkKind) (target : Nat) : Prop :=
  (kind = .supersedes ∧ ∃ id ∈ evidence.supersedes,
    memory.resolveDeclaredTarget nowMs .supersession id = .ok target) ∨
  (kind = .causedBy ∧ ∃ id ∈ evidence.causedBy,
    memory.resolveDeclaredTarget nowMs .causal id = .ok target)

/-- Everything declared is a node, each that is retained has one link from the new node, and
the new node has no more links than one may have. -/
structure DeclaredOnce (memory post : WorkingMemory) (evidence : MemoryEvidence) (nowMs : Nat) :
    Prop where
  supersedes : ∀ id ∈ evidence.supersedes, ∃ target,
    memory.resolveDeclaredTarget nowMs .supersession id = .ok target
  causedBy : ∀ id ∈ evidence.causedBy, ∃ target,
    memory.resolveDeclaredTarget nowMs .causal id = .ok target
  once : ∀ kind target, memory.Declares evidence nowMs kind target → post.retains target = true →
    post.links.countP (joins memory.nextMemoryId target kind) = 1
  bounded : post.links.countP (touches memory.nextMemoryId) ≤ memory.config.maxLinksPerMemory

/-- A refusal changes nothing, unless the ids of nodes are used up; and what an accepted durable
write declares is linked once. -/
def RefusesWhole (e : MemoryEvent) : Prop :=
  (e.pre.nextMemoryId + 1 < 2 ^ 64 → (∃ error, e.output = .error error) → e.post = e.pre) ∧
    ∀ answer, e.output = .ok answer → ∀ evidence nowMs,
      e.input.declared = some (evidence, nowMs) → DeclaredOnce e.pre e.post evidence nowMs

/-- What a write is given passes its checks. -/
def Passes (memory : WorkingMemory) (primitives : MemoryPrimitives) : Op → Prop
  | .rememberWorking event claim topic nowMs =>
    ∃ entry, memory.entryFromEvent primitives event claim topic nowMs .working .workingOnly =
      .ok entry
  | .rememberDurable permit claim topic nowMs =>
    ∃ prepared, memory.prepareDurable primitives permit claim topic nowMs ⟨[], []⟩ = .ok prepared
  | .rememberDurableSuperseding permit claim topic nowMs supersedes =>
    ∃ prepared, memory.prepareDurable primitives permit claim topic nowMs ⟨supersedes, []⟩ =
      .ok prepared
  | .rememberDurableWithEvidence permit claim topic nowMs evidence =>
    ∃ prepared, memory.prepareDurable primitives permit claim topic nowMs evidence = .ok prepared
  | .compact _ => False

def Op.atMs : Op → Nat
  | .rememberWorking _ _ _ nowMs | .rememberDurable _ _ _ nowMs
  | .rememberDurableSuperseding _ _ _ nowMs _ | .rememberDurableWithEvidence _ _ _ nowMs _
  | .compact nowMs => nowMs

/-- A write with a node id to take that passes its checks comes before the end of time. -/
def InTime (primitives : MemoryPrimitives) (e : MemoryEvent) : Prop :=
  e.pre.nextMemoryId + 1 < 2 ^ 64 → e.pre.Passes primitives e.input → e.input.atMs < u64Max

section Step

variable {memory : WorkingMemory} {primitives : MemoryPrimitives} {entry stored : MemoryEntry}
  {link : MemoryLink} {nowMs : Nat} {permit : MemoryWritePermit} {claim : String}
  {topic : Option String} {evidence : MemoryEvidence} {targets causes : List Nat}

/-! ## Where writes fail -/

/-- A live entry is stored. -/
theorem pushBounded_isOk (hid : memory.nextMemoryId + 1 < 2 ^ 64)
    (hlive : nowMs < entry.expiresAtMs) (hbound : 0 < memory.config.maxEntries) :
    ∃ stored, (memory.pushBounded entry nowMs).2 = .ok stored := by
  have hcompacted : 0 < (memory.compact nowMs).1.config.maxEntries := by
    rw [compact_config]
    exact hbound
  rw [pushBounded_eq _ _ _ hid]
  dsimp only
  rw [kept_insertEntry hlive hcompacted, List.getLast?_concat]
  exact ⟨_, rfl⟩

/-- Writes fail to store their entry at the end of time. -/
theorem Sequenced.pushBounded_isOk_iff (hs : memory.Sequenced) (hentry : memory.Storable entry)
    (hid : memory.nextMemoryId + 1 < 2 ^ 64)
    (hexpires : nowMs < u64Max → nowMs < entry.expiresAtMs) :
    (∃ stored, (memory.pushBounded entry nowMs).2 = .ok stored) ↔ nowMs < u64Max := by
  constructor
  · rintro ⟨stored, hstored⟩
    exact hs.lt_max_of_pushBounded hentry hstored
  · intro hnow
    exact pushBounded_isOk hid (hexpires hnow) hs.maxEntries

/-- What is stored takes a node id. -/
theorem pushBounded_ne (hid : memory.nextMemoryId + 1 < 2 ^ 64) :
    (memory.pushBounded entry nowMs).1 ≠ memory := by
  intro hsame
  have hnext : (memory.pushBounded entry nowMs).1.nextMemoryId = memory.nextMemoryId + 1 :=
    pushBounded_nextMemoryId hid
  rw [hsame] at hnext
  omega

theorem lt_expiresAtMs {config : WorkingMemoryConfig} (hvalid : config.validate = .ok ())
    {retention : RetentionClass} (hexpires : entry.expiresAtMs = satAdd nowMs (config.ttlMs retention))
    (hnow : nowMs < u64Max) : nowMs < entry.expiresAtMs := by
  rw [hexpires, lt_satAdd_iff (Or.inr hnow)]
  exact Nat.lt_add_of_pos_right (ttlMs_pos hvalid retention)

/-- A write that stores its entry is accepted. -/
theorem rememberDurableWithEvidence_of_stored
    (hprepared : memory.prepareDurable primitives permit claim topic nowMs evidence =
      .ok (entry, targets, causes))
    (hpush : (memory.pushBounded entry nowMs).2 = .ok stored) :
    ∃ last, (memory.rememberDurableWithEvidence primitives permit claim topic nowMs evidence).2 =
      .ok last := by
  obtain ⟨hid, hlast⟩ := pushBounded_eq_ok hpush
  have hentries : (memory.pushBounded entry nowMs).1.entries.getLast? = some stored := by
    rw [pushBounded_eq _ _ _ hid]
    dsimp only
    rw [compact_entries, hlast]
  rw [rememberDurableWithEvidence, hprepared]
  cases hpushed : memory.pushBounded entry nowMs with
  | mk pushed result =>
    rw [hpushed] at hpush hentries
    cases hpush
    simp only [hpushed, linkNewMemory_entries]
    rw [hentries]
    exact ⟨_, rfl⟩

theorem rememberDurableWithEvidence_of_failed
    (hprepared : memory.prepareDurable primitives permit claim topic nowMs evidence =
      .ok (entry, targets, causes))
    (hpush : ¬ ∃ stored, (memory.pushBounded entry nowMs).2 = .ok stored) :
    (memory.rememberDurableWithEvidence primitives permit claim topic nowMs evidence).1 =
        (memory.pushBounded entry nowMs).1 ∧
      ∃ error, (memory.rememberDurableWithEvidence primitives permit claim topic nowMs
        evidence).2 = .error error := by
  rw [rememberDurableWithEvidence, hprepared]
  cases hpushed : memory.pushBounded entry nowMs with
  | mk pushed result =>
    rw [hpushed] at hpush
    cases result with
    | ok stored => exact absurd ⟨stored, rfl⟩ hpush
    | error error =>
      dsimp only
      exact ⟨by rw [hpushed], error, by rw [hpushed]⟩

/-! ## What accepted writes link -/

theorem resolveEvidence_resolves
    (h : memory.resolveEvidence nowMs evidence = .ok (targets, causes)) :
    (∀ id ∈ evidence.supersedes, ∃ target ∈ targets,
      memory.resolveDeclaredTarget nowMs .supersession id = .ok target) ∧
    ∀ id ∈ evidence.causedBy, ∃ target ∈ causes,
      memory.resolveDeclaredTarget nowMs .causal id = .ok target := by
  obtain ⟨-, h⟩ := unit_bind_eq_ok.mp h
  obtain ⟨⟨supersedes, budget⟩, hsupersedes, h⟩ := bind_eq_ok.mp h
  obtain ⟨⟨causedBy, rest⟩, hcausedBy, h⟩ := bind_eq_ok.mp h
  obtain ⟨found, hfound, h⟩ := bind_eq_ok.mp h
  obtain ⟨caused, hcaused, h⟩ := bind_eq_ok.mp h
  obtain ⟨-, h⟩ := unit_bind_eq_ok.mp h
  cases h
  constructor
  · intro id hid
    exact (resolveTargets_eq_ok hfound).2 id ((declareTargets_eq_ok hsupersedes).2 hid)
  · intro id hid
    exact (resolveTargets_eq_ok hcaused).2 id ((declareTargets_eq_ok hcausedBy).2 hid)

/-- What is declared is among the explicit links of a write. -/
theorem Declares.mem_evidenceLinks {kind : MemoryLinkKind} {target newId : Nat}
    (h : memory.Declares evidence nowMs kind target)
    (hevidence : memory.resolveEvidence nowMs evidence = .ok (targets, causes)) :
    (⟨newId, target, kind, nowMs⟩ : MemoryLink) ∈ evidenceLinks newId nowMs targets causes := by
  obtain ⟨hsupersedes, hcausedBy⟩ := resolveEvidence_resolves hevidence
  rcases h with ⟨rfl, id, hid, htarget⟩ | ⟨rfl, id, hid, htarget⟩
  · obtain ⟨found, hfound, hresolved⟩ := hsupersedes id hid
    rw [htarget] at hresolved
    cases hresolved
    exact List.mem_append_left _ (List.mem_map_of_mem hfound)
  · obtain ⟨found, hfound, hresolved⟩ := hcausedBy id hid
    rw [htarget] at hresolved
    cases hresolved
    exact List.mem_append_right _ (List.mem_map_of_mem hfound)

theorem length_newLinks_le (memory : WorkingMemory) (primitives : MemoryPrimitives) (newId : Nat)
    (topic : Option String) (nowMs : Nat) (supersedes causedBy : List Nat) :
    (memory.newLinks primitives newId topic nowMs supersedes causedBy).length ≤
      memory.config.maxLinksPerMemory := by
  dsimp only [newLinks]
  rw [List.length_append, List.length_map, List.length_take, List.length_take, List.length_append]
  omega

theorem linkNewMemory_links_sublist (memory : WorkingMemory) (primitives : MemoryPrimitives)
    (newId : Nat) (topic : Option String) (nowMs : Nat) (supersedes causedBy : List Nat) :
    (memory.linkNewMemory primitives newId topic nowMs supersedes causedBy).links.Sublist
      (memory.links ++ memory.newLinks primitives newId topic nowMs supersedes causedBy) :=
  ((shedDerived_sublist _ _).trans List.filter_sublist).trans foldl_pushLink_sublist

theorem joins_iff {source target : Nat} {kind : MemoryLinkKind} :
    joins source target kind link = true ↔
      link.kind = kind ∧ link.source = source ∧ link.target = target := by
  rw [joins, Bool.and_eq_true, Bool.and_eq_true, decide_eq_true_eq, decide_eq_true_eq,
    decide_eq_true_eq, and_assoc]

/-- A link of a graph is there once. -/
theorem LinkGraph.countP_eq_one (h : memory.LinkGraph) (hlink : link ∈ memory.links) :
    memory.links.countP (joins link.source link.target link.kind) = 1 := by
  have hfilter : link ∈ memory.links.filter (joins link.source link.target link.kind) :=
    List.mem_filter.mpr ⟨hlink, joins_iff.mpr ⟨rfl, rfl, rfl⟩⟩
  have hsame : ∀ other ∈ memory.links.filter (joins link.source link.target link.kind),
      SameLink other link := fun other hother ↦ joins_iff.mp (List.mem_filter.mp hother).2
  have hdistinct := h.distinct.filter (joins link.source link.target link.kind)
  rw [List.countP_eq_length_filter]
  -- two of them would be the same link
  cases hfound : memory.links.filter (joins link.source link.target link.kind) with
  | nil =>
    rw [hfound] at hfilter
    cases hfilter
  | cons first rest =>
    rw [hfound] at hsame hdistinct
    cases rest with
    | nil => rfl
    | cons second rest =>
      have hfirst := hsame first List.mem_cons_self
      have hsecond := hsame second (List.mem_cons_of_mem _ List.mem_cons_self)
      refine absurd ?_ ((List.pairwise_cons.mp hdistinct).1 second List.mem_cons_self)
      exact ⟨hfirst.1.trans hsecond.1.symm, hfirst.2.1.trans hsecond.2.1.symm,
        hfirst.2.2.trans hsecond.2.2.symm⟩

/-- What an accepted write declares is linked once, within the bound of a node. -/
theorem LinkGraph.declaredOnce (h : memory.LinkGraph) (hs : memory.Sequenced)
    (hanswer : (memory.rememberDurableWithEvidence primitives permit claim topic nowMs
      evidence).2 = .ok stored) :
    DeclaredOnce memory (memory.rememberDurableWithEvidence primitives permit claim topic nowMs
      evidence).1 evidence nowMs := by
  have hgraph : (memory.rememberDurableWithEvidence primitives permit claim topic nowMs
      evidence).1.LinkGraph := h.rememberDurableWithEvidence permit claim topic nowMs evidence hs
  rcases rememberDurableWithEvidence_cases memory primitives nowMs permit claim topic evidence with
    ⟨-, hrefused⟩ | ⟨entry, targets, causes, hprepared, ⟨-, hrefused⟩ | ⟨last, hpush, hlinked⟩⟩
  · exact absurd hanswer (hrefused stored)
  · exact absurd hanswer (hrefused stored)
  · obtain ⟨hevidence, hpermit⟩ := prepareDurable_eq_ok hprepared
    obtain ⟨hsupersedes, hcausedBy⟩ := resolveEvidence_resolves hevidence
    have hexpires := (newEntry_eq_ok hpermit).1.2.2
    obtain ⟨rfl, hstored⟩ := hs.pushBounded_eq (storable_of_newEntry hpermit) hexpires hpush
    constructor
    · intro id hid
      obtain ⟨target, -, hresolved⟩ := hsupersedes id hid
      exact ⟨target, hresolved⟩
    · intro id hid
      obtain ⟨target, -, hresolved⟩ := hcausedBy id hid
      exact ⟨target, hresolved⟩
    · intro kind target hdeclares hretained
      have hlink : (⟨memory.nextMemoryId, target, kind, nowMs⟩ : MemoryLink) ∈
          evidenceLinks memory.nextMemoryId nowMs targets causes :=
        hdeclares.mem_evidenceLinks hevidence
      have hheld := hs.held_of_accepted hanswer hevidence hlink
      refine hgraph.countP_eq_one (hheld.kept ?_ hretained)
      rw [hlinked, retains, linkNewMemory_entries]
      exact retains_of_mem hstored
    · rw [hlinked]
      have hold : (memory.pushBounded entry nowMs).1.links.countP
          (touches memory.nextMemoryId) = 0 := by
        refine List.countP_eq_zero.mpr fun link hlink htouches ↦ ?_
        obtain ⟨hsource, htarget⟩ := h.endpoints link (pushBounded_links_sublist.subset hlink)
        have hfrom := retains_lt hs hsource
        have hto := retains_lt hs htarget
        rw [touches, Bool.or_eq_true, decide_eq_true_eq, decide_eq_true_eq] at htouches
        omega
      refine ((linkNewMemory_links_sublist _ _ _ _ _ _ _).countP_le).trans ?_
      have hconfig : (memory.pushBounded entry nowMs).1.config = memory.config := pushBounded_config
      rw [List.countP_append, hold, Nat.zero_add, ← hconfig]
      exact List.countP_le_length.trans (length_newLinks_le _ _ _ _ _ _ _)

/-! ## Runs -/

theorem answer_eq_error {result : WorkingMemory × Except AdaptationError MemoryEntry}
    {error : AdaptationError} (h : (answer result).2 = .error error) :
    result.2 = .error error := by
  obtain ⟨post, refused | stored⟩ := result
  · cases h
    rfl
  · cases h

/-- Durable writes are refused as a whole, exactly where they come before the end of time. -/
theorem LinkGraph.refuses_durable_iff (h : memory.LinkGraph) (hs : memory.Sequenced)
    (hvalid : memory.config.validate = .ok ()) :
    let result := answer (memory.rememberDurableWithEvidence primitives permit claim topic nowMs
      evidence)
    ((memory.nextMemoryId + 1 < 2 ^ 64 → (∃ error, result.2 = .error error) → result.1 = memory) ∧
      ∀ a, result.2 = .ok a → DeclaredOnce memory result.1 evidence nowMs) ↔
    (memory.nextMemoryId + 1 < 2 ^ 64 →
      (∃ prepared, memory.prepareDurable primitives permit claim topic nowMs evidence =
        .ok prepared) → nowMs < u64Max) := by
  intro result
  constructor
  · rintro ⟨hrefused, -⟩ hid ⟨⟨entry, targets, causes⟩, hprepared⟩
    by_contra hlate
    have hstorable := storable_of_newEntry (prepareDurable_eq_ok hprepared).2
    have hfailed : ¬ ∃ stored, (memory.pushBounded entry nowMs).2 = .ok stored := by
      rintro ⟨stored, hstored⟩
      exact hlate (hs.lt_max_of_pushBounded hstorable hstored)
    obtain ⟨hsame, error, herror⟩ := rememberDurableWithEvidence_of_failed hprepared hfailed
    have hresult : result.2 = .error error := by
      change Except.map _ _ = _
      rw [herror]
      rfl
    have hunchanged := hrefused hid ⟨error, hresult⟩
    exact pushBounded_ne hid (hsame.symm.trans hunchanged)
  · intro hintime
    constructor
    · rintro hid ⟨error, herror⟩
      cases hprepared : memory.prepareDurable primitives permit claim topic nowMs evidence with
      | error refusal =>
        change (memory.rememberDurableWithEvidence primitives permit claim topic nowMs
          evidence).1 = memory
        rw [WorkingMemory.rememberDurableWithEvidence, hprepared]
      | ok prepared =>
        obtain ⟨entry, targets, causes⟩ := prepared
        have hpermit := (prepareDurable_eq_ok hprepared).2
        have hnow := hintime hid ⟨_, hprepared⟩
        obtain ⟨stored, hstored⟩ := pushBounded_isOk hid
          (lt_expiresAtMs hvalid (newEntry_eq_ok hpermit).1.2.2 hnow) hs.maxEntries
        obtain ⟨last, hlast⟩ := rememberDurableWithEvidence_of_stored hprepared hstored
        have hfailed := answer_eq_error herror
        rw [hlast] at hfailed
        cases hfailed
    · intro a hanswer
      obtain ⟨stored, hstored⟩ := answer_eq_ok hanswer
      exact h.declaredOnce hs hstored

theorem Sequenced.refuses_working_iff (hs : memory.Sequenced)
    (hvalid : memory.config.validate = .ok ()) (event : EventEnvelope) :
    let result := answer (memory.rememberWorking primitives event claim topic nowMs)
    (memory.nextMemoryId + 1 < 2 ^ 64 → (∃ error, result.2 = .error error) → result.1 = memory) ↔
    (memory.nextMemoryId + 1 < 2 ^ 64 →
      (∃ entry, memory.entryFromEvent primitives event claim topic nowMs .working .workingOnly =
        .ok entry) → nowMs < u64Max) := by
  intro result
  cases hentry : memory.entryFromEvent primitives event claim topic nowMs .working .workingOnly with
  | error refusal =>
    refine iff_of_true (fun _ _ ↦ ?_) (fun _ ⟨entry, hnone⟩ ↦ by cases hnone)
    change (memory.rememberWorking primitives event claim topic nowMs).1 = memory
    rw [WorkingMemory.rememberWorking, hentry]
  | ok entry =>
    have hpushed : memory.rememberWorking primitives event claim topic nowMs =
        memory.pushBounded entry nowMs := by
      rw [WorkingMemory.rememberWorking, hentry]
    have hresult : result = answer (memory.pushBounded entry nowMs) := congrArg answer hpushed
    have hstored (hid : memory.nextMemoryId + 1 < 2 ^ 64) :
        (∃ stored, (memory.pushBounded entry nowMs).2 = .ok stored) ↔ nowMs < u64Max :=
      hs.pushBounded_isOk_iff (storable_of_newEntry hentry) hid
        (lt_expiresAtMs hvalid (newEntry_eq_ok hentry).1.2.2)
    rw [hresult]
    constructor
    · intro hrefused hid _
      rw [← hstored hid]
      cases hanswer : (memory.pushBounded entry nowMs).2 with
      | ok stored => exact ⟨stored, rfl⟩
      | error error =>
        refine absurd (hrefused hid ⟨error, ?_⟩) (pushBounded_ne hid)
        change Except.map _ _ = _
        rw [hanswer]
        rfl
    · rintro hintime hid ⟨error, herror⟩
      obtain ⟨stored, hok⟩ := (hstored hid).mpr (hintime hid ⟨entry, rfl⟩)
      have hfailed := answer_eq_error herror
      rw [hok] at hfailed
      cases hfailed

theorem refusesWhole_iff (h : memory.LinkGraph) (hs : memory.Sequenced)
    (hvalid : memory.config.validate = .ok ()) (op : Op) :
    RefusesWhole ((machine primitives).event memory op) ↔
      InTime primitives ((machine primitives).event memory op) := by
  have hdurable (permit : MemoryWritePermit) (claim : String) (topic : Option String) (nowMs : Nat)
      (evidence : MemoryEvidence) : RefusesWhole ((machine primitives).event memory
        (.rememberDurableWithEvidence permit claim topic nowMs evidence)) ↔
      InTime primitives ((machine primitives).event memory
        (.rememberDurableWithEvidence permit claim topic nowMs evidence)) := by
    refine Iff.trans (and_congr_right fun _ ↦ ?_) (h.refuses_durable_iff hs hvalid)
    constructor
    · intro hdeclared a hanswer
      exact hdeclared a hanswer evidence nowMs rfl
    · intro honce a hanswer declared atMs hdeclared
      cases hdeclared
      exact honce a hanswer
  cases op with
  | rememberWorking event claim topic nowMs =>
    refine Iff.trans ?_ (hs.refuses_working_iff hvalid event)
    refine and_iff_left fun a _ declared atMs hdeclared ↦ ?_
    cases hdeclared
  | rememberDurable permit claim topic nowMs => exact hdurable permit claim topic nowMs ⟨[], []⟩
  | rememberDurableSuperseding permit claim topic nowMs supersedes =>
    exact hdurable permit claim topic nowMs ⟨supersedes, []⟩
  | rememberDurableWithEvidence permit claim topic nowMs evidence =>
    exact hdurable permit claim topic nowMs evidence
  | compact nowMs =>
    refine iff_of_true ⟨fun _ ⟨error, herror⟩ ↦ ?_, fun a _ declared atMs hdeclared ↦ ?_⟩ ?_
    · cases herror
    · cases hdeclared
    · intro _ hnone
      cases hnone

/-- **Refused writes.**  In every run, every refusal leaves the store as it was, and accepted
writes link what they declare once, exactly when every write that passes its checks comes
before the end of time. -/
theorem refused_iff_inTime (primitives : MemoryPrimitives) {config : WorkingMemoryConfig}
    {pseudonymizer : ActorPseudonymizer} (h : new config pseudonymizer = .ok memory)
    (ops : List Op) :
    (machine primitives).Meets (fun _ _ ↦ ()) (fun _ e ↦ RefusesWhole e) memory () ops ↔
      (machine primitives).Meets (fun _ _ ↦ ()) (fun _ e ↦ InTime primitives e) memory () ops := by
  have hvalid : memory.config.validate = .ok () := by
    obtain ⟨hvalid, hnew⟩ := unit_bind_eq_ok.mp h
    cases hnew
    exact hvalid
  refine (machine primitives).meets_congr_of_watch
    (P := fun memory _ ↦ memory.config.validate = .ok () ∧ memory.Sequenced ∧ memory.LinkGraph)
    ?_ ?_ ⟨hvalid, new_sequenced h, new_linkGraph h⟩ ops
  · intro state _ op ⟨hvalid, hs, hgraph⟩ _
    refine ⟨?_, hs.perform op, hgraph.perform hs op⟩
    rw [show ((machine primitives).next state op).config = state.config from perform_config op]
    exact hvalid
  · intro state _ op ⟨hvalid, hs, hgraph⟩
    exact refusesWhole_iff hgraph hs hvalid op

end Step

/-- A message of the viewer, and one at the end of time. -/
def lastWords : List Op :=
  [.rememberWorking (viewerMessage "message") "Hello" none 10,
    .rememberWorking (viewerMessage "goodbye") "Goodbye" none u64Max]

/-- The last write is refused, takes a node id and leaves nothing of the store. -/
theorem lastWords_empty_store : ∃ memory,
    new .default ⟨"v1", List.replicate 32 1⟩ = .ok memory ∧
      let before := (machine .clear).run memory (lastWords.take 1)
      let after := (machine .clear).run memory lastWords
      ((machine .clear).outputs memory lastWords).map Except.isOk = [true, false] ∧
        before.nextMemoryId = 2 ∧ after.nextMemoryId = 3 ∧
          before.entries.length = 1 ∧ after.entries = [] ∧ after.compactions.length = 2 := by
  refine ⟨_, rfl, ?_⟩
  decide +kernel

theorem refused_iff_inTime_correctedClaim :
    ∃ memory, new .default ⟨"v1", List.replicate 32 1⟩ = .ok memory ∧
      (machine .ascii).Meets (fun _ _ ↦ ()) (fun _ e ↦ RefusesWhole e) memory () correctedClaim := by
  refine ⟨_, rfl, ?_⟩
  have hnew : new .default ⟨"v1", List.replicate 32 1⟩ = .ok _ := rfl
  refine (refused_iff_inTime .ascii hnew correctedClaim).mpr ⟨fun _ _ ↦ ?_, fun _ _ ↦ ?_, trivial⟩
  · decide
  · decide

end WorkingMemory

end Aivtuber
