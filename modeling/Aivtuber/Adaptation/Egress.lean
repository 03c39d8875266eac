import Aivtuber.Adaptation.MemoryRun
import Aivtuber.Adaptation.Recall

/-!
# What a generation may see

`context_for` shows a speaker the shared claims of the stream and the speaker's own
(`Scoped`).  An operator's record is nobody's to see; but a speaker who is its author sees
it all the same (`context_scoped_iff`), so that it stays private only where operators are
not named.
-/

namespace Aivtuber

namespace WorkingMemory

/-- What a context for a speaker may contain. -/
structure Scoped (memory : WorkingMemory) (primitives : MemoryPrimitives) (sourceNamespace : String)
    (actorId : Option String) (entry : MemoryEntry) : Prop where
  /-- Nothing is attributed to somebody else. -/
  owner : ∀ owner ∈ entry.source.pseudonymousActorId,
    actorId.map (memory.pseudonymizer.pseudonymize primitives sourceNamespace) = some owner
  /-- Where a pseudonym stands for the speaker alone, its actor is the speaker. -/
  actor : (∀ speaker ∈ actorId,
      memory.pseudonymizer.DistinguishesActor primitives sourceNamespace speaker) →
    ∀ otherNamespace other, entry.source.pseudonymousActorId =
        some (memory.pseudonymizer.pseudonymize primitives otherNamespace other) →
      otherNamespace = sourceNamespace ∧ actorId = some other
  /-- Somebody's words are the speaker's. -/
  personal : entry.source.sourceClass = .publicChat ∨ entry.source.sourceClass = .donation →
    ∃ speaker ∈ actorId, entry.source.pseudonymousActorId =
      some (memory.pseudonymizer.pseudonymize primitives sourceNamespace speaker)
  /-- An operator's record is private. -/
  operator : entry.source.sourceClass ≠ .operator

/-- The speaker is the author of a live record of an operator that nothing supersedes. -/
def OwnsOperatorRecord (memory : WorkingMemory) (primitives : MemoryPrimitives)
    (sourceNamespace : String) (actorId : Option String) (nowMs : Nat) : Prop :=
  ∃ entry ∈ memory.liveEntries nowMs, memory.correctionOf nowMs entry.memoryId = none ∧
    entry.source.sourceClass = .operator ∧ ∃ speaker ∈ actorId,
      entry.source.pseudonymousActorId =
        some (memory.pseudonymizer.pseudonymize primitives sourceNamespace speaker)

section Scope

variable {memory : WorkingMemory} {primitives : MemoryPrimitives} {sourceNamespace : String}
  {actorId topic : Option String} {limit nowMs : Nat} {entry : MemoryEntry}

/-- Either the speaker is the owner, or the claim is shared and has none. -/
theorem inScope_cases {actorScope : Option String} (h : inScope actorScope entry = true) :
    (∃ owner, entry.source.pseudonymousActorId = some owner ∧ actorScope = some owner) ∨
      entry.source.pseudonymousActorId = none ∧
        sourceClassIsShared entry.source.sourceClass = true := by
  rw [inScope] at h
  simp only [Bool.or_eq_true, Bool.and_eq_true, decide_eq_true_eq] at h
  cases howner : entry.source.pseudonymousActorId with
  | none =>
    rcases h with ⟨hsome, hsame⟩ | ⟨hshared, -⟩
    · rw [← hsame, howner] at hsome
      cases hsome
    · exact Or.inr ⟨rfl, hshared⟩
  | some owner =>
    refine Or.inl ⟨owner, rfl, ?_⟩
    rcases h with ⟨-, hsame⟩ | ⟨-, hnone | hsame⟩
    · rw [← hsame, howner]
    · rw [howner] at hnone
      cases hnone
    · rw [hsame, howner]

/-- A claim in the scope of a speaker is scoped, unless it is an operator's record. -/
theorem scoped_of_inScope
    (h : inScope (actorId.map (memory.pseudonymizer.pseudonymize primitives sourceNamespace))
      entry = true)
    (hoperator : entry.source.sourceClass ≠ .operator) :
    memory.Scoped primitives sourceNamespace actorId entry := by
  rcases inScope_cases h with ⟨owner, howner, hscope⟩ | ⟨hnone, hshared⟩
  · obtain ⟨speaker, rfl, rfl⟩ := Option.map_eq_some_iff.mp hscope
    constructor
    · intro other hother
      rw [howner] at hother
      rw [hscope]
      exact hother
    · intro hdistinct otherNamespace other hother
      rw [howner, Option.some_inj] at hother
      obtain ⟨hnamespace, hactor⟩ := hdistinct speaker rfl otherNamespace other hother.symm
      exact ⟨hnamespace, congrArg some hactor.symm⟩
    · intro _
      exact ⟨speaker, rfl, howner⟩
    · exact hoperator
  · constructor
    · intro other hother
      rw [hnone] at hother
      cases hother
    · intro _ otherNamespace other hother
      rw [hnone] at hother
      cases hother
    · rintro (hchat | hdonation)
      · rw [hchat] at hshared
        cases hshared
      · rw [hdonation] at hshared
        cases hshared
    · exact hoperator

/-- An operator's record is in the scope of its author alone. -/
theorem inScope_operator (hoperator : entry.source.sourceClass = .operator) :
    inScope (actorId.map (memory.pseudonymizer.pseudonymize primitives sourceNamespace))
      entry = true ↔ ∃ speaker ∈ actorId, entry.source.pseudonymousActorId =
        some (memory.pseudonymizer.pseudonymize primitives sourceNamespace speaker) := by
  constructor
  · intro h
    rcases inScope_cases h with ⟨owner, howner, hscope⟩ | ⟨-, hshared⟩
    · obtain ⟨speaker, hspeaker, rfl⟩ := Option.map_eq_some_iff.mp hscope
      exact ⟨speaker, hspeaker, howner⟩
    · rw [hoperator] at hshared
      cases hshared
  · rintro ⟨speaker, hspeaker, howner⟩
    rw [Option.mem_def] at hspeaker
    simp only [inScope, hspeaker, howner, Option.map_some, Option.isSome_some, decide_true,
      Bool.and_self, Bool.true_or]

theorem exists_not_scoped {context : List MemoryEntry}
    (h : ∃ entry ∈ context, entry.source.sourceClass = .operator) :
    ∃ entry ∈ context, ¬ memory.Scoped primitives sourceNamespace actorId entry := by
  obtain ⟨entry, hentry, hoperator⟩ := h
  exact ⟨entry, hentry, fun hscoped ↦ hscoped.operator hoperator⟩

/-- **What a context leaks.**  The contexts for a speaker are scoped exactly when the speaker is
not the author of an operator's record. -/
theorem context_scoped_iff :
    (∀ limit, ∀ entry ∈ memory.contextFor primitives sourceNamespace actorId topic limit nowMs,
      memory.Scoped primitives sourceNamespace actorId entry) ↔
    ¬ memory.OwnsOperatorRecord primitives sourceNamespace actorId nowMs := by
  constructor
  · rintro hscoped ⟨entry, hlive, hcurrent, hoperator, hauthor⟩
    have hscope := (inScope_operator hoperator).mpr hauthor
    have hmem : entry ∈ memory.contextFor primitives sourceNamespace actorId topic
        (memory.entries.length + 1) nowMs :=
      mem_contextFor_of_length (Nat.lt_succ_self _) hlive hcurrent hscope
    exact (hscoped _ entry hmem).operator hoperator
  · intro hnone limit entry hentry
    obtain ⟨hlive, hcurrent, hscope⟩ := mem_contextFor hentry
    apply scoped_of_inScope hscope
    intro hoperator
    exact hnone ⟨entry, hlive, hcurrent, hoperator, (inScope_operator hoperator).mp hscope⟩

/-! ## Runs -/

/-- Who an operation writes for. -/
def Op.author : Op → Option (SourceClass × Option String)
  | .rememberWorking event _ _ _ => some (event.sourceClass, event.actorId)
  | .rememberDurable permit _ _ _ | .rememberDurableSuperseding permit _ _ _ _
  | .rememberDurableWithEvidence permit _ _ _ _ => some (permit.sourceClass, permit.actorId)
  | .compact _ => none

/-- The author of what is written. -/
theorem author_of_writes {op : Op} (h : memory.Writes primitives entry op) :
    ∃ actorId source, op.author = some (entry.source.sourceClass, actorId) ∧
      entry.source.pseudonymousActorId =
        actorId.map (memory.pseudonymizer.pseudonymize primitives source) := by
  have hpermit (permit : MemoryWritePermit) (claim : String) (topic : Option String) (nowMs : Nat)
      (h : memory.entryFromPermit primitives permit claim topic nowMs = .ok entry) :
      ∃ actorId source, some (permit.sourceClass, permit.actorId) =
          some (entry.source.sourceClass, actorId) ∧
        entry.source.pseudonymousActorId =
          actorId.map (memory.pseudonymizer.pseudonymize primitives source) := by
    rw [(newEntry_eq_ok h).2.1]
    exact ⟨permit.actorId, permit.source, rfl, rfl⟩
  cases op with
  | rememberWorking event claim topic nowMs =>
    have hsource := (newEntry_eq_ok h).2.1
    rw [hsource]
    exact ⟨event.actorId, event.source, rfl, rfl⟩
  | rememberDurable permit claim topic nowMs => exact hpermit _ _ _ _ h
  | rememberDurableSuperseding permit claim topic nowMs supersedes => exact hpermit _ _ _ _ h
  | rememberDurableWithEvidence permit claim topic nowMs evidence => exact hpermit _ _ _ _ h
  | compact nowMs => cases h

/-- Where no operation writes for an operator by name, no retained record is one's. -/
theorem not_ownsOperatorRecord {config : WorkingMemoryConfig} {pseudonymizer : ActorPseudonymizer}
    (h : new config pseudonymizer = .ok memory) {ops : List Op}
    (hops : ∀ op ∈ ops, ∀ actorId, op.author = some (.operator, actorId) → actorId = none) :
    ¬ ((machine primitives).run memory ops).OwnsOperatorRecord primitives sourceNamespace actorId
      nowMs := by
  have hentries : ∀ entry ∈ ((machine primitives).run memory ops).entries,
      entry.source.sourceClass = .operator → entry.source.pseudonymousActorId = none := by
    refine forall_mem_run_entries (fun _ _ hentry ↦ hentry) ?_ ?_
    · intro state _ op hop entry hentry hoperator
      obtain ⟨author, source, hauthor, hpseudonym⟩ := author_of_writes hentry
      rw [hoperator] at hauthor
      rw [hpseudonym, hops op hop author hauthor, Option.map_none]
    · obtain ⟨-, h⟩ := Aivtuber.Check.unit_bind_eq_ok.mp h
      cases h
      intro entry hentry
      cases hentry
  rintro ⟨entry, hlive, -, hoperator, speaker, -, howner⟩
  rw [hentries entry (mem_liveEntries.mp hlive).1 hoperator] at howner
  cases howner

/-- **The scope of a context.**  In every state of a run, the contexts for a speaker are scoped
exactly when the speaker is not the author of an operator's record, hence for all speakers
where no operator is named. -/
theorem egress_scoped (primitives : MemoryPrimitives) {config : WorkingMemoryConfig}
    {pseudonymizer : ActorPseudonymizer} (h : new config pseudonymizer = .ok memory)
    (ops : List Op) : let state := (machine primitives).run memory ops
    (∀ sourceNamespace actorId topic nowMs,
      (∀ limit, ∀ entry ∈ state.contextFor primitives sourceNamespace actorId topic limit nowMs,
        state.Scoped primitives sourceNamespace actorId entry) ↔
      ¬ state.OwnsOperatorRecord primitives sourceNamespace actorId nowMs) ∧
    ((∀ op ∈ ops, ∀ actorId, op.author = some (.operator, actorId) → actorId = none) →
      ∀ sourceNamespace actorId topic limit nowMs,
        ∀ entry ∈ state.contextFor primitives sourceNamespace actorId topic limit nowMs,
          state.Scoped primitives sourceNamespace actorId entry) := by
  intro state
  constructor
  · intro sourceNamespace actorId topic nowMs
    exact context_scoped_iff
  · intro hops sourceNamespace actorId topic limit nowMs
    exact context_scoped_iff.mpr (not_ownsOperatorRecord h hops) limit

end Scope

/-- A note of a named operator. -/
def operatorNote : EventEnvelope where
  schemaVersion := eventSchemaVersion
  eventId := "note"
  correlationId := "note"
  sequence := 1
  observedAt := "2026-01-01T00:00:00Z"
  source := "console"
  sourceClass := .operator
  plane := .control
  trustLevel := .trusted
  kind := .operatorCommand
  actorId := some "operator"
  priorityHint := none
  authorization := some ⟨"operator", .operatorUi, {.memoryAdmin}⟩
  payload := ∅

/-- The note of an operator is shown to the operator. -/
theorem operatorNote_shown : operatorNote.validate = .ok () ∧
    ∃ memory, new .default ⟨"v1", List.replicate 32 1⟩ = .ok memory ∧
      let state := (machine .clear).run memory [.rememberWorking operatorNote "Stay out" none 10]
      state.pseudonymizer.DistinguishesActor .clear "console" "operator" ∧
        ∃ entry ∈ state.contextFor .clear "console" (some "operator") none 12 10,
          ¬ state.Scoped .clear "console" (some "operator") entry := by
  refine ⟨by decide +kernel, _, rfl, ?_, ?_⟩
  · exact ActorPseudonymizer.distinguishesActor (MemoryPrimitives.clear_injective _) (by decide)
  · apply exists_not_scoped
    decide +kernel

theorem egress_scoped_viewerMessage :
    ∃ memory, new .default ⟨"v1", List.replicate 32 1⟩ = .ok memory ∧
      let state := (machine .clear).run memory
        [.rememberWorking (viewerMessage "message") "Hello" none 10]
      state.pseudonymizer.DistinguishesActor .clear "chat" "viewer" ∧
        state.contextFor .clear "chat" (some "viewer") none 12 10 ≠ [] ∧
        ∀ entry ∈ state.contextFor .clear "chat" (some "viewer") none 12 10,
          state.Scoped .clear "chat" (some "viewer") entry := by
  refine ⟨_, rfl, ?_, ?_, ?_⟩
  · exact ActorPseudonymizer.distinguishesActor (MemoryPrimitives.clear_injective _) (by decide)
  · decide +kernel
  · have hnew : new .default ⟨"v1", List.replicate 32 1⟩ = .ok _ := rfl
    apply (egress_scoped .clear hnew [.rememberWorking (viewerMessage "message") "Hello" none 10]).2
    intro op hop actorId hauthor
    rw [List.mem_singleton.mp hop] at hauthor
    cases hauthor

end WorkingMemory

end Aivtuber
