import Aivtuber.Adaptation.WorkingMemory

/-!
# Runs of a working memory

What a host can do with a working memory: writes, and compactions.  An operation adds at
most the entry that it writes (`mem_perform_entries`).
-/

namespace Aivtuber

namespace WorkingMemory

inductive Op where
  | rememberWorking (event : EventEnvelope) (claim : String) (topic : Option String) (nowMs : Nat)
  | rememberDurable (permit : MemoryWritePermit) (claim : String) (topic : Option String)
      (nowMs : Nat)
  | rememberDurableSuperseding (permit : MemoryWritePermit) (claim : String)
      (topic : Option String) (nowMs : Nat) (supersedes : List String)
  | rememberDurableWithEvidence (permit : MemoryWritePermit) (claim : String)
      (topic : Option String) (nowMs : Nat) (evidence : MemoryEvidence)
  | compact (nowMs : Nat)

inductive Answer where
  | stored (entry : MemoryEntry)
  | compacted (record : MemoryCompactionRecord)

/-- A write, and its answer. -/
def answer (result : WorkingMemory × Except AdaptationError MemoryEntry) :
    WorkingMemory × Except AdaptationError Answer := (result.1, result.2.map .stored)

def perform (primitives : MemoryPrimitives) (memory : WorkingMemory) :
    Op → WorkingMemory × Except AdaptationError Answer
  | .rememberWorking event claim topic nowMs =>
    answer (memory.rememberWorking primitives event claim topic nowMs)
  | .rememberDurable permit claim topic nowMs =>
    answer (memory.rememberDurable primitives permit claim topic nowMs)
  | .rememberDurableSuperseding permit claim topic nowMs supersedes =>
    answer (memory.rememberDurableSuperseding primitives permit claim topic nowMs supersedes)
  | .rememberDurableWithEvidence permit claim topic nowMs evidence =>
    answer (memory.rememberDurableWithEvidence primitives permit claim topic nowMs evidence)
  | .compact nowMs =>
    let (memory, record) := memory.compact nowMs
    (memory, .ok (.compacted record))

def machine (primitives : MemoryPrimitives) :
    Machine WorkingMemory Op (Except AdaptationError Answer) := ⟨perform primitives⟩

abbrev MemoryEvent := Machine.Event WorkingMemory Op (Except AdaptationError Answer)

theorem answer_eq_ok {result : WorkingMemory × Except AdaptationError MemoryEntry} {a : Answer}
    (h : (answer result).2 = .ok a) : ∃ stored, result.2 = .ok stored := by
  obtain ⟨memory, error | stored⟩ := result
  · cases h
  · exact ⟨stored, rfl⟩

/-! ## What an operation adds -/

/-- The entry that an operation writes, if it is not refused. -/
def Writes (memory : WorkingMemory) (primitives : MemoryPrimitives) (entry : MemoryEntry) :
    Op → Prop
  | .rememberWorking event claim topic nowMs =>
    memory.entryFromEvent primitives event claim topic nowMs .working .workingOnly = .ok entry
  | .rememberDurable permit claim topic nowMs
  | .rememberDurableSuperseding permit claim topic nowMs _
  | .rememberDurableWithEvidence permit claim topic nowMs _ =>
    memory.entryFromPermit primitives permit claim topic nowMs = .ok entry
  | .compact _ => False

section Perform

variable {memory : WorkingMemory} {primitives : MemoryPrimitives} {entry other : MemoryEntry}

/-- What an operation does: nothing, or it drops what has expired, or it pushes its entry, and
may link what it stored. -/
theorem perform_cases (op : Op) :
    (perform primitives memory op).1 = memory ∨
      (∃ nowMs, (perform primitives memory op).1 = (memory.compact nowMs).1) ∨
      ∃ entry nowMs, memory.Writes primitives entry op ∧
        ((perform primitives memory op).1 = (memory.pushBounded entry nowMs).1 ∨
          ∃ id targets causes, (perform primitives memory op).1 =
            (memory.pushBounded entry nowMs).1.linkNewMemory primitives id entry.topic nowMs targets
              causes) := by
  have hdurable (permit : MemoryWritePermit) (claim : String) (topic : Option String) (nowMs : Nat)
      (evidence : MemoryEvidence) {after : WorkingMemory}
      (hafter : (memory.rememberDurableWithEvidence primitives permit claim topic nowMs
        evidence).1 = after) : after = memory ∨
      ∃ entry, memory.entryFromPermit primitives permit claim topic nowMs = .ok entry ∧
        (after = (memory.pushBounded entry nowMs).1 ∨ ∃ id targets causes, after =
          (memory.pushBounded entry nowMs).1.linkNewMemory primitives id entry.topic nowMs targets
            causes) := by
    subst hafter
    rcases rememberDurableWithEvidence_cases memory primitives nowMs permit claim topic evidence
      with ⟨hsame, -⟩ | ⟨entry, targets, causes, hprepared, ⟨hpushed, -⟩ | ⟨stored, -, hlinked⟩⟩
    · exact .inl hsame
    · exact .inr ⟨entry, (prepareDurable_eq_ok hprepared).2, .inl hpushed⟩
    · exact .inr ⟨entry, (prepareDurable_eq_ok hprepared).2, .inr ⟨_, _, _, hlinked⟩⟩
  cases op with
  | rememberWorking event claim topic nowMs =>
    cases hentry : memory.entryFromEvent primitives event claim topic nowMs .working
      .workingOnly with
    | error error =>
      left
      change (memory.rememberWorking primitives event claim topic nowMs).1 = memory
      rw [rememberWorking, hentry]
    | ok entry =>
      refine .inr (.inr ⟨entry, nowMs, hentry, .inl ?_⟩)
      change (memory.rememberWorking primitives event claim topic nowMs).1 = _
      rw [rememberWorking, hentry]
  | rememberDurable permit claim topic nowMs =>
    exact (hdurable _ _ _ _ _ rfl).imp_right fun ⟨entry, h⟩ ↦ .inr ⟨entry, nowMs, h⟩
  | rememberDurableSuperseding permit claim topic nowMs supersedes =>
    exact (hdurable _ _ _ _ _ rfl).imp_right fun ⟨entry, h⟩ ↦ .inr ⟨entry, nowMs, h⟩
  | rememberDurableWithEvidence permit claim topic nowMs evidence =>
    exact (hdurable _ _ _ _ _ rfl).imp_right fun ⟨entry, h⟩ ↦ .inr ⟨entry, nowMs, h⟩
  | compact nowMs => exact .inr (.inl ⟨nowMs, rfl⟩)

theorem perform_config (op : Op) : (perform primitives memory op).1.config = memory.config := by
  rcases perform_cases op with hsame | ⟨nowMs, hcompact⟩ |
    ⟨entry, nowMs, -, hpushed | ⟨id, targets, causes, hlinked⟩⟩
  · rw [hsame]
  · rw [hcompact, compact_config]
  · rw [hpushed, pushBounded_config]
  · rw [hlinked, linkNewMemory_config, pushBounded_config]

theorem mem_perform_entries {op : Op}
    (h : other ∈ (perform primitives memory op).1.entries) : other ∈ memory.entries ∨
      ∃ entry, memory.Writes primitives entry op ∧
        other = { entry with memoryId := memory.nextMemoryId } := by
  rcases perform_cases op with hsame | ⟨nowMs, hcompact⟩ |
    ⟨entry, nowMs, hwrites, hpushed | ⟨id, targets, causes, hlinked⟩⟩
  · rw [hsame] at h
    exact .inl h
  · rw [hcompact, compact_entries] at h
    exact .inl (mem_kept h).1
  · rw [hpushed] at h
    exact (mem_pushBounded_entries h).imp_right fun hnew ↦ ⟨entry, hwrites, hnew⟩
  · rw [hlinked, linkNewMemory_entries] at h
    exact (mem_pushBounded_entries h).imp_right fun hnew ↦ ⟨entry, hwrites, hnew⟩

/-- **What entries have in common.**  What holds of every entry that is written, under the
configuration of the store, holds of every retained one. -/
theorem forall_mem_run_entries {P : MemoryEntry → Prop} {ops : List Op}
    (hid : ∀ entry id, P entry → P { entry with memoryId := id })
    (hwritten : ∀ state : WorkingMemory, state.config = memory.config → ∀ op ∈ ops,
      ∀ entry, state.Writes primitives entry op → P entry)
    (h : ∀ entry ∈ memory.entries, P entry) :
    ∀ entry ∈ ((machine primitives).run memory ops).entries, P entry := by
  induction ops generalizing memory with
  | nil => exact h
  | cons op ops ih =>
    have hconfig : ((machine primitives).next memory op).config = memory.config :=
      perform_config op
    rw [Machine.run_cons]
    apply ih
    · intro state hstate later hlater
      exact hwritten state (hstate.trans hconfig) later (List.mem_cons_of_mem _ hlater)
    · intro other hother
      rcases mem_perform_entries hother with hold | ⟨entry, hentry, rfl⟩
      · exact h other hold
      · exact hid entry _ (hwritten memory rfl op List.mem_cons_self entry hentry)

end Perform

/-- A message of a viewer. -/
def viewerMessage (eventId : String) : EventEnvelope where
  schemaVersion := eventSchemaVersion
  eventId
  correlationId := "message"
  sequence := 2
  observedAt := "2026-01-01T00:00:00Z"
  source := "chat"
  sourceClass := .publicChat
  plane := .content
  trustLevel := .untrusted
  kind := .chatMessage
  actorId := some "viewer"
  priorityHint := none
  authorization := none
  payload := ∅

end WorkingMemory

end Aivtuber
