import Aivtuber.Adaptation.MemoryRun
import Aivtuber.Adaptation.Recall

/-!
# Memory in generation requests

`crates/app/src/memory_context.rs`: what is recalled for a generation request, and how much
of it fits (`boundedPrefix`).  The budget never breaks a request; but validation bounds the
labels of curated items, which nothing bounds where they are remembered, so that a recalled
item may break it after all.  `attach_memory_context` of the composition root then sends the
request without memory.
-/

open Aivtuber.Check Aivtuber.Text Saturating

namespace Aivtuber

def privacyForSource : SourceClass → PrivacyClass
  | .publicChat | .donation | .speech => .pseudonymous
  | .operator => .private
  | .game | .stream | .timer | .system => .public

/-- The first items that fit in what is left of the budget; larger ones than an item may be
are skipped. -/
def boundedPrefix {α : Type} (text : α → String) : List α → Nat → Nat → List α
  | [], _, _ => []
  | item :: content, usedBytes, taken =>
    if maxThinkingContextItems ≤ taken then []
    else if maxThinkingTextBytes < (text item).utf8ByteSize then
      boundedPrefix text content usedBytes taken
    else if maxThinkingContextBytes < satAdd usedBytes (text item).utf8ByteSize then []
    else item :: boundedPrefix text content (usedBytes + (text item).utf8ByteSize) (taken + 1)

def boundedContext (content : List ThinkingContent) (chargedBytes : Nat) : List ThinkingContent :=
  boundedPrefix ThinkingContent.text content chargedBytes 0

/-- A retained entry as request content. -/
def memoryContent (entry : MemoryEntry) : ThinkingContent where
  source := .memory
  eventId := some entry.source.eventId
  eventKind := none
  sourceClass := some entry.source.sourceClass
  trustLevel := entry.source.trustLevel
  privacy := privacyForSource entry.source.sourceClass
  epistemicClass := some entry.epistemicClass
  text := entry.normalizedClaim

def retainedMemoryContext (memory : WorkingMemory) (primitives : MemoryPrimitives)
    (sourceNamespace : String) (actorId topic : Option String) (nowMs chargedBytes : Nat) :
    List ThinkingContent :=
  let entries := memory.contextFor primitives sourceNamespace actorId topic maxThinkingContextItems
    nowMs
  boundedContext (entries.map memoryContent) chargedBytes

/-- A request with other curated content. -/
def ThinkingRequest.withCurated (request : ThinkingRequest) (content : List ThinkingContent) :
    ThinkingRequest := { request with curatedContext := content }

/-- A request with what is recalled for an event.  Curated content stays, and where validation
refuses what is recalled, there is none. -/
def attachMemoryContext (memory : WorkingMemory) (primitives : MemoryPrimitives)
    (event : EventEnvelope) (thinking : ThinkingRequest) (atMs : Nat) : ThinkingRequest :=
  if thinking.curatedContext ≠ [] then thinking
  else
    let topic := event.payload["topic"]?.bind JsonValue.asStr
    let context := retainedMemoryContext memory primitives event.source event.actorId topic atMs
      thinking.input.text.utf8ByteSize
    if context = [] then thinking
    else
      match (thinking.withCurated context).validate with
      | .ok _ => thinking.withCurated context
      | .error _ => thinking.withCurated []

/-! ## The budget -/

section Budget

variable {α : Type} {text : α → String} {content : List α} {item : α} {usedBytes taken : Nat}

theorem mem_boundedPrefix (h : item ∈ boundedPrefix text content usedBytes taken) :
    item ∈ content ∧ (text item).utf8ByteSize ≤ maxThinkingTextBytes := by
  induction content generalizing usedBytes taken with
  | nil => cases h
  | cons first content ih =>
    rw [boundedPrefix] at h
    split at h
    · cases h
    · split at h
      · exact (ih h).imp_left (List.mem_cons_of_mem _)
      · rename_i hbounded
        split at h
        · cases h
        · rcases List.mem_cons.mp h with rfl | hlater
          · exact ⟨List.mem_cons_self, Nat.le_of_not_lt hbounded⟩
          · exact (ih hlater).imp_left (List.mem_cons_of_mem _)

theorem length_boundedPrefix (h : taken ≤ maxThinkingContextItems) :
    taken + (boundedPrefix text content usedBytes taken).length ≤ maxThinkingContextItems := by
  induction content generalizing usedBytes taken with
  | nil => exact h
  | cons first content ih =>
    rw [boundedPrefix]
    split
    · exact h
    · split
      · exact ih h
      · split
        · exact h
        · rw [List.length_cons]
          have hrest : taken + 1 + (boundedPrefix text content
              (usedBytes + (text first).utf8ByteSize) (taken + 1)).length ≤
                maxThinkingContextItems := ih (by omega)
          omega

/-- The texts fit in the budget. -/
theorem bytes_boundedPrefix (h : usedBytes ≤ maxThinkingContextBytes) :
    usedBytes + ((boundedPrefix text content usedBytes taken).map fun item ↦
      (text item).utf8ByteSize).sum ≤ maxThinkingContextBytes := by
  induction content generalizing usedBytes taken with
  | nil => exact h
  | cons first content ih =>
    rw [boundedPrefix]
    split
    · exact h
    · split
      · exact ih h
      · split
        · exact h
        · rename_i hfits
          rw [Nat.not_lt] at hfits
          have hsum : usedBytes + (text first).utf8ByteSize ≤ maxThinkingContextBytes := by
            simp only [satAdd, u64Max, maxThinkingContextBytes] at hfits ⊢
            omega
          rw [List.map_cons, List.sum_cons, ← Nat.add_assoc]
          exact ih hsum

end Budget

/-! ## Requests with memory -/

section Recall

variable {memory : WorkingMemory} {primitives : MemoryPrimitives} {sourceNamespace : String}
  {actorId topic : Option String} {nowMs chargedBytes : Nat} {item : ThinkingContent}
  {request : ThinkingRequest}

/-- What validation asks of a recalled item beyond the budget. -/
structure Recallable (item : ThinkingContent) : Prop where
  label : ∀ id ∈ item.eventId, isLabel id = true
  text : item.text ≠ ""

theorem mem_retainedMemoryContext
    (h : item ∈ retainedMemoryContext memory primitives sourceNamespace actorId topic nowMs
      chargedBytes) :
    (∃ entry ∈ memory.entries, item = memoryContent entry) ∧
      item.text.utf8ByteSize ≤ maxThinkingTextBytes := by
  obtain ⟨hmem, hbounded⟩ := mem_boundedPrefix h
  obtain ⟨entry, hentry, rfl⟩ := List.mem_map.mp hmem
  exact ⟨⟨entry, (WorkingMemory.mem_liveEntries.mp
    (WorkingMemory.mem_contextFor hentry).1).1, rfl⟩, hbounded⟩

theorem curated_iff_recallable
    (h : item ∈ retainedMemoryContext memory primitives sourceNamespace actorId topic nowMs
      chargedBytes) : ThinkingRequest.Curated item ↔ Recallable item := by
  obtain ⟨⟨entry, -, rfl⟩, hbounded⟩ := mem_retainedMemoryContext h
  constructor
  · intro hcurated
    exact ⟨hcurated.label, hcurated.text⟩
  · intro hrecallable
    constructor
    · exact hrecallable.text
    · exact hbounded
    · exact hrecallable.label
    · intro hsource
      cases hsource
    · exact ⟨fun _ ↦ rfl, fun _ ↦ rfl⟩

theorem foldl_satAdd_eq {items : List ThinkingContent} {bytes : Nat}
    (h : bytes + (items.map fun item ↦ item.text.utf8ByteSize).sum ≤ u64Max) :
    items.foldl (fun total item ↦ satAdd total item.text.utf8ByteSize) bytes =
      bytes + (items.map fun item ↦ item.text.utf8ByteSize).sum := by
  induction items generalizing bytes with
  | nil => rfl
  | cons item items ih =>
    rw [List.map_cons, List.sum_cons, ← Nat.add_assoc] at h
    have hsum : satAdd bytes item.text.utf8ByteSize = bytes + item.text.utf8ByteSize :=
      Nat.min_eq_left ((Nat.le_add_right _ _).trans h)
    rw [List.foldl_cons, hsum, ih h, List.map_cons, List.sum_cons, Nat.add_assoc]

/-- The text of a valid request fits in the budget. -/
theorem ThinkingRequest.input_le (h : request.validate = .ok ()) :
    request.input.text.utf8ByteSize ≤ maxThinkingContextBytes := by
  simp only [ThinkingRequest.validate, unit_bind_eq_ok, ThinkingContent.validate, ensure_eq_ok,
    Bool.not_eq_true', Bool.or_eq_false_iff, decide_eq_false_iff_not] at h
  have hbounded := h.2.2.1.1.2
  rw [Nat.not_lt] at hbounded
  exact hbounded.trans (by decide)

/-- Validation of a request depends on the curated content through its items and bytes. -/
theorem ThinkingRequest.validate_withCurated (h : request.validate = .ok ())
    (content : List ThinkingContent) :
    (request.withCurated content).validate = .ok () ↔
      content.length ≤ maxThinkingContextItems ∧
      ∃ total, validateCurated request.input.text.utf8ByteSize content = .ok total ∧
        total ≤ maxThinkingContextBytes := by
  rw [validate_eq_ok] at h ⊢
  exact and_iff_right h.1

/-- **Recall within the budget.**  With what is recalled for it, a valid request is valid
exactly when every recalled item is labelled and has a text. -/
theorem validate_retained_iff (h : request.validate = .ok ()) :
    (request.withCurated (retainedMemoryContext memory primitives sourceNamespace actorId topic
      nowMs request.input.text.utf8ByteSize)).validate = .ok () ↔
    ∀ item ∈ retainedMemoryContext memory primitives sourceNamespace actorId topic nowMs
      request.input.text.utf8ByteSize, Recallable item := by
  have hbytes : request.input.text.utf8ByteSize + ((retainedMemoryContext memory primitives
      sourceNamespace actorId topic nowMs request.input.text.utf8ByteSize).map fun item ↦
        item.text.utf8ByteSize).sum ≤ maxThinkingContextBytes :=
    bytes_boundedPrefix (ThinkingRequest.input_le h)
  have hlength : (retainedMemoryContext memory primitives sourceNamespace actorId topic nowMs
      request.input.text.utf8ByteSize).length ≤ maxThinkingContextItems := by
    rw [← Nat.zero_add (List.length _)]
    exact length_boundedPrefix (Nat.zero_le _)
  rw [ThinkingRequest.validate_withCurated h]
  constructor
  · rintro ⟨-, total, hcurated, -⟩ item hitem
    exact (curated_iff_recallable hitem).mp ((ThinkingRequest.validateCurated_eq_ok.mp hcurated).1
      item hitem)
  · intro hrecallable
    refine ⟨hlength, _, ThinkingRequest.validateCurated_eq_ok.mpr ⟨fun item hitem ↦
      (curated_iff_recallable hitem).mpr (hrecallable item hitem), rfl⟩, ?_⟩
    rw [foldl_satAdd_eq (hbytes.trans (by decide))]
    exact hbytes

/-- What `attachMemoryContext` makes of a valid request is valid. -/
theorem validate_attachMemoryContext (h : request.validate = .ok ()) (event : EventEnvelope) :
    (attachMemoryContext memory primitives event request nowMs).validate = .ok () := by
  rw [attachMemoryContext]
  split
  case isTrue => exact h
  case isFalse hempty =>
    rw [ne_eq, not_not] at hempty
    dsimp only
    split
    case isTrue => exact h
    case isFalse =>
      split
      case h_1 hvalid => exact hvalid
      case h_2 =>
        rw [← hempty]
        exact h

/-! ## Runs -/

namespace WorkingMemory

/-- A permit for a source event. -/
structure IssuedFor (permit : MemoryWritePermit) (event : EventEnvelope) : Prop where
  eventId : permit.eventId = event.eventId
  source : permit.source = event.source
  sourceClass : permit.sourceClass = event.sourceClass
  trustLevel : permit.trustLevel = event.trustLevel
  actorId : permit.actorId = event.actorId
  sourceClaim : permit.sourceClaim = event.payload["text"]?.bind JsonValue.asStr

/-- What is written is taken from this event. -/
def Op.TakenFrom (event : EventEnvelope) : Op → Prop
  | .rememberWorking source _ _ _ => source = event
  | .rememberDurable permit _ _ _ | .rememberDurableSuperseding permit _ _ _ _
  | .rememberDurableWithEvidence permit _ _ _ _ => IssuedFor permit event
  | .compact _ => True

/-- The id of the event that is written. -/
def Op.eventId : Op → Option String
  | .rememberWorking source _ _ _ => some source.eventId
  | .rememberDurable permit _ _ _ | .rememberDurableSuperseding permit _ _ _ _
  | .rememberDurableWithEvidence permit _ _ _ _ => some permit.eventId
  | .compact _ => none

/-- What is written under an event carries its id and a claim, cut to the bound. -/
theorem writes_takenFrom {entry : MemoryEntry} {event : EventEnvelope} {op : Op}
    (h : memory.Writes primitives entry op) (hop : op.TakenFrom event) :
    entry.source.eventId = event.eventId ∧ op.eventId = some event.eventId ∧ ∃ claim, claim ≠ "" ∧
      entry.normalizedClaim = truncateUtf8 claim memory.config.maxClaimBytes := by
  have hpermit (permit : MemoryWritePermit) (claim : String) (topic : Option String) (nowMs : Nat)
      (hop : IssuedFor permit event)
      (h : memory.entryFromPermit primitives permit claim topic nowMs = .ok entry) :
      entry.source.eventId = event.eventId ∧ some permit.eventId = some event.eventId ∧
        ∃ claim, claim ≠ "" ∧
          entry.normalizedClaim = truncateUtf8 claim memory.config.maxClaimBytes := by
    rw [(newEntry_eq_ok h).2.1]
    exact ⟨hop.eventId, congrArg some hop.eventId, (newEntry_eq_ok h).2.2.1⟩
  cases op with
  | rememberWorking source claim topic nowMs =>
    cases hop
    have hsource := (newEntry_eq_ok h).2.1
    rw [hsource]
    exact ⟨rfl, rfl, (newEntry_eq_ok h).2.2.1⟩
  | rememberDurable permit claim topic nowMs => exact hpermit _ _ _ _ hop h
  | rememberDurableSuperseding permit claim topic nowMs supersedes => exact hpermit _ _ _ _ hop h
  | rememberDurableWithEvidence permit claim topic nowMs evidence => exact hpermit _ _ _ _ hop h
  | compact nowMs => cases h

/-- **Recall and requests.**  In every state of a run of writes from valid events, a valid request
stays valid with what is recalled for it exactly when every recalled item has an id within
the bound on labels and a text; so it does where the ids of events are labels and a claim is
never cut to nothing.  In any case, what is sent is valid. -/
theorem recall_sound (primitives : MemoryPrimitives) {config : WorkingMemoryConfig}
    {pseudonymizer : ActorPseudonymizer} (h : new config pseudonymizer = .ok memory)
    {ops : List Op} (hops : ∀ op ∈ ops, ∃ event, event.validate = .ok () ∧ op.TakenFrom event)
    {request : ThinkingRequest} (hrequest : request.validate = .ok ()) : let state := (machine primitives).run memory ops
    (∀ sourceNamespace actorId topic nowMs,
      let context := retainedMemoryContext state primitives sourceNamespace actorId topic nowMs
        request.input.text.utf8ByteSize
      ((request.withCurated context).validate = .ok () ↔ ∀ item ∈ context,
          (∀ id ∈ item.eventId, id.utf8ByteSize ≤ maxSnapshotStringBytes) ∧ item.text ≠ "") ∧
        (4 ≤ config.maxClaimBytes → (∀ op ∈ ops, ∀ id ∈ op.eventId,
            id.utf8ByteSize ≤ maxSnapshotStringBytes) →
          (request.withCurated context).validate = .ok ())) ∧
    ∀ event nowMs, (attachMemoryContext state primitives event request nowMs).validate = .ok () := by
  intro state
  have hconfig : memory.config = config := by
    obtain ⟨-, h⟩ := unit_bind_eq_ok.mp h
    cases h
    rfl
  have hnone : ∀ P : MemoryEntry → Prop, ∀ entry ∈ memory.entries, P entry := by
    obtain ⟨-, h⟩ := unit_bind_eq_ok.mp h
    cases h
    intro P entry hentry
    cases hentry
  have hids : ∀ entry ∈ state.entries, entry.source.eventId ≠ "" := by
    refine forall_mem_run_entries (fun _ _ hentry ↦ hentry) ?_ (hnone _)
    intro earlier _ op hop entry hentry
    obtain ⟨event, hevent, htaken⟩ := hops op hop
    rw [(writes_takenFrom hentry htaken).1]
    exact (EventEnvelope.validate_eq_ok.mp hevent).eventId
  refine ⟨fun sourceNamespace actorId topic nowMs ↦ ⟨?_, ?_⟩, ?_⟩
  · rw [validate_retained_iff hrequest]
    refine forall₂_congr fun item hitem ↦ ?_
    obtain ⟨⟨entry, hentry, rfl⟩, -⟩ := mem_retainedMemoryContext hitem
    have hid := hids entry hentry
    constructor
    · intro hrecallable
      refine ⟨fun id hmem ↦ ?_, hrecallable.text⟩
      have hlabel := hrecallable.label id hmem
      simp only [isLabel, Bool.not_eq_true', Bool.or_eq_false_iff, decide_eq_false_iff_not,
        Nat.not_lt] at hlabel
      exact hlabel.2
    · rintro ⟨hbounded, htext⟩
      refine ⟨fun id hmem ↦ ?_, htext⟩
      simp only [isLabel, Bool.not_eq_true', Bool.or_eq_false_iff, decide_eq_false_iff_not,
        Nat.not_lt]
      refine ⟨?_, hbounded id hmem⟩
      cases hmem
      exact hid
  · intro hclaims hlabels
    have hentries : ∀ entry ∈ state.entries, Recallable (memoryContent entry) := by
      refine forall_mem_run_entries (fun _ _ hentry ↦ hentry) ?_ (hnone _)
      intro earlier hearlier op hop entry hentry
      obtain ⟨event, hevent, htaken⟩ := hops op hop
      obtain ⟨hid, hnamed, claim, hclaim, htext⟩ := writes_takenFrom hentry htaken
      constructor
      · intro id hmem
        cases hmem
        simp only [isLabel, Bool.not_eq_true', Bool.or_eq_false_iff, decide_eq_false_iff_not,
          Nat.not_lt, hid]
        exact ⟨(EventEnvelope.validate_eq_ok.mp hevent).eventId, hlabels op hop _ hnamed⟩
      · change entry.normalizedClaim ≠ ""
        rw [htext, hearlier, hconfig]
        exact truncateUtf8_ne_empty hclaim hclaims
    refine (validate_retained_iff hrequest).mpr fun item hitem ↦ ?_
    obtain ⟨⟨entry, hentry, rfl⟩, -⟩ := mem_retainedMemoryContext hitem
    exact hentries entry hentry
  · intro event nowMs
    exact validate_attachMemoryContext hrequest event

end WorkingMemory

end Recall

namespace WorkingMemory

/-- A question of the viewer. -/
def question : ThinkingRequest :=
  .fromEvent (viewerMessage "question") "What?" .pseudonymous .default ⟨[]⟩ []

/-- A message under an id that is too long for a label. -/
def unlabelled : EventEnvelope := viewerMessage (String.ofList (List.replicate 257 'm'))

/-- The message is admitted, and what is recalled of it breaks the question. -/
theorem unlabelled_breaks : unlabelled.validate = .ok () ∧ question.validate = .ok () ∧
    ∃ memory, new .default ⟨"v1", List.replicate 32 1⟩ = .ok memory ∧
      (question.withCurated (retainedMemoryContext ((machine .clear).run memory
        [.rememberWorking unlabelled "Hello" none 10]) .clear "chat" (some "viewer") none 10
          question.input.text.utf8ByteSize)).validate ≠ .ok () := by
  refine ⟨by decide +kernel, by decide +kernel, _, rfl, ?_⟩
  decide +kernel

theorem recall_sound_viewerMessage : ∃ memory,
    new .default ⟨"v1", List.replicate 32 1⟩ = .ok memory ∧
      let state := (machine .clear).run memory
        [.rememberWorking (viewerMessage "message") "Hello" none 10]
      retainedMemoryContext state .clear "chat" (some "viewer") none 10 5 ≠ [] ∧
        (question.withCurated (retainedMemoryContext state .clear "chat" (some "viewer") none 10
          question.input.text.utf8ByteSize)).validate = .ok () := by
  refine ⟨_, rfl, ?_, ?_⟩
  · decide +kernel
  · have hnew : new .default ⟨"v1", List.replicate 32 1⟩ = .ok _ := rfl
    have hops : ∀ op ∈ [Op.rememberWorking (viewerMessage "message") "Hello" none 10],
        ∃ event, event.validate = .ok () ∧ op.TakenFrom event := by
      intro op hop
      rw [List.mem_singleton.mp hop]
      exact ⟨viewerMessage "message", by decide +kernel, rfl⟩
    have hquestion : question.validate = .ok () := by decide +kernel
    apply ((recall_sound .clear hnew hops hquestion).1 _ _ _ _).2 (by decide)
    intro op hop id hid
    rw [List.mem_singleton.mp hop] at hid
    cases hid
    decide

end WorkingMemory

end Aivtuber
