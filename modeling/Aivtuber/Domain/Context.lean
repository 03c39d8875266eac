import Aivtuber.Domain.Event

/-!
# Request contexts

The requests of `crates/domain/src/context.rs` and their validation: what the reflex is asked
about an event, and what a generation is asked to think about, with the curated content
that it may draw on.  A generation request is accepted exactly when it is `WellFormed`.
-/

open Aivtuber.Check Saturating

namespace Aivtuber

def reflexRequestSchemaVersion : String := "0.1.0"
def reflexContextSchemaVersion : String := "0.1.0"
def thinkingRequestSchemaVersion : String := "0.1.0"

def maxSnapshotStringBytes : Nat := 256
def maxRecentItems : Nat := 8
def maxRetrievalCandidates : Nat := 8
def maxThinkingContextItems : Nat := 12
def maxThinkingTextBytes : Nat := 4 * 1024
def maxThinkingContextBytes : Nat := 8 * 1024

/-! ## Labels and ranges -/

/-- A label has some bytes, but not too many. -/
def isLabel (value : String) : Bool :=
  !(value = "" || maxSnapshotStringBytes < value.utf8ByteSize)

def validateLabel (field value : String) : Except DomainValidationError Unit :=
  ensure ⟨field, "must contain 1..=256 UTF-8 bytes"⟩ (isLabel value)

def validateOptionalLabel (field : String) (value : Option String) :
    Except DomainValidationError Unit :=
  match value with
  | some value => validateLabel field value
  | none => .ok ()

/-- Distinct labels. -/
def validateDistinctLabels (field : String) :
    List String → List String → Except DomainValidationError Unit
  | _, [] => .ok ()
  | unique, value :: values => do
    validateLabel field value
    ensure ⟨field, "items must be unique"⟩ (value ∉ unique)
    validateDistinctLabels field (value :: unique) values

def validateBoundedLabels (field : String) (values : List String) (maxItems : Nat) :
    Except DomainValidationError Unit := do
  ensure ⟨field, "must contain at most " ++ toString maxItems ++ " items"⟩
    (values.length ≤ maxItems)
  validateDistinctLabels field [] values

def Float64.liesIn (min max : Int) : Float64 → Bool
  | .finite value => min ≤ value && value ≤ max
  | .infinite _ | .nan => false

def validateRange (field : String) (value : Float64) (min max : Int) :
    Except DomainValidationError Unit :=
  ensure ⟨field, "must be finite and in " ++ toString min ++ "..=" ++ toString max⟩
    (value.liesIn min max)

def validateOptionalRange (field : String) (value : Option Float64) (min max : Int) :
    Except DomainValidationError Unit :=
  match value with
  | some value => validateRange field value min max
  | none => .ok ()

/-! ## Snapshots -/

structure PerformerSnapshot where
  currentlySpeaking : Bool
  currentAssetId : Option String
  currentInterruptible : Bool
  moodValence : Option Float64
  arousal : Option Float64
deriving DecidableEq

def PerformerSnapshot.validate (performer : PerformerSnapshot) :
    Except DomainValidationError Unit := do
  validateOptionalLabel "performer.current_asset_id" performer.currentAssetId
  validateOptionalRange "performer.mood_valence" performer.moodValence (-1) 1
  validateOptionalRange "performer.arousal" performer.arousal 0 1

structure StreamSnapshot where
  mode : Option String
  topic : Option String
deriving DecidableEq

def StreamSnapshot.validate (stream : StreamSnapshot) : Except DomainValidationError Unit := do
  validateOptionalLabel "stream.mode" stream.mode
  validateOptionalLabel "stream.topic" stream.topic

structure RecentInteractionSnapshot where
  reactionFamilies : List String
  assetIds : List String
  secondsSinceDirectReply : Option Float64
deriving DecidableEq

def Float64.nonNegative : Float64 → Bool
  | .finite value => 0 ≤ value
  | .infinite _ | .nan => false

def RecentInteractionSnapshot.validate (recent : RecentInteractionSnapshot) :
    Except DomainValidationError Unit := do
  validateBoundedLabels "recent.reaction_families" recent.reactionFamilies maxRecentItems
  validateBoundedLabels "recent.asset_ids" recent.assetIds maxRecentItems
  ensure ⟨"recent.seconds_since_direct_reply", "must be finite and non-negative"⟩
    (recent.secondsSinceDirectReply.all Float64.nonNegative)

/-- A retrieved asset, by rank from one. -/
structure RetrievalCandidateContext where
  assetId : String
  rank : Nat
  similarity : Float64
deriving DecidableEq

def RetrievalCandidateContext.validate (candidate : RetrievalCandidateContext) :
    Except DomainValidationError Unit := do
  validateLabel "retrieval.candidates.asset_id" candidate.assetId
  ensure ⟨"retrieval.candidates.rank", "must be greater than zero"⟩ (candidate.rank ≠ 0)
  validateRange "retrieval.candidates.similarity" candidate.similarity (-1) 1

structure RetrievalSnapshot where
  candidates : List RetrievalCandidateContext
deriving DecidableEq

/-- Distinct assets, in the order of their ranks. -/
def validateRanked : List String → Nat → List RetrievalCandidateContext →
    Except DomainValidationError Unit
  | _, _, [] => .ok ()
  | ids, index, candidate :: candidates => do
    candidate.validate
    ensure ⟨"retrieval.candidates", "asset ids must be unique"⟩ (candidate.assetId ∉ ids)
    ensure ⟨"retrieval.candidates.rank", "must be contiguous and ordered from 1; expected " ++
        toString (index + 1)⟩
      (candidate.rank = index + 1)
    validateRanked (candidate.assetId :: ids) (index + 1) candidates

def RetrievalSnapshot.validate (retrieval : RetrievalSnapshot) :
    Except DomainValidationError Unit := do
  ensure ⟨"retrieval.candidates", "must contain at most 8 candidates"⟩
    (retrieval.candidates.length ≤ maxRetrievalCandidates)
  validateRanked [] 0 retrieval.candidates

structure ReflexContext where
  schemaVersion : String
  performer : PerformerSnapshot
  stream : StreamSnapshot
  recent : RecentInteractionSnapshot
  nowMs : Option Nat
deriving DecidableEq

namespace ReflexContext

def default : ReflexContext where
  schemaVersion := reflexContextSchemaVersion
  performer :=
    { currentlySpeaking := false
      currentAssetId := none
      currentInterruptible := false
      moodValence := none
      arousal := none }
  stream := { mode := none, topic := none }
  recent := { reactionFamilies := [], assetIds := [], secondsSinceDirectReply := none }
  nowMs := none

def validate (context : ReflexContext) : Except DomainValidationError Unit := do
  ensure ⟨"context.schema_version", "expected 0.1.0"⟩
    (context.schemaVersion = reflexContextSchemaVersion)
  context.performer.validate
  context.stream.validate
  context.recent.validate

example : default.validate = .ok () := by decide

end ReflexContext

/-! ## Generation requests -/

inductive PrivacyClass where
  | «public» | pseudonymous | «private»
deriving DecidableEq, Repr

inductive ThinkingContextSource where
  | currentEvent | recentInteraction | memory | streamState | operatorCurated
deriving DecidableEq, Repr

/-- What kind of knowledge a retained claim is. -/
inductive EpistemicClass where
  | verifiedFact | viewerClaim | performerExperience | observation | personaOpinion
deriving DecidableEq, Repr

/-- Classify a write from trusted metadata; `claimIsBound` says that the claim is the
event's own. -/
def EpistemicClass.derive (sourceClass : SourceClass) (trustLevel : TrustLevel)
    (claimIsBound : Bool) : EpistemicClass :=
  match sourceClass, trustLevel, claimIsBound with
  | .system, .trusted, true => .verifiedFact
  | .publicChat, _, _ | .donation, _, _ => .viewerClaim
  | .speech, .trusted, _ => .performerExperience
  | .operator, _, _ => .personaOpinion
  | _, _, _ => .observation

structure ThinkingContent where
  source : ThinkingContextSource
  eventId : Option String
  eventKind : Option EventKind
  sourceClass : Option SourceClass
  trustLevel : TrustLevel
  privacy : PrivacyClass
  /-- The class of a retained claim, and of nothing else. -/
  epistemicClass : Option EpistemicClass
  text : String
deriving DecidableEq, Repr

namespace ThinkingContent

def fromEvent (event : EventEnvelope) (text : String) (privacy : PrivacyClass) :
    ThinkingContent where
  source := .currentEvent
  eventId := some event.eventId
  eventKind := some event.kind
  sourceClass := some event.sourceClass
  trustLevel := event.trustLevel
  privacy
  epistemicClass := none
  text

def validate (content : ThinkingContent) (field : String) : Except DomainValidationError Unit := do
  ensure ⟨field, "text must contain 1..=4096 UTF-8 bytes"⟩
    (!(content.text = "" || maxThinkingTextBytes < content.text.utf8ByteSize))
  validateOptionalLabel field content.eventId
  ensure ⟨field, "current_event content requires event_id, event_kind, and source_class"⟩
    (!(content.source = .currentEvent &&
      (content.eventId.isNone || content.eventKind.isNone || content.sourceClass.isNone)))
  match content.source, content.epistemicClass with
  | .memory, none =>
    .error ⟨field, "memory content must name the epistemic class it was retained under"⟩
  | .memory, some _ => .ok ()
  | _, some _ => .error ⟨field, "only memory content carries an epistemic class"⟩
  | _, none => .ok ()

end ThinkingContent

structure ThinkingRequest where
  schemaVersion : String
  input : ThinkingContent
  context : ReflexContext
  retrieval : RetrievalSnapshot
  curatedContext : List ThinkingContent
deriving DecidableEq

namespace ThinkingRequest

def fromEvent (event : EventEnvelope) (text : String) (privacy : PrivacyClass)
    (context : ReflexContext) (retrieval : RetrievalSnapshot)
    (curatedContext : List ThinkingContent) : ThinkingRequest where
  schemaVersion := thinkingRequestSchemaVersion
  input := .fromEvent event text privacy
  context
  retrieval
  curatedContext

/-- The bytes of the curated texts, on top of what is there. -/
def validateCurated : Nat → List ThinkingContent → Except DomainValidationError Nat
  | totalBytes, [] => .ok totalBytes
  | totalBytes, item :: items => do
    item.validate "thinking_request.curated_context"
    ensure ⟨"thinking_request.curated_context", "current_event belongs only in input"⟩
      (item.source ≠ .currentEvent)
    validateCurated (satAdd totalBytes item.text.utf8ByteSize) items

def validate (request : ThinkingRequest) : Except DomainValidationError Unit := do
  ensure ⟨"thinking_request.schema_version", "expected 0.1.0"⟩
    (request.schemaVersion = thinkingRequestSchemaVersion)
  ensure ⟨"thinking_request.input.source", "must be current_event"⟩
    (request.input.source = .currentEvent)
  request.input.validate "thinking_request.input"
  request.context.validate
  request.retrieval.validate
  ensure ⟨"thinking_request.curated_context", "must contain at most 12 items"⟩
    (request.curatedContext.length ≤ maxThinkingContextItems)
  let totalBytes ← validateCurated request.input.text.utf8ByteSize request.curatedContext
  ensure ⟨"thinking_request", "curated text must contain at most 8192 UTF-8 bytes"⟩
    (totalBytes ≤ maxThinkingContextBytes)

/-! ## What validation accepts -/

/-- The bytes of the texts of some items. -/
def textBytes (items : List ThinkingContent) : Nat := (items.map (·.text.utf8ByteSize)).sum

/-- A curated item that validation accepts. -/
structure Curated (item : ThinkingContent) : Prop where
  text : item.text ≠ ""
  bounded : item.text.utf8ByteSize ≤ maxThinkingTextBytes
  label : ∀ id ∈ item.eventId, isLabel id = true
  source : item.source ≠ .currentEvent
  epistemicClass : item.source = .memory ↔ item.epistemicClass.isSome = true

theorem validateOptionalLabel_eq_ok {field : String} {value : Option String} :
    validateOptionalLabel field value = .ok () ↔ ∀ label ∈ value, isLabel label = true := by
  cases value with
  | none => simp [validateOptionalLabel]
  | some label => simp [validateOptionalLabel, validateLabel, ensure_eq_ok]

theorem curated_iff {item : ThinkingContent} {field : String} :
    item.validate field = .ok () ∧ item.source ≠ .currentEvent ↔ Curated item := by
  rw [ThinkingContent.validate]
  simp only [unit_bind_eq_ok, ensure_eq_ok, validateOptionalLabel_eq_ok, Bool.not_eq_true',
    Bool.or_eq_false_iff, decide_eq_false_iff_not, Nat.not_lt]
  constructor
  · rintro ⟨⟨⟨htext, hbounded⟩, hlabel, -, hclass⟩, hsource⟩
    refine ⟨htext, hbounded, hlabel, hsource, ?_⟩
    revert hclass
    cases item.source <;> cases item.epistemicClass <;> simp
  · rintro ⟨htext, hbounded, hlabel, hsource, hclass⟩
    refine ⟨⟨⟨htext, hbounded⟩, hlabel, ?_, ?_⟩, hsource⟩
    · simp [hsource]
    · revert hclass hsource
      cases item.source <;> cases item.epistemicClass <;> simp

theorem validateCurated_eq_ok {items : List ThinkingContent} {bytes total : Nat} :
    validateCurated bytes items = .ok total ↔
      (∀ item ∈ items, Curated item) ∧
        total = items.foldl (fun total item ↦ satAdd total item.text.utf8ByteSize) bytes := by
  induction items generalizing bytes with
  | nil => simp [validateCurated, eq_comm]
  | cons item items ih =>
    rw [validateCurated, unit_bind_eq_ok, unit_bind_eq_ok, ih, ensure_eq_ok,
      decide_eq_true_eq, List.forall_mem_cons, List.foldl_cons, ← and_assoc, ← and_assoc,
      curated_iff]

theorem validate_eq_ok {request : ThinkingRequest} : request.validate = .ok () ↔
    (request.schemaVersion = thinkingRequestSchemaVersion ∧ request.input.source = .currentEvent ∧
      request.input.validate "thinking_request.input" = .ok () ∧
      request.context.validate = .ok () ∧ request.retrieval.validate = .ok ()) ∧
    request.curatedContext.length ≤ maxThinkingContextItems ∧
    ∃ total, validateCurated request.input.text.utf8ByteSize request.curatedContext = .ok total ∧
      total ≤ maxThinkingContextBytes := by
  simp only [validate, unit_bind_eq_ok, ensure_eq_ok, decide_eq_true_eq, and_assoc]
  simp only [bind_eq_ok, ensure_eq_ok, decide_eq_true_eq]

end ThinkingRequest

end Aivtuber
