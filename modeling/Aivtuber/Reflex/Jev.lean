import Aivtuber.Domain.Context
import Aivtuber.Domain.Interfaces
import Aivtuber.Domain.Reflex

/-!
# Jev

`JevAdapter` of `crates/reflex/src/jev.rs`: the questions that a provider is asked about an event,
the attempts to get an answer before a deadline, and the normalization of the answer.  Provider,
network and clock are arbitrary (`JevWorld`); a candidate that the answer selects is one of the menu
(`evaluate_sound`).
-/

open Aivtuber.Check Aivtuber.Text
open Std (ExtTreeMap)

namespace Aivtuber

structure ReflexRequest where
  schemaVersion : String
  event : EventEnvelope
  context : ReflexContext
  retrieval : RetrievalSnapshot

def ReflexRequest.validate (request : ReflexRequest) : Except DomainValidationError Unit := do
  ensure ⟨"reflex_request.schema_version", "expected " ++ reflexRequestSchemaVersion⟩
    (request.schemaVersion = reflexRequestSchemaVersion)
  request.event.validate
  request.context.validate
  request.retrieval.validate

def RetrievalSnapshot.candidateAssetIds (retrieval : RetrievalSnapshot) : List String :=
  retrieval.candidates.map (·.assetId)

/-- Durations are counted in nanoseconds. -/
structure JevAdapterConfig where
  endpoint : String
  modelAlias : String
  deadlineNs : Nat
  maxAttempts : Nat
  maxStateBytes : Nat
  maxCandidates : Nat

def JevAdapterConfig.validate (config : JevAdapterConfig) (isSecureEndpoint : String → Bool) :
    Except EngineError Unit := do
  ensure ⟨.invalidRequest, "Jev endpoint must be a valid HTTPS URL without embedded credentials"⟩
    (isSecureEndpoint config.endpoint)
  ensure ⟨.invalidRequest, "Jev model alias and deadline must be non-empty"⟩
    (!isBlank config.modelAlias && config.deadlineNs ≠ 0)
  ensure ⟨.invalidRequest, "Jev limits must be positive"⟩
    (config.maxAttempts ≠ 0 && config.maxStateBytes ≠ 0 && config.maxCandidates ≠ 0)

structure JevAdapter where
  config : JevAdapterConfig
  isSecureEndpoint : String → Bool
  valid : config.validate isSecureEndpoint = .ok ()

structure HttpResponse where
  status : Nat
  body : List UInt8

inductive HttpError where
  | timeout
  | unavailable (message : String)

structure JevUsage where
  inputTokens : Nat
  outputTokens : Nat
deriving DecidableEq, Repr

inductive NormalizedAnswer where
  | choice (choice : String) (confidence : Float64) (probabilities : ExtTreeMap String Float64)
  | noul (probability : Float64)
  | score (score confidence : Float64) (probabilities : ExtTreeMap String Float64)

structure JevCallEvidence where
  decision : ReflexDecision
  selectedCandidateId : Option String
  requestedModel : String
  returnedModel : String
  usage : JevUsage
  attempts : Nat
  latencyMs : Float64
  answers : ExtTreeMap String NormalizedAnswer

structure JevCallFailure where
  kind : EngineErrorKind
  message : String
  requestedModel : String
  attempts : Nat
  latencyMs : Float64

structure SystemOneResponse where
  model : String
  answers : ExtTreeMap String JsonValue
  usage : JevUsage

/-! ## Questions -/

/-- What a provider is told of an event. -/
structure CompactState where
  requestSchemaVersion : String
  kind : EventKind
  sourceClass : SourceClass
  trustLevel : TrustLevel
  actorId : Option String
  payload : ExtTreeMap String JsonValue
  runtime : ReflexContext
  candidates : List RetrievalCandidateContext

def compactState (request : ReflexRequest) (candidates : List String) : CompactState where
  requestSchemaVersion := request.schemaVersion
  kind := request.event.kind
  sourceClass := request.event.sourceClass
  trustLevel := request.event.trustLevel
  actorId := request.event.actorId
  payload := request.event.payload
  runtime := request.context
  candidates := request.retrieval.candidates.take candidates.length

def choiceQuestion (instructions : String) (criteria : ExtTreeMap String String) : JsonValue :=
  .object [("type", .string "choice"), ("instructions", .string instructions),
    ("criteria", .object (criteria.toList.map fun criterion ↦ (criterion.1, .string criterion.2)))]

def noulQuestion (instructions : String) : JsonValue :=
  .object [("type", .string "noul"), ("instructions", .string instructions)]

def scoreQuestion (instructions : String) (criteria : List String) : JsonValue :=
  .object [("type", .string "score"), ("instructions", .string instructions),
    ("criteria", .array (criteria.map .string))]

/-- What can be selected: nothing, or a candidate. -/
def candidateCriteria (candidates : List String) : ExtTreeMap String String :=
  candidates.foldl
    (fun criteria candidate ↦
      criteria.insert candidate ("Reuse retrieved asset " ++ candidate ++ "."))
    (.ofList [("none", "Do not reuse any retrieved candidate.")])

def buildQuestions (candidates : List String) : ExtTreeMap String JsonValue :=
  let questions := .ofList
    [("response_route", choiceQuestion "Choose the response route for this event." (.ofList
        [("silent", "No public response."), ("reaction", "Non-verbal or short reaction."),
          ("cached", "Reuse one retrieved performance asset."),
          ("template", "Use a deterministic template."),
          ("llm", "Generate a novel long-form response.")])),
      ("reaction_family", choiceQuestion "Choose a compact semantic reaction family." (.ofList
        [("none", "No reaction."), ("agree", "Agreement or affirmation."),
          ("laugh", "Amused or playful laughter."), ("surprise", "Surprised reaction."),
          ("confused", "Confusion or uncertainty."),
          ("empathy", "Supportive or empathetic reaction.")])),
      ("gesture_family", choiceQuestion "Choose an allowed gesture family." (.ofList
        [("none", "No gesture."), ("nod_small", "Small nod."),
          ("head_shake_small", "Small head shake."), ("wave_small", "Small wave."),
          ("shrug_small", "Small shrug.")])),
      ("attention_target", choiceQuestion "Choose the attention target." (.ofList
        [("camera", "Look toward the camera."), ("chat", "Attend to chat."),
          ("game", "Attend to the game."), ("speaker", "Attend to the speaker."),
          ("away", "No active target.")])),
      ("interrupt", noulQuestion "Should the current performance be interrupted?"),
      ("cache_reuse", noulQuestion "Is a retrieved candidate contextually safe to reuse?"),
      ("importance", scoreQuestion "How important is this event?"
        ["low importance", "high importance"]),
      ("emotion_intensity", scoreQuestion "How intense should the emotional expression be?"
        ["low intensity", "high intensity"])]
  if candidates.isEmpty then questions
  else
    questions.insert "selected_candidate"
      (choiceQuestion "Select the best reusable candidate, or none." (candidateCriteria candidates))

structure SystemOneRequest where
  state : CompactState
  model : String
  questions : ExtTreeMap String JsonValue

/-- The names that a question offers for the selected candidate. -/
def SystemOneRequest.menu (request : SystemOneRequest) : List String :=
  ((request.questions["selected_candidate"]?.bind fun question ↦ question.get? "criteria").bind
    JsonValue.asObject).elim [] fun criteria ↦ criteria.map (·.1)

/-! ## The world -/

/-- Where a call is when it looks at the clock. -/
inductive JevStage where
  | built | begun | answered | parsed | normalized | backedOff

/-- What lies outside of the adapter; attempts are counted from zero. -/
structure JevWorld where
  post : Nat → SystemOneRequest → Except HttpError HttpResponse
  cancelled : Nat → Bool
  /-- Nothing is left until the deadline. -/
  late : Nat → JevStage → Bool
  /-- The backoff was slept through. -/
  slept : Nat → Bool
  latencyMs : Nat → JevStage → Float64
  /-- The length of the encoded state. -/
  stateBytes : CompactState → Nat
  parse : List UInt8 → Except String SystemOneResponse
  debug : String → String

def maxJevResponseBytes : Nat := 1024 * 1024

section Evaluate

variable (world : JevWorld)

def parseJevResponseBody (body : List UInt8) : Except String SystemOneResponse := do
  ensure ("Jev response exceeded " ++ toString maxJevResponseBytes ++ " byte limit")
    (body.length ≤ maxJevResponseBytes)
  (world.parse body).mapError fun error ↦ "invalid Jev response JSON: " ++ error

/-! ## Answers -/

def answerObject (answers : ExtTreeMap String JsonValue) (name expectedType : String) :
    Except String JsonValue := do
  let object ← expect ("answer " ++ world.debug name ++ " is missing or not an object")
    (answers[name]?.filter fun answer ↦ answer.asObject.isSome)
  let answerType ← expect (name ++ ".type is missing")
    ((object.get? "type").bind JsonValue.asStr)
  ensure (name ++ ".type expected " ++ world.debug expectedType ++ ", got " ++
      world.debug answerType)
    (answerType = expectedType)
  .ok object

def unitNumber (value : Option JsonValue) (field : String) : Except String Float64 := do
  let number ← expect (field ++ " is missing or not a number") (value.bind JsonValue.asF64)
  ensure (field ++ " must be in 0..=1") number.inUnitInterval
  .ok number

def probabilityMap (value : Option JsonValue) (field : String) :
    Except String (ExtTreeMap String Float64) := do
  let members ← expect (field ++ ".probabilities is missing") (value.bind JsonValue.asObject)
  let probabilities ← members.foldlM
    (fun probabilities member ↦ do
      let probability ← unitNumber (some member.2) (field ++ ".probabilities." ++ member.1)
      .ok (probabilities.insert member.1 probability))
    (∅ : ExtTreeMap String Float64)
  ensure (field ++ ".probabilities must not be empty") (!probabilities.isEmpty)
  .ok probabilities

def parseChoice (answers : ExtTreeMap String JsonValue) (name : String) :
    Except String (String × Float64 × NormalizedAnswer) := do
  let object ← answerObject world answers name "choice"
  let choice ← expect (name ++ ".choice is missing") ((object.get? "choice").bind JsonValue.asStr)
  let confidence ← unitNumber (object.get? "confidence") (name ++ ".confidence")
  let probabilities ← probabilityMap (object.get? "probabilities") name
  .ok (choice, confidence, .choice choice confidence probabilities)

def parseNoul (answers : ExtTreeMap String JsonValue) (name : String) :
    Except String (Float64 × NormalizedAnswer) := do
  let object ← answerObject world answers name "noul"
  let probability ← unitNumber (object.get? "noul") (name ++ ".noul")
  .ok (probability, .noul probability)

def parseScore (answers : ExtTreeMap String JsonValue) (name : String) :
    Except String (Float64 × NormalizedAnswer) := do
  let object ← answerObject world answers name "score"
  let score ← unitNumber (object.get? "score") (name ++ ".score")
  let confidence ← unitNumber (object.get? "confidence") (name ++ ".confidence")
  let probabilities ← probabilityMap (object.get? "probabilities") name
  ensure (name ++ ".legend is missing") ((object.get? "legend").bind JsonValue.asObject).isSome
  .ok (score, .score score confidence probabilities)

structure NormalizedResponse where
  decision : ReflexDecision
  selectedCandidateId : Option String
  answers : ExtTreeMap String NormalizedAnswer

def responseRoute : String → Option ResponseRoute
  | "silent" => some .silent
  | "reaction" => some .reaction
  | "cached" => some .cached
  | "template" => some .template
  | "llm" => some .llm
  | _ => none

def attentionTarget : String → Option AttentionTarget
  | "camera" => some .camera
  | "chat" => some .chat
  | "game" => some .game
  | "speaker" => some .speaker
  | "away" => some .away
  | _ => none

/-- The candidate that is selected, and the answer that selects it, if there was a menu. -/
def selectedCandidate (answers : ExtTreeMap String JsonValue) (candidates : List String) :
    Except String (Option String × Option NormalizedAnswer) := do
  if candidates.isEmpty then .ok (none, none)
  else
    let (selected, _, answer) ← parseChoice world answers "selected_candidate"
    if selected = "none" then .ok (none, some answer)
    else if selected ∈ candidates then .ok (some selected, some answer)
    else
      .error ("Jev selected candidate " ++ world.debug selected ++ " that was not in Top-K")

def normalizeAnswers (answers : ExtTreeMap String JsonValue) (candidates : List String)
    (requestedModel returnedModel : String) (latencyMs : Float64) :
    Except String NormalizedResponse := do
  let (route, routeConfidence, routeAnswer) ← parseChoice world answers "response_route"
  let route ← expect ("unknown response_route choice " ++ world.debug route) (responseRoute route)
  let (reaction, _, reactionAnswer) ← parseChoice world answers "reaction_family"
  let (gesture, _, gestureAnswer) ← parseChoice world answers "gesture_family"
  let (attention, _, attentionAnswer) ← parseChoice world answers "attention_target"
  let target ← expect ("unknown attention_target choice " ++ world.debug attention)
    (attentionTarget attention)
  let (interruptProbability, interruptAnswer) ← parseNoul world answers "interrupt"
  let (cacheReuseProbability, cacheAnswer) ← parseNoul world answers "cache_reuse"
  let (importance, importanceAnswer) ← parseScore world answers "importance"
  let (emotionIntensity, emotionAnswer) ← parseScore world answers "emotion_intensity"
  let (selectedCandidateId, selectedAnswer) ← selectedCandidate world answers candidates
  let decision : ReflexDecision :=
    { schemaVersion := reflexSchemaVersion
      route := ⟨route, some routeConfidence⟩
      reactionFamily := if reaction ≠ "none" then some reaction else none
      gestureFamily := if gesture ≠ "none" then some gesture else none
      attentionTarget := target
      interruptProbability, cacheReuseProbability, importance, emotionIntensity
      backend := ⟨"jev", some requestedModel, some returnedModel⟩
      latencyMs
      fallbackReason := .none }
  (decision.validate).mapError fun error ↦
    "normalized Jev decision is invalid: " ++ error.display
  .ok
    { decision, selectedCandidateId
      answers := .ofList <|
        [("response_route", routeAnswer), ("reaction_family", reactionAnswer),
          ("gesture_family", gestureAnswer), ("attention_target", attentionAnswer),
          ("interrupt", interruptAnswer), ("cache_reuse", cacheAnswer),
          ("importance", importanceAnswer), ("emotion_intensity", emotionAnswer)] ++
        selectedAnswer.toList.map fun answer ↦ ("selected_candidate", answer) }

/-! ## Attempts -/

variable (adapter : JevAdapter)

namespace JevAdapter

/-- The candidates that are offered. -/
def offered (request : ReflexRequest) : List String :=
  request.retrieval.candidateAssetIds.take adapter.config.maxCandidates

def buildRequest (request : ReflexRequest) : Except EngineError SystemOneRequest := do
  request.validate.mapError fun error ↦
    ⟨.invalidRequest, "invalid reflex request: " ++ error.display⟩
  let candidates := adapter.offered request
  let state := compactState request candidates
  ensure ⟨.invalidRequest, "compact Jev state exceeds " ++ toString adapter.config.maxStateBytes ++
      " bytes"⟩
    (world.stateBytes state ≤ adapter.config.maxStateBytes)
  .ok { state, model := adapter.config.modelAlias, questions := buildQuestions candidates }

def failure (kind : EngineErrorKind) (message : String) (attempts : Nat) (stage : JevStage) :
    JevCallFailure where
  kind := kind
  message := message
  requestedModel := adapter.config.modelAlias
  attempts := attempts
  latencyMs := world.latencyMs attempts stage

def normalizeResponse (request : ReflexRequest) (body : List UInt8) (attempts : Nat) :
    Except JevCallFailure JevCallEvidence := do
  let response ← (parseJevResponseBody world body).mapError fun message ↦
    adapter.failure world .invalidRequest message attempts .parsed
  ensure (adapter.failure world .timeout "Jev reflex deadline exceeded during response parsing"
      attempts .parsed)
    (!world.late attempts .parsed)
  let normalized ← (normalizeAnswers world response.answers (adapter.offered request)
    adapter.config.modelAlias response.model (world.latencyMs attempts .parsed)).mapError
      fun message ↦ adapter.failure world .invalidRequest message attempts .normalized
  .ok
    { decision := normalized.decision
      selectedCandidateId := normalized.selectedCandidateId
      requestedModel := adapter.config.modelAlias
      returnedModel := response.model
      usage := response.usage
      attempts
      latencyMs := world.latencyMs attempts .normalized
      answers := normalized.answers }

/-- What a status other than 200 means, and whether the request is tried again. -/
def refusal (status : Nat) : EngineErrorKind × Bool :=
  if status = 401 ∨ status = 403 then (.authentication, false)
  else if status = 400 ∨ status = 422 then (.invalidRequest, false)
  else if status = 429 then (.rateLimited, true)
  else if status = 529 then (.overloaded, true)
  else (.unavailable, false)

/-- Try again while the provider refuses for now, and there are attempts and time left. -/
def attempt (request : ReflexRequest) (body : SystemOneRequest) (attempts : Nat) :
    Except JevCallFailure JevCallEvidence :=
  if world.cancelled attempts then
    .error (adapter.failure world .timeout "Jev request cancelled" attempts .begun)
  else if world.late attempts .begun then
    .error (adapter.failure world .timeout "Jev reflex deadline exceeded" attempts .begun)
  else
    match world.post attempts body with
    | .error .timeout =>
      .error (adapter.failure world .timeout "Jev transport deadline exceeded" (attempts + 1)
        .answered)
    | .error (.unavailable message) =>
      .error (adapter.failure world .unavailable message (attempts + 1) .answered)
    | .ok response =>
      let status := "Jev HTTP " ++ toString response.status
      if response.status = 200 then
        if world.late attempts .answered then
          .error (adapter.failure world .timeout
            "Jev reflex deadline exceeded before normalization" (attempts + 1) .answered)
        else adapter.normalizeResponse world request response.body (attempts + 1)
      else if !(refusal response.status).2 then
        .error (adapter.failure world (refusal response.status).1 status (attempts + 1) .answered)
      else if adapter.config.maxAttempts ≤ attempts + 1 then
        .error (adapter.failure world (refusal response.status).1
          (status ++ " after " ++ toString (attempts + 1) ++ " attempts") (attempts + 1) .answered)
      else if !world.slept attempts then
        .error (adapter.failure world .timeout
          "Jev reflex deadline exhausted during retry backoff" (attempts + 1) .backedOff)
      else attempt request body (attempts + 1)
termination_by adapter.config.maxAttempts - attempts

def evaluate (request : ReflexRequest) (remainingBudgetNs : Nat) :
    Except JevCallFailure JevCallEvidence :=
  if min adapter.config.deadlineNs remainingBudgetNs = 0 then
    .error (adapter.failure world .timeout "Jev has no remaining interaction budget" 0 .built)
  else
    match adapter.buildRequest world request with
    | .error error => .error (adapter.failure world error.kind error.message 0 .built)
    | .ok body => adapter.attempt world request body 0

end JevAdapter

end Evaluate

/-! ## The menu -/

/-- A map into which a list is inserted has its elements for keys beside those it had. -/
theorem mem_foldl_insert {text : String → String} {key : String} (keys : List String)
    (m : ExtTreeMap String String) :
    key ∈ keys.foldl (fun m key ↦ m.insert key (text key)) m ↔ key ∈ keys ∨ key ∈ m := by
  induction keys generalizing m with
  | nil => simp
  | cons other keys ih =>
    rw [List.foldl_cons, ih, ExtTreeMap.mem_insert, Std.LawfulEqCmp.compare_eq_iff_eq,
      List.mem_cons, eq_comm]
    tauto

theorem mem_candidateCriteria {candidates : List String} {candidate : String}
    (h : candidate ∈ candidates) : candidate ∈ candidateCriteria candidates :=
  (mem_foldl_insert candidates _).mpr (.inl h)

theorem none_mem_candidateCriteria (candidates : List String) :
    "none" ∈ candidateCriteria candidates :=
  (mem_foldl_insert candidates _).mpr (.inr (by decide))

theorem choiceQuestion_criteria (instructions : String) (criteria : ExtTreeMap String String) :
    ((choiceQuestion instructions criteria).get? "criteria").bind JsonValue.asObject =
      some (criteria.toList.map fun criterion ↦ (criterion.1, .string criterion.2)) := by
  rfl

/-- Every candidate is on the menu. -/
theorem mem_menu {request : SystemOneRequest} {candidates : List String} {candidate : String}
    (hquestions : request.questions = buildQuestions candidates) (h : candidate ∈ candidates) :
    candidate ∈ request.menu := by
  have hsome : candidates.isEmpty = false := by
    rw [List.isEmpty_eq_false_iff]
    exact List.ne_nil_of_mem h
  have hquestion : request.questions["selected_candidate"]? = some
      (choiceQuestion "Select the best reusable candidate, or none."
        (candidateCriteria candidates)) := by
    rw [hquestions, buildQuestions, hsome]
    exact ExtTreeMap.getElem?_insert_self
  rw [SystemOneRequest.menu, hquestion, Option.bind_some, choiceQuestion_criteria]
  change candidate ∈ (List.map _ _).map _
  rw [List.map_map]
  obtain ⟨text, htext⟩ : ∃ text, (candidate, text) ∈ (candidateCriteria candidates).toList := by
    obtain ⟨text, htext⟩ := Option.isSome_iff_exists.mp
      (ExtTreeMap.isSome_getElem?_iff_mem.mpr (mem_candidateCriteria h))
    exact ⟨text, ExtTreeMap.mem_toList_iff_getElem?_eq_some.mpr htext⟩
  exact List.mem_map_of_mem htext

/-! ## What is accepted -/

section Sound

variable {world : JevWorld} {adapter : JevAdapter} {request : ReflexRequest}
  {answers : ExtTreeMap String JsonValue} {candidates : List String}

theorem unitNumber_eq_ok {value : Option JsonValue} {field : String} {number : Float64}
    (h : unitNumber value field = .ok number) : number.inUnitInterval = true := by
  obtain ⟨other, -, h⟩ := expect_bind_eq_ok.mp h
  obtain ⟨hunit, h⟩ := unit_bind_eq_ok.mp h
  cases h
  exact ensure_eq_ok.mp hunit

theorem parseChoice_confidence {name choice : String} {confidence : Float64}
    {answer : NormalizedAnswer}
    (h : parseChoice world answers name = .ok (choice, confidence, answer)) :
    confidence.inUnitInterval = true := by
  obtain ⟨object, -, h⟩ := bind_eq_ok.mp h
  obtain ⟨choice', -, h⟩ := expect_bind_eq_ok.mp h
  obtain ⟨confidence', hconfidence, h⟩ := bind_eq_ok.mp h
  obtain ⟨probabilities, -, h⟩ := bind_eq_ok.mp h
  cases h
  exact unitNumber_eq_ok hconfidence

theorem parseNoul_probability {name : String} {probability : Float64} {answer : NormalizedAnswer}
    (h : parseNoul world answers name = .ok (probability, answer)) :
    probability.inUnitInterval = true := by
  obtain ⟨object, -, h⟩ := bind_eq_ok.mp h
  obtain ⟨probability', hprobability, h⟩ := bind_eq_ok.mp h
  cases h
  exact unitNumber_eq_ok hprobability

theorem selectedCandidate_mem {id : String} {answer : Option NormalizedAnswer}
    (h : selectedCandidate world answers candidates = .ok (some id, answer)) : id ∈ candidates := by
  rw [selectedCandidate] at h
  split at h
  case isTrue => cases h
  case isFalse =>
    obtain ⟨⟨selected, confidence, selectedAnswer⟩, -, h⟩ := bind_eq_ok.mp h
    dsimp only at h
    split at h
    case isTrue => cases h
    case isFalse =>
      split at h
      case isTrue hmem =>
        cases h
        exact hmem
      case isFalse => cases h

/-- A decision that is no fallback, and selects nothing but what was offered. -/
structure SoundDecision (candidates : List String) (decision : ReflexDecision)
    (selectedCandidateId : Option String) : Prop where
  selected : ∀ id ∈ selectedCandidateId, id ∈ candidates
  confidence : ∃ confidence, decision.route.confidence = some confidence ∧
    confidence.inUnitInterval = true
  reuse : decision.cacheReuseProbability.inUnitInterval = true
  fallbackReason : decision.fallbackReason = .none

theorem normalizeAnswers_sound {requestedModel returnedModel : String} {latencyMs : Float64}
    {normalized : NormalizedResponse}
    (h : normalizeAnswers world answers candidates requestedModel returnedModel latencyMs =
      .ok normalized) :
    SoundDecision candidates normalized.decision normalized.selectedCandidateId := by
  obtain ⟨⟨route, routeConfidence, routeAnswer⟩, hroute, h⟩ := bind_eq_ok.mp h
  obtain ⟨route', -, h⟩ := expect_bind_eq_ok.mp h
  obtain ⟨reaction, -, h⟩ := bind_eq_ok.mp h
  obtain ⟨gesture, -, h⟩ := bind_eq_ok.mp h
  obtain ⟨attention, -, h⟩ := bind_eq_ok.mp h
  obtain ⟨target, -, h⟩ := expect_bind_eq_ok.mp h
  obtain ⟨interrupt, -, h⟩ := bind_eq_ok.mp h
  obtain ⟨⟨cacheReuseProbability, cacheAnswer⟩, hreuse, h⟩ := bind_eq_ok.mp h
  obtain ⟨importance, -, h⟩ := bind_eq_ok.mp h
  obtain ⟨emotion, -, h⟩ := bind_eq_ok.mp h
  obtain ⟨⟨selectedCandidateId, selectedAnswer⟩, hselected, h⟩ := bind_eq_ok.mp h
  obtain ⟨-, -, h⟩ := bind_eq_ok.mp h
  cases h
  refine ⟨?_, ⟨routeConfidence, rfl, parseChoice_confidence hroute⟩, parseNoul_probability hreuse,
    rfl⟩
  rintro id ⟨⟩
  exact selectedCandidate_mem hselected

theorem normalizeResponse_sound {body : List UInt8} {attempts : Nat} {evidence : JevCallEvidence}
    (h : adapter.normalizeResponse world request body attempts = .ok evidence) :
    SoundDecision (adapter.offered request) evidence.decision evidence.selectedCandidateId := by
  obtain ⟨response, -, h⟩ := bind_eq_ok.mp h
  obtain ⟨-, h⟩ := unit_bind_eq_ok.mp h
  obtain ⟨normalized, hnormalized, h⟩ := bind_eq_ok.mp h
  cases h
  exact normalizeAnswers_sound (mapError_eq_ok.mp hnormalized)

/-- What is accepted was answered by the provider, to one of the attempts. -/
theorem attempt_eq_ok {body : SystemOneRequest} {attempts : Nat} {evidence : JevCallEvidence}
    (h : adapter.attempt world request body attempts = .ok evidence) :
    ∃ n response, world.post n body = .ok response ∧ response.status = 200 ∧
      adapter.normalizeResponse world request response.body (n + 1) = .ok evidence := by
  induction hleft : adapter.config.maxAttempts - attempts using Nat.strong_induction_on
    generalizing attempts with
  | _ left ih =>
    rw [JevAdapter.attempt] at h
    cases hcancelled : world.cancelled attempts with
    | true =>
      rw [hcancelled] at h
      cases h
    | false =>
      cases hlate : world.late attempts .begun with
      | true =>
        rw [hcancelled, hlate] at h
        cases h
      | false =>
        rw [hcancelled, hlate, if_neg Bool.false_ne_true, if_neg Bool.false_ne_true] at h
        cases hpost : world.post attempts body with
        | error error =>
          rw [hpost] at h
          cases error <;> cases h
        | ok response =>
          rw [hpost] at h
          dsimp only at h
          split_ifs at h with hstatus
          · exact ⟨attempts, response, hpost, hstatus, h⟩
          · exact ih _ (by omega) h rfl

/-- **What a provider answers is accepted only if it selects what was offered**, in the request
that was posted. -/
theorem evaluate_sound {remainingBudgetNs : Nat} {evidence : JevCallEvidence}
    (h : adapter.evaluate world request remainingBudgetNs = .ok evidence) :
    SoundDecision (adapter.offered request) evidence.decision evidence.selectedCandidateId ∧
      ∃ body, adapter.buildRequest world request = .ok body ∧
        (∀ id ∈ adapter.offered request, id ∈ body.menu) ∧
        ∃ n response, world.post n body = .ok response ∧ response.status = 200 := by
  rw [JevAdapter.evaluate] at h
  split_ifs at h
  cases hbuild : adapter.buildRequest world request with
  | error error =>
    rw [hbuild] at h
    cases h
  | ok body =>
    rw [hbuild] at h
    obtain ⟨n, response, hpost, hstatus, hnormalized⟩ := attempt_eq_ok h
    refine ⟨normalizeResponse_sound hnormalized, body, rfl, fun id hid ↦ ?_, n, response, hpost,
      hstatus⟩
    obtain ⟨-, -, hbuild⟩ := bind_eq_ok.mp hbuild
    obtain ⟨-, hbuild⟩ := unit_bind_eq_ok.mp hbuild
    cases hbuild
    exact mem_menu rfl hid

theorem evaluate_no_budget (request : ReflexRequest) :
    adapter.evaluate world request 0 = .error
      (adapter.failure world .timeout "Jev has no remaining interaction budget" 0 .built) :=
  if_pos (Nat.min_zero _)

end Sound

end Aivtuber
