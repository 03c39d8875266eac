import Aivtuber.Reflex.Jev
import Aivtuber.Reflex.Retrieval

/-!
# The reflex pipeline

`crates/reflex/src/pipeline.rs`: retrieval, the question to the provider, the policy on its answer,
and what is executed.  A cached asset is executed only if the provider picked it from its menu and
the policy let it through; then it is executed under the identity that the index has for it
(`executed_cached`).  Whatever fails on the way executes a fallback, which names no asset.
-/

open Aivtuber.Check
open Std (ExtTreeMap)

namespace Aivtuber

structure ModelEvidence where
  requestedModel : String
  returnedModel : Option String
  usage : Option JevUsage
  attempts : Nat
  latencyMs : Float64
  answers : ExtTreeMap String NormalizedAnswer

structure DecisionEvidence where
  retrieval : RetrievalResult
  normalized : ReflexDecision
  selectedCandidateId : Option String
  model : ModelEvidence

structure PolicyDecision where
  route : ResponseRoute
  selectedCandidateId : Option String
  selectedCandidateIdentity : Option String
  fallbackReason : FallbackReason
  reason : String
deriving DecidableEq

inductive ExecutedAction where
  | silent | reaction | cached | template | llm | fallback
deriving DecidableEq, Repr

structure ExecutedDecision where
  action : ExecutedAction
  assetId : Option String
  assetIdentity : Option String
deriving DecidableEq

structure DecisionReplayRecord where
  eventId : String
  requestSchemaVersion : String
  contextSchemaVersion : String
  evidence : DecisionEvidence
  policy : PolicyDecision
  executed : ExecutedDecision

structure PolicyConfig where
  reuseThreshold : Float64
  minRouteConfidence : Float64
deriving DecidableEq

/-! ## The policy -/

/-- The identity that the retrieval has for a candidate. -/
def RetrievalResult.identityOf (retrieval : RetrievalResult) (id : String) : Option String :=
  (retrieval.candidates.find? fun candidate ↦ candidate.assetId = id).bind (·.assetIdentity)

/-- Nothing is selected. -/
def PolicyDecision.unselected (route : ResponseRoute) (fallbackReason : FallbackReason)
    (reason : String) : PolicyDecision where
  route := route
  selectedCandidateId := none
  selectedCandidateIdentity := none
  fallbackReason := fallbackReason
  reason := reason

def applyPolicy (evidence : DecisionEvidence) (config : PolicyConfig) : PolicyDecision :=
  let decision := evidence.normalized
  if decision.fallbackReason ≠ .none then
    .unselected .silent decision.fallbackReason "model_or_transport_fallback"
  else if decision.route.confidence.any (·.lt config.minRouteConfidence) then
    .unselected .silent .lowConfidence "route_confidence_below_threshold"
  else if decision.route.value = .cached then
    if config.reuseThreshold.le decision.cacheReuseProbability &&
        evidence.selectedCandidateId.isSome then
      { route := .cached
        selectedCandidateId := evidence.selectedCandidateId
        selectedCandidateIdentity :=
          evidence.selectedCandidateId.bind evidence.retrieval.identityOf
        fallbackReason := .none
        reason := "explicit_candidate_passed_reuse_gate" }
    else .unselected .silent .policyOverride "cached_route_failed_explicit_reuse_gate"
  else .unselected decision.route.value .none "route_accepted"

def ResponseRoute.action : ResponseRoute → ExecutedAction
  | .silent => .silent
  | .reaction => .reaction
  | .cached => .cached
  | .template => .template
  | .llm => .llm

def executePolicy (policy : PolicyDecision) : ExecutedDecision :=
  let action := if policy.fallbackReason ≠ .none then .fallback else policy.route.action
  { action
    assetId := if action = .cached then policy.selectedCandidateId else none
    assetIdentity := if action = .cached then policy.selectedCandidateIdentity else none }

def fallbackReason : EngineErrorKind → FallbackReason
  | .timeout => .timeout
  | .unavailable | .backend => .unavailable
  | .rateLimited => .rateLimited
  | .overloaded => .overloaded
  | .authentication | .unauthorized => .authentication
  | .invalidRequest => .invalidRequest

theorem fallbackReason_ne_none (kind : EngineErrorKind) : fallbackReason kind ≠ .none := by
  cases kind <;> exact fun h ↦ by cases h

def deterministicFallback (reason : FallbackReason) (latencyMs : Float64) : ReflexDecision where
  schemaVersion := reflexSchemaVersion
  route := ⟨.silent, none⟩
  reactionFamily := none
  gestureFamily := none
  attentionTarget := .away
  interruptProbability := .finite 0
  cacheReuseProbability := .finite 0
  -- the double that 0.1 stands for
  importance := .finite (3602879701896397 / 36028797018963968)
  emotionIntensity := .finite 0
  backend := ⟨"deterministic", none, none⟩
  latencyMs := latencyMs
  fallbackReason := reason

/-! ## The pipeline -/

def PolicyConfig.validate (policy : PolicyConfig) (topK : Nat) : Except EngineError Unit := do
  ensure ⟨.invalidRequest, "reflex Top-K must be in 1..=" ++ toString maxRetrievalCandidates⟩
    (topK ≠ 0 && topK ≤ maxRetrievalCandidates)
  ensure ⟨.invalidRequest, "reflex policy thresholds must be in 0..=1"⟩
    (policy.reuseThreshold.inUnitInterval && policy.minRouteConfidence.inUnitInterval)

structure ReflexPipeline where
  index : SemanticIndex
  adapter : JevAdapter
  policy : PolicyConfig
  topK : Nat
  valid : policy.validate topK = .ok ()

structure ReflexPipelineInput where
  request : ReflexRequest
  queryEmbedding : List Float64

def RetrievalCandidate.context (candidate : RetrievalCandidate) : RetrievalCandidateContext where
  assetId := candidate.assetId
  rank := candidate.rank
  similarity := candidate.similarity

/-- The request with what was retrieved for it. -/
def ReflexPipelineInput.retrieved (input : ReflexPipelineInput) (retrieval : RetrievalResult) :
    ReflexRequest :=
  { input.request with retrieval := ⟨retrieval.candidates.map (·.context)⟩ }

/-- What is known of an evaluation, whether it succeeded or not. -/
def evidenceOf (retrieval : RetrievalResult) :
    Except JevCallFailure JevCallEvidence → DecisionEvidence
  | .ok model =>
    { retrieval
      normalized := model.decision
      selectedCandidateId := model.selectedCandidateId
      model :=
        { requestedModel := model.requestedModel
          returnedModel := some model.returnedModel
          usage := some model.usage
          attempts := model.attempts
          latencyMs := model.latencyMs
          answers := model.answers } }
  | .error failure =>
    { retrieval
      normalized := deterministicFallback (fallbackReason failure.kind) failure.latencyMs
      selectedCandidateId := none
      model :=
        { requestedModel := failure.requestedModel
          returnedModel := none
          usage := none
          attempts := failure.attempts
          latencyMs := failure.latencyMs
          answers := ∅ } }

namespace ReflexPipeline

section Run

variable (arith : VectorArith) (world : JevWorld) (pipeline : ReflexPipeline)

/-- Without a budget, the adapter has its own deadline; a budget has been running during the
retrieval. -/
def evaluation (elapsedNs : Nat) (request : ReflexRequest) (remainingBudgetNs : Option Nat) :
    Except JevCallFailure JevCallEvidence :=
  match remainingBudgetNs with
  | some budget => pipeline.adapter.evaluate world request (budget - elapsedNs)
  | none => pipeline.adapter.evaluate world request pipeline.adapter.config.deadlineNs

def runWithBudget (elapsedNs : Nat) (input : ReflexPipelineInput)
    (remainingBudgetNs : Option Nat) : Except RetrievalError DecisionReplayRecord := do
  let retrieval ← pipeline.index.search arith input.queryEmbedding pipeline.topK
  let request := input.retrieved retrieval
  let evidence := evidenceOf retrieval
    (pipeline.evaluation world elapsedNs request remainingBudgetNs)
  let policy := applyPolicy evidence pipeline.policy
  .ok
    { eventId := request.event.eventId
      requestSchemaVersion := request.schemaVersion
      contextSchemaVersion := request.context.schemaVersion
      evidence
      policy
      executed := executePolicy policy }

end Run

end ReflexPipeline

/-! ## What is executed -/

theorem executePolicy_of_fallback {policy : PolicyDecision} (h : policy.fallbackReason ≠ .none) :
    executePolicy policy = ⟨.fallback, none, none⟩ := by
  rw [executePolicy, if_pos h]
  rfl

/-- Only a cached asset is named. -/
theorem executePolicy_of_not_cached {policy : PolicyDecision}
    (h : (executePolicy policy).action ≠ .cached) :
    (executePolicy policy).assetId = none ∧ (executePolicy policy).assetIdentity = none :=
  ⟨if_neg h, if_neg h⟩

/-- What was executed is the cached asset of a policy that took no fallback. -/
theorem executePolicy_cached {policy : PolicyDecision}
    (h : (executePolicy policy).action = .cached) :
    policy.fallbackReason = .none ∧ policy.route = .cached ∧
      executePolicy policy =
        ⟨.cached, policy.selectedCandidateId, policy.selectedCandidateIdentity⟩ := by
  by_cases hreason : policy.fallbackReason = .none
  · have hroute : policy.route = .cached := by
      simp only [executePolicy, hreason, ne_eq, not_true_eq_false, if_false] at h
      cases hroute : policy.route with
      | cached => rfl
      | silent | reaction | template | llm =>
        rw [hroute] at h
        cases h
    refine ⟨hreason, hroute, ?_⟩
    simp [executePolicy, hreason, hroute, ResponseRoute.action]
  · rw [executePolicy_of_fallback hreason] at h
    cases h

theorem applyPolicy_of_fallback {evidence : DecisionEvidence} (config : PolicyConfig)
    (h : evidence.normalized.fallbackReason ≠ .none) :
    (applyPolicy evidence config).fallbackReason ≠ .none := by
  rw [applyPolicy, if_pos h]
  exact h

/-- A policy that lets a cached asset through: each of its gates was passed. -/
structure Passed (evidence : DecisionEvidence) (config : PolicyConfig) (id : String) : Prop where
  selected : evidence.selectedCandidateId = some id
  fallbackReason : evidence.normalized.fallbackReason = .none
  confidence : ∀ confidence ∈ evidence.normalized.route.confidence,
    confidence.lt config.minRouteConfidence = false
  reuse : config.reuseThreshold.le evidence.normalized.cacheReuseProbability = true
  policy : applyPolicy evidence config =
    ⟨.cached, some id, evidence.retrieval.identityOf id, .none,
      "explicit_candidate_passed_reuse_gate"⟩

theorem applyPolicy_cached {evidence : DecisionEvidence} {config : PolicyConfig}
    (hreason : (applyPolicy evidence config).fallbackReason = .none)
    (hroute : (applyPolicy evidence config).route = .cached) :
    ∃ id, Passed evidence config id := by
  have hpolicy : applyPolicy evidence config = applyPolicy evidence config := rfl
  rw [applyPolicy] at hreason hroute
  nth_rewrite 2 [applyPolicy] at hpolicy
  split at hreason
  case isTrue hfallback => exact absurd hreason hfallback
  case isFalse hfallback =>
    rw [if_neg hfallback] at hroute hpolicy
    split at hreason
    case isTrue => cases hreason
    case isFalse hconfidence =>
      rw [if_neg hconfidence] at hroute hpolicy
      split at hreason
      case isFalse hvalue =>
        rw [if_neg hvalue] at hroute
        exact absurd hroute hvalue
      case isTrue hvalue =>
        rw [if_pos hvalue] at hroute hpolicy
        split at hreason
        case isFalse => cases hreason
        case isTrue hgate =>
          rw [if_pos hgate] at hpolicy
          rw [Bool.and_eq_true, Option.isSome_iff_exists] at hgate
          obtain ⟨hreuse, id, hid⟩ := hgate
          refine ⟨id, hid, not_not.mp hfallback, fun confidence hmem ↦ ?_, hreuse, ?_⟩
          · rw [Option.mem_def] at hmem
            rw [hmem] at hconfidence
            exact Bool.eq_false_iff.mpr hconfidence
          · rw [hpolicy, hid]
            rfl

/-- The retrieval names each asset once. -/
theorem RetrievalResult.identityOf_eq {retrieval : RetrievalResult}
    (hnodup : (retrieval.candidates.map (·.assetId)).Nodup) {candidate : RetrievalCandidate}
    (h : candidate ∈ retrieval.candidates) :
    retrieval.identityOf candidate.assetId = candidate.assetIdentity := by
  rw [identityOf]
  generalize retrieval.candidates = candidates at hnodup h
  induction candidates with
  | nil => cases h
  | cons other candidates ih =>
    rw [List.map_cons, List.nodup_cons] at hnodup
    rcases List.mem_cons.mp h with rfl | h
    · rw [List.find?_cons_of_pos (by simp)]
      rfl
    · have hne : other.assetId ≠ candidate.assetId := by
        intro heq
        exact hnodup.1 (heq ▸ List.mem_map_of_mem h)
      rw [List.find?_cons_of_neg (by simpa using hne)]
      exact ih hnodup.2 h

namespace Float64

theorem le_of_not_lt {left right : Float64} (hleft : left.inUnitInterval = true)
    (hright : right.inUnitInterval = true) (h : left.lt right = false) :
    right.le left = true := by
  cases left with
  | finite left =>
    cases right with
    | finite right =>
      simp only [lt, le, decide_eq_false_iff_not, decide_eq_true_eq, not_lt] at h ⊢
      exact h
    | infinite | nan => cases hright
  | infinite | nan => cases hleft

end Float64

/-! ## Safety -/

namespace ReflexPipeline

section Safety

variable {arith : VectorArith} {world : JevWorld} {pipeline : ReflexPipeline}
  {elapsedNs : Nat} {input : ReflexPipelineInput} {remainingBudgetNs : Option Nat}
  {record : DecisionReplayRecord}

theorem runWithBudget_eq_ok
    (h : pipeline.runWithBudget arith world elapsedNs input remainingBudgetNs =
      .ok record) :
    pipeline.index.search arith input.queryEmbedding pipeline.topK =
        .ok record.evidence.retrieval ∧
      record.evidence = evidenceOf record.evidence.retrieval
        (pipeline.evaluation world elapsedNs (input.retrieved record.evidence.retrieval)
          remainingBudgetNs) ∧
      record.policy = applyPolicy record.evidence pipeline.policy ∧
      record.executed = executePolicy record.policy := by
  obtain ⟨retrieval, hsearch, h⟩ := bind_eq_ok.mp h
  cases h
  cases hevaluation : pipeline.evaluation world elapsedNs (input.retrieved retrieval)
    remainingBudgetNs <;> exact ⟨hsearch, by simp only [evidenceOf, hevaluation], rfl, rfl⟩

theorem evaluation_sound {request : ReflexRequest} {model : JevCallEvidence}
    (h : pipeline.evaluation world elapsedNs request remainingBudgetNs = .ok model) :
    SoundDecision (pipeline.adapter.offered request) model.decision model.selectedCandidateId ∧
      ∃ body, pipeline.adapter.buildRequest world request = .ok body ∧
        (∀ id ∈ pipeline.adapter.offered request, id ∈ body.menu) ∧
        ∃ n response, world.post n body = .ok response ∧ response.status = 200 := by
  cases remainingBudgetNs with
  | none => exact evaluate_sound h
  | some budget => exact evaluate_sound h

theorem executed_of_failure
    (h : pipeline.runWithBudget arith world elapsedNs input remainingBudgetNs =
      .ok record) {failure : JevCallFailure}
    (hfailure : pipeline.evaluation world elapsedNs (input.retrieved record.evidence.retrieval)
      remainingBudgetNs = .error failure) :
    record.executed = ⟨.fallback, none, none⟩ := by
  obtain ⟨-, hevidence, hpolicy, hexecuted⟩ := runWithBudget_eq_ok h
  rw [hfailure] at hevidence
  rw [hexecuted, hpolicy]
  refine executePolicy_of_fallback (applyPolicy_of_fallback _ ?_)
  rw [hevidence]
  exact fallbackReason_ne_none failure.kind

theorem executed_cached
    (h : pipeline.runWithBudget arith world elapsedNs input remainingBudgetNs =
      .ok record) (hcached : record.executed.action = .cached) :
    ∃ model, pipeline.evaluation world elapsedNs (input.retrieved record.evidence.retrieval)
        remainingBudgetNs = .ok model ∧
      ∃ candidate ∈ record.evidence.retrieval.candidates,
        candidate.assetId ∈
          pipeline.adapter.offered (input.retrieved record.evidence.retrieval) ∧
        record.executed = ⟨.cached, some candidate.assetId, candidate.assetIdentity⟩ ∧
        Passed record.evidence pipeline.policy candidate.assetId := by
  obtain ⟨hsearch, hevidence, hpolicy, hexecuted⟩ := runWithBudget_eq_ok h
  cases hevaluation : pipeline.evaluation world elapsedNs
      (input.retrieved record.evidence.retrieval) remainingBudgetNs with
  | error failure =>
    rw [executed_of_failure h hevaluation] at hcached
    cases hcached
  | ok model =>
    rw [hexecuted] at hcached
    obtain ⟨hreason, hroute, hcached⟩ := executePolicy_cached hcached
    rw [hpolicy] at hreason hroute
    obtain ⟨id, hpassed⟩ := applyPolicy_cached hreason hroute
    have hselected : model.selectedCandidateId = some id := by
      rw [← hpassed.selected, hevidence, hevaluation]
      rfl
    have hoffered := (evaluation_sound hevaluation).1.selected id hselected
    have hretrieved : id ∈ record.evidence.retrieval.candidates.map (·.assetId) := by
      have hmem := List.mem_of_mem_take hoffered
      rw [RetrievalSnapshot.candidateAssetIds, ReflexPipelineInput.retrieved,
        List.map_map] at hmem
      exact hmem
    obtain ⟨candidate, hcandidate, rfl⟩ := List.mem_map.mp hretrieved
    refine ⟨model, rfl, candidate, hcandidate, hoffered, ?_, hpassed⟩
    rw [hexecuted, hcached, hpolicy, hpassed.policy,
      RetrievalResult.identityOf_eq (SemanticIndex.search_candidates hsearch).1 hcandidate]

end Safety

/-- **Routing safety.**  Whatever the provider does, a cached asset is executed only if it was
retrieved, stood on the menu of the request that was posted, and passed every gate of the policy;
its identity is that of the retrieval.  A failed evaluation, a policy that falls back and a budget
that has run out execute a fallback. -/
theorem executed_safely (arith : VectorArith) (world : JevWorld)
    (pipeline : ReflexPipeline) (elapsedNs : Nat) (input : ReflexPipelineInput)
    (remainingBudgetNs : Option Nat) (record : DecisionReplayRecord)
    (h : pipeline.runWithBudget arith world elapsedNs input remainingBudgetNs =
      .ok record) :
    let retrieval := record.evidence.retrieval
    let request := input.retrieved retrieval
    let decision := record.evidence.normalized
    pipeline.index.search arith input.queryEmbedding pipeline.topK = .ok retrieval ∧
    (record.executed.action = .cached → ∃ candidate ∈ retrieval.candidates,
      record.executed.assetId = some candidate.assetId ∧
      record.executed.assetIdentity = candidate.assetIdentity ∧
      (∃ body, pipeline.adapter.buildRequest world request = .ok body ∧
        candidate.assetId ∈ body.menu ∧
        ∃ n response, world.post n body = .ok response ∧ response.status = 200) ∧
      pipeline.policy.reuseThreshold.le decision.cacheReuseProbability = true ∧
      (∃ confidence, decision.route.confidence = some confidence ∧
        pipeline.policy.minRouteConfidence.le confidence = true) ∧
      decision.fallbackReason = .none ∧ record.policy.fallbackReason = .none) ∧
    (record.executed.action ≠ .cached →
      record.executed.assetId = none ∧ record.executed.assetIdentity = none) ∧
    (∀ failure, pipeline.evaluation world elapsedNs request remainingBudgetNs = .error failure →
      record.executed = ⟨.fallback, none, none⟩) ∧
    (record.policy.fallbackReason ≠ .none → record.executed = ⟨.fallback, none, none⟩) ∧
    (∀ budget ∈ remainingBudgetNs, budget ≤ elapsedNs →
      record.executed = ⟨.fallback, none, none⟩) := by
  intro retrieval request decision
  obtain ⟨hsearch, hevidence, hpolicy, hexecuted⟩ := runWithBudget_eq_ok h
  refine ⟨hsearch, fun hcached ↦ ?_, fun hother ↦ ?_, fun failure hfailure ↦ ?_,
    fun hreason ↦ ?_, fun budget hbudget hspent ↦ ?_⟩
  · obtain ⟨model, hevaluation, candidate, hcandidate, hoffered, hcached, hpassed⟩ :=
      executed_cached h hcached
    obtain ⟨hsound, body, hbody, hmenu, hposted⟩ := evaluation_sound hevaluation
    have hdecision : decision = model.decision := by
      rw [show decision = record.evidence.normalized from rfl, hevidence, hevaluation]
      rfl
    obtain ⟨confidence, hconfidence, hunit⟩ := hsound.confidence
    rw [← hdecision] at hconfidence
    obtain ⟨-, hthresholds⟩ := unit_bind_eq_ok.mp pipeline.valid
    rw [ensure_eq_ok, Bool.and_eq_true] at hthresholds
    refine ⟨candidate, hcandidate, by rw [hcached], by rw [hcached],
      ⟨body, hbody, hmenu _ hoffered, hposted⟩, hpassed.reuse, ⟨confidence, hconfidence, ?_⟩,
      hpassed.fallbackReason, by rw [hpolicy, hpassed.policy]⟩
    exact Float64.le_of_not_lt hunit hthresholds.2 (hpassed.confidence confidence hconfidence)
  · rw [hexecuted] at hother ⊢
    exact executePolicy_of_not_cached hother
  · exact executed_of_failure h hfailure
  · rw [hexecuted]
    exact executePolicy_of_fallback hreason
  · have hfailure : pipeline.evaluation world elapsedNs request remainingBudgetNs =
        .error (pipeline.adapter.failure world .timeout "Jev has no remaining interaction budget" 0
          .built) := by
      rw [Option.mem_def] at hbudget
      rw [hbudget, evaluation, Nat.sub_eq_zero_of_le hspent]
      exact evaluate_no_budget _
    exact executed_of_failure h hfailure

section Examples

/-- Floats that are computed exactly. -/
def exactArith : VectorArith where
  add a b := .finite (a.value + b.value)
  sub a b := .finite (a.value - b.value)
  mul a b := .finite (a.value * b.value)
  div a b := .finite (a.value / b.value)
  ofNat n := .finite n
  single a := a
  sqrt a := a

def jevChoice (choice : String) : JsonValue :=
  .object [("type", .string "choice"), ("choice", .string choice), ("confidence", .integer 1),
    ("probabilities", .object [(choice, .integer 1)])]

def jevNoul : JsonValue := .object [("type", .string "noul"), ("noul", .integer 1)]

def jevScore : JsonValue :=
  .object [("type", .string "score"), ("score", .integer 1), ("confidence", .integer 1),
    ("probabilities", .object [("high importance", .integer 1)]), ("legend", .object [])]

/-- A provider that waves, and is never late. -/
def wavingProvider : JevWorld where
  post _ _ := .ok ⟨200, []⟩
  cancelled _ := false
  late _ _ := false
  slept _ := true
  latencyMs _ _ := .finite 0
  stateBytes _ := 0
  parse _ := .ok
    { model := "jev-1"
      answers := .ofList
        [("response_route", jevChoice "cached"), ("reaction_family", jevChoice "agree"),
          ("gesture_family", jevChoice "wave_small"), ("attention_target", jevChoice "chat"),
          ("interrupt", jevNoul), ("cache_reuse", jevNoul), ("importance", jevScore),
          ("emotion_intensity", jevScore), ("selected_candidate", jevChoice "asset.wave")]
      usage := ⟨1, 1⟩ }
  debug text := text

def wavingPipeline : ReflexPipeline where
  index :=
    { metadata := ⟨"semantic-v1", "embed-v1", "index-v1", "0.1.0", .cosine, "tie"⟩
      dimension := 1
      assets := [⟨"asset.wave", some "wave-1", [.finite 1]⟩]
      ordered := by simp }
  adapter :=
    { config := ⟨"https://jev.example", "jev", 1000, 1, 1024, 8⟩
      isSecureEndpoint := fun _ ↦ true
      valid := by decide +kernel }
  policy := ⟨.finite (17 / 20), .finite (1 / 2)⟩
  topK := 1
  valid := by decide +kernel

def helloInput : ReflexPipelineInput where
  request :=
    { schemaVersion := reflexRequestSchemaVersion
      event :=
        { schemaVersion := eventSchemaVersion
          eventId := "hello"
          correlationId := "hello"
          sequence := 1
          observedAt := "2026-01-01T00:00:00Z"
          source := "chat"
          sourceClass := .publicChat
          plane := .content
          trustLevel := .untrusted
          kind := .chatMessage
          actorId := none
          priorityHint := none
          authorization := none
          payload := ∅ }
      context := .default
      retrieval := ⟨[]⟩ }
  queryEmbedding := [.finite 1]

/-- The provider waves, and the wave is executed. -/
theorem executed_safely_wave :
    ∃ record, wavingPipeline.runWithBudget exactArith wavingProvider 0 helloInput none =
        .ok record ∧
      record.executed = ⟨.cached, some "asset.wave", some "wave-1"⟩ ∧
      ∃ candidate ∈ record.evidence.retrieval.candidates,
        record.executed.assetId = some candidate.assetId := by
  have hrun : (wavingPipeline.runWithBudget exactArith wavingProvider 0 helloInput
      none).toOption.map (·.executed) = some ⟨.cached, some "asset.wave", some "wave-1"⟩ := by
    decide +kernel
  cases h : wavingPipeline.runWithBudget exactArith wavingProvider 0 helloInput none with
  | error error =>
    rw [h] at hrun
    cases hrun
  | ok record =>
    rw [h] at hrun
    have hexecuted : record.executed = ⟨.cached, some "asset.wave", some "wave-1"⟩ :=
      Option.some.inj hrun
    obtain ⟨-, hcached, -⟩ := executed_safely exactArith wavingProvider wavingPipeline 0
      helloInput none record h
    obtain ⟨candidate, hcandidate, hid, -⟩ := hcached (by rw [hexecuted])
    exact ⟨record, rfl, hexecuted, candidate, hcandidate, hid⟩

end Examples

end ReflexPipeline

end Aivtuber
