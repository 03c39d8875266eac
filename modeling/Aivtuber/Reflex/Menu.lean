import Aivtuber.Reflex.Pipeline

/-!
# Answers on the menu

Each choice question of a request offers the keys of its criteria.  A route, an attention target
and a candidate that were not offered are refused.  A reaction family and a gesture family are
passed on as the provider names them (`answers_onMenu_iff`).
-/

open Aivtuber.Check
open Std (ExtTreeMap)

namespace Aivtuber

/-! ## Menus -/

/-- What a request about the candidates offers for a question. -/
def menuOf (candidates : List String) (name : String) : List String :=
  (((buildQuestions candidates)[name]?.bind fun question ↦ question.get? "criteria").bind
    JsonValue.asObject).elim [] fun criteria ↦ criteria.map (·.1)

/-- The choice that an answer names, whatever else it holds. -/
def chosen (answers : ExtTreeMap String JsonValue) (name : String) : Option String :=
  (answers[name]?.bind fun answer ↦ answer.get? "choice").bind JsonValue.asStr

/-- The enumerated answers that are passed on were offered. -/
structure OnMenu (candidates : List String) (normalized : NormalizedResponse) : Prop where
  answers : ∀ name choice confidence probabilities,
    normalized.answers[name]? = some (.choice choice confidence probabilities) →
      choice ∈ menuOf candidates name
  reaction : ∀ family ∈ normalized.decision.reactionFamily,
    family ∈ menuOf candidates "reaction_family"
  gesture : ∀ family ∈ normalized.decision.gestureFamily,
    family ∈ menuOf candidates "gesture_family"
  selected : ∀ id ∈ normalized.selectedCandidateId, id ∈ menuOf candidates "selected_candidate"

/-- The provider names a reaction family and a gesture family that were offered. -/
def FamiliesOffered (answers : ExtTreeMap String JsonValue) (candidates : List String) : Prop :=
  (∀ family ∈ chosen answers "reaction_family", family ∈ menuOf candidates "reaction_family") ∧
    ∀ family ∈ chosen answers "gesture_family", family ∈ menuOf candidates "gesture_family"

section Menus

variable {candidates : List String} {name candidate : String}

theorem menuOf_of_ne (h : name ≠ "selected_candidate") : menuOf candidates name = menuOf [] name := by
  rw [menuOf, menuOf, buildQuestions, buildQuestions]
  cases candidates with
  | nil => rfl
  | cons first candidates =>
    dsimp only [List.isEmpty]
    rw [if_neg Bool.false_ne_true, if_pos rfl, ExtTreeMap.getElem?_insert, if_neg]
    exact fun hcmp ↦ h (Std.LawfulEqCmp.eq_of_compare hcmp).symm

theorem menuOf_selected (h : candidates ≠ []) :
    candidate ∈ menuOf candidates "selected_candidate" ↔
      candidate ∈ candidateCriteria candidates := by
  have hsome : candidates.isEmpty = false := List.isEmpty_eq_false_iff.mpr h
  have hquestion : (buildQuestions candidates)["selected_candidate"]? = some
      (choiceQuestion "Select the best reusable candidate, or none."
        (candidateCriteria candidates)) := by
    rw [buildQuestions, hsome]
    exact ExtTreeMap.getElem?_insert_self
  rw [menuOf, hquestion, Option.bind_some, choiceQuestion_criteria]
  change candidate ∈ (List.map _ _).map _ ↔ _
  rw [List.map_map, ← ExtTreeMap.mem_keys, ← ExtTreeMap.map_fst_toList_eq_keys]
  rfl

/-- A map of a list with distinct keys holds what the list does. -/
theorem getElem?_ofList_iff {α : Type} {entries : List (String × α)} {key : String} {value : α}
    (hkeys : (entries.map (·.1)).Nodup) :
    (ExtTreeMap.ofList entries : ExtTreeMap String α)[key]? = some value ↔
      (key, value) ∈ entries := by
  have hdistinct : entries.Pairwise fun a b ↦ ¬ compare a.1 b.1 = .eq := by
    rw [List.Nodup, List.pairwise_map] at hkeys
    exact hkeys.imp fun hne hcmp ↦ hne (Std.LawfulEqCmp.eq_of_compare hcmp)
  constructor
  · intro h
    by_cases hkey : key ∈ entries.map (·.1)
    · obtain ⟨⟨_, other⟩, hmem, rfl⟩ := List.mem_map.mp hkey
      have hfound := ExtTreeMap.getElem?_ofList_of_mem Std.ReflCmp.compare_self hdistinct hmem
      cases hfound.symm.trans h
      exact hmem
    · rw [ExtTreeMap.getElem?_ofList_of_contains_eq_false] at h
      · cases h
      · rw [← Bool.not_eq_true, List.contains_iff_mem]
        exact hkey
  · exact fun hmem ↦ ExtTreeMap.getElem?_ofList_of_mem Std.ReflCmp.compare_self hdistinct hmem

end Menus

/-! ## What is passed on -/

section Passed

variable {world : JevWorld} {answers : ExtTreeMap String JsonValue} {candidates : List String}

theorem parseChoice_chosen {name choice : String} {confidence : Float64} {answer : NormalizedAnswer}
    (h : parseChoice world answers name = .ok (choice, confidence, answer)) :
    chosen answers name = some choice ∧ ∃ probabilities,
      answer = .choice choice confidence probabilities := by
  obtain ⟨object, hobject, h⟩ := bind_eq_ok.mp h
  obtain ⟨choice', hchoice, h⟩ := expect_bind_eq_ok.mp h
  obtain ⟨confidence', -, h⟩ := bind_eq_ok.mp h
  obtain ⟨probabilities, -, h⟩ := bind_eq_ok.mp h
  cases h
  obtain ⟨found, hfound, hobject⟩ := expect_bind_eq_ok.mp hobject
  obtain ⟨answerType, -, hobject⟩ := expect_bind_eq_ok.mp hobject
  obtain ⟨-, hobject⟩ := unit_bind_eq_ok.mp hobject
  cases hobject
  refine ⟨?_, probabilities, rfl⟩
  rw [chosen, (Option.filter_eq_some_iff.mp hfound).1, Option.bind_some, hchoice]

theorem parseNoul_answer {name : String} {probability : Float64} {answer : NormalizedAnswer}
    (h : parseNoul world answers name = .ok (probability, answer)) : answer = .noul probability := by
  obtain ⟨object, -, h⟩ := bind_eq_ok.mp h
  obtain ⟨probability', -, h⟩ := bind_eq_ok.mp h
  cases h
  rfl

theorem parseScore_answer {name : String} {score : Float64} {answer : NormalizedAnswer}
    (h : parseScore world answers name = .ok (score, answer)) :
    ∃ confidence probabilities, answer = .score score confidence probabilities := by
  obtain ⟨object, -, h⟩ := bind_eq_ok.mp h
  obtain ⟨score', -, h⟩ := bind_eq_ok.mp h
  obtain ⟨confidence, -, h⟩ := bind_eq_ok.mp h
  obtain ⟨probabilities, -, h⟩ := bind_eq_ok.mp h
  obtain ⟨-, h⟩ := unit_bind_eq_ok.mp h
  cases h
  exact ⟨confidence, probabilities, rfl⟩

theorem route_offered {choice : String} {route : ResponseRoute}
    (h : responseRoute choice = some route) : choice ∈ menuOf candidates "response_route" := by
  rw [menuOf_of_ne (by decide)]
  have hmenu : menuOf [] "response_route" = ["cached", "llm", "reaction", "silent", "template"] := by
    decide +kernel
  rw [hmenu]
  unfold responseRoute at h
  split at h
  all_goals cases h
  all_goals simp

theorem target_offered {choice : String} {target : AttentionTarget}
    (h : attentionTarget choice = some target) : choice ∈ menuOf candidates "attention_target" := by
  rw [menuOf_of_ne (by decide)]
  have hmenu : menuOf [] "attention_target" = ["away", "camera", "chat", "game", "speaker"] := by
    decide +kernel
  rw [hmenu]
  unfold attentionTarget at h
  split at h
  all_goals cases h
  all_goals simp

theorem candidate_offered {selected : Option String} {answer : NormalizedAnswer}
    (h : selectedCandidate world answers candidates = .ok (selected, some answer)) :
    ∃ choice confidence probabilities, answer = .choice choice confidence probabilities ∧
      choice ∈ menuOf candidates "selected_candidate" := by
  rw [selectedCandidate] at h
  split at h
  case isTrue => cases h
  case isFalse hsome =>
    have hne : candidates ≠ [] := fun heq ↦ hsome (by rw [heq]; rfl)
    obtain ⟨⟨choice, confidence, selectedAnswer⟩, hparsed, h⟩ := bind_eq_ok.mp h
    obtain ⟨-, probabilities, rfl⟩ := parseChoice_chosen hparsed
    dsimp only at h
    split at h
    case isTrue hnone =>
      cases h
      refine ⟨choice, confidence, probabilities, rfl, (menuOf_selected hne).mpr ?_⟩
      rw [hnone]
      exact none_mem_candidateCriteria candidates
    case isFalse =>
      split at h
      case isTrue hmem =>
        cases h
        exact ⟨choice, confidence, probabilities, rfl,
          (menuOf_selected hne).mpr (mem_candidateCriteria hmem)⟩
      case isFalse => cases h

/-- **What is accepted is on the menu** exactly if the families are. -/
theorem onMenu_iff {requestedModel returnedModel : String} {latencyMs : Float64}
    {normalized : NormalizedResponse}
    (h : normalizeAnswers world answers candidates requestedModel returnedModel latencyMs =
      .ok normalized) :
    OnMenu candidates normalized ↔ FamiliesOffered answers candidates := by
  obtain ⟨⟨route, routeConfidence, routeAnswer⟩, hroute, h⟩ := bind_eq_ok.mp h
  obtain ⟨route', hknown, h⟩ := expect_bind_eq_ok.mp h
  obtain ⟨⟨reaction, reactionConfidence, reactionAnswer⟩, hreaction, h⟩ := bind_eq_ok.mp h
  obtain ⟨⟨gesture, gestureConfidence, gestureAnswer⟩, hgesture, h⟩ := bind_eq_ok.mp h
  obtain ⟨⟨attention, attentionConfidence, attentionAnswer⟩, hattention, h⟩ := bind_eq_ok.mp h
  obtain ⟨target, htarget, h⟩ := expect_bind_eq_ok.mp h
  obtain ⟨⟨interruptProbability, interruptAnswer⟩, hinterrupt, h⟩ := bind_eq_ok.mp h
  obtain ⟨⟨cacheReuseProbability, cacheAnswer⟩, hcache, h⟩ := bind_eq_ok.mp h
  obtain ⟨⟨importance, importanceAnswer⟩, himportance, h⟩ := bind_eq_ok.mp h
  obtain ⟨⟨emotion, emotionAnswer⟩, hemotion, h⟩ := bind_eq_ok.mp h
  obtain ⟨⟨selectedCandidateId, selectedAnswer⟩, hselected, h⟩ := bind_eq_ok.mp h
  obtain ⟨-, -, h⟩ := bind_eq_ok.mp h
  obtain ⟨hrouteChosen, routeProbabilities, rfl⟩ := parseChoice_chosen hroute
  obtain ⟨hreactionChosen, reactionProbabilities, rfl⟩ := parseChoice_chosen hreaction
  obtain ⟨hgestureChosen, gestureProbabilities, rfl⟩ := parseChoice_chosen hgesture
  obtain ⟨hattentionChosen, attentionProbabilities, rfl⟩ := parseChoice_chosen hattention
  obtain rfl := parseNoul_answer hinterrupt
  obtain rfl := parseNoul_answer hcache
  obtain ⟨importanceConfidence, importanceProbabilities, rfl⟩ := parseScore_answer himportance
  obtain ⟨emotionConfidence, emotionProbabilities, rfl⟩ := parseScore_answer hemotion
  cases h
  have hkeys : (["response_route", "reaction_family", "gesture_family", "attention_target",
      "interrupt", "cache_reuse", "importance", "emotion_intensity"] ++
        selectedAnswer.toList.map fun _ ↦ "selected_candidate").Nodup := by
    cases selectedAnswer with
    | none =>
      show ["response_route", "reaction_family", "gesture_family", "attention_target",
        "interrupt", "cache_reuse", "importance", "emotion_intensity"].Nodup
      decide
    | some answer =>
      show ["response_route", "reaction_family", "gesture_family", "attention_target",
        "interrupt", "cache_reuse", "importance", "emotion_intensity",
        "selected_candidate"].Nodup
      decide
  constructor
  · intro hmenu
    constructor
    · rw [hreactionChosen]
      rintro _ ⟨⟩
      apply hmenu.answers "reaction_family" reaction reactionConfidence reactionProbabilities
      refine (getElem?_ofList_iff ?_).mpr ?_
      · rw [List.map_append, List.map_map]
        exact hkeys
      · simp
    · rw [hgestureChosen]
      rintro _ ⟨⟩
      apply hmenu.answers "gesture_family" gesture gestureConfidence gestureProbabilities
      refine (getElem?_ofList_iff ?_).mpr ?_
      · rw [List.map_append, List.map_map]
        exact hkeys
      · simp
  · rintro ⟨hreactionOffered, hgestureOffered⟩
    have hreactionOffered := hreactionOffered reaction hreactionChosen
    have hgestureOffered := hgestureOffered gesture hgestureChosen
    refine ⟨?_, ?_, ?_, ?_⟩
    · intro name choice confidence probabilities hanswer
      have hmem := (getElem?_ofList_iff (by rw [List.map_append, List.map_map]; exact hkeys)).mp
        hanswer
      rcases List.mem_append.mp hmem with hmem | hmem
      · simp only [List.mem_cons, Prod.mk.injEq, NormalizedAnswer.choice.injEq, reduceCtorEq,
          and_false, List.not_mem_nil, or_false] at hmem
        rcases hmem with ⟨rfl, rfl, -⟩ | ⟨rfl, rfl, -⟩ | ⟨rfl, rfl, -⟩ | ⟨rfl, rfl, -⟩
        · exact route_offered hknown
        · exact hreactionOffered
        · exact hgestureOffered
        · exact target_offered htarget
      · obtain ⟨answer, hanswer, heq⟩ := List.mem_map.mp hmem
        cases heq
        obtain rfl := Option.mem_toList.mp hanswer
        obtain ⟨choice', confidence', probabilities', heq, hoffered⟩ := candidate_offered hselected
        cases heq
        exact hoffered
    · intro family hfamily
      dsimp only at hfamily
      split at hfamily
      · cases hfamily
        exact hreactionOffered
      · cases hfamily
    · intro family hfamily
      dsimp only at hfamily
      split at hfamily
      · cases hfamily
        exact hgestureOffered
      · cases hfamily
    · rintro id ⟨⟩
      have hmem := selectedCandidate_mem hselected
      exact (menuOf_selected (List.ne_nil_of_mem hmem)).mpr (mem_candidateCriteria hmem)

end Passed

/-! ## Falling back -/

section Fallback

variable {world : JevWorld} {adapter : JevAdapter} {request : ReflexRequest}

/-- What is accepted was normalized, from the answers of the provider. -/
theorem evaluate_normalized {remainingBudgetNs : Nat} {evidence : JevCallEvidence}
    (h : adapter.evaluate world request remainingBudgetNs = .ok evidence) :
    ∃ n body response normalized, parseJevResponseBody world body = .ok response ∧
      normalizeAnswers world response.answers (adapter.offered request) adapter.config.modelAlias
        response.model (world.latencyMs (n + 1) .parsed) = .ok normalized ∧
      evidence.decision = normalized.decision ∧ evidence.answers = normalized.answers := by
  rw [JevAdapter.evaluate] at h
  split at h
  · cases h
  · split at h
    · cases h
    · obtain ⟨n, answered, -, -, h⟩ := attempt_eq_ok h
      obtain ⟨response, hresponse, h⟩ := bind_eq_ok.mp h
      obtain ⟨-, h⟩ := unit_bind_eq_ok.mp h
      obtain ⟨normalized, hnormalized, h⟩ := bind_eq_ok.mp h
      cases h
      exact ⟨n, answered.body, response, normalized, mapError_eq_ok.mp hresponse,
        mapError_eq_ok.mp hnormalized, rfl, rfl⟩

/-- A run that does not fall back has normalized the answers of the provider. -/
theorem normalized_of_not_fallback {arith : VectorArith} {pipeline : ReflexPipeline}
    {elapsedNs : Nat} {input : ReflexPipelineInput} {remainingBudgetNs : Option Nat}
    {record : DecisionReplayRecord}
    (h : pipeline.runWithBudget arith world elapsedNs input remainingBudgetNs = .ok record)
    (hexecuted : record.executed ≠ ⟨.fallback, none, none⟩) :
    ∃ n body response normalized, parseJevResponseBody world body = .ok response ∧
      normalizeAnswers world response.answers
        (pipeline.adapter.offered (input.retrieved record.evidence.retrieval))
        pipeline.adapter.config.modelAlias response.model (world.latencyMs (n + 1) .parsed) =
          .ok normalized := by
  cases hevaluation : pipeline.evaluation world elapsedNs
      (input.retrieved record.evidence.retrieval) remainingBudgetNs with
  | error failure =>
    exact absurd (ReflexPipeline.executed_of_failure h hevaluation) hexecuted
  | ok evidence =>
    have hevaluate : ∃ budget, pipeline.adapter.evaluate world
        (input.retrieved record.evidence.retrieval) budget = .ok evidence := by
      cases remainingBudgetNs with
      | none => exact ⟨_, hevaluation⟩
      | some budget => exact ⟨_, hevaluation⟩
    obtain ⟨budget, hevaluate⟩ := hevaluate
    obtain ⟨n, body, response, normalized, hresponse, hnormalized, -, -⟩ :=
      evaluate_normalized hevaluate
    exact ⟨n, body, response, normalized, hresponse, hnormalized⟩

end Fallback

/-- **Answers on the menu.**  The answers that are accepted were all offered exactly when the
reaction family and the gesture family were, and a run whose answers are refused falls back. -/
theorem answers_onMenu_iff (world : JevWorld) :
    (∀ answers candidates requestedModel returnedModel latencyMs normalized,
      normalizeAnswers world answers candidates requestedModel returnedModel latencyMs =
          .ok normalized →
        (OnMenu candidates normalized ↔ FamiliesOffered answers candidates)) ∧
    ∀ arith (pipeline : ReflexPipeline) elapsedNs input remainingBudgetNs record,
      pipeline.runWithBudget arith world elapsedNs input remainingBudgetNs = .ok record →
        record.executed ≠ ⟨.fallback, none, none⟩ →
          ∃ n body response normalized, parseJevResponseBody world body = .ok response ∧
            normalizeAnswers world response.answers
              (pipeline.adapter.offered (input.retrieved record.evidence.retrieval))
              pipeline.adapter.config.modelAlias response.model
                (world.latencyMs (n + 1) .parsed) = .ok normalized :=
  ⟨fun _ _ _ _ _ _ h ↦ onMenu_iff h, fun _ _ _ _ _ _ h ↦ normalized_of_not_fallback h⟩

/-- The answers of a provider that names a gesture. -/
def gestureAnswers (gesture : String) : ExtTreeMap String JsonValue :=
  .ofList
    [("response_route", ReflexPipeline.jevChoice "reaction"),
      ("reaction_family", ReflexPipeline.jevChoice "agree"),
      ("gesture_family", ReflexPipeline.jevChoice gesture),
      ("attention_target", ReflexPipeline.jevChoice "chat"), ("interrupt", ReflexPipeline.jevNoul),
      ("cache_reuse", ReflexPipeline.jevNoul), ("importance", ReflexPipeline.jevScore),
      ("emotion_intensity", ReflexPipeline.jevScore)]

/-- A gesture that was not offered is passed on. -/
theorem unoffered_gesture_passed : ∃ normalized,
    normalizeAnswers ReflexPipeline.wavingProvider (gestureAnswers "salute") [] "jev" "jev-1"
      (.finite 0) = .ok normalized ∧ ¬ OnMenu [] normalized := by
  have hpassed : (normalizeAnswers ReflexPipeline.wavingProvider (gestureAnswers "salute") [] "jev"
      "jev-1" (.finite 0)).toOption.map (·.decision.gestureFamily) = some (some "salute") := by
    decide +kernel
  cases h : normalizeAnswers ReflexPipeline.wavingProvider (gestureAnswers "salute") [] "jev"
      "jev-1" (.finite 0) with
  | error message =>
    rw [h] at hpassed
    cases hpassed
  | ok normalized =>
    rw [h] at hpassed
    have hgesture : normalized.decision.gestureFamily = some "salute" := Option.some.inj hpassed
    refine ⟨normalized, rfl, fun hmenu ↦ ?_⟩
    have hoffered := hmenu.gesture "salute" hgesture
    have hmissing : "salute" ∉ menuOf [] "gesture_family" := by decide +kernel
    exact hmissing hoffered

end Aivtuber
