import Aivtuber.Generative.Compiler

/-!
# The generative pipeline

`GenerativePipeline` of `crates/generative/src/lib.rs`: a request is thought about, the reply
passes the output gate, is spoken, and is compiled into an asset; at four points the run looks
at its cancellation token, and before each provider call at the clock.  What the providers answer,
what the token and the clock say, is arbitrary.  A run is told with the calls that it makes, in
order, so that the trace that it leaves can be compared with what it did.
-/

open Aivtuber.Check Aivtuber.Text
open Saturating (u64Max satAdd)

namespace Aivtuber

structure GenerationTrace where
  llmCalls : List LlmCallRecord
  ttsAttempted : Bool
  ttsStreaming : Bool
  ttsProgressChunks : Nat
  ttsBackend : Option TtsBackendIdentity
  thinkingTimeoutMs : Option Nat
  ttsTimeoutMs : Option Nat
  fallbackReason : FallbackReason
  cancelledStage : Option CancellationStage
  budgetDenialReason : Option String
deriving DecidableEq, Repr

def GenerationTrace.default : GenerationTrace where
  llmCalls := []
  ttsAttempted := false
  ttsStreaming := false
  ttsProgressChunks := 0
  ttsBackend := none
  thinkingTimeoutMs := none
  ttsTimeoutMs := none
  fallbackReason := .none
  cancelledStage := none
  budgetDenialReason := none

structure GeneratedReply where
  text : String
deriving DecidableEq, Repr

inductive GeneratedTextGateDecision where
  | publish (text : String)
  | reject
deriving DecidableEq, Repr

/-- The engines of a pipeline, as they answer in one run.  A timeout is in nanoseconds; a
streaming backend also pushes its progress. -/
structure Engines where
  thinkingIdentity : BackendIdentity
  ttsIdentity : TtsBackendIdentity
  generate : ThinkingRequest → Option Nat → Except EngineError GeneratedReply
  synthesizeStreaming : SpeechRequest → Option Nat →
    Option (List SpeechProgress × Except EngineError SpeechArtifact)
  synthesize : SpeechRequest → Option Nat → Except EngineError SpeechArtifact

/-- What the token and the clock say when a run looks at them. -/
structure Readings where
  isCancelled : CancellationStage → Bool
  /-- The instant before the thinking, in nanoseconds. -/
  thinkingAt : Nat
  /-- The instant before the speech. -/
  ttsAt : Nat

/-- What a run asks of others. -/
inductive PipelineCall where
  | thinking (request : ThinkingRequest) (timeout : Option Nat)
  | gate (text : String)
  | tts (request : SpeechRequest) (timeout : Option Nat)
deriving DecidableEq

/-- A run that got past its checks. -/
structure PipelineRun where
  calls : List PipelineCall
  trace : GenerationTrace
  disposition : GenerationDisposition

namespace PipelineRun

/-- What the executor sees of a run. -/
def result (run : PipelineRun) : GenerationResult := ⟨run.trace.llmCalls, run.disposition⟩

end PipelineRun

def cancelledResult (calls : List PipelineCall) (trace : GenerationTrace)
    (stage : CancellationStage) : PipelineRun where
  calls
  trace := { trace with cancelledStage := some stage }
  disposition := .cancelled stage

def fallbackResult (calls : List PipelineCall) (trace : GenerationTrace) (reason : FallbackReason)
    (directive : FallbackDirective) : PipelineRun where
  calls
  trace := { trace with fallbackReason := reason }
  disposition := .fallback directive

/-- The time that is left for a provider, unless there is none. -/
def remainingProviderTimeout (deadline : Option Nat) (now : Nat) : Except Unit (Option Nat) :=
  match deadline with
  | none => .ok none
  | some deadline => if now < deadline then .ok (some (deadline - now)) else .error ()

/-- Milliseconds, rounded up; a duration has far less than `2 ^ 128` nanoseconds. -/
def durationMsCeil (duration : Nat) : Nat := min ((duration + 999999) / 1000000) u64Max

def fallbackReasonFromError (error : EngineError) : FallbackReason :=
  match error.kind with
  | .timeout => .timeout
  | .unavailable => .unavailable
  | .rateLimited => .rateLimited
  | .overloaded => .overloaded
  | .authentication => .authentication
  | .invalidRequest => .invalidRequest
  | .unauthorized | .backend => .unavailable

def selectFallbackDirective (request : PipelineRequest) (fallbackAssets : Option AssetStore) :
    FallbackDirective :=
  let reactionFamily := request.fallbackVariantGroup.getD "reaction.neutral"
  match fallbackAssets.bind fun assets ↦ assets.selectVariantId reactionFamily request.seed [] with
  | some assetId => .cachedReaction reactionFamily assetId
  | none => .nonVerbalReaction reactionFamily

structure GenerativePipeline where
  engines : Engines
  compiler : PerformanceCompiler

namespace GenerativePipeline

/-- The checks before any work. -/
def check (request : PipelineRequest) : Except GenerationError Unit := do
  request.sourceEvent.validate.mapError fun error ↦
    ⟨"invalid generation event: " ++ error.display⟩
  request.thinking.validate.mapError fun error ↦
    ⟨"invalid thinking request: " ++ error.display⟩
  ensure ⟨"thinking request input provenance must match source_event"⟩
    (!(request.thinking.input.eventId ≠ some request.sourceEvent.eventId ||
      request.thinking.input.eventKind ≠ some request.sourceEvent.kind ||
      request.thinking.input.sourceClass ≠ some request.sourceEvent.sourceClass ||
      request.thinking.input.trustLevel ≠ request.sourceEvent.trustLevel))
  ensure ⟨"generation intent must not be empty"⟩ (!isBlank request.intent)

/-- The trace once the thinking engine is called. -/
def thoughtTrace (pipeline : GenerativePipeline) (request : PipelineRequest)
    (timeout : Option Nat) : GenerationTrace :=
  { GenerationTrace.default with
    thinkingTimeoutMs := timeout.map durationMsCeil
    llmCalls :=
      [⟨request.sourceEvent.eventId, request.routingReason, pipeline.engines.thinkingIdentity⟩] }

/-- The trace once the TTS engine is called. -/
def attemptTrace (pipeline : GenerativePipeline) (timeout : Option Nat)
    (trace : GenerationTrace) : GenerationTrace :=
  { trace with
    ttsTimeoutMs := timeout.map durationMsCeil
    ttsAttempted := true
    ttsBackend := some pipeline.engines.ttsIdentity }

/-- Streaming speech first, if the backend has it. -/
def speech (pipeline : GenerativePipeline) (request : SpeechRequest) (timeout : Option Nat)
    (trace : GenerationTrace) : GenerationTrace × Except EngineError SpeechArtifact :=
  match pipeline.engines.synthesizeStreaming request timeout with
  | some (pushed, result) =>
    let progress := StreamingSpeechCollector.collect pushed
    ({ trace with ttsStreaming := true, ttsProgressChunks := progress.progress.length },
      do
        let speech ← result
        progress.validateFinal speech
        pure speech)
  | none => (trace, pipeline.engines.synthesize request timeout)

/-- From the speech on. -/
def publish (pipeline : GenerativePipeline) (request : PipelineRequest)
    (fallback : FallbackDirective) (readings : Readings) (replyText : String)
    (calls : List PipelineCall) (trace : GenerationTrace)
    (result : Except EngineError SpeechArtifact) : PipelineRun :=
  match result with
  | .error error => fallbackResult calls trace (fallbackReasonFromError error) fallback
  | .ok speech =>
    if readings.isCancelled .afterTts then cancelledResult calls trace .afterTts
    else
      match pipeline.compiler.compile request replyText speech pipeline.engines.thinkingIdentity
        pipeline.engines.ttsIdentity with
      | .error _ => fallbackResult calls trace .invalidRequest fallback
      | .ok asset =>
        if readings.isCancelled .beforePublish then cancelledResult calls trace .beforePublish
        else ⟨calls, trace, .generated asset⟩

/-- From a reply that passed the gate on. -/
def speak (pipeline : GenerativePipeline) (request : PipelineRequest)
    (fallback : FallbackDirective) (deadline : Option Nat) (readings : Readings)
    (replyText : String) (calls : List PipelineCall) (trace : GenerationTrace) : PipelineRun :=
  match remainingProviderTimeout deadline readings.ttsAt with
  | .error () => fallbackResult calls trace .timeout fallback
  | .ok timeout =>
    let speechRequest := { text := replyText, style := request.style }
    let spoken := pipeline.speech speechRequest timeout (pipeline.attemptTrace timeout trace)
    pipeline.publish request fallback readings replyText (calls ++ [.tts speechRequest timeout])
      spoken.1 spoken.2

/-- From the answer of the thinking engine on. -/
def gate (pipeline : GenerativePipeline) (request : PipelineRequest)
    (fallback : FallbackDirective) (deadline : Option Nat) (readings : Readings)
    (outputGate : String → GeneratedTextGateDecision) (calls : List PipelineCall)
    (trace : GenerationTrace) (reply : Except EngineError GeneratedReply) : PipelineRun :=
  match reply with
  | .error error => fallbackResult calls trace (fallbackReasonFromError error) fallback
  | .ok reply =>
    if readings.isCancelled .afterThinking then cancelledResult calls trace .afterThinking
    else
      match outputGate reply.text with
      | .publish text =>
        if isBlank text then
          fallbackResult (calls ++ [.gate reply.text]) trace .policyOverride fallback
        else
          pipeline.speak request fallback deadline readings text (calls ++ [.gate reply.text])
            trace
      | .reject => fallbackResult (calls ++ [.gate reply.text]) trace .policyOverride fallback

/-- `run_with_output_gate_and_fallback_deadline`. -/
def run (pipeline : GenerativePipeline) (request : PipelineRequest) (fallback : FallbackDirective)
    (deadline : Option Nat) (readings : Readings)
    (outputGate : String → GeneratedTextGateDecision) : Except GenerationError PipelineRun := do
  check request
  if readings.isCancelled .beforeThinking then
    pure (cancelledResult [] .default .beforeThinking)
  else
    match remainingProviderTimeout deadline readings.thinkingAt with
    | .error () => pure (fallbackResult [] .default .timeout fallback)
    | .ok timeout =>
      pure (pipeline.gate request fallback deadline readings outputGate
        [.thinking request.thinking timeout] (pipeline.thoughtTrace request timeout)
        (pipeline.engines.generate request.thinking timeout))

/-! ## What a run does -/

section Runs

variable (pipeline : GenerativePipeline) (request : PipelineRequest) (fallback : FallbackDirective)
  (deadline : Option Nat) (readings : Readings) (outputGate : String → GeneratedTextGateDecision)

/-- How far a run has come: the calls that it has made and the trace of them. -/
inductive Passed : List PipelineCall → GenerationTrace → Prop
  | start : Passed [] .default
  | thought {timeout : Option Nat}
      (hopen : readings.isCancelled .beforeThinking = false)
      (htimeout : remainingProviderTimeout deadline readings.thinkingAt = .ok timeout) :
      Passed [.thinking request.thinking timeout] (pipeline.thoughtTrace request timeout)
  | gated {timeout : Option Nat} {reply : GeneratedReply}
      (hopen : readings.isCancelled .beforeThinking = false)
      (htimeout : remainingProviderTimeout deadline readings.thinkingAt = .ok timeout)
      (hreply : pipeline.engines.generate request.thinking timeout = .ok reply)
      (hopen' : readings.isCancelled .afterThinking = false) :
      Passed [.thinking request.thinking timeout, .gate reply.text]
        (pipeline.thoughtTrace request timeout)
  | spoken {timeout ttsTimeout : Option Nat} {reply : GeneratedReply} {text : String}
      (hopen : readings.isCancelled .beforeThinking = false)
      (htimeout : remainingProviderTimeout deadline readings.thinkingAt = .ok timeout)
      (hreply : pipeline.engines.generate request.thinking timeout = .ok reply)
      (hopen' : readings.isCancelled .afterThinking = false)
      (hgate : outputGate reply.text = .publish text) (hblank : isBlank text = false)
      (hspeech : remainingProviderTimeout deadline readings.ttsAt = .ok ttsTimeout) :
      Passed
        [.thinking request.thinking timeout, .gate reply.text,
          .tts ⟨text, request.style⟩ ttsTimeout]
        (pipeline.speech ⟨text, request.style⟩ ttsTimeout
          (pipeline.attemptTrace ttsTimeout (pipeline.thoughtTrace request timeout))).1

/-- How a run ends, after its calls. -/
inductive Ends (calls : List PipelineCall) (trace : GenerationTrace) : PipelineRun → Prop
  | cancelled (stage : CancellationStage) (hcancel : readings.isCancelled stage = true) :
      Ends calls trace (cancelledResult calls trace stage)
  | fallback (reason : FallbackReason) (hreason : reason ≠ .none) :
      Ends calls trace (fallbackResult calls trace reason fallback)
  | generated (asset : PerformanceAsset) : Ends calls trace ⟨calls, trace, .generated asset⟩

/-- A run comes to a point and ends there. -/
def Sound (run : PipelineRun) : Prop :=
  ∃ calls trace, Passed pipeline request deadline readings outputGate calls trace ∧
    Ends fallback readings calls trace run

variable {pipeline request fallback deadline readings outputGate}

theorem fallbackReasonFromError_ne_none (error : EngineError) :
    fallbackReasonFromError error ≠ .none := by
  rw [fallbackReasonFromError]
  cases error.kind <;> simp

theorem publish_ends (replyText : String) (calls : List PipelineCall) (trace : GenerationTrace)
    (result : Except EngineError SpeechArtifact) :
    Ends fallback readings calls trace
      (pipeline.publish request fallback readings replyText calls trace result) := by
  cases result with
  | error error => exact .fallback _ (fallbackReasonFromError_ne_none error)
  | ok speech =>
    rw [publish]
    split
    case isTrue hcancel => exact .cancelled _ hcancel
    case isFalse =>
      split
      case h_1 => exact .fallback _ (by simp)
      case h_2 asset _ =>
        split
        case isTrue hcancel => exact .cancelled _ hcancel
        case isFalse => exact .generated asset

theorem speak_sound {timeout : Option Nat} {reply : GeneratedReply} {text : String}
    (hopen : readings.isCancelled .beforeThinking = false)
    (htimeout : remainingProviderTimeout deadline readings.thinkingAt = .ok timeout)
    (hreply : pipeline.engines.generate request.thinking timeout = .ok reply)
    (hopen' : readings.isCancelled .afterThinking = false)
    (hgate : outputGate reply.text = .publish text) (hblank : isBlank text = false) :
    Sound pipeline request fallback deadline readings outputGate
      (pipeline.speak request fallback deadline readings text
        [.thinking request.thinking timeout, .gate reply.text]
        (pipeline.thoughtTrace request timeout)) := by
  rw [speak]
  cases hspeech : remainingProviderTimeout deadline readings.ttsAt with
  | error => exact ⟨_, _, .gated hopen htimeout hreply hopen', .fallback _ (by simp)⟩
  | ok ttsTimeout =>
    exact ⟨_, _, .spoken hopen htimeout hreply hopen' hgate hblank hspeech, publish_ends _ _ _ _⟩

theorem gate_sound {timeout : Option Nat}
    (hopen : readings.isCancelled .beforeThinking = false)
    (htimeout : remainingProviderTimeout deadline readings.thinkingAt = .ok timeout) :
    Sound pipeline request fallback deadline readings outputGate
      (pipeline.gate request fallback deadline readings outputGate
        [.thinking request.thinking timeout] (pipeline.thoughtTrace request timeout)
        (pipeline.engines.generate request.thinking timeout)) := by
  cases hreply : pipeline.engines.generate request.thinking timeout with
  | error error =>
    exact ⟨_, _, .thought hopen htimeout, .fallback _ (fallbackReasonFromError_ne_none error)⟩
  | ok reply =>
    rw [gate]
    split
    case isTrue hcancel => exact ⟨_, _, .thought hopen htimeout, .cancelled _ hcancel⟩
    case isFalse hopen' =>
      rw [Bool.not_eq_true] at hopen'
      cases hgate : outputGate reply.text with
      | reject => exact ⟨_, _, .gated hopen htimeout hreply hopen', .fallback _ (by simp)⟩
      | publish text =>
        dsimp only
        split
        case isTrue => exact ⟨_, _, .gated hopen htimeout hreply hopen', .fallback _ (by simp)⟩
        case isFalse hblank =>
          rw [Bool.not_eq_true] at hblank
          exact speak_sound hopen htimeout hreply hopen' hgate hblank

/-- **What a run can do.**  Every run comes to one of four points and ends there. -/
theorem run_passes {run : PipelineRun}
    (h : pipeline.run request fallback deadline readings outputGate = .ok run) :
    Sound pipeline request fallback deadline readings outputGate run := by
  rw [GenerativePipeline.run, unit_bind_eq_ok] at h
  replace h := h.2
  split at h
  case isTrue hcancel =>
    rw [← Except.ok.inj h]
    exact ⟨_, _, .start, .cancelled _ hcancel⟩
  case isFalse hopen =>
    rw [Bool.not_eq_true] at hopen
    cases htimeout : remainingProviderTimeout deadline readings.thinkingAt with
    | error =>
      rw [htimeout] at h
      rw [← Except.ok.inj h]
      exact ⟨_, _, .start, .fallback _ (by simp)⟩
    | ok timeout =>
      rw [htimeout] at h
      rw [← Except.ok.inj h]
      exact gate_sound hopen htimeout

/-- The time that a provider gets is what is left until the deadline, and not nothing. -/
def Granted (deadline : Option Nat) (now : Nat) (timeout : Option Nat) : Prop :=
  (deadline = none ∧ timeout = none) ∨
    ∃ left, timeout = some left ∧ 0 < left ∧ deadline = some (now + left)

theorem granted_of_remaining {now : Nat} {timeout : Option Nat}
    (h : remainingProviderTimeout deadline now = .ok timeout) : Granted deadline now timeout := by
  rw [remainingProviderTimeout.eq_def] at h
  cases deadline with
  | none => exact Or.inl ⟨rfl, (Except.ok.inj h).symm⟩
  | some deadline =>
    dsimp only at h
    split at h
    case isTrue hlt =>
      refine Or.inr ⟨deadline - now, (Except.ok.inj h).symm, by omega, ?_⟩
      rw [Nat.add_sub_cancel' hlt.le]
    case isFalse => cases h

theorem Ends.calls_eq {calls : List PipelineCall} {trace : GenerationTrace} {run : PipelineRun}
    (h : Ends fallback readings calls trace run) : run.calls = calls := by
  cases h <;> rfl

/-- Each call is made once at most, in order, and each with its part of what came before. -/
structure Ordered (pipeline : GenerativePipeline) (request : PipelineRequest)
    (deadline : Option Nat) (readings : Readings)
    (outputGate : String → GeneratedTextGateDecision) (calls : List PipelineCall) : Prop where
  order : ∃ timeout reply speech ttsTimeout,
    calls <+: [.thinking request.thinking timeout, .gate reply, .tts speech ttsTimeout]
  /-- The engines get what is left until the deadline. -/
  thinking : ∀ thinking timeout, .thinking thinking timeout ∈ calls →
    Granted deadline readings.thinkingAt timeout
  /-- The gate sees what the thinking engine answered. -/
  gate : ∀ text, .gate text ∈ calls →
    ∃ timeout, .thinking request.thinking timeout ∈ calls ∧
      pipeline.engines.generate request.thinking timeout = .ok ⟨text⟩
  /-- Only what passed the gate is spoken. -/
  tts : ∀ speech timeout, .tts speech timeout ∈ calls →
    Granted deadline readings.ttsAt timeout ∧ speech.style = request.style ∧
      isBlank speech.text = false ∧
        ∃ reply, .gate reply ∈ calls ∧ outputGate reply = .publish speech.text

/-- **The calls of a run** are in order. -/
theorem ordered_of_run {run : PipelineRun}
    (h : pipeline.run request fallback deadline readings outputGate = .ok run) :
    Ordered pipeline request deadline readings outputGate run.calls := by
  obtain ⟨calls, trace, hpassed, hends⟩ := run_passes h
  rw [hends.calls_eq]
  cases hpassed with
  | start =>
    refine ⟨⟨none, "", ⟨"", none⟩, none, List.nil_prefix⟩, ?_, ?_, ?_⟩
    all_goals simp
  | @thought timeout hopen htimeout =>
    refine ⟨⟨timeout, "", ⟨"", none⟩, none, List.prefix_append _ _⟩, ?_, ?_, ?_⟩
    · intro thinking timeout' hmem
      rw [List.mem_singleton, PipelineCall.thinking.injEq] at hmem
      rw [hmem.2]
      exact granted_of_remaining htimeout
    all_goals simp
  | @gated timeout reply hopen htimeout hreply hopen' =>
    refine ⟨⟨timeout, reply.text, ⟨"", none⟩, none, List.prefix_append _ _⟩, ?_, ?_, ?_⟩
    · intro thinking timeout' hmem
      simp only [List.mem_cons, PipelineCall.thinking.injEq, reduceCtorEq, List.not_mem_nil,
        or_false] at hmem
      rw [hmem.2]
      exact granted_of_remaining htimeout
    · intro text hmem
      simp only [List.mem_cons, PipelineCall.gate.injEq, reduceCtorEq, List.not_mem_nil,
        or_false, false_or] at hmem
      rw [hmem]
      exact ⟨timeout, by simp, hreply⟩
    · simp
  | @spoken timeout ttsTimeout reply text hopen htimeout hreply hopen' hgate hblank hspeech =>
    refine ⟨⟨timeout, reply.text, ⟨text, request.style⟩, ttsTimeout, List.prefix_rfl⟩, ?_, ?_, ?_⟩
    · intro thinking timeout' hmem
      simp only [List.mem_cons, PipelineCall.thinking.injEq, reduceCtorEq, List.not_mem_nil,
        or_false] at hmem
      rw [hmem.2]
      exact granted_of_remaining htimeout
    · intro text' hmem
      simp only [List.mem_cons, PipelineCall.gate.injEq, reduceCtorEq, List.not_mem_nil,
        or_false, false_or] at hmem
      rw [hmem]
      exact ⟨timeout, by simp, hreply⟩
    · intro speech timeout' hmem
      simp only [List.mem_cons, PipelineCall.tts.injEq, reduceCtorEq, List.not_mem_nil,
        or_false, false_or] at hmem
      obtain ⟨rfl, rfl⟩ := hmem
      exact ⟨granted_of_remaining hspeech, rfl, hblank, reply.text, by simp, hgate⟩

/-! ## The trace of a run -/

/-- What the calls leave in a trace. -/
structure Recorded (pipeline : GenerativePipeline) (request : PipelineRequest)
    (calls : List PipelineCall) (trace : GenerationTrace) : Prop where
  /-- The thinking engine is recorded exactly when it is called. -/
  llmCalls : trace.llmCalls =
    (calls.filter fun | .thinking _ _ => true | .gate _ | .tts _ _ => false).map fun _ ↦
      ⟨request.sourceEvent.eventId, request.routingReason, pipeline.engines.thinkingIdentity⟩
  /-- A timeout is recorded exactly when the engine is called with one. -/
  thinkingTimeout : ∀ ms, trace.thinkingTimeoutMs = some ms ↔
    ∃ thinking timeout, .thinking thinking timeout ∈ calls ∧ timeout.map durationMsCeil = some ms
  attempted : trace.ttsAttempted = true ↔ ∃ speech timeout, .tts speech timeout ∈ calls
  backend : trace.ttsBackend =
    if trace.ttsAttempted then some pipeline.engines.ttsIdentity else none
  ttsTimeout : ∀ ms, trace.ttsTimeoutMs = some ms ↔
    ∃ speech timeout, .tts speech timeout ∈ calls ∧ timeout.map durationMsCeil = some ms
  streaming : trace.ttsStreaming = true → trace.ttsAttempted = true

/-- The trace tells what the run did. -/
structure Truthful (pipeline : GenerativePipeline) (request : PipelineRequest)
    (fallback : FallbackDirective) (readings : Readings) (run : PipelineRun) : Prop
    extends Recorded pipeline request run.calls run.trace where
  cancelled : ∀ stage, run.trace.cancelledStage = some stage ↔ run.disposition = .cancelled stage
  /-- A cancellation that is reported was seen. -/
  seen : ∀ stage, run.disposition = .cancelled stage → readings.isCancelled stage = true
  fellBack : run.trace.fallbackReason ≠ .none ↔ run.disposition = .fallback fallback
  /-- There is no other fallback than the given one. -/
  given : ∀ directive, run.disposition = .fallback directive → directive = fallback

theorem speech_trace (speech : SpeechRequest) (timeout : Option Nat) (trace : GenerationTrace) :
    (pipeline.speech speech timeout trace).1 =
      { trace with
        ttsStreaming := (pipeline.speech speech timeout trace).1.ttsStreaming
        ttsProgressChunks := (pipeline.speech speech timeout trace).1.ttsProgressChunks } := by
  rw [GenerativePipeline.speech]
  cases pipeline.engines.synthesizeStreaming speech timeout <;> rfl

theorem Passed.recorded {calls : List PipelineCall} {trace : GenerationTrace}
    (h : Passed pipeline request deadline readings outputGate calls trace) :
    Recorded pipeline request calls trace := by
  cases h with
  | start => constructor <;> simp [GenerationTrace.default]
  | thought => constructor <;> simp [thoughtTrace, GenerationTrace.default]
  | gated => constructor <;> simp [thoughtTrace, GenerationTrace.default]
  | spoken =>
    rw [speech_trace]
    constructor <;> simp [attemptTrace, thoughtTrace, GenerationTrace.default]

/-- How a run ends is recorded at its end only. -/
theorem Passed.undecided {calls : List PipelineCall} {trace : GenerationTrace}
    (h : Passed pipeline request deadline readings outputGate calls trace) :
    trace.cancelledStage = none ∧ trace.fallbackReason = .none := by
  cases h with
  | start => exact ⟨rfl, rfl⟩
  | thought => exact ⟨rfl, rfl⟩
  | gated => exact ⟨rfl, rfl⟩
  | spoken =>
    rw [speech_trace]
    exact ⟨rfl, rfl⟩

/-- **The trace of a run** is truthful. -/
theorem truthful_of_run {run : PipelineRun}
    (h : pipeline.run request fallback deadline readings outputGate = .ok run) :
    Truthful pipeline request fallback readings run := by
  obtain ⟨calls, trace, hpassed, hends⟩ := run_passes h
  obtain ⟨hstage, hreason⟩ := hpassed.undecided
  cases hends with
  | cancelled stage hcancel =>
    refine ⟨{ hpassed.recorded with }, ?_, ?_, ?_, ?_⟩
    · simp [cancelledResult]
    · intro stage' hstage'
      cases hstage'
      exact hcancel
    · simp [cancelledResult, hreason]
    · simp [cancelledResult]
  | fallback reason hne =>
    refine ⟨{ hpassed.recorded with }, ?_, ?_, ?_, ?_⟩
    · simp [fallbackResult, hstage]
    · simp [fallbackResult]
    · exact iff_of_true hne rfl
    · intro directive hdirective
      cases hdirective
      rfl
  | generated asset =>
    refine ⟨hpassed.recorded, ?_, ?_, ?_, ?_⟩
    · simp [hstage]
    · simp
    · simp [hreason]
    · simp

/-! ## What is generated -/

/-- The speech of a text: streamed and sound, or, where there is no streaming, synthesized. -/
def Spoken (engines : Engines) (request : SpeechRequest) (timeout : Option Nat)
    (speech : SpeechArtifact) : Prop :=
  (∃ pushed, engines.synthesizeStreaming request timeout = some (pushed, .ok speech) ∧
    StreamingSpeechCollector.Streamed (StreamingSpeechCollector.collect pushed).progress speech) ∨
  engines.synthesizeStreaming request timeout = none ∧
    engines.synthesize request timeout = .ok speech

theorem speech_eq_ok {speechRequest : SpeechRequest} {timeout : Option Nat}
    {trace : GenerationTrace} {speech : SpeechArtifact} :
    (pipeline.speech speechRequest timeout trace).2 = .ok speech ↔
      Spoken pipeline.engines speechRequest timeout speech := by
  rw [GenerativePipeline.speech, Spoken]
  cases pipeline.engines.synthesizeStreaming speechRequest timeout with
  | none => simp
  | some streamed =>
    obtain ⟨pushed, result⟩ := streamed
    cases result with
    | error error => simp [bind, Except.bind]
    | ok artifact =>
      simp only [bind_eq_ok, Except.ok.injEq, Option.some.injEq,
        Prod.mk.injEq, reduceCtorEq, false_and, or_false]
      constructor
      · rintro ⟨artifact', rfl, _, hfinal, hpure⟩
        cases hpure
        exact ⟨pushed, ⟨rfl, rfl⟩,
          StreamingSpeechCollector.validateFinal_collect.mp hfinal⟩
      · rintro ⟨pushed', ⟨rfl, rfl⟩, hstreamed⟩
        exact ⟨artifact, rfl, (),
          StreamingSpeechCollector.validateFinal_collect.mpr hstreamed, rfl⟩

theorem remaining_eq_ok {now : Nat} {timeout : Option Nat} :
    remainingProviderTimeout deadline now = .ok timeout ↔ Granted deadline now timeout := by
  refine ⟨granted_of_remaining, ?_⟩
  rintro (⟨rfl, rfl⟩ | ⟨left, rfl, hpos, rfl⟩)
  · rfl
  · rw [remainingProviderTimeout, if_pos (Nat.lt_add_of_pos_right hpos), Nat.add_sub_cancel_left]

theorem publish_generated {replyText : String} {calls : List PipelineCall}
    {trace : GenerationTrace} {result : Except EngineError SpeechArtifact}
    {asset : PerformanceAsset} :
    (pipeline.publish request fallback readings replyText calls trace result).disposition =
        .generated asset ↔
      readings.isCancelled .afterTts = false ∧ readings.isCancelled .beforePublish = false ∧
        ∃ speech, result = .ok speech ∧
          pipeline.compiler.compile request replyText speech pipeline.engines.thinkingIdentity
            pipeline.engines.ttsIdentity = .ok asset := by
  cases result with
  | error error => simp [publish, fallbackResult]
  | ok speech =>
    rw [publish]
    cases hcancel : readings.isCancelled .afterTts with
    | true => simp [cancelledResult]
    | false =>
      cases hcompile : pipeline.compiler.compile request replyText speech
          pipeline.engines.thinkingIdentity pipeline.engines.ttsIdentity with
      | error error => simp [fallbackResult, hcompile]
      | ok compiled =>
        cases readings.isCancelled .beforePublish with
        | true => simp [cancelledResult]
        | false => simp [hcompile]

theorem speak_generated {replyText : String} {calls : List PipelineCall}
    {trace : GenerationTrace} {asset : PerformanceAsset} :
    (pipeline.speak request fallback deadline readings replyText calls trace).disposition =
        .generated asset ↔
      readings.isCancelled .afterTts = false ∧ readings.isCancelled .beforePublish = false ∧
        ∃ timeout speech, Granted deadline readings.ttsAt timeout ∧
          Spoken pipeline.engines ⟨replyText, request.style⟩ timeout speech ∧
          pipeline.compiler.compile request replyText speech pipeline.engines.thinkingIdentity
            pipeline.engines.ttsIdentity = .ok asset := by
  simp only [← remaining_eq_ok]
  rw [speak.eq_def]
  cases hspeech : remainingProviderTimeout deadline readings.ttsAt with
  | error => simp [fallbackResult]
  | ok timeout =>
    dsimp only
    rw [publish_generated]
    simp [speech_eq_ok]

theorem gate_generated {calls : List PipelineCall} {trace : GenerationTrace}
    {answer : Except EngineError GeneratedReply} {asset : PerformanceAsset} :
    (pipeline.gate request fallback deadline readings outputGate calls trace answer).disposition =
        .generated asset ↔
      readings.isCancelled .afterThinking = false ∧
        ∃ reply text, answer = .ok reply ∧ outputGate reply.text = .publish text ∧
          isBlank text = false ∧
          readings.isCancelled .afterTts = false ∧ readings.isCancelled .beforePublish = false ∧
          ∃ timeout speech, Granted deadline readings.ttsAt timeout ∧
            Spoken pipeline.engines ⟨text, request.style⟩ timeout speech ∧
            pipeline.compiler.compile request text speech pipeline.engines.thinkingIdentity
              pipeline.engines.ttsIdentity = .ok asset := by
  cases answer with
  | error error => simp [gate, fallbackResult]
  | ok reply =>
    rw [gate]
    cases readings.isCancelled .afterThinking with
    | true => simp [cancelledResult]
    | false =>
      cases hgate : outputGate reply.text with
      | reject => simp [fallbackResult, hgate]
      | publish text =>
        cases hblank : isBlank text with
        | true => simp [fallbackResult, hgate, hblank]
        | false =>
          simp only [Bool.false_eq_true, if_false, hblank]
          rw [speak_generated]
          simp [hgate, hblank]

/-- What it takes to generate an asset. -/
structure Generates (pipeline : GenerativePipeline) (request : PipelineRequest)
    (deadline : Option Nat) (readings : Readings)
    (outputGate : String → GeneratedTextGateDecision) (asset : PerformanceAsset) : Prop where
  accepted : check request = .ok ()
  uncancelled : ∀ stage, readings.isCancelled stage = false
  course : ∃ timeout ttsTimeout reply text speech,
    Granted deadline readings.thinkingAt timeout ∧ Granted deadline readings.ttsAt ttsTimeout ∧
      pipeline.engines.generate request.thinking timeout = .ok reply ∧
      outputGate reply.text = .publish text ∧ isBlank text = false ∧
      Spoken pipeline.engines ⟨text, request.style⟩ ttsTimeout speech ∧
      pipeline.compiler.compile request text speech pipeline.engines.thinkingIdentity
        pipeline.engines.ttsIdentity = .ok asset

/-- A run that generates an asset. -/
theorem generates_of_run {run : PipelineRun} {asset : PerformanceAsset}
    (h : pipeline.run request fallback deadline readings outputGate = .ok run)
    (hgenerated : run.disposition = .generated asset) :
    Generates pipeline request deadline readings outputGate asset := by
  rw [GenerativePipeline.run, unit_bind_eq_ok] at h
  obtain ⟨hcheck, h⟩ := h
  cases hopen : readings.isCancelled .beforeThinking with
  | true =>
    rw [hopen, if_pos rfl] at h
    rw [← Except.ok.inj h] at hgenerated
    cases hgenerated
  | false =>
    rw [hopen, if_neg Bool.false_ne_true] at h
    cases htimeout : remainingProviderTimeout deadline readings.thinkingAt with
    | error =>
      rw [htimeout] at h
      rw [← Except.ok.inj h] at hgenerated
      cases hgenerated
    | ok timeout =>
      rw [htimeout] at h
      rw [← Except.ok.inj h] at hgenerated
      obtain ⟨hopen', reply, text, hreply, hgate, hblank, hopen₃, hopen₄, ttsTimeout, speech,
        hgranted, hspoken, hcompile⟩ := gate_generated.mp hgenerated
      refine ⟨hcheck, ?_, timeout, ttsTimeout, reply, text, speech,
        granted_of_remaining htimeout, hgranted, hreply, hgate, hblank, hspoken, hcompile⟩
      intro stage
      cases stage <;> assumption

/-- An asset is generated where nothing is in the way. -/
theorem Generates.run {asset : PerformanceAsset}
    (h : Generates pipeline request deadline readings outputGate asset)
    (fallback : FallbackDirective) :
    ∃ run, pipeline.run request fallback deadline readings outputGate = .ok run ∧
      run.disposition = .generated asset := by
  obtain ⟨hcheck, hopen, timeout, ttsTimeout, reply, text, speech, hgranted, hgranted', hreply,
    hgate, hblank, hspoken, hcompile⟩ := h
  rw [GenerativePipeline.run, hcheck]
  simp only [bind, Except.bind, hopen, Bool.false_eq_true, if_false,
    remaining_eq_ok.mpr hgranted, pure, Except.pure]
  exact ⟨_, rfl, gate_generated.mpr ⟨hopen _, reply, text, hreply, hgate, hblank, hopen _, hopen _,
    ttsTimeout, speech, hgranted', hspoken, hcompile⟩⟩

/-- **What is generated.**  A run generates an asset exactly when its request passes the checks,
none of the looks at the token shows a cancellation, both provider calls come before the deadline,
the engine answers, the gate publishes a text that is not blank, its speech is sound, and the asset
is compiled from that very text and speech. -/
theorem run_generated (pipeline : GenerativePipeline) (request : PipelineRequest)
    (fallback : FallbackDirective) (deadline : Option Nat) (readings : Readings)
    (outputGate : String → GeneratedTextGateDecision) (asset : PerformanceAsset) :
    (∃ run, pipeline.run request fallback deadline readings outputGate = .ok run ∧
        run.disposition = .generated asset) ↔
      Generates pipeline request deadline readings outputGate asset := by
  constructor
  · rintro ⟨run, h, hgenerated⟩
    exact generates_of_run h hgenerated
  · intro h
    exact h.run fallback

end Runs

/-! ## The gate of the worker -/

/-- The gate that the generation worker of `crates/app/src/lib.rs` puts on its pipeline: the
verdict of the public output policy. -/
def workerGate (policy : PublicOutputPolicy) (generatedText : String) :
    GeneratedTextGateDecision :=
  let output := policy.evaluate generatedText
  match output.verdict with
  | .allow | .redact => output.text.elim .reject .publish
  | .replaceWithCached | .suppress => .reject

/-- The worker publishes a redacted text, which is none for the control plane. -/
theorem workerGate_eq_publish {policy : PublicOutputPolicy} {reply text : String} :
    workerGate policy reply = .publish text ↔
      PublicOutputPolicy.isControlText reply = false ∧ text = policy.redactor.redact reply := by
  rw [workerGate, PublicOutputPolicy.evaluate]
  cases PublicOutputPolicy.isControlText reply with
  | true => cases policy.cachedReaction <;> simp
  | false =>
    by_cases heq : policy.redactor.redact reply = reply
    · simp [heq, eq_comm]
    · simp [heq, eq_comm]

/-- A text that says nothing it should not: the redaction of a reply that is none for the control
plane, without a configured secret as far as these are separable in the reply. -/
structure Publishable (secrets : List String) (reply text : String) : Prop where
  content : PublicOutputPolicy.isControlText reply = false
  redacted : text = (SecretRedactor.new secrets).redact reply
  absent : SecretRedactor.Separable secrets reply → ∀ secret ∈ secrets, secret ≠ "" →
    ¬secret.toList <:+: text.toList

theorem publishable_of_gate {secrets : List String} {cachedReaction : Option String}
    {reply text : String}
    (h : workerGate ⟨.new secrets, cachedReaction⟩ reply = .publish text) :
    Publishable secrets reply text := by
  obtain ⟨hcontent, htext⟩ := workerGate_eq_publish.mp h
  refine ⟨hcontent, htext, ?_⟩
  intro hseparable
  rw [htext]
  exact (SecretRedactor.redacted_of_separable hseparable).absent

/-! ## A greeting -/

/-- A viewer says hello. -/
def greetingMessage : EventEnvelope where
  schemaVersion := eventSchemaVersion
  eventId := "greeting"
  correlationId := "greeting"
  sequence := 1
  observedAt := "2026-01-01T00:00:00Z"
  source := "chat"
  sourceClass := .publicChat
  plane := .content
  trustLevel := .untrusted
  kind := .chatMessage
  actorId := some "viewer"
  priorityHint := none
  authorization := none
  payload := ∅

def greetingRequest : PipelineRequest where
  sourceEvent := greetingMessage
  seed := 1
  thinking := .fromEvent greetingMessage "hello" .public .default ⟨[]⟩ []
  routingReason := .noCachedMatch
  intent := "greet"
  style := none
  fallbackVariantGroup := none

/-- A thinking engine that is polite, and a TTS engine that streams two chunks. -/
def greetingPipeline : GenerativePipeline where
  engines :=
    { thinkingIdentity := ⟨"thinker", none, none⟩
      ttsIdentity := ⟨⟨"speaker", none, none⟩, none, none⟩
      generate := fun _ _ ↦ .ok ⟨"hello, viewer"⟩
      synthesizeStreaming := fun _ _ ↦
        some ([⟨1, "greeting.wav", 100, none, false⟩, ⟨2, "greeting.wav", 200, none, true⟩],
          .ok ⟨"greeting.wav", 200, none⟩)
      synthesize := fun _ _ ↦ .ok ⟨"greeting.wav", 200, none⟩ }
  compiler :=
    { config := ⟨"0.1.0", none, none, some "speaking.neutral", .finite (2 / 5)⟩
      version := by decide +kernel
      intensity := by decide +kernel }

/-- Nobody cancels, and a second is left. -/
def greetingReadings : Readings where
  isCancelled := fun _ ↦ false
  thinkingAt := 0
  ttsAt := 500000000

/-- The greeting is generated. -/
theorem greeting_generates : ∃ asset,
    Generates greetingPipeline greetingRequest (some 1000000000) greetingReadings
      (workerGate ⟨.new ["key"], none⟩) asset := by
  have hcompile : Compilable greetingPipeline.compiler greetingRequest "hello, viewer"
      ⟨"greeting.wav", 200, none⟩ greetingPipeline.engines.thinkingIdentity
      greetingPipeline.engines.ttsIdentity := by
    have haudio : IsMediaRef "greeting.wav" := by
      unfold IsMediaRef
      decide +kernel
    refine ⟨?_, ?_, by decide, haudio, by simp, ?_, ?_, ?_, ?_, ?_, ?_, ?_⟩
    all_goals decide +kernel
  have hfinal : (StreamingSpeechCollector.collect
      [⟨1, "greeting.wav", 100, none, false⟩, ⟨2, "greeting.wav", 200, none, true⟩]).validateFinal
        ⟨"greeting.wav", 200, none⟩ = .ok () := by decide +kernel
  refine ⟨_, by decide +kernel, fun _ ↦ rfl, some 1000000000, some 500000000, ⟨"hello, viewer"⟩,
    "hello, viewer", ⟨"greeting.wav", 200, none⟩, ?_, ?_, rfl, by decide +kernel,
    by decide +kernel, ?_, PerformanceCompiler.compile_eq_ok.mpr ⟨hcompile, rfl⟩⟩
  · exact Or.inr ⟨1000000000, rfl, by decide, rfl⟩
  · exact Or.inr ⟨500000000, rfl, by decide, rfl⟩
  · exact Or.inl ⟨_, rfl, StreamingSpeechCollector.validateFinal_collect.mp hfinal⟩

/-- **A run accounts for what it does.**  Whatever the engines answer, and whenever it is cancelled
or out of time: it thinks, passes the gate and speaks at most once each, in this order; the gate
sees the reply of the thinking engine, only what the gate has published, and is not blank, is
spoken, and an engine gets what is left until the deadline, which is not nothing.  The trace
records exactly these calls with their timeouts, a cancellation exactly when the run ends with one,
which the token had shown, and a reason to fall back exactly when it falls back, as it was told. -/
theorem run_accounted {pipeline : GenerativePipeline} {request : PipelineRequest}
    {fallback : FallbackDirective} {deadline : Option Nat} {readings : Readings}
    {outputGate : String → GeneratedTextGateDecision} {run : PipelineRun}
    (h : pipeline.run request fallback deadline readings outputGate = .ok run) :
    Ordered pipeline request deadline readings outputGate run.calls ∧
      Truthful pipeline request fallback readings run :=
  ⟨ordered_of_run h, truthful_of_run h⟩

/-- The greeting is accounted for. -/
theorem greeting_accounted : ∃ run,
    greetingPipeline.run greetingRequest (.nonVerbalReaction "nod") (some 1000000000)
      greetingReadings (workerGate ⟨.new ["key"], none⟩) = .ok run ∧
    Ordered greetingPipeline greetingRequest (some 1000000000) greetingReadings
      (workerGate ⟨.new ["key"], none⟩) run.calls ∧
    Truthful greetingPipeline greetingRequest (.nonVerbalReaction "nod") greetingReadings run := by
  obtain ⟨asset, hgenerates⟩ := greeting_generates
  obtain ⟨run, h, -⟩ := hgenerates.run (.nonVerbalReaction "nod")
  exact ⟨run, h, run_accounted h⟩

/-- **Nothing unredacted is spoken or published by the worker.**  In every run behind its gate,
a TTS engine is asked to speak, and an asset comes out with, only the redaction of what the
thinking engine answered; a reply for the control plane goes no further. -/
theorem run_publishable {pipeline : GenerativePipeline} {request : PipelineRequest}
    {fallback : FallbackDirective} {deadline : Option Nat} {readings : Readings}
    {secrets : List String} {cachedReaction : Option String} {run : PipelineRun}
    (h : pipeline.run request fallback deadline readings
      (workerGate ⟨.new secrets, cachedReaction⟩) = .ok run) :
    (∀ speech timeout, .tts speech timeout ∈ run.calls →
      ∃ timeout reply, .thinking request.thinking timeout ∈ run.calls ∧
        pipeline.engines.generate request.thinking timeout = .ok reply ∧
          Publishable secrets reply.text speech.text) ∧
    ∀ asset, run.disposition = .generated asset →
      ∃ timeout reply, pipeline.engines.generate request.thinking timeout = .ok reply ∧
        ∃ speech text, asset.speech = some speech ∧ speech.text = some text ∧
          Publishable secrets reply.text text := by
  refine ⟨?_, ?_⟩
  · intro speech timeout hmem
    have hordered := ordered_of_run h
    obtain ⟨-, -, -, reply, hgate, hpublish⟩ := hordered.tts speech timeout hmem
    obtain ⟨timeout, hthinking, hreply⟩ := hordered.gate reply hgate
    exact ⟨timeout, ⟨reply⟩, hthinking, hreply, publishable_of_gate hpublish⟩
  · intro asset hgenerated
    obtain ⟨-, -, timeout, ttsTimeout, reply, text, speech, -, -, hreply, hgate, -, -, hcompile⟩ :=
      generates_of_run h hgenerated
    obtain ⟨-, rfl⟩ := PerformanceCompiler.compile_eq_ok.mp hcompile
    exact ⟨timeout, reply, hreply, _, text, rfl, rfl, publishable_of_gate hgate⟩

/-- The greeting is spoken as it passed the gate. -/
theorem greeting_publishable : ∃ run,
    greetingPipeline.run greetingRequest (.nonVerbalReaction "nod") (some 1000000000)
      greetingReadings (workerGate ⟨.new ["key"], none⟩) = .ok run ∧
    (∀ speech timeout, .tts speech timeout ∈ run.calls →
      ∃ timeout reply, .thinking greetingRequest.thinking timeout ∈ run.calls ∧
        greetingPipeline.engines.generate greetingRequest.thinking timeout = .ok reply ∧
          Publishable ["key"] reply.text speech.text) ∧
    ∃ asset, run.disposition = .generated asset := by
  obtain ⟨asset, hgenerates⟩ := greeting_generates
  obtain ⟨run, h, hgenerated⟩ := hgenerates.run (.nonVerbalReaction "nod")
  exact ⟨run, h, (run_publishable h).1, asset, hgenerated⟩

end GenerativePipeline

end Aivtuber
