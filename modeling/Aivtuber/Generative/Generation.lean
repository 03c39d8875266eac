import Aivtuber.AssetStore.Asset
import Aivtuber.Domain.Reflex
import Aivtuber.Runtime.Output

/-!
# Generations

What goes into a generation and what comes out of it, `crates/generative/src/lib.rs`.
-/

namespace Aivtuber

inductive GenerationRoutingReason where
  | explicitLlmRoute | noCachedMatch | lowSemanticConfidence | novelResponseRequested
  | cachedRouteFailed
deriving DecidableEq, Repr

def GenerationRoutingReason.asStr : GenerationRoutingReason → String
  | .explicitLlmRoute => "explicit_llm_route"
  | .noCachedMatch => "no_cached_match"
  | .lowSemanticConfidence => "low_semantic_confidence"
  | .novelResponseRequested => "novel_response_requested"
  | .cachedRouteFailed => "cached_route_failed"

structure LlmCallRecord where
  eventId : String
  routingReason : GenerationRoutingReason
  backend : BackendIdentity
deriving DecidableEq, Repr

inductive CancellationStage where
  | beforeThinking | afterThinking | afterTts | beforePublish
deriving DecidableEq, Repr

inductive FallbackDirective where
  | cachedReaction (variantGroup assetId : String)
  | nonVerbalReaction (reactionFamily : String)
deriving DecidableEq, Repr

inductive GenerationDisposition where
  | generated (asset : PerformanceAsset)
  | fallback (directive : FallbackDirective)
  | cancelled (stage : CancellationStage)

structure GenerationResult where
  /-- The calls that its trace records. -/
  llmCalls : List LlmCallRecord
  disposition : GenerationDisposition

structure GenerationRequest where
  sourceEvent : EventEnvelope
  seed : Nat

/-- A request on its way to the provider. -/
structure GenerationWork where
  generationId : Nat
  request : GenerationRequest
  /-- The cancellation token. -/
  cancellation : Nat
  fallback : FallbackDirective
  /-- The instant after which the answer is of no use. -/
  providerDeadline : Nat

def GenerationWork.eventId (work : GenerationWork) : String := work.request.sourceEvent.eventId

/-- What the worker publishes. -/
structure GenerationCompletion extends GenerationWork where
  result : Except String GenerationResult
  /-- The decision of the output gate, if a text was generated. -/
  outputDecision : Option PublicOutput

inductive GenerationSubmitError where
  | saturated | shuttingDown | disconnected
deriving DecidableEq, Repr

end Aivtuber
