import Aivtuber.Domain.Event

/-!
# Reflex decisions

`crates/domain/src/reflex.rs`: what the reflex decides about an event, and the ranges that
a decision keeps.
-/

open Aivtuber.Check

namespace Aivtuber

def reflexSchemaVersion : String := "0.1.0"

inductive ResponseRoute where
  | silent | reaction | cached | template | llm
deriving DecidableEq, Repr

structure RouteDecision where
  value : ResponseRoute
  confidence : Option Float64
deriving DecidableEq

inductive AttentionTarget where
  | camera | chat | game | speaker | away
deriving DecidableEq, Repr

inductive FallbackReason where
  | none | timeout | unavailable | rateLimited | overloaded | authentication | invalidRequest
  | lowConfidence | policyOverride | operatorOverride | budgetExhausted
deriving DecidableEq, Repr

structure BackendIdentity where
  name : String
  modelAlias : Option String
  modelVersion : Option String
deriving DecidableEq, Repr

structure ReflexDecision where
  schemaVersion : String
  route : RouteDecision
  reactionFamily : Option String
  gestureFamily : Option String
  attentionTarget : AttentionTarget
  interruptProbability : Float64
  cacheReuseProbability : Float64
  importance : Float64
  emotionIntensity : Float64
  backend : BackendIdentity
  latencyMs : Float64
  fallbackReason : FallbackReason
deriving DecidableEq

def ReflexDecision.validate (decision : ReflexDecision) : Except DomainValidationError Unit := do
  ensure ⟨"schema_version", "expected " ++ reflexSchemaVersion⟩
    (decision.schemaVersion = reflexSchemaVersion)
  requireNonEmpty "backend.name" decision.backend.name
  match decision.route.confidence with
  | some confidence => validateUnitInterval "route.confidence" confidence
  | none => pure ()
  validateUnitInterval "interrupt_probability" decision.interruptProbability
  validateUnitInterval "cache_reuse_probability" decision.cacheReuseProbability
  validateUnitInterval "importance" decision.importance
  validateUnitInterval "emotion_intensity" decision.emotionIntensity
  ensure ⟨"latency_ms", "must be finite and non-negative"⟩
    (decision.latencyMs.isFinite && !decision.latencyMs.lt (.finite 0))

end Aivtuber
