import Aivtuber.AssetStore.Store
import Aivtuber.Base.Rounding

/-!
# Promotion of generated assets

`AdaptationEngine` of `crates/adaptation/src/lib.rs`: it counts the uses and the quality labels of
assets, remembers which variants of a group were used last, and decides whether an asset is kept,
promoted or invalidated.  A lookup that the code expects to find its entry returns nothing where
the entry is missing.
-/

open Aivtuber.Check Aivtuber.Text Saturating
open Std (ExtTreeMap)

namespace Aivtuber

structure PromotionPolicy where
  minUses : Nat
  minQualityLabels : Nat
  minQualityRatio : Float64
  invalidateAfterNegativeLabels : Nat
  recentVariantWindow : Nat
deriving DecidableEq

inductive PromotionError where
  | invalidConfiguration (message : String)
  | invalidAsset (issues : List ValidationIssue)
  | notGenerated (id : String)
  | assetStore (error : AssetStoreError)
deriving DecidableEq

def PromotionPolicy.validate (policy : PromotionPolicy) :
    Except PromotionError PromotionPolicy := do
  ensure (.invalidConfiguration "promotion policy thresholds are invalid")
    (!(policy.minUses = 0 || policy.minQualityLabels = 0 || !policy.minQualityRatio.isFinite ||
      !((Float64.finite 0).le policy.minQualityRatio &&
        policy.minQualityRatio.le (.finite 1)) ||
      policy.invalidateAfterNegativeLabels = 0))
  .ok policy

structure AssetFeedback where
  uses : Nat
  positiveQualityLabels : Nat
  negativeQualityLabels : Nat
deriving DecidableEq, Repr

namespace AssetFeedback

def default : AssetFeedback := ⟨0, 0, 0⟩

def labelCount (feedback : AssetFeedback) : Nat :=
  satAdd feedback.positiveQualityLabels feedback.negativeQualityLabels

def qualityRatio (rounding : Rounding) (feedback : AssetFeedback) : Option Float64 :=
  if 0 < feedback.labelCount then
    some (rounding.div (rounding.ofNat feedback.positiveQualityLabels)
      (rounding.ofNat feedback.labelCount))
  else none

/-- The feedback with another label. -/
def labelled (feedback : AssetFeedback) (positive : Bool) : AssetFeedback :=
  if positive then
    { feedback with positiveQualityLabels := satAdd feedback.positiveQualityLabels 1 }
  else { feedback with negativeQualityLabels := satAdd feedback.negativeQualityLabels 1 }

end AssetFeedback

inductive AdaptationDecisionKind where
  | keepHot | promote | invalidate
deriving DecidableEq, Repr

structure AdaptationDecisionRecord where
  sequence : Nat
  assetId : String
  assetIdentity : String
  decision : AdaptationDecisionKind
  reason : String
  feedback : AssetFeedback
  policyVersion : String
  policy : PromotionPolicy
  seed : Nat
deriving DecidableEq

inductive AppliedAdaptation where
  | keptHot
  | promoted (path : String)
  | invalidated
deriving DecidableEq, Repr

structure AdaptationRetentionConfig where
  maxFeedbackAssets : Nat
  maxRecentGroups : Nat
  maxDecisions : Nat
deriving DecidableEq, Repr

def AdaptationRetentionConfig.default : AdaptationRetentionConfig where
  maxFeedbackAssets := 1024
  maxRecentGroups := 256
  maxDecisions := 1024

/-- All bounds are positive. -/
def AdaptationRetentionConfig.isPositive (retention : AdaptationRetentionConfig) : Bool :=
  !(retention.maxFeedbackAssets = 0 || retention.maxRecentGroups = 0 ||
    retention.maxDecisions = 0)

structure AdaptationEngine where
  policy : PromotionPolicy
  policyVersion : String
  seed : Nat
  sequence : Nat
  retention : AdaptationRetentionConfig
  feedback : ExtTreeMap String AssetFeedback
  feedbackTouch : ExtTreeMap String Nat
  recentByGroup : ExtTreeMap String (List String)
  recentGroupTouch : ExtTreeMap String Nat
  decisions : List AdaptationDecisionRecord
  nextTouch : Nat
  feedbackHighWater : Nat
  feedbackEvicted : Nat
  recentGroupsHighWater : Nat
  recentGroupsEvicted : Nat
  decisionsHighWater : Nat
  decisionsEvicted : Nat
  retention_positive : retention.isPositive = true

/-- The entry with the least touch, and among those the one with the least key. -/
def leastTouched (touches : ExtTreeMap String Nat) : Option String :=
  (AssetStore.sortByRank (fun id ↦ (touches[id]?).getD 0) touches.keys).head?

def PerformanceAsset.ensurePromotable (asset : PerformanceAsset) : Except PromotionError Unit :=
  match asset.validate with
  | .error issues => .error (.invalidAsset issues)
  | .ok () => ensure (.notGenerated asset.id) asset.isGenerated

/-- The group under which the uses of an asset are remembered. -/
def PerformanceAsset.recentGroup (asset : PerformanceAsset) : String :=
  asset.variantGroup.getD asset.intent

namespace AdaptationEngine

def opened (policy : PromotionPolicy) (policyVersion : String) (seed : Nat)
    (retention : AdaptationRetentionConfig) (hpositive : retention.isPositive = true) :
    AdaptationEngine where
  policy := policy
  policyVersion := policyVersion
  seed := seed
  sequence := 0
  retention := retention
  feedback := ∅
  feedbackTouch := ∅
  recentByGroup := ∅
  recentGroupTouch := ∅
  decisions := []
  nextTouch := 0
  feedbackHighWater := 0
  feedbackEvicted := 0
  recentGroupsHighWater := 0
  recentGroupsEvicted := 0
  decisionsHighWater := 0
  decisionsEvicted := 0
  retention_positive := hpositive

def withRetention (policy : PromotionPolicy) (policyVersion : String) (seed : Nat)
    (retention : AdaptationRetentionConfig) : Except PromotionError AdaptationEngine := do
  let policy ← policy.validate
  ensure (.invalidConfiguration "policy_version must not be empty") (trim policyVersion ≠ "")
  if hpositive : retention.isPositive = true then
    .ok (opened policy policyVersion seed retention hpositive)
  else .error (.invalidConfiguration "adaptation retention bounds must be positive")

variable (engine : AdaptationEngine)

def feedbackOf (assetId : String) : AssetFeedback := (engine.feedback[assetId]?).getD .default

/-! ## Touches -/

def nextTouchTick : AdaptationEngine × Nat :=
  ({ engine with nextTouch := satAdd engine.nextTouch 1 }, engine.nextTouch)

/-- The variants of each group without those of an asset. -/
def recentWithout (assetId : String) : ExtTreeMap String (List String) :=
  engine.recentByGroup.map fun _ recent ↦ recent.filter (· ≠ assetId)

/-- The groups that have no variant left without those of an asset. -/
def emptyGroups (assetId : String) : ExtTreeMap String (List String) :=
  (engine.recentWithout assetId).filter fun _ recent ↦ recent.isEmpty

/-- Take an asset out of the recent groups, and then the groups that it leaves empty. -/
def dropRecent (assetId : String) : AdaptationEngine :=
  { engine with
    recentByGroup := (engine.recentWithout assetId).filter fun _ recent ↦ !recent.isEmpty
    recentGroupTouch := engine.recentGroupTouch.filter fun group _ ↦
      !(engine.emptyGroups assetId).contains group }

def forgetAsset (assetId : String) : AdaptationEngine :=
  { engine with
    feedback := engine.feedback.erase assetId
    feedbackTouch := engine.feedbackTouch.erase assetId }.dropRecent assetId

/-- The feedback that was touched longest ago is forgotten. -/
def evictFeedback : Option AdaptationEngine := do
  let victim ← leastTouched engine.feedbackTouch
  let evicted := engine.forgetAsset victim
  some { evicted with
    feedbackEvicted := satAdd engine.feedbackEvicted 1
    recentGroupsEvicted :=
      satAdd engine.recentGroupsEvicted (engine.emptyGroups victim).size }

def ensureFeedbackAsset (assetId : String) : Option AdaptationEngine := do
  let (engine, tick) := engine.nextTouchTick
  let engine ← if !engine.feedback.contains assetId &&
      engine.retention.maxFeedbackAssets ≤ engine.feedback.size then engine.evictFeedback
    else some engine
  let feedback := engine.feedback.insertIfNew assetId .default
  some { engine with
    feedback
    feedbackTouch := engine.feedbackTouch.insert assetId tick
    feedbackHighWater := max engine.feedbackHighWater feedback.size }

/-- The group that was touched longest ago is forgotten. -/
def evictRecentGroup : Option AdaptationEngine := do
  let victim ← leastTouched engine.recentGroupTouch
  some { engine with
    recentByGroup := engine.recentByGroup.erase victim
    recentGroupTouch := engine.recentGroupTouch.erase victim
    recentGroupsEvicted := satAdd engine.recentGroupsEvicted 1 }

def ensureRecentGroup (group : String) : Option AdaptationEngine := do
  let (engine, tick) := engine.nextTouchTick
  let engine ← if !engine.recentByGroup.contains group &&
      engine.retention.maxRecentGroups ≤ engine.recentByGroup.size then engine.evictRecentGroup
    else some engine
  let recentByGroup := engine.recentByGroup.insertIfNew group []
  some { engine with
    recentByGroup
    recentGroupTouch := engine.recentGroupTouch.insert group tick
    recentGroupsHighWater := max engine.recentGroupsHighWater recentByGroup.size }

/-! ## Operations -/

def recordUse (asset : PerformanceAsset) : Option AdaptationEngine := do
  let engine ← engine.ensureFeedbackAsset asset.id
  let feedback ← engine.feedback[asset.id]?
  let engine := { engine with
    feedback :=
      engine.feedback.insert asset.id { feedback with uses := satAdd feedback.uses 1 } }
  let engine ← engine.ensureRecentGroup asset.recentGroup
  let recent ← engine.recentByGroup[asset.recentGroup]?
  let recent := recent ++ [asset.id]
  some { engine with
    recentByGroup := engine.recentByGroup.insert asset.recentGroup
      (recent.drop (recent.length - engine.policy.recentVariantWindow)) }

def recordQuality (assetId : String) (positive : Bool) : Option AdaptationEngine := do
  let engine ← engine.ensureFeedbackAsset assetId
  let feedback ← engine.feedback[assetId]?
  some { engine with
    feedback := engine.feedback.insert assetId (feedback.labelled positive) }

variable (rounding : Rounding)

/-- The decision on an asset, and its reason. -/
def decisionOn (feedback : AssetFeedback) : AdaptationDecisionKind × String :=
  if engine.policy.invalidateAfterNegativeLabels ≤ feedback.negativeQualityLabels then
    (.invalidate, "negative_quality_threshold")
  else if engine.policy.minUses ≤ feedback.uses &&
      engine.policy.minQualityLabels ≤ feedback.labelCount &&
      (feedback.qualityRatio rounding).any engine.policy.minQualityRatio.le then
    (.promote, "frequency_and_quality_thresholds")
  else (.keepHot, "thresholds_not_met")

def evaluate (asset : PerformanceAsset) :
    AdaptationEngine × Except PromotionError AdaptationDecisionRecord :=
  match asset.ensurePromotable with
  | .error error => (engine, .error error)
  | .ok () =>
    let feedback := engine.feedbackOf asset.id
    let (decision, reason) := engine.decisionOn rounding feedback
    let sequence := satAdd engine.sequence 1
    let record : AdaptationDecisionRecord :=
      { sequence, assetId := asset.id, assetIdentity := asset.identity.stableKey, decision
        reason, feedback, policyVersion := engine.policyVersion, policy := engine.policy
        seed := engine.seed }
    let decisions := engine.decisions ++ [record]
    let remove := decisions.length - engine.retention.maxDecisions
    ({ engine with
        sequence
        decisions := decisions.drop remove
        decisionsEvicted := satAdd engine.decisionsEvicted remove
        decisionsHighWater := max engine.decisionsHighWater (decisions.drop remove).length },
      .ok record)

def apply (store : AssetStore) (disk : Disk) (assetId : String) :
    AdaptationEngine × AssetStore × Except PromotionError AppliedAdaptation :=
  match store.hotGet assetId with
  | (store, none) => (engine, store, .error (.assetStore (.notFound assetId)))
  | (store, some asset) =>
    match engine.evaluate rounding asset with
    | (engine, .error error) => (engine, store, .error error)
    | (engine, .ok record) =>
      match record.decision with
      | .keepHot => (engine, store, .ok .keptHot)
      | .promote =>
        let (store, persisted) := store.persistGeneratedDescriptor disk assetId
        (engine, store, (persisted.mapError .assetStore).map .promoted)
      | .invalidate =>
        match store.invalidateGeneratedAsset disk assetId with
        | (store, .error error) => (engine, store, .error (.assetStore error))
        | (store, .ok ()) => (engine.forgetAsset assetId, store, .ok .invalidated)

end AdaptationEngine

end Aivtuber
