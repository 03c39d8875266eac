import Mathlib.Data.List.SplitBy
import Aivtuber.Domain.Event

/-!
# Performance assets

`PerformanceAsset` of `crates/asset-store/src/lib.rs`, its validation, and its
compatibility with a runtime.  A validation collects the issues of all fields, in the order
of its checks.
-/

open Aivtuber.Text

namespace Aivtuber

inductive AssetClass where
  | filler | reaction | phrase | template | dynamic
deriving DecidableEq, Repr

inductive GazeTarget where
  | camera | chat | game | speaker | away
deriving DecidableEq, Repr

structure SpeechTrack where
  text : Option String
  audioRef : Option String
  durationMs : Option Nat
  visemeRef : Option String
deriving DecidableEq

structure ExpressionTrack where
  preset : String
  intensity : Float64
deriving DecidableEq

structure GestureTrack where
  preset : String
  amplitude : Option Float64
deriving DecidableEq

structure TimelineEvent where
  atMs : Nat
  event : String
  payload : Option JsonValue

structure VariationSpec where
  speedPct : Option Float64
  amplitudePct : Option Float64
  startDelayMs : Option Nat
deriving DecidableEq

structure AssetCompatibility where
  compilerVersion : String
  voiceModel : Option String
  avatarProfile : Option String
  visemeMapping : Option String
  motionLibrary : Option String
deriving DecidableEq, Repr

structure SemanticEmbedding where
  model : String
  modelVersion : String
  vector : List Float64
deriving DecidableEq

structure Provenance where
  generated : Option Bool
  generator : Option String
  createdAt : Option String
  thinkingBackend : Option String
  thinkingModelAlias : Option String
  thinkingModelVersion : Option String
  ttsBackend : Option String
  ttsModelAlias : Option String
  ttsModelVersion : Option String
  routingReason : Option String
deriving DecidableEq, Repr

structure PerformanceAsset where
  schemaVersion : String
  id : String
  intent : String
  assetClass : AssetClass
  variantGroup : Option String
  speech : Option SpeechTrack
  expression : Option ExpressionTrack
  gesture : Option GestureTrack
  gaze : Option GazeTarget
  timeline : List TimelineEvent
  interruptPointsMs : List Nat
  variation : Option VariationSpec
  compatibility : AssetCompatibility
  semanticEmbedding : Option SemanticEmbedding
  provenance : Option Provenance

structure ValidationIssue where
  field : String
  message : String
deriving DecidableEq, Repr

def performanceAssetSchemaVersion : String := "0.1.0"

def maxSemanticEmbeddingDimensions : Nat := 4096

/-! ## Validation -/

/-- An issue, unless `condition` holds. -/
def issueUnless (field message : String) (condition : Bool) : List ValidationIssue :=
  if condition then [] else [⟨field, message⟩]

/-- `^[a-z0-9][a-z0-9._-]{2,127}$`, on bytes. -/
def isValidAssetId (id : String) : Bool :=
  let isLower (b : UInt8) : Bool := byte 'a' ≤ b && b ≤ byte 'z'
  let bytes := utf8 id
  (3 ≤ bytes.length && bytes.length ≤ 128) &&
    bytes.head?.any (fun b ↦ isLower b || isDigit b) &&
    bytes.all fun b ↦ isLower b || isDigit b || b = byte '.' || b = byte '_' || b = byte '-'

def Float64.inRange (minimum maximum : Nat) : Float64 → Bool
  | .finite value => minimum ≤ value && value ≤ maximum
  | .infinite _ | .nan => false

def validateNumberRange (field : String) (value : Float64) (minimum maximum : Nat) :
    List ValidationIssue :=
  issueUnless field
    ("must be a finite number between " ++ toString minimum ++ " and " ++ toString maximum)
    (value.inRange minimum maximum)

def validateOptionalNonempty (field : String) (value : Option String) : List ValidationIssue :=
  issueUnless field "must not be empty when present" (!value.any isBlank)

/-- The text occurs. -/
def containsText (text value : List Char) : Bool := value.tails.any text.isPrefixOf

def validateMediaRef (field value : String) : List ValidationIssue :=
  let value := trim value
  if value = "" then [⟨field, "must not be empty"⟩]
  else if "data:".toList.isPrefixOf (value.toList.map Char.toLower) then
    [⟨field, "embedded data URIs are forbidden; binary media must remain external"⟩]
  else if containsText "://".toList value.toList then []
  else
    issueUnless field "local media references must be relative paths"
        (!("/".toList.isPrefixOf value.toList || (utf8 value)[1]? = some (byte ':'))) ++
      issueUnless field "local media references must not escape the asset root"
        (!(value.toList.splitOn '/').contains "..".toList)

def SpeechTrack.issues (speech : SpeechTrack) : List ValidationIssue :=
  validateOptionalNonempty "speech.text" speech.text ++
    (speech.audioRef.elim [] fun audioRef ↦
      validateMediaRef "speech.audio_ref" audioRef ++
        issueUnless "speech.duration_ms" "is required when speech.audio_ref is present"
          speech.durationMs.isSome) ++
    (speech.visemeRef.elim [] fun visemeRef ↦
      validateMediaRef "speech.viseme_ref" visemeRef ++
        issueUnless "speech.viseme_ref" "requires speech.audio_ref" speech.audioRef.isSome)

def ExpressionTrack.issues (expression : ExpressionTrack) : List ValidationIssue :=
  issueUnless "expression.preset" "must not be empty" (!isBlank expression.preset) ++
    validateNumberRange "expression.intensity" expression.intensity 0 1

def GestureTrack.issues (gesture : GestureTrack) : List ValidationIssue :=
  issueUnless "gesture.preset" "must not be empty" (!isBlank gesture.preset) ++
    gesture.amplitude.elim [] fun amplitude ↦
      validateNumberRange "gesture.amplitude" amplitude 0 2

/-- The issues of the timeline from an index on. -/
def timelineIssues (index : Nat) (previous : Option Nat) :
    List TimelineEvent → List ValidationIssue
  | [] => []
  | event :: timeline =>
    issueUnless ("timeline[" ++ toString index ++ "].event") "must not be empty"
        (!isBlank event.event) ++
      issueUnless ("timeline[" ++ toString index ++ "].at_ms")
        "timeline must be monotonic non-decreasing"
        (!previous.any fun previous ↦ event.atMs < previous) ++
      timelineIssues (index + 1) (some event.atMs) timeline

/-- The issues of the interrupt points from an index on. -/
def interruptIssues (duration : Option Nat) (index : Nat) (seen : List Nat)
    (previous : Option Nat) : List Nat → List ValidationIssue
  | [] => []
  | point :: points =>
    let field := "interrupt_points_ms[" ++ toString index ++ "]"
    issueUnless field "duplicate interrupt point" (!seen.contains point) ++
      issueUnless field "interrupt points must be strictly increasing"
        (!previous.any fun previous ↦ point ≤ previous) ++
      issueUnless field
        ("interrupt point " ++ toString point ++ "ms exceeds speech duration " ++
          toString (duration.getD 0) ++ "ms")
        (!duration.any fun duration ↦ duration < point) ++
      interruptIssues duration (index + 1) (point :: seen) (some point) points

def VariationSpec.issues (variation : VariationSpec) : List ValidationIssue :=
  (variation.speedPct.elim [] fun value ↦ validateNumberRange "variation.speed_pct" value 0 25) ++
    (variation.amplitudePct.elim [] fun value ↦
      validateNumberRange "variation.amplitude_pct" value 0 25) ++
    issueUnless "variation.start_delay_ms" "must be between 0 and 500"
      (!variation.startDelayMs.any fun value ↦ 500 < value)

def AssetCompatibility.issues (compatibility : AssetCompatibility) : List ValidationIssue :=
  issueUnless "compatibility.compiler_version" "must not be empty"
      (!isBlank compatibility.compilerVersion) ++
    validateOptionalNonempty "compatibility.voice_model" compatibility.voiceModel ++
    validateOptionalNonempty "compatibility.avatar_profile" compatibility.avatarProfile ++
    validateOptionalNonempty "compatibility.viseme_mapping" compatibility.visemeMapping ++
    validateOptionalNonempty "compatibility.motion_library" compatibility.motionLibrary

def Provenance.isGenerated (provenance : Provenance) : Bool := provenance.generated = some true

def Provenance.issues (provenance : Provenance) : List ValidationIssue :=
  let required (field : String) (value : Option String) : List ValidationIssue :=
    issueUnless field "is required when provenance.generated is true" value.isSome
  validateOptionalNonempty "provenance.generator" provenance.generator ++
    validateOptionalNonempty "provenance.thinking_backend" provenance.thinkingBackend ++
    validateOptionalNonempty "provenance.tts_backend" provenance.ttsBackend ++
    validateOptionalNonempty "provenance.routing_reason" provenance.routingReason ++
    if provenance.isGenerated then
      required "provenance.generator" provenance.generator ++
        required "provenance.created_at" provenance.createdAt ++
        required "provenance.thinking_backend" provenance.thinkingBackend ++
        required "provenance.tts_backend" provenance.ttsBackend ++
        required "provenance.routing_reason" provenance.routingReason
    else []

/-- The square of a component; the sum of such squares is zero exactly when it is in floats,
where each of them is exact. -/
def Float64.square : Float64 → ℚ
  | .finite value => value * value
  | .infinite _ | .nan => 0

def SemanticEmbedding.issues (embedding : SemanticEmbedding) : List ValidationIssue :=
  issueUnless "semantic_embedding.model" "must not be empty" (!isBlank embedding.model) ++
    issueUnless "semantic_embedding.model_version" "must not be empty"
      (!isBlank embedding.modelVersion) ++
    if embedding.vector.isEmpty || maxSemanticEmbeddingDimensions < embedding.vector.length then
      [⟨"semantic_embedding.vector",
        "must contain 1..=" ++ toString maxSemanticEmbeddingDimensions ++ " dimensions"⟩]
    else if embedding.vector.any (!·.isFinite) then
      [⟨"semantic_embedding.vector", "must contain only finite values"⟩]
    else
      issueUnless "semantic_embedding.vector" "must have non-zero norm"
        ((embedding.vector.map Float64.square).sum ≠ 0)

namespace PerformanceAsset

def issues (asset : PerformanceAsset) : List ValidationIssue :=
  issueUnless "schema_version"
      ("expected " ++ performanceAssetSchemaVersion ++ ", got " ++ asset.schemaVersion)
      (asset.schemaVersion = performanceAssetSchemaVersion) ++
    issueUnless "id" "must match ^[a-z0-9][a-z0-9._-]\x7b2,127\x7d$" (isValidAssetId asset.id) ++
    issueUnless "intent" "must not be empty" (!isBlank asset.intent) ++
    validateOptionalNonempty "variant_group" asset.variantGroup ++
    asset.speech.elim [] SpeechTrack.issues ++
    asset.expression.elim [] ExpressionTrack.issues ++
    asset.gesture.elim [] GestureTrack.issues ++
    timelineIssues 0 none asset.timeline ++
    interruptIssues (asset.speech.bind SpeechTrack.durationMs) 0 [] none asset.interruptPointsMs ++
    asset.variation.elim [] VariationSpec.issues ++
    asset.compatibility.issues ++
    asset.provenance.elim [] Provenance.issues ++
    asset.semanticEmbedding.elim [] SemanticEmbedding.issues

def validate (asset : PerformanceAsset) : Except (List ValidationIssue) Unit :=
  if asset.issues.isEmpty then .ok () else .error asset.issues

/-- Generated at run time, by its provenance. -/
def isGenerated (asset : PerformanceAsset) : Bool := asset.provenance.any Provenance.isGenerated

end PerformanceAsset

/-! ## Compatibility -/

structure RuntimeCompatibility where
  compilerVersion : String
  voiceModel : Option String
  avatarProfile : Option String
  visemeMapping : Option String
  motionLibrary : Option String
deriving DecidableEq, Repr

structure CompatibilityMismatch where
  field : String
  assetRequires : String
  runtimeHas : Option String
deriving DecidableEq, Repr

inductive CompatibilityStatus where
  | usable
  | incompatible (mismatches : List CompatibilityMismatch)
deriving DecidableEq, Repr

def CompatibilityStatus.isUsable : CompatibilityStatus → Bool
  | .usable => true
  | .incompatible _ => false

/-- A field that an asset requires must be what the runtime has. -/
def checkOptionalCompatibility (field : String) (assetRequires runtimeHas : Option String) :
    List CompatibilityMismatch :=
  match assetRequires with
  | none => []
  | some required => if runtimeHas = some required then [] else [⟨field, required, runtimeHas⟩]

def AssetCompatibility.check (compatibility : AssetCompatibility) (runtime : RuntimeCompatibility) :
    CompatibilityStatus :=
  let mismatches :=
    (if compatibility.compilerVersion = runtime.compilerVersion then []
      else [⟨"compiler_version", compatibility.compilerVersion, some runtime.compilerVersion⟩]) ++
    checkOptionalCompatibility "voice_model" compatibility.voiceModel runtime.voiceModel ++
    checkOptionalCompatibility "avatar_profile" compatibility.avatarProfile runtime.avatarProfile ++
    checkOptionalCompatibility "viseme_mapping" compatibility.visemeMapping runtime.visemeMapping ++
    checkOptionalCompatibility "motion_library" compatibility.motionLibrary runtime.motionLibrary
  if mismatches.isEmpty then .usable else .incompatible mismatches

structure AssetIdentity where
  id : String
  schemaVersion : String
  compilerVersion : String
  voiceModel : Option String
  avatarProfile : Option String
  visemeMapping : Option String
  motionLibrary : Option String
deriving DecidableEq, Repr

def PerformanceAsset.identity (asset : PerformanceAsset) : AssetIdentity where
  id := asset.id
  schemaVersion := asset.schemaVersion
  compilerVersion := asset.compatibility.compilerVersion
  voiceModel := asset.compatibility.voiceModel
  avatarProfile := asset.compatibility.avatarProfile
  visemeMapping := asset.compatibility.visemeMapping
  motionLibrary := asset.compatibility.motionLibrary

/-- A component with the length of its value, or without a value. -/
def identityComponent (name : String) (value : Option String) : String :=
  name ++ "=" ++ (value.elim "-" fun value ↦ toString value.utf8ByteSize ++ ":" ++ value) ++ "|"

def AssetIdentity.stableKey (identity : AssetIdentity) : String :=
  identityComponent "id" (some identity.id) ++
    identityComponent "schema" (some identity.schemaVersion) ++
    identityComponent "compiler" (some identity.compilerVersion) ++
    identityComponent "voice" identity.voiceModel ++
    identityComponent "avatar" identity.avatarProfile ++
    identityComponent "viseme" identity.visemeMapping ++
    identityComponent "motion" identity.motionLibrary

end Aivtuber
