import Mathlib.Data.Nat.Digits.Defs
import Aivtuber.AssetStore.Store
import Aivtuber.Domain.Context
import Aivtuber.Generative.Generation
import Aivtuber.Generative.Speech

/-!
# The performance compiler

`PerformanceCompiler` of `crates/generative/src/lib.rs`, which makes a performance asset of a
reply and its speech.  A compilation succeeds exactly when its inputs are `Compilable`; the asset
that comes out is one that the asset store takes as soon as the runtime fits.
-/

open Aivtuber.Check Aivtuber.Text

namespace Aivtuber

structure GenerationError where
  message : String
deriving DecidableEq, Repr

/-- The whole of a request, for the pipeline. -/
structure PipelineRequest extends GenerationRequest where
  thinking : ThinkingRequest
  routingReason : GenerationRoutingReason
  intent : String
  style : Option String
  fallbackVariantGroup : Option String

structure PerformanceCompilerConfig where
  compilerVersion : String
  avatarProfile : Option String
  motionLibrary : Option String
  expressionPreset : Option String
  expressionIntensity : Float64
deriving DecidableEq

/-- A compiler has a configuration that it accepted. -/
structure PerformanceCompiler where
  config : PerformanceCompilerConfig
  version : isBlank config.compilerVersion = false
  intensity : config.expressionIntensity.inRange 0 1 = true

/-- The issues of an asset as one text. -/
def displayIssues (issues : List ValidationIssue) : String :=
  String.intercalate "; " (issues.map fun issue ↦ issue.field ++ ": " ++ issue.message)

/-! ## Identities of generated assets -/

def hashBytes (hash : UInt64) (bytes : List UInt8) : UInt64 := bytes.foldl AssetStore.hashByte hash

/-- At least sixteen hexadecimal digits. -/
def hex16 (n : Nat) : List Char :=
  List.replicate (16 - (Nat.toDigits 16 n).length) '0' ++ Nat.toDigits 16 n

def generatedAssetId (event : EventEnvelope) (replyText : String) (thinking : BackendIdentity)
    (tts : TtsBackendIdentity) : String :=
  let optional (hash : UInt64) (text : Option String) : UInt64 :=
    text.elim hash fun text ↦ hashBytes hash (utf8 text)
  let hash := hashBytes 0xcbf29ce484222325 (utf8 event.eventId)
  let hash := hashBytes hash (AssetStore.leBytes event.sequence)
  let hash := hashBytes hash (utf8 replyText)
  let hash := hashBytes hash (utf8 thinking.name)
  let hash := optional hash thinking.modelAlias
  let hash := optional hash thinking.modelVersion
  let hash := hashBytes hash (utf8 tts.backend.name)
  let hash := optional hash tts.backend.modelAlias
  let hash := optional hash tts.backend.modelVersion
  "dynamic.generated." ++ String.ofList (hex16 hash.toNat)

/-! ## Compilation -/

namespace PerformanceCompiler

def new (config : PerformanceCompilerConfig) : Except GenerationError PerformanceCompiler :=
  if hversion : isBlank config.compilerVersion = false then
    if hintensity : config.expressionIntensity.inRange 0 1 = true then
      .ok ⟨config, hversion, hintensity⟩
    else .error ⟨"expression_intensity must be a finite value in 0..=1"⟩
  else .error ⟨"compiler_version must not be empty"⟩

def expression (compiler : PerformanceCompiler) : Option ExpressionTrack :=
  compiler.config.expressionPreset.map fun preset ↦
    { preset, intensity := compiler.config.expressionIntensity }

/-- The expression and the speech start together; the speech ends last. -/
def timeline (compiler : PerformanceCompiler) (durationMs : Nat) : List TimelineEvent :=
  (compiler.expression.elim [] fun expression ↦
    [⟨0, "expression.start", some (.object [("preset", .string expression.preset)])⟩]) ++
  [⟨0, "speech.start", none⟩, ⟨durationMs, "speech.end", none⟩]

/-- The asset, not yet validated. -/
def assemble (compiler : PerformanceCompiler) (request : PipelineRequest) (replyText : String)
    (speech : SpeechArtifact) (thinking : BackendIdentity) (tts : TtsBackendIdentity) :
    PerformanceAsset where
  schemaVersion := performanceAssetSchemaVersion
  id := generatedAssetId request.sourceEvent replyText thinking tts
  intent := request.intent
  assetClass := .dynamic
  variantGroup := none
  speech := some
    { text := some replyText
      audioRef := some speech.audioRef
      durationMs := some speech.durationMs
      visemeRef := speech.visemeRef }
  expression := compiler.expression
  gesture := none
  gaze := some .camera
  timeline := compiler.timeline speech.durationMs
  interruptPointsMs := [speech.durationMs]
  variation := none
  compatibility :=
    { compilerVersion := compiler.config.compilerVersion
      voiceModel := tts.voiceModel
      avatarProfile := compiler.config.avatarProfile
      visemeMapping := tts.visemeMapping
      motionLibrary := compiler.config.motionLibrary }
  semanticEmbedding := none
  provenance := some
    { generated := some true
      generator := some "aivtuber-generative"
      createdAt := some request.sourceEvent.observedAt
      thinkingBackend := some thinking.name
      thinkingModelAlias := thinking.modelAlias
      thinkingModelVersion := thinking.modelVersion
      ttsBackend := some tts.backend.name
      ttsModelAlias := tts.backend.modelAlias
      ttsModelVersion := tts.backend.modelVersion
      routingReason := some request.routingReason.asStr }

def compile (compiler : PerformanceCompiler) (request : PipelineRequest) (replyText : String)
    (speech : SpeechArtifact) (thinking : BackendIdentity) (tts : TtsBackendIdentity) :
    Except GenerationError PerformanceAsset := do
  ensure ⟨"generation intent must not be empty"⟩ (!isBlank request.intent)
  ensure ⟨"generated reply must not be empty"⟩ (!isBlank replyText)
  ensure ⟨"speech artifact requires audio_ref and positive duration_ms"⟩
    (!(isBlank speech.audioRef || speech.durationMs = 0))
  let asset := compiler.assemble request replyText speech thinking tts
  asset.validate.mapError fun issues ↦ ⟨"compiled asset is invalid: " ++ displayIssues issues⟩
  pure asset

end PerformanceCompiler

/-! ## Identities are valid -/

theorem toDigits_mem {c : Char} (n : Nat) (h : c ∈ Nat.toDigits 16 n) :
    c ∈ "0123456789abcdef".toList := by
  have hdigit : ∀ d < 16, Nat.digitChar d ∈ "0123456789abcdef".toList := by decide
  induction n using Nat.strongRecOn with
  | ind n ih =>
    by_cases hn : n < 16
    · rw [Nat.toDigits_of_lt_base hn, List.mem_singleton] at h
      rw [h]
      exact hdigit n hn
    · rw [Nat.toDigits_of_base_le (by decide) (Nat.le_of_not_lt hn), List.mem_append] at h
      rcases h with h | h
      · exact ih (n / 16) (by omega) h
      · rw [List.mem_singleton.mp h]
        exact hdigit _ (Nat.mod_lt _ (by decide))

theorem hex16_mem {c : Char} {n : Nat} (h : c ∈ hex16 n) : c ∈ "0123456789abcdef".toList := by
  rw [hex16, List.mem_append] at h
  rcases h with h | h
  · rw [List.eq_of_mem_replicate h]
    decide
  · exact toDigits_mem n h

theorem length_hex16 {n : Nat} (h : n < 2 ^ 64) : (hex16 n).length = 16 := by
  have hlength : (Nat.toDigits 16 n).length ≤ 16 :=
    Nat.toDigits_length 16 n 16 (by decide) (h.trans_le (by decide))
  rw [hex16, List.length_append, List.length_replicate]
  omega

theorem utf8_hex16 (n : Nat) : utf8 (String.ofList (hex16 n)) = (hex16 n).map byte := by
  apply utf8_ofList
  intro c hc
  have hsize : ("0123456789abcdef".toList.all fun c ↦ c.utf8Size = 1) = true := by decide
  exact of_decide_eq_true (List.all_eq_true.mp hsize c (hex16_mem hc))

theorem isValidAssetId_hex16 {n : Nat} (h : n < 2 ^ 64) :
    isValidAssetId ("dynamic.generated." ++ String.ofList (hex16 n)) = true := by
  have hbytes : utf8 "dynamic.generated." = "dynamic.generated.".toList.map byte := by decide
  have hhead : (utf8 "dynamic.generated.").head? = some (byte 'd') := by decide
  have hlength : (utf8 "dynamic.generated.").length = 18 := by decide
  have hallowed : (("0123456789abcdef".toList ++ "dynamic.generated.".toList).all fun c ↦
      (byte 'a' ≤ byte c && byte c ≤ byte 'z') || isDigit (byte c) || byte c = byte '.' ||
        byte c = byte '_' || byte c = byte '-') = true := by decide
  rw [List.all_eq_true] at hallowed
  rw [isValidAssetId]
  simp only [utf8_append, utf8_hex16, List.length_append, List.length_map, length_hex16 h, hlength,
    List.head?_append, hhead, Option.some_or, List.all_append, Bool.and_eq_true, List.all_eq_true]
  refine ⟨⟨by decide, by decide⟩, ?_, ?_⟩
  · rw [hbytes]
    intro b hb
    obtain ⟨c, hc, rfl⟩ := List.mem_map.mp hb
    exact hallowed c (List.mem_append_right _ hc)
  · intro b hb
    obtain ⟨c, hc, rfl⟩ := List.mem_map.mp hb
    exact hallowed c (List.mem_append_left _ (hex16_mem hc))

/-- **Every generated id is valid**: a fixed text and sixteen hexadecimal digits. -/
theorem isValidAssetId_generated (event : EventEnvelope) (replyText : String)
    (thinking : BackendIdentity) (tts : TtsBackendIdentity) :
    isValidAssetId (generatedAssetId event replyText thinking tts) = true :=
  isValidAssetId_hex16 (UInt64.toNat_lt _)

/-! ## What compiles -/

/-- A reference that validation accepts: an address, or a relative path inside its root. -/
def IsMediaRef (value : String) : Prop :=
  trim value ≠ "" ∧ ¬"data:".toList <+: (trim value).toList.map Char.toLower ∧
    (containsText "://".toList (trim value).toList = true ∨
      (¬"/".toList <+: (trim value).toList ∧ (utf8 (trim value))[1]? ≠ some (byte ':') ∧
        "..".toList ∉ (trim value).toList.splitOn '/'))

theorem issueUnless_eq_nil {field message : String} {condition : Bool} :
    issueUnless field message condition = [] ↔ condition = true := by
  cases condition <;> simp [issueUnless]

theorem validateMediaRef_eq_nil {field value : String} :
    validateMediaRef field value = [] ↔ IsMediaRef value := by
  rw [validateMediaRef, IsMediaRef]
  split
  case isTrue hempty => simp [hempty]
  case isFalse hempty =>
    split
    case isTrue hdata =>
      rw [List.isPrefixOf_iff_prefix] at hdata
      refine iff_of_false (List.cons_ne_nil _ _) ?_
      rintro ⟨-, hnot, -⟩
      exact hnot hdata
    case isFalse hdata =>
      rw [List.isPrefixOf_iff_prefix] at hdata
      split
      case isTrue haddress => exact iff_of_true rfl ⟨hempty, hdata, Or.inl haddress⟩
      case isFalse haddress =>
        rw [List.append_eq_nil_iff, issueUnless_eq_nil, issueUnless_eq_nil, Bool.not_eq_true',
          Bool.not_eq_true', Bool.or_eq_false_iff, decide_eq_false_iff_not,
          List.contains_eq_mem, decide_eq_false_iff_not, ← Bool.not_eq_true,
          List.isPrefixOf_iff_prefix, and_assoc]
        exact ⟨fun h ↦ ⟨hempty, hdata, Or.inr h⟩, fun h ↦ h.2.2.resolve_left haddress⟩

theorem validateOptionalNonempty_eq_nil {field : String} {value : Option String} :
    validateOptionalNonempty field value = [] ↔ ∀ text ∈ value, isBlank text = false := by
  rw [validateOptionalNonempty, issueUnless_eq_nil]
  cases value with
  | none => simp
  | some text => simp

/-- The inputs of a compilation that succeeds. -/
structure Compilable (compiler : PerformanceCompiler) (request : PipelineRequest)
    (replyText : String) (speech : SpeechArtifact) (thinking : BackendIdentity)
    (tts : TtsBackendIdentity) : Prop where
  intent : isBlank request.intent = false
  reply : isBlank replyText = false
  duration : 0 < speech.durationMs
  audio : IsMediaRef speech.audioRef
  visemes : ∀ visemeRef ∈ speech.visemeRef, IsMediaRef visemeRef
  preset : ∀ preset ∈ compiler.config.expressionPreset, isBlank preset = false
  avatarProfile : ∀ profile ∈ compiler.config.avatarProfile, isBlank profile = false
  motionLibrary : ∀ library ∈ compiler.config.motionLibrary, isBlank library = false
  voiceModel : ∀ voice ∈ tts.voiceModel, isBlank voice = false
  visemeMapping : ∀ mapping ∈ tts.visemeMapping, isBlank mapping = false
  thinking : isBlank thinking.name = false
  tts : isBlank tts.backend.name = false

namespace PerformanceCompiler

variable {compiler : PerformanceCompiler} {request : PipelineRequest} {replyText : String}
  {speech : SpeechArtifact} {thinking : BackendIdentity} {tts : TtsBackendIdentity}
  {asset : PerformanceAsset}

theorem isBlank_asStr (reason : GenerationRoutingReason) : isBlank reason.asStr = false := by
  cases reason <;> decide +kernel

/-- The timeline of a compiled asset has named events in order. -/
theorem timelineIssues_timeline (compiler : PerformanceCompiler) (durationMs : Nat) :
    timelineIssues 0 none (compiler.timeline durationMs) = [] := by
  have hspeech : isBlank "speech.start" = false ∧ isBlank "speech.end" = false := by
    decide +kernel
  have hexpression : isBlank "expression.start" = false := by decide +kernel
  rw [timeline]
  cases compiler.expression with
  | none => simp [timelineIssues, issueUnless, hspeech]
  | some expression => simp [timelineIssues, issueUnless, hspeech, hexpression]

theorem interruptIssues_end (durationMs : Nat) :
    interruptIssues (some durationMs) 0 [] none [durationMs] = [] := by
  simp [interruptIssues, issueUnless]

theorem expression_issues_eq_nil (compiler : PerformanceCompiler) :
    compiler.expression.elim [] ExpressionTrack.issues = [] ↔
      ∀ preset ∈ compiler.config.expressionPreset, isBlank preset = false := by
  rw [expression]
  cases compiler.config.expressionPreset with
  | none => simp
  | some preset =>
    simp [ExpressionTrack.issues, issueUnless_eq_nil, validateNumberRange, compiler.intensity]

/-- The asset that is put together has no issue exactly when its inputs have none. -/
theorem assemble_issues_eq_nil :
    (compiler.assemble request replyText speech thinking tts).issues = [] ↔
      isBlank request.intent = false ∧ isBlank replyText = false ∧
        IsMediaRef speech.audioRef ∧ (∀ visemeRef ∈ speech.visemeRef, IsMediaRef visemeRef) ∧
        (∀ preset ∈ compiler.config.expressionPreset, isBlank preset = false) ∧
        (∀ voice ∈ tts.voiceModel, isBlank voice = false) ∧
        (∀ profile ∈ compiler.config.avatarProfile, isBlank profile = false) ∧
        (∀ mapping ∈ tts.visemeMapping, isBlank mapping = false) ∧
        (∀ library ∈ compiler.config.motionLibrary, isBlank library = false) ∧
        isBlank thinking.name = false ∧ isBlank tts.backend.name = false := by
  have hspeech : (SpeechTrack.issues ⟨some replyText, some speech.audioRef,
      some speech.durationMs, speech.visemeRef⟩) = [] ↔
        isBlank replyText = false ∧ IsMediaRef speech.audioRef ∧
          ∀ visemeRef ∈ speech.visemeRef, IsMediaRef visemeRef := by
    cases speech.visemeRef <;>
      simp [SpeechTrack.issues, validateOptionalNonempty_eq_nil, validateMediaRef_eq_nil,
        issueUnless_eq_nil]
  have hgenerator : isBlank "aivtuber-generative" = false := by decide +kernel
  have hversion := compiler.version
  rw [PerformanceAsset.issues]
  simp only [assemble, List.append_eq_nil_iff, issueUnless_eq_nil, isValidAssetId_generated,
    validateOptionalNonempty_eq_nil, Option.elim_some, Option.elim_none, hspeech,
    expression_issues_eq_nil, timelineIssues_timeline, Option.bind_some, interruptIssues_end,
    AssetCompatibility.issues, Provenance.issues]
  simp [hversion, hgenerator, isBlank_asStr, Provenance.isGenerated, issueUnless_eq_nil, and_assoc]

/-- **What compiles.**  A compilation succeeds exactly on inputs that are compilable, and what
it gives is the asset put together from them. -/
theorem compile_eq_ok :
    compiler.compile request replyText speech thinking tts = .ok asset ↔
      Compilable compiler request replyText speech thinking tts ∧
        asset = compiler.assemble request replyText speech thinking tts := by
  have hvalid : ∀ asset : PerformanceAsset, asset.validate = .ok () ↔ asset.issues = [] := by
    intro asset
    rw [PerformanceAsset.validate]
    split <;> simp_all
  have hblank : IsMediaRef speech.audioRef → isBlank speech.audioRef = false := by
    intro h
    rw [isBlank, decide_eq_false_iff_not]
    exact h.1
  simp only [compile, unit_bind_eq_ok, ensure_eq_ok, mapError_eq_ok, hvalid,
    assemble_issues_eq_nil, Bool.not_eq_true', Bool.or_eq_false_iff, decide_eq_false_iff_not]
  constructor
  · rintro ⟨hintent, hreply, ⟨-, hduration⟩, ⟨-, -, haudio, hvisemes, hpreset, hvoice, havatar,
      hmapping, hlibrary, hthinking, htts⟩, hasset⟩
    exact ⟨⟨hintent, hreply, Nat.pos_of_ne_zero hduration, haudio, hvisemes, hpreset, havatar,
      hlibrary, hvoice, hmapping, hthinking, htts⟩, (Except.ok.inj hasset).symm⟩
  · rintro ⟨h, rfl⟩
    exact ⟨h.intent, h.reply, ⟨hblank h.audio, h.duration.ne'⟩, ⟨h.intent, h.reply, h.audio,
      h.visemes, h.preset, h.voiceModel, h.avatarProfile, h.visemeMapping, h.motionLibrary,
      h.thinking, h.tts⟩, rfl⟩

/-- What is compiled is valid. -/
theorem validate_of_compile
    (h : compiler.compile request replyText speech thinking tts = .ok asset) :
    asset.validate = .ok () := by
  rw [compile, unit_bind_eq_ok, unit_bind_eq_ok, unit_bind_eq_ok] at h
  obtain ⟨-, -, -, h⟩ := h
  rw [unit_bind_eq_ok, mapError_eq_ok] at h
  obtain ⟨hvalid, hasset⟩ := h
  rw [← Except.ok.inj hasset]
  exact hvalid

/-- A runtime on which what is compiled can be played. -/
structure Plays (compiler : PerformanceCompiler) (tts : TtsBackendIdentity)
    (runtime : RuntimeCompatibility) : Prop where
  version : runtime.compilerVersion = compiler.config.compilerVersion
  voice : ∀ voice ∈ tts.voiceModel, runtime.voiceModel = some voice
  avatar : ∀ profile ∈ compiler.config.avatarProfile, runtime.avatarProfile = some profile
  visemes : ∀ mapping ∈ tts.visemeMapping, runtime.visemeMapping = some mapping
  motion : ∀ library ∈ compiler.config.motionLibrary, runtime.motionLibrary = some library

theorem checkOptionalCompatibility_eq_nil {field : String} {required has : Option String} :
    checkOptionalCompatibility field required has = [] ↔ ∀ value ∈ required, has = some value := by
  cases required with
  | none => simp [checkOptionalCompatibility]
  | some value => simp [checkOptionalCompatibility]

theorem check_eq_usable {compatibility : AssetCompatibility} {runtime : RuntimeCompatibility} :
    compatibility.check runtime = .usable ↔
      compatibility.compilerVersion = runtime.compilerVersion ∧
        (∀ voice ∈ compatibility.voiceModel, runtime.voiceModel = some voice) ∧
        (∀ profile ∈ compatibility.avatarProfile, runtime.avatarProfile = some profile) ∧
        (∀ mapping ∈ compatibility.visemeMapping, runtime.visemeMapping = some mapping) ∧
        ∀ library ∈ compatibility.motionLibrary, runtime.motionLibrary = some library := by
  have hversion : (if compatibility.compilerVersion = runtime.compilerVersion then []
      else [(⟨"compiler_version", compatibility.compilerVersion, some runtime.compilerVersion⟩ :
        CompatibilityMismatch)]) = [] ↔
      compatibility.compilerVersion = runtime.compilerVersion := by
    split <;> simp_all
  have husable : ∀ mismatches : List CompatibilityMismatch,
      (if mismatches.isEmpty then CompatibilityStatus.usable else .incompatible mismatches) =
        .usable ↔ mismatches = [] := by
    intro mismatches
    cases mismatches <;> simp
  rw [AssetCompatibility.check, husable]
  simp only [List.append_eq_nil_iff, checkOptionalCompatibility_eq_nil, hversion, and_assoc]

theorem check_assemble {runtime : RuntimeCompatibility} :
    (compiler.assemble request replyText speech thinking tts).compatibility.check runtime =
        .usable ↔
      Plays compiler tts runtime := by
  rw [check_eq_usable]
  constructor
  · rintro ⟨hversion, hvoice, havatar, hvisemes, hmotion⟩
    exact ⟨hversion.symm, hvoice, havatar, hvisemes, hmotion⟩
  · rintro ⟨hversion, hvoice, havatar, hvisemes, hmotion⟩
    exact ⟨hversion.symm, hvoice, havatar, hvisemes, hmotion⟩

/-- The hot tier takes an asset that is valid and usable. -/
theorem insertHot_eq_ok {store : AssetStore} :
    (store.insertHot asset).2 = .ok asset ↔
      asset.validate = .ok () ∧ asset.compatibility.check store.runtime = .usable := by
  rw [AssetStore.insertHot, AssetStore.checkHot]
  cases asset.validate with
  | error issues => simp
  | ok _ =>
    cases asset.compatibility.check store.runtime with
    | usable => simp
    | incompatible mismatches => simp

/-- **What is compiled is kept and played.**  A compilation gives an asset exactly on compilable
inputs; the asset is dynamic, valid and marked as generated, carries the reply and the speech as
they are, and a store takes it into its hot tier exactly when its runtime plays it. -/
theorem compiled_admissible (store : AssetStore) :
    ((∃ asset, compiler.compile request replyText speech thinking tts = .ok asset) ↔
      Compilable compiler request replyText speech thinking tts) ∧
    ∀ asset, compiler.compile request replyText speech thinking tts = .ok asset →
      asset.validate = .ok () ∧ asset.isGenerated = true ∧ asset.assetClass = .dynamic ∧
      asset.intent = request.intent ∧
      asset.speech = some ⟨replyText, speech.audioRef, speech.durationMs, speech.visemeRef⟩ ∧
      ((store.insertHot asset).2 = .ok asset ↔ Plays compiler tts store.runtime) := by
  refine ⟨?_, ?_⟩
  · constructor
    · rintro ⟨asset, h⟩
      exact (compile_eq_ok.mp h).1
    · intro h
      exact ⟨_, compile_eq_ok.mpr ⟨h, rfl⟩⟩
  · intro asset h
    have hvalid := validate_of_compile h
    obtain ⟨-, rfl⟩ := compile_eq_ok.mp h
    refine ⟨hvalid, rfl, rfl, rfl, rfl, ?_⟩
    rw [insertHot_eq_ok, check_assemble]
    exact and_iff_right hvalid

end PerformanceCompiler

end Aivtuber
