import Aivtuber.App.Production
import Aivtuber.Runtime.Correlations
import Aivtuber.Telemetry.Leaks

/-!
# The support bundle

The bundle of `crates/app/src/support_bundle.rs` shows four kinds of text that stem from the run:
the health of the adapters, recent correlations, causal timelines and audit decisions.  Secrets
are replaced in the first and the last of them, the endpoints are masked in the first, word by
word; the correlation ids of the events are shown as they came.

So the bundle leaks nothing as long as the secrets can be told from what is around them, no
correlation id has one, and the URLs of the adapter errors begin words (`sealed_of_run`).
-/

open Aivtuber.Text

namespace Aivtuber

/-! ## Causal traces -/

inductive TraceStage where
  | ingressNormalization | securityAdmission | cacheLookup | semanticRetrieval | reflexJev
  | templateResolution | generation | outputGate | assetCompilation | schedulerAdmission
  | audioDispatch | avatarDispatch | streamDispatch | cancellation
deriving DecidableEq, Repr

def TraceStage.asStr : TraceStage → String
  | ingressNormalization => "ingress_normalization"
  | securityAdmission => "security_admission"
  | cacheLookup => "cache_lookup"
  | semanticRetrieval => "semantic_retrieval"
  | reflexJev => "reflex_jev"
  | templateResolution => "template_resolution"
  | generation => "generation"
  | outputGate => "output_gate"
  | assetCompilation => "asset_compilation"
  | schedulerAdmission => "scheduler_admission"
  | audioDispatch => "audio_dispatch"
  | avatarDispatch => "avatar_dispatch"
  | streamDispatch => "stream_dispatch"
  | cancellation => "cancellation"

inductive StageOutcome where
  | completed | skipped | degraded | failed | cancelled | overridden
deriving DecidableEq, Repr

/-- The text that the outcome is serialized to. -/
def StageOutcome.json : StageOutcome → String
  | completed => "\"completed\""
  | skipped => "\"skipped\""
  | degraded => "\"degraded\""
  | failed => "\"failed\""
  | cancelled => "\"cancelled\""
  | overridden => "\"overridden\""

inductive StageReason where
  | none | cacheMiss | noCandidates | reuseThresholdRejected | routeConfidenceRejected
  | deadlineExhausted | deadlineInsufficientBudget | adapterError | securitySuppressed
  | securityReplaced | muted | schedulerLate | operatorStop | generationCancelled
  | backendUnavailable | other
deriving DecidableEq, Repr

def StageReason.json : StageReason → String
  | none => "\"none\""
  | cacheMiss => "\"cache_miss\""
  | noCandidates => "\"no_candidates\""
  | reuseThresholdRejected => "\"reuse_threshold_rejected\""
  | routeConfidenceRejected => "\"route_confidence_rejected\""
  | deadlineExhausted => "\"deadline_exhausted\""
  | deadlineInsufficientBudget => "\"deadline_insufficient_budget\""
  | adapterError => "\"adapter_error\""
  | securitySuppressed => "\"security_suppressed\""
  | securityReplaced => "\"security_replaced\""
  | muted => "\"muted\""
  | schedulerLate => "\"scheduler_late\""
  | operatorStop => "\"operator_stop\""
  | generationCancelled => "\"generation_cancelled\""
  | backendUnavailable => "\"backend_unavailable\""
  | other => "\"other\""

/-- What a timeline shows of a span. -/
structure TraceSpan where
  stage : TraceStage
  outcome : StageOutcome
  reason : StageReason
  durationMs : Nat
deriving DecidableEq, Repr

structure CausalTrace where
  eventId : String
  correlationId : String
  spans : List TraceSpan
  sequence : Nat
deriving DecidableEq, Repr

/-- One line of a timeline. -/
def TraceSpan.line (span : TraceSpan) : String :=
  let reason := if span.reason = .none then "" else " reason=" ++ span.reason.json
  "  " ++ span.stage.asStr ++ " " ++ span.outcome.json ++ " (" ++ toString span.durationMs ++
    "ms)" ++ reason ++ "\n"

def CausalTrace.redactedTimeline (trace : CausalTrace) : String :=
  trace.spans.foldl (fun out span ↦ out ++ span.line)
    ("corr=" ++ trace.correlationId ++ " seq=" ++ toString trace.sequence ++ "\n")

/-- Bounded collector, which keeps at least one trace. -/
structure CausalTraceCollector where
  traces : List CausalTrace
  maxTraces : Nat
  nextSequence : Nat
  maxTraces_pos : 0 < maxTraces

namespace CausalTraceCollector

def withRetention (maxTraces : Nat) (h : 0 < maxTraces) : CausalTraceCollector :=
  ⟨[], maxTraces, 0, h⟩

/-- Begin a trace, and commit it with its spans. -/
def trace (collector : CausalTraceCollector) (eventId correlationId : String)
    (spans : List TraceSpan) : CausalTraceCollector :=
  let traces := collector.traces ++ [⟨eventId, correlationId, spans, collector.nextSequence⟩]
  { collector with
    traces := traces.drop (traces.length - collector.maxTraces)
    nextSequence := collector.nextSequence + 1 }

def traceForCorrelation (collector : CausalTraceCollector) (correlationId : String) :
    Option CausalTrace :=
  collector.traces.reverse.find? (·.correlationId = correlationId)

/-- The loop over the traces, the newest first, with the ids so far. -/
def recentIds (limit : Nat) (out : List String) : List CausalTrace → List String
  | [] => out
  | trace :: traces =>
    if limit ≤ out.length then out
    else if trace.correlationId ∈ out then recentIds limit out traces
    else recentIds limit (out ++ [trace.correlationId]) traces

def recentCorrelationIds (collector : CausalTraceCollector) (limit : Nat) : List String :=
  recentIds limit [] collector.traces.reverse

end CausalTraceCollector

/-! ## The bundle -/

inductive AdapterPort where
  | audio | avatar | stream
deriving DecidableEq, Repr

def AdapterHealth.set (health : AdapterHealth) (error : Option String) :
    AdapterPort → AdapterHealth
  | .audio => { health with audioError := error }
  | .avatar => { health with avatarError := error }
  | .stream => { health with streamError := error }

/-- The error texts that are present. -/
def AdapterHealth.texts (health : AdapterHealth) : List String :=
  health.audioError.toList ++ health.avatarError.toList ++ health.streamError.toList

structure SupportAuditSummary where
  category : String
  decision : String

/-- The parts of a bundle that stem from the run. -/
structure SupportBundle where
  health : AdapterHealth
  muted : Bool
  recentCorrelations : List String
  causalTimelines : List String
  auditSummaries : List SupportAuditSummary

def AuditCategory.name : AuditCategory → String
  | ingress => "ingress"
  | authorization => "authorization"
  | output => "output"
  | generation => "generation"
  | memory => "memory"

def auditSummary (record : AuditRecord) : SupportAuditSummary where
  category := record.category.name
  decision := record.decision

def urlSchemes : List String := ["http://", "https://", "ws://", "wss://"]

def isEndpoint (word : String) : Bool :=
  urlSchemes.any fun scheme ↦ scheme.toList.isPrefixOf word.toList

def maskEndpoint (word : String) : String := if isEndpoint word then "[ENDPOINT]" else word

/-- Mask the words that look like an endpoint. -/
def redactAppText (text : String) : String :=
  " ".intercalate ((splitWhitespace text).map maskEndpoint)

/-- What the bundle reads of the application. -/
structure SupportState where
  boundary : SecurityBoundary
  health : AdapterHealth
  causalTraces : CausalTraceCollector

namespace SupportState

def generate (state : SupportState) (maxTimelines maxAuditSummaries : Nat) : SupportBundle :=
  let redacted (error : Option String) : Option String :=
    error.map fun text ↦ redactAppText (state.boundary.redactor.redact text)
  { health :=
      { audioError := redacted state.health.audioError
        avatarError := redacted state.health.avatarError
        streamError := redacted state.health.streamError }
    muted := state.boundary.muted
    recentCorrelations :=
      (state.boundary.recentCorrelations (max maxTimelines 1)).map (·.correlationId)
    causalTimelines :=
      (state.causalTraces.recentCorrelationIds maxTimelines).filterMap fun correlationId ↦
        (state.causalTraces.traceForCorrelation correlationId).map (·.redactedTimeline)
    auditSummaries :=
      (state.boundary.audit.reverse.take maxAuditSummaries).reverse.map auditSummary }

end SupportState

/-- Every text that stems from the run. -/
def SupportBundle.texts (bundle : SupportBundle) : List String :=
  bundle.health.texts ++ bundle.recentCorrelations ++ bundle.causalTimelines ++
    bundle.auditSummaries.flatMap fun summary ↦ [summary.category, summary.decision]

/-! ## Runs -/

/-- What changes the texts of a bundle: an event is admitted, a decision is audited, an adapter
fails or recovers, the trace of an event is committed. -/
inductive SupportStep where
  | admitted (event : EventEnvelope)
  | audited (eventId : Option String) (category : AuditCategory) (decision detail : String)
  | adapter (port : AdapterPort) (error : Option String)
  | traced (eventId correlationId : String) (spans : List TraceSpan)

namespace SupportState

def step (state : SupportState) : SupportStep → SupportState
  | .admitted event => { state with boundary := state.boundary.recordCorrelation event }
  | .audited eventId category decision detail =>
    { state with boundary :=
        state.boundary.audited (state.boundary.redactor.record eventId category decision detail) }
  | .adapter port error => { state with health := state.health.set error port }
  | .traced eventId correlationId spans =>
    { state with causalTraces := state.causalTraces.trace eventId correlationId spans }

def machine : Machine SupportState SupportStep Unit := ⟨fun state step ↦ (state.step step, ())⟩

/-- The application before the run. -/
def new (boundary : SecurityBoundary) (collector : CausalTraceCollector) : SupportState where
  boundary
  health := ⟨none, none, none⟩
  causalTraces := collector

end SupportState

/-! ## What a bundle may show -/

/-- The words of the program's own that a bundle shows. -/
inductive Spoken : String → Prop
  | redacted : Spoken "[REDACTED]"
  | endpoint : Spoken "[ENDPOINT]"
  | stage (stage : TraceStage) : Spoken stage.asStr
  | outcome (outcome : StageOutcome) : Spoken outcome.json
  | reason (reason : StageReason) : Spoken ("reason=" ++ reason.json)
  | sequence (n : Nat) : Spoken ("seq=" ++ toString n)
  | duration (n : Nat) : Spoken ("(" ++ toString n ++ "ms)")
  | category (category : AuditCategory) : Spoken category.name

/-- Secrets that are in no words of the program, have no space, do not end with white space and are
not read across a marker. -/
structure SecretRedactor.Sound (redactor : SecretRedactor) : Prop where
  unspoken : ∀ text, Spoken text → redactor.Misses text
  unspaced : ∀ secret ∈ redactor.secrets, ' ' ∉ secret.toList
  ended : ∀ secret ∈ redactor.secrets, ∀ c,
    secret.toList.getLast? = some c → isWhitespace c = false
  apart : ∀ secret ∈ redactor.secrets, Apart Redaction.marker secret.toList

/-- The spelling of a scheme, in whatever case. -/
def Spells (url : List Char) : Prop :=
  ∃ scheme ∈ urlSchemes, url.map Char.toLower = scheme.toList

def HasUrl (text : String) : Prop := ∃ url, Spells url ∧ url <:+: text.toList

/-- The URLs of a text are spelled in lower case, and each begins a word. -/
structure UrlsBeginWords (text : String) : Prop where
  lower : ∀ url, Spells url → url <:+: text.toList → ∃ scheme ∈ urlSchemes, url = scheme.toList
  first : ∀ url, Spells url → ∀ c, isWhitespace c = false → ¬c :: url <:+: text.toList

/-- A step that puts nothing into the state that a bundle must not show. -/
def SecretRedactor.Harmless (redactor : SecretRedactor) : SupportStep → Prop
  | .admitted event => redactor.Misses event.correlationId
  | .audited .. => True
  | .adapter _ error => ∀ text ∈ error, UrlsBeginWords text
  | .traced _ correlationId _ => redactor.Misses ("corr=" ++ correlationId)

/-- A bundle that leaks nothing. -/
structure SupportBundle.Sealed (bundle : SupportBundle) (redactor : SecretRedactor) : Prop where
  secrets : ∀ text ∈ bundle.texts, redactor.Misses text
  urls : ∀ text ∈ bundle.health.texts, ¬HasUrl text

/-! ## Adapter errors -/

section Urls

variable {redactor : SecretRedactor} {text : String} {url : List Char}

theorem Spells.mem {c : Char} (h : Spells url) (hc : c ∈ url) :
    c.toLower ∈ "htpsw:/".toList := by
  obtain ⟨scheme, hscheme, hspell⟩ := h
  have hall : ∀ scheme ∈ urlSchemes, scheme.toList.all (· ∈ "htpsw:/".toList) = true := by
    decide +kernel
  have hmem : c.toLower ∈ scheme.toList := hspell ▸ List.mem_map_of_mem hc
  exact of_decide_eq_true (List.all_eq_true.mp (hall scheme hscheme) _ hmem)

theorem Spells.not_mem {c : Char} (h : Spells url) (hc : c.toLower ∉ "htpsw:/".toList) :
    c ∉ url := fun hmem ↦ hc (h.mem hmem)

theorem Spells.ne_nil (h : Spells url) : url ≠ [] := by
  obtain ⟨scheme, hscheme, hspell⟩ := h
  rintro rfl
  have hall : ∀ scheme ∈ urlSchemes, scheme.toList ≠ [] := by decide +kernel
  exact hall scheme hscheme hspell.symm

/-- No URL is in a text without one in lower case. -/
theorem Spells.not_infix (h : Spells url) {cs : List Char}
    (hnone : ∀ scheme ∈ urlSchemes, ¬scheme.toList <:+: cs.map Char.toLower) : ¬url <:+: cs := by
  obtain ⟨scheme, hscheme, hspell⟩ := h
  exact fun hocc ↦ hnone scheme hscheme (hspell ▸ hocc.map Char.toLower)

theorem Spells.not_infix_marker (h : Spells url) : ¬url <:+: Redaction.marker :=
  h.not_infix (by decide +kernel)

theorem Spells.apart_marker (h : Spells url) : Apart Redaction.marker url := by
  have hmid : ¬url <:+: "REDACTED".toList := h.not_infix (by decide +kernel)
  exact apart_of_delimited (h.not_mem (by decide)) (h.not_mem (by decide)) hmid

/-- Redaction leaves the URLs where they are, at the beginning of words. -/
theorem UrlsBeginWords.redact (h : UrlsBeginWords text)
    (hend : ∀ secret ∈ redactor.secrets, ∀ c,
      secret.toList.getLast? = some c → isWhitespace c = false) :
    UrlsBeginWords (redactor.redact text) := by
  constructor
  case lower =>
    intro url hurl hocc
    rw [SecretRedactor.toList_redact_chars] at hocc
    exact h.lower url hurl (Redaction.infix_of_infix_redactChars
      (SecretRedactor.patterns_ne_nil _) hurl.apart_marker hurl.ne_nil hocc)
  case first =>
    intro url hurl c hc hocc
    rw [SecretRedactor.toList_redact_chars] at hocc
    obtain ⟨c', hc', hbefore⟩ := Redaction.exists_follows_redactChars
      (SecretRedactor.patterns_ne_nil _) (hurl.not_mem (by decide)) (hurl.not_mem (by decide))
      hurl.not_infix_marker hocc
    rcases hc' with rfl | ⟨s, hs, hlast⟩
    · exact h.first url hurl c' hc hbefore
    · obtain ⟨secret, hsecret, rfl⟩ := SecretRedactor.mem_patterns_iff.mp hs
      exact h.first url hurl c' (hend secret hsecret c' hlast) hbefore

/-- What is in a masked text is in a word that is no endpoint, or in the mask. -/
theorem infix_redactAppText {o : List Char} (hne : o ≠ []) (hspace : ' ' ∉ o)
    (h : o <:+: (redactAppText text).toList) :
    o <:+: "[ENDPOINT]".toList ∨
      ∃ word ∈ splitWhitespace text, isEndpoint word = false ∧ o <:+: word.toList := by
  rw [redactAppText, String.toList_intercalate] at h
  obtain ⟨piece, hpiece, hocc⟩ := (apart_singleton hspace).infix_intercalate hne h
  rw [List.map_map] at hpiece
  obtain ⟨word, hword, rfl⟩ := List.mem_map.mp hpiece
  rw [Function.comp_apply, maskEndpoint] at hocc
  split at hocc
  case isTrue => exact .inl hocc
  case isFalse hplain => exact .inr ⟨word, hword, eq_false_of_ne_true hplain, hocc⟩

theorem infix_of_mem_splitWhitespace {word : String} (h : word ∈ splitWhitespace text) :
    word.toList <:+: text.toList := by
  obtain ⟨cs, hcs, rfl⟩ := List.mem_map.mp h
  rw [String.toList_ofList]
  exact infix_of_mem_wordsOf hcs

theorem solid_of_mem_splitWhitespace {word : String} (h : word ∈ splitWhitespace text) :
    ∀ c ∈ word.toList, isWhitespace c = false := by
  obtain ⟨cs, hcs, rfl⟩ := List.mem_map.mp h
  rw [String.toList_ofList]
  exact (isWord_of_mem_wordsOf hcs).solid

/-- Where the URLs begin words, the mask covers them all. -/
theorem UrlsBeginWords.masked (h : UrlsBeginWords text) : ¬HasUrl (redactAppText text) := by
  rintro ⟨url, hurl, hocc⟩
  rcases infix_redactAppText hurl.ne_nil (hurl.not_mem (by decide)) hocc with
    hmask | ⟨word, hword, hplain, hin⟩
  · exact hurl.not_infix (by decide) hmask
  · have htext := infix_of_mem_splitWhitespace hword
    obtain ⟨scheme, hscheme, rfl⟩ := h.lower url hurl (hin.trans htext)
    obtain ⟨front, back, hsplit⟩ := hin
    rcases List.eq_nil_or_concat front with rfl | ⟨front, c, rfl⟩
    · -- the word begins with the scheme
      have hendpoint : isEndpoint word = true := by
        refine List.any_eq_true.mpr ⟨scheme, hscheme, List.isPrefixOf_iff_prefix.mpr ?_⟩
        exact ⟨back, hsplit⟩
      exact Bool.false_ne_true (hplain.symm.trans hendpoint)
    · have hsplit' : front ++ (c :: scheme.toList) ++ back = word.toList := by
        rw [← hsplit, List.concat_eq_append, List.append_assoc front [c]]
        rfl
      have hword' : c :: scheme.toList <:+: word.toList := ⟨front, back, hsplit'⟩
      refine h.first _ hurl c (solid_of_mem_splitWhitespace hword c ?_) (hword'.trans htext)
      rw [← hsplit']
      exact List.mem_append_left _ (List.mem_append_right _ List.mem_cons_self)

/-- The mask brings no secret. -/
theorem SecretRedactor.Sound.misses_redactAppText (hsound : redactor.Sound)
    (h : redactor.Misses text) : redactor.Misses (redactAppText text) := by
  intro secret hsecret hocc
  have hne := SecretRedactor.toList_ne_nil (redactor.secrets_nonempty secret hsecret)
  rcases infix_redactAppText hne (hsound.unspaced secret hsecret) hocc with
    hmask | ⟨word, hword, -, hin⟩
  · exact hsound.unspoken _ .endpoint secret hsecret hmask
  · exact h secret hsecret (hin.trans (infix_of_mem_splitWhitespace hword))

end Urls

/-! ## Timelines -/

section Timelines

variable {redactor : SecretRedactor}

theorem misses_line_reason (hsound : redactor.Sound) (span : TraceSpan) {before : String}
    (h : redactor.Misses before) :
    redactor.Misses (before ++
      if span.reason = .none then "" else " reason=" ++ span.reason.json) := by
  split
  case isTrue => rwa [String.append_empty]
  case isFalse =>
    have hreason := h.space hsound.unspaced (hsound.unspoken _ (.reason span.reason))
    rwa [String.append_assoc] at hreason

/-- A line shows words of the program only. -/
theorem misses_line (hsound : redactor.Sound) {out : String} (h : redactor.Misses out)
    (span : TraceSpan) : redactor.Misses (out ++ "\n" ++ span.line) := by
  have hempty := redactor.misses_empty
  have hindent := ((h.newline hsound.ended).space hsound.unspaced hempty).space hsound.unspaced
    (hsound.unspoken _ (.stage span.stage))
  have houtcome := hindent.space hsound.unspaced (hsound.unspoken _ (.outcome span.outcome))
  have hduration := houtcome.space hsound.unspaced (hsound.unspoken _ (.duration span.durationMs))
  have hline := (misses_line_reason hsound span hduration).newline hsound.ended
  have heq : out ++ "\n" ++ span.line = out ++ "\n" ++ " " ++ "" ++ " " ++
      span.stage.asStr ++ " " ++ span.outcome.json ++ " " ++
      ("(" ++ toString span.durationMs ++ "ms)") ++
      (if span.reason = .none then "" else " reason=" ++ span.reason.json) ++ "\n" := by
    apply String.toList_inj.mp
    simp [TraceSpan.line]
  rw [heq]
  exact hline

/-- A timeline shows a correlation id and words of the program. -/
theorem misses_redactedTimeline (hsound : redactor.Sound) {trace : CausalTrace}
    (h : redactor.Misses ("corr=" ++ trace.correlationId)) :
    redactor.Misses trace.redactedTimeline := by
  have hfold (spans : List TraceSpan) (body : String) (hbody : redactor.Misses body) :
      redactor.Misses (spans.foldl (fun out span ↦ out ++ span.line) (body ++ "\n")) := by
    induction spans generalizing body with
    | nil => exact hbody.newline hsound.ended
    | cons span spans ih =>
      obtain ⟨line, hline⟩ : ∃ line, span.line = line ++ "\n" := ⟨_, rfl⟩
      have hspan := misses_line hsound hbody span
      rw [List.foldl_cons, hline, ← String.append_assoc]
      refine ih _ (hspan.of_infix ?_)
      have hend : (body ++ "\n" ++ line ++ "\n").toList =
          (body ++ "\n" ++ line).toList ++ "\n".toList := String.toList_append
      rw [hline, ← String.append_assoc, hend]
      exact (List.prefix_append _ _).isInfix
  have heq : "corr=" ++ trace.correlationId ++ " seq=" ++ toString trace.sequence =
      "corr=" ++ trace.correlationId ++ " " ++ ("seq=" ++ toString trace.sequence) := by
    apply String.toList_inj.mp
    simp
  rw [CausalTrace.redactedTimeline, heq]
  exact hfold trace.spans _ (h.space hsound.unspaced (hsound.unspoken _ (.sequence trace.sequence)))

end Timelines

/-! ## Runs that leak nothing -/

theorem dropCorrelations_suffix (correlations : Std.ExtTreeMap String CorrelationRef)
    (order : List String) : (dropCorrelations correlations order).2 <:+ order := by
  induction order generalizing correlations with
  | nil => exact List.suffix_rfl
  | cons oldest order ih =>
    rw [dropCorrelations]
    split
    case isTrue => exact (ih _).trans (List.suffix_cons oldest order)
    case isFalse => exact List.suffix_rfl

namespace SupportState

variable {redactor : SecretRedactor} {state : SupportState}

/-- What a state keeps of harmless steps. -/
structure Clean (redactor : SecretRedactor) (state : SupportState) : Prop where
  redactor_eq : state.boundary.redactor = redactor
  errors : ∀ text ∈ state.health.texts, UrlsBeginWords text
  correlations : ∀ id ∈ state.boundary.correlationOrder, redactor.Misses id
  traces : ∀ trace ∈ state.causalTraces.traces, redactor.Misses ("corr=" ++ trace.correlationId)
  audit : ∀ record ∈ state.boundary.audit, redactor.Misses record.decision

theorem mem_texts_set {health : AdapterHealth} {error : Option String} {port : AdapterPort}
    {text : String} (h : text ∈ (health.set error port).texts) :
    text ∈ error ∨ text ∈ health.texts := by
  cases port <;> simp only [AdapterHealth.set, AdapterHealth.texts, List.mem_append,
    Option.mem_toList] at h ⊢ <;> tauto

theorem Clean.step (h : state.Clean redactor) (hsound : redactor.Sound) {step : SupportStep}
    (hstep : redactor.Harmless step) : (state.step step).Clean redactor := by
  cases step with
  | admitted event =>
    refine ⟨h.redactor_eq, h.errors, fun id hid ↦ ?_, h.traces, h.audit⟩
    have hmem := (dropCorrelations_suffix _ _).subset hid
    rcases List.mem_append.mp hmem with hold | hnew
    · refine h.correlations id ?_
      split at hold
      case isTrue => exact List.mem_of_mem_filter hold
      case isFalse => exact hold
    · rw [List.mem_singleton.mp hnew]
      exact hstep
  | audited eventId category decision detail =>
    refine { h with audit := fun record hrecord ↦ ?_ }
    rcases List.mem_append.mp (List.mem_of_mem_drop hrecord) with hold | hnew
    · exact h.audit record hold
    · rw [List.mem_singleton.mp hnew, h.redactor_eq]
      exact SecretRedactor.misses_redact hsound.apart decision
  | adapter port error =>
    refine { h with errors := fun text htext ↦ ?_ }
    rcases mem_texts_set htext with hnew | hold
    · exact hstep text hnew
    · exact h.errors text hold
  | traced eventId correlationId spans =>
    refine { h with traces := fun trace htrace ↦ ?_ }
    rcases List.mem_append.mp (List.mem_of_mem_drop htrace) with hold | hnew
    · exact h.traces trace hold
    · rw [List.mem_singleton.mp hnew]
      exact hstep

theorem Clean.run (h : state.Clean redactor) (hsound : redactor.Sound) {steps : List SupportStep}
    (hsteps : ∀ step ∈ steps, redactor.Harmless step) :
    (machine.run state steps).Clean redactor := by
  induction steps generalizing state with
  | nil => exact h
  | cons step steps ih =>
    rw [Machine.run_cons]
    exact ih (h.step hsound (hsteps step List.mem_cons_self))
      fun later hlater ↦ hsteps later (List.mem_cons_of_mem step hlater)

/-- A health text of the bundle is a redacted and masked error. -/
theorem mem_texts_generate {maxTimelines maxAuditSummaries : Nat} {text : String}
    (h : text ∈ (state.generate maxTimelines maxAuditSummaries).health.texts) :
    ∃ error ∈ state.health.texts,
      text = redactAppText (state.boundary.redactor.redact error) := by
  simp only [generate, AdapterHealth.texts, List.mem_append, Option.mem_toList,
    Option.map_eq_some_iff] at h ⊢
  rcases h with (⟨error, herror, rfl⟩ | ⟨error, herror, rfl⟩) | ⟨error, herror, rfl⟩
  · exact ⟨error, .inl (.inl herror), rfl⟩
  · exact ⟨error, .inl (.inr herror), rfl⟩
  · exact ⟨error, .inr herror, rfl⟩

/-- A bundle of a clean state leaks nothing. -/
theorem Clean.generate (h : state.Clean redactor) (hsound : redactor.Sound)
    (maxTimelines maxAuditSummaries : Nat) :
    (state.generate maxTimelines maxAuditSummaries).Sealed redactor := by
  constructor
  case secrets =>
    intro text htext
    rcases List.mem_append.mp htext with htext | haudit
    · rcases List.mem_append.mp htext with htext | htimeline
      · rcases List.mem_append.mp htext with hhealth | hcorrelation
        · obtain ⟨error, -, rfl⟩ := mem_texts_generate hhealth
          rw [h.redactor_eq]
          exact hsound.misses_redactAppText (SecretRedactor.misses_redact hsound.apart error)
        · obtain ⟨entry, hentry, rfl⟩ := List.mem_map.mp hcorrelation
          obtain ⟨id, hid, hlookup⟩ := List.mem_filterMap.mp hentry
          obtain ⟨ref, -, rfl⟩ := Option.map_eq_some_iff.mp hlookup
          exact h.correlations id (List.mem_reverse.mp (List.mem_of_mem_take hid))
      · obtain ⟨id, -, hlookup⟩ := List.mem_filterMap.mp htimeline
        obtain ⟨trace, htrace, rfl⟩ := Option.map_eq_some_iff.mp hlookup
        have hmem := List.mem_reverse.mp (List.mem_of_find?_eq_some htrace)
        exact misses_redactedTimeline hsound (h.traces trace hmem)
    · obtain ⟨summary, hsummary, htext⟩ := List.mem_flatMap.mp haudit
      obtain ⟨record, hrecord, rfl⟩ := List.mem_map.mp hsummary
      have hmem := List.mem_reverse.mp (List.mem_of_mem_take (List.mem_reverse.mp hrecord))
      rcases List.mem_cons.mp htext with rfl | hdecision
      · exact hsound.unspoken _ (.category record.category)
      · rw [List.mem_singleton.mp hdecision]
        exact h.audit record hmem
  case urls =>
    intro text htext
    obtain ⟨error, herror, rfl⟩ := mem_texts_generate htext
    rw [h.redactor_eq]
    exact ((h.errors error herror).redact hsound.ended).masked

variable {config : SecurityRuntimeConfig} {schedulerConfig : SchedulerConfig}
  {boundary : SecurityBoundary}

theorem new_clean (hnew : SecurityBoundary.new config schedulerConfig redactor = .ok boundary)
    {maxTraces : Nat} (hpos : 0 < maxTraces) :
    (new boundary (.withRetention maxTraces hpos)).Clean redactor := by
  rw [SecurityBoundary.new] at hnew
  split at hnew
  case h_1 => cases hnew
  case h_2 hvalid =>
    cases hnew
    refine ⟨rfl, ?_, ?_, ?_, ?_⟩ <;> exact fun _ hmem ↦ absurd hmem List.not_mem_nil

/-- **A support bundle leaks nothing** after harmless steps: no text of it has a secret, and no
health text a URL. -/
theorem sealed_of_run (hsound : redactor.Sound)
    (hnew : SecurityBoundary.new config schedulerConfig redactor = .ok boundary)
    {maxTraces : Nat} (hpos : 0 < maxTraces) (steps : List SupportStep)
    (hsteps : ∀ step ∈ steps, redactor.Harmless step) (maxTimelines maxAuditSummaries : Nat) :
    ((machine.run (new boundary (.withRetention maxTraces hpos)) steps).generate maxTimelines
      maxAuditSummaries).Sealed redactor :=
  ((new_clean hnew hpos).run hsound hsteps).generate hsound maxTimelines maxAuditSummaries

/-! A secret that is no word of the program, in a boundary that is valid. -/

def hidden : SecretRedactor := .new ["XK-7"]

def hiddenBoundary : SecurityBoundary :=
  .opened SecurityBoundary.slowConfig .default hidden SecurityBoundary.slowConfig_valid

/-- A message with the secret as its correlation id. -/
def hiddenMessage : EventEnvelope :=
  { SecurityBoundary.chatMessage "viewer" with correlationId := "XK-7" }

/-- The bundle after some steps. -/
def bundleAfter (steps : List SupportStep) : SupportBundle :=
  (machine.run (new hiddenBoundary (.withRetention 1 Nat.one_pos)) steps).generate 1 1

theorem mem_hidden {secret : String} (h : secret ∈ hidden.secrets) : secret = "XK-7" := by
  have hsecrets : hidden.secrets = ["XK-7"] := by decide +kernel
  rw [hsecrets] at h
  exact List.mem_singleton.mp h

theorem not_mem_toString (n : Nat) : '-' ∉ (toString n).toList := by
  intro h
  have hdigit : '-'.isDigit = true := by
    refine Nat.isDigit_of_mem_toDigits (b := 10) (n := n) (by decide) (by decide) ?_
    rwa [← Nat.toList_repr]
  exact Bool.false_ne_true hdigit

/-- No word of the program has a hyphen. -/
theorem not_mem_spoken {text : String} (h : Spoken text) : '-' ∉ text.toList := by
  cases h with
  | redacted => decide +kernel
  | endpoint => decide +kernel
  | stage stage => cases stage <;> decide +kernel
  | outcome outcome => cases outcome <;> decide +kernel
  | reason reason => cases reason <;> decide +kernel
  | sequence n =>
    rw [String.toList_append, List.mem_append, not_or]
    exact ⟨by decide +kernel, not_mem_toString n⟩
  | duration n =>
    rw [String.toList_append, String.toList_append, List.mem_append, List.mem_append, not_or,
      not_or]
    exact ⟨⟨by decide +kernel, not_mem_toString n⟩, by decide⟩
  | category category => cases category <;> decide +kernel

theorem hidden_sound : hidden.Sound := by
  constructor
  case unspoken =>
    intro text htext secret hsecret hocc
    rw [mem_hidden hsecret] at hocc
    exact not_mem_spoken htext (hocc.subset (by decide))
  case unspaced =>
    intro secret hsecret
    rw [mem_hidden hsecret]
    decide
  case ended =>
    intro secret hsecret c hc
    rw [mem_hidden hsecret] at hc
    cases hc
    decide
  case apart =>
    intro secret hsecret
    rw [mem_hidden hsecret]
    have hmid : ¬"XK-7".toList <:+: "REDACTED".toList := by decide +kernel
    exact apart_of_delimited (by decide) (by decide) hmid

/-- An error that names an endpoint with the secret. -/
def routeError : String := "GET http://XK-7/ failed"

theorem routeError_urls : UrlsBeginWords routeError := by
  have hlower : ∀ t ∈ routeError.toList.tails, ∀ o ∈ t.inits,
      o.map Char.toLower ∈ urlSchemes.map String.toList → o ∈ urlSchemes.map String.toList := by
    decide +kernel
  have hfirst : ∀ t ∈ routeError.toList.tails, ∀ o ∈ t.inits,
      o.tail.map Char.toLower ∈ urlSchemes.map String.toList →
        o.head?.all isWhitespace = true := by
    decide +kernel
  constructor
  case lower =>
    rintro url ⟨scheme, hscheme, hspell⟩ hocc
    obtain ⟨t, hstart, htail⟩ := List.infix_iff_prefix_suffix.mp hocc
    have hmem := hlower t ((List.mem_tails _ _).mpr htail) url ((List.mem_inits _ _).mpr hstart)
      (hspell ▸ List.mem_map_of_mem hscheme)
    obtain ⟨other, hother, heq⟩ := List.mem_map.mp hmem
    exact ⟨other, hother, heq.symm⟩
  case first =>
    rintro url ⟨scheme, hscheme, hspell⟩ c hc hocc
    obtain ⟨t, hstart, htail⟩ := List.infix_iff_prefix_suffix.mp hocc
    have hspace := hfirst t ((List.mem_tails _ _).mpr htail) _ ((List.mem_inits _ _).mpr hstart)
      (hspell ▸ List.mem_map_of_mem hscheme)
    exact Bool.false_ne_true (hc.symm.trans hspace)

/-- An event and its trace, a decision and an adapter error with the secret in them. -/
theorem sealed_of_run_hidden :
    (bundleAfter [.admitted (SecurityBoundary.chatMessage "viewer"), .traced "chat-1" "chat-1" [],
      .audited none .ingress "refused XK-7" "", .adapter .audio (some routeError)]).Sealed
        hidden := by
  refine sealed_of_run hidden_sound (SecurityBoundary.new_eq SecurityBoundary.slowConfig_valid)
    Nat.one_pos _ ?_ 1 1
  rintro step hstep
  simp only [List.mem_cons, List.not_mem_nil, or_false] at hstep
  rcases hstep with rfl | rfl | rfl | rfl
  · intro secret hsecret
    rw [mem_hidden hsecret]
    decide +kernel
  · intro secret hsecret
    rw [mem_hidden hsecret]
    decide +kernel
  · trivial
  · rintro text htext
    cases htext
    exact routeError_urls

/-- An event with the secret as its correlation id, and an adapter error with a URL in
parentheses. -/
theorem bundle_leaks : (∀ text, Spoken text → hidden.Misses text) ∧
    SecurityBoundary.new SecurityBoundary.slowConfig .default hidden = .ok hiddenBoundary ∧
    ¬(bundleAfter [.admitted hiddenMessage]).Sealed hidden ∧
    ¬(bundleAfter [.adapter .audio (some "refused (http://10.0.0.1)")]).Sealed hidden := by
  refine ⟨hidden_sound.unspoken, SecurityBoundary.new_eq SecurityBoundary.slowConfig_valid, ?_, ?_⟩
  · intro h
    have hshown : "XK-7" ∈ (bundleAfter [.admitted hiddenMessage]).texts := by decide +kernel
    exact h.secrets _ hshown "XK-7" (by decide) List.infix_rfl
  · intro h
    have hshown : "refused (http://10.0.0.1)" ∈ (bundleAfter
        [.adapter .audio (some "refused (http://10.0.0.1)")]).health.texts := by decide +kernel
    have hscheme : "http://" ∈ urlSchemes := List.mem_cons_self
    refine h.urls _ hshown ⟨"http://".toList, ⟨_, hscheme, by decide⟩, by decide⟩

end SupportState

end Aivtuber
