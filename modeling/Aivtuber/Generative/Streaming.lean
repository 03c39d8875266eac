import Aivtuber.Generative.Compiler

/-!
# Streaming compilation

`StreamingCompilationSession` of `crates/generative/src/lib.rs`: text and speech arrive in
pieces, in any order, and the asset is compiled at the end.  What a session publishes is what the
compiler makes of the whole text and the last speech (`finalize_run`), so that it does not matter
how the text was cut; a session that is not complete, or was cancelled, publishes nothing.
-/

open Aivtuber.Check Aivtuber.Text

namespace Aivtuber

structure StreamingSpeechUpdate where
  audioRef : String
  durationMs : Nat
  visemeRef : Option String
  finalChunk : Bool
deriving DecidableEq, Repr

def StreamingSpeechUpdate.artifact (update : StreamingSpeechUpdate) : SpeechArtifact where
  audioRef := update.audioRef
  durationMs := update.durationMs
  visemeRef := update.visemeRef

structure StreamingCompilationSession where
  request : PipelineRequest
  thinking : BackendIdentity
  tts : TtsBackendIdentity
  replyText : String
  speech : Option SpeechArtifact
  speechFinal : Bool
  cancelled : Bool

namespace StreamingCompilationSession

def new (request : PipelineRequest) (thinking : BackendIdentity) (tts : TtsBackendIdentity) :
    StreamingCompilationSession where
  request
  thinking
  tts
  replyText := ""
  speech := none
  speechFinal := false
  cancelled := false

def ensureActive (session : StreamingCompilationSession) : Except GenerationError Unit :=
  if session.cancelled then .error ⟨"streaming compilation is already cancelled"⟩
  else if session.speechFinal then
    .error ⟨"streaming compilation already received its final speech chunk"⟩
  else .ok ()

/-- What arrives at a session. -/
inductive Input where
  | textChunk (chunk : String)
  | speechUpdate (update : StreamingSpeechUpdate)
  | cancel
deriving DecidableEq, Repr

def pushTextChunk (session : StreamingCompilationSession) (chunk : String) :
    Except GenerationError StreamingCompilationSession := do
  session.ensureActive
  pure { session with replyText := session.replyText ++ chunk }

def checkSpeech (existing : SpeechArtifact) (update : StreamingSpeechUpdate) :
    Except GenerationError Unit := do
  ensure ⟨"streaming speech updates must use one stable audio_ref"⟩
    (existing.audioRef = update.audioRef)
  ensure ⟨"streaming speech duration must be monotonic"⟩ (existing.durationMs ≤ update.durationMs)

def pushSpeechUpdate (session : StreamingCompilationSession) (update : StreamingSpeechUpdate) :
    Except GenerationError StreamingCompilationSession := do
  session.ensureActive
  ensure ⟨"streaming speech update requires audio_ref and positive duration_ms"⟩
    (!(isBlank update.audioRef || update.durationMs = 0))
  match session.speech with
  | some existing => checkSpeech existing update
  | none => .ok ()
  pure
    { session with
      speech := some update.artifact
      speechFinal := session.speechFinal || update.finalChunk }

def cancel (session : StreamingCompilationSession) : StreamingCompilationSession :=
  { session with cancelled := true }

def perform (session : StreamingCompilationSession) :
    Input → Except GenerationError StreamingCompilationSession
  | .textChunk chunk => session.pushTextChunk chunk
  | .speechUpdate update => session.pushSpeechUpdate update
  | .cancel => .ok session.cancel

/-- An input that is refused leaves the session as it is. -/
def next (session : StreamingCompilationSession) (input : Input) : StreamingCompilationSession :=
  match session.perform input with
  | .ok session' => session'
  | .error _ => session

def run (session : StreamingCompilationSession) (inputs : List Input) :
    StreamingCompilationSession :=
  inputs.foldl next session

def finalize (session : StreamingCompilationSession) (compiler : PerformanceCompiler) :
    Except GenerationError PerformanceAsset := do
  ensure ⟨"streaming compilation was cancelled before publish"⟩ (!session.cancelled)
  ensure ⟨"streaming speech is incomplete; final chunk was not received"⟩ session.speechFinal
  let speech ← expect ⟨"streaming speech produced no artifact"⟩ session.speech
  compiler.compile session.request session.replyText speech session.thinking session.tts

/-! ## What a session has taken -/

/-- The inputs that the session takes, of those that arrive. -/
def taken (session : StreamingCompilationSession) : List Input → List Input
  | [] => []
  | input :: inputs =>
    match session.perform input with
    | .ok session' => input :: session'.taken inputs
    | .error _ => session.taken inputs

/-- The text of the chunks, one after the other. -/
def textOf (inputs : List Input) : String :=
  String.join (inputs.filterMap fun
    | .textChunk chunk => some chunk
    | .speechUpdate _ | .cancel => none)

/-- The speech of the updates, in order. -/
def updatesOf (inputs : List Input) : List StreamingSpeechUpdate :=
  inputs.filterMap fun
    | .speechUpdate update => some update
    | .textChunk _ | .cancel => none

@[simp] theorem textOf_concat_text (inputs : List Input) (chunk : String) :
    textOf (inputs ++ [.textChunk chunk]) = textOf inputs ++ chunk := by
  simp [textOf, String.join_append]

@[simp] theorem textOf_concat_speech (inputs : List Input) (update : StreamingSpeechUpdate) :
    textOf (inputs ++ [.speechUpdate update]) = textOf inputs := by
  simp [textOf]

@[simp] theorem textOf_concat_cancel (inputs : List Input) :
    textOf (inputs ++ [.cancel]) = textOf inputs := by
  simp [textOf]

@[simp] theorem updatesOf_concat_text (inputs : List Input) (chunk : String) :
    updatesOf (inputs ++ [.textChunk chunk]) = updatesOf inputs := by
  simp [updatesOf]

@[simp] theorem updatesOf_concat_speech (inputs : List Input) (update : StreamingSpeechUpdate) :
    updatesOf (inputs ++ [.speechUpdate update]) = updatesOf inputs ++ [update] := by
  simp [updatesOf]

@[simp] theorem updatesOf_concat_cancel (inputs : List Input) :
    updatesOf (inputs ++ [.cancel]) = updatesOf inputs := by
  simp [updatesOf]

/-- An update that names its audio. -/
def named (update : StreamingSpeechUpdate) : Bool :=
  !isBlank update.audioRef && 0 < update.durationMs

/-- An update that goes on with the same audio, no shorter, after one that is not final. -/
def continues (previous update : StreamingSpeechUpdate) : Bool :=
  previous.audioRef = update.audioRef && previous.durationMs ≤ update.durationMs &&
    !previous.finalChunk

theorem continues_iff {previous update : StreamingSpeechUpdate} :
    continues previous update = true ↔
      previous.audioRef = update.audioRef ∧ previous.durationMs ≤ update.durationMs ∧
        previous.finalChunk = false := by
  simp [continues, and_assoc]

theorem continues_trans (a b c : StreamingSpeechUpdate) (hab : continues a b = true)
    (hbc : continues b c = true) : continues a c = true := by
  rw [continues_iff] at hab hbc ⊢
  obtain ⟨hsame, hduration, hopen⟩ := hab
  obtain ⟨hsame', hduration', -⟩ := hbc
  exact ⟨hsame.trans hsame', hduration.trans hduration', hopen⟩

/-- The session is what it has taken, since it was new. -/
structure Reflects (start session : StreamingCompilationSession) (taken : List Input) : Prop where
  request : session.request = start.request
  thinking : session.thinking = start.thinking
  tts : session.tts = start.tts
  text : session.replyText = textOf taken
  speech : session.speech = (updatesOf taken).getLast?.map StreamingSpeechUpdate.artifact
  final : session.speechFinal = (updatesOf taken).any (·.finalChunk)
  cancelled : session.cancelled = true ↔ .cancel ∈ taken
  ordered : Greedy.Ordered named continues (updatesOf taken)
  /-- Nothing but a cancellation comes after the final speech. -/
  closed : session.speechFinal = true → .cancel ∉ taken →
    ∃ earlier update, taken = earlier ++ [.speechUpdate update] ∧ update.finalChunk = true

variable {start session session' : StreamingCompilationSession} {inputs taken : List Input}
  {input : Input}

theorem ensureActive_eq_ok :
    session.ensureActive = .ok () ↔ session.cancelled = false ∧ session.speechFinal = false := by
  rw [ensureActive]
  cases session.cancelled <;> cases session.speechFinal <;> simp

theorem pushTextChunk_eq_ok {chunk : String} :
    session.pushTextChunk chunk = .ok session' ↔
      (session.cancelled = false ∧ session.speechFinal = false) ∧
        session' = { session with replyText := session.replyText ++ chunk } := by
  rw [pushTextChunk, unit_bind_eq_ok, ensureActive_eq_ok]
  exact and_congr_right fun _ ↦ ⟨fun h ↦ (Except.ok.inj h).symm, fun h ↦ congrArg _ h.symm⟩

theorem pushSpeechUpdate_eq_ok {update : StreamingSpeechUpdate} :
    session.pushSpeechUpdate update = .ok session' ↔
      (session.cancelled = false ∧ session.speechFinal = false) ∧ named update = true ∧
        (∀ existing ∈ session.speech, existing.audioRef = update.audioRef ∧
          existing.durationMs ≤ update.durationMs) ∧
        session' =
          { session with
            speech := some update.artifact
            speechFinal := session.speechFinal || update.finalChunk } := by
  have hnamed : (!(isBlank update.audioRef || decide (update.durationMs = 0))) = true ↔
      named update = true := by
    simp [named, Nat.pos_iff_ne_zero]
  rw [pushSpeechUpdate, unit_bind_eq_ok, unit_bind_eq_ok, ensureActive_eq_ok, ensure_eq_ok, hnamed]
  refine and_congr_right fun _ ↦ and_congr_right fun _ ↦ ?_
  cases session.speech with
  | none =>
    simp only [Option.not_mem_none, false_implies, implies_true, true_and]
    exact ⟨fun h ↦ (Except.ok.inj h).symm, fun h ↦ congrArg _ h.symm⟩
  | some existing =>
    simp only [checkSpeech, unit_bind_eq_ok, ensure_eq_ok, decide_eq_true_eq, Option.mem_some,
      forall_eq', pure, Except.pure, Except.ok.injEq]
    exact and_congr_right fun _ ↦ eq_comm

theorem Reflects.new (request : PipelineRequest) (thinking : BackendIdentity)
    (tts : TtsBackendIdentity) :
    Reflects (new request thinking tts) (new request thinking tts) [] where
  request := rfl
  thinking := rfl
  tts := rfl
  text := rfl
  speech := rfl
  final := rfl
  cancelled := by simp [StreamingCompilationSession.new]
  ordered := Greedy.Ordered.nil
  closed := by simp [StreamingCompilationSession.new]

theorem Reflects.textChunk (h : Reflects start session taken) {chunk : String}
    (hpush : session.pushTextChunk chunk = .ok session') :
    Reflects start session' (taken ++ [.textChunk chunk]) := by
  obtain ⟨⟨-, hopen⟩, rfl⟩ := pushTextChunk_eq_ok.mp hpush
  refine ⟨h.request, h.thinking, h.tts, ?_, ?_, ?_, ?_, ?_, ?_⟩
  · rw [textOf_concat_text, ← h.text]
  · rw [updatesOf_concat_text]
    exact h.speech
  · rw [updatesOf_concat_text]
    exact h.final
  · simpa using h.cancelled
  · rw [updatesOf_concat_text]
    exact h.ordered
  · intro hfinal
    exact absurd (hopen.symm.trans hfinal) Bool.false_ne_true

theorem Reflects.speechUpdate (h : Reflects start session taken) {update : StreamingSpeechUpdate}
    (hpush : session.pushSpeechUpdate update = .ok session') :
    Reflects start session' (taken ++ [.speechUpdate update]) := by
  obtain ⟨⟨-, hopen⟩, hnamed, hsame, rfl⟩ := pushSpeechUpdate_eq_ok.mp hpush
  refine ⟨h.request, h.thinking, h.tts, ?_, ?_, ?_, ?_, ?_, ?_⟩
  · rw [textOf_concat_speech]
    exact h.text
  · rw [updatesOf_concat_speech, List.getLast?_concat]
    rfl
  · rw [updatesOf_concat_speech, List.any_append, ← h.final]
    simp
  · simpa using h.cancelled
  · rw [updatesOf_concat_speech]
    refine h.ordered.concat continues_trans ⟨hnamed, ?_⟩
    intro previous hprevious
    have hexisting : previous.artifact ∈ session.speech := by
      rw [h.speech, Option.mem_def, Option.mem_def.mp hprevious]
      rfl
    obtain ⟨haudio, hduration⟩ := hsame _ hexisting
    refine continues_iff.mpr ⟨haudio, hduration, ?_⟩
    rw [h.final, List.any_eq_false] at hopen
    exact Bool.eq_false_iff.mpr (hopen previous (List.mem_of_getLast? hprevious))
  · intro hfinal _
    refine ⟨taken, update, rfl, ?_⟩
    rw [hopen, Bool.false_or] at hfinal
    exact hfinal

theorem Reflects.cancel (h : Reflects start session taken) :
    Reflects start session.cancel (taken ++ [.cancel]) := by
  refine ⟨h.request, h.thinking, h.tts, ?_, ?_, ?_, ?_, ?_, ?_⟩
  · rw [textOf_concat_cancel]
    exact h.text
  · rw [updatesOf_concat_cancel]
    exact h.speech
  · rw [updatesOf_concat_cancel]
    exact h.final
  · exact iff_of_true rfl (by simp)
  · rw [updatesOf_concat_cancel]
    exact h.ordered
  · intro _ hcancel
    exact absurd (by simp) hcancel

/-- **A step.**  An input that is taken is added to what was taken. -/
theorem Reflects.perform (h : Reflects start session taken)
    (hperform : session.perform input = .ok session') :
    Reflects start session' (taken ++ [input]) := by
  cases input with
  | textChunk chunk => exact h.textChunk hperform
  | speechUpdate update => exact h.speechUpdate hperform
  | cancel =>
    rw [← Except.ok.inj hperform]
    exact h.cancel

/-- **A run.**  The session stays what it has taken. -/
theorem Reflects.run (h : Reflects start session taken) (inputs : List Input) :
    Reflects start (session.run inputs) (taken ++ session.taken inputs) := by
  induction inputs generalizing session taken with
  | nil => simpa [StreamingCompilationSession.run, StreamingCompilationSession.taken] using h
  | cons input inputs ih =>
    rw [StreamingCompilationSession.run, List.foldl_cons, StreamingCompilationSession.taken]
    cases hperform : session.perform input with
    | ok session' =>
      have hnext : session.next input = session' := by rw [next, hperform]
      have hrun := ih (h.perform hperform)
      rw [List.append_assoc] at hrun
      rw [hnext]
      exact hrun
    | error error =>
      have hnext : session.next input = session := by rw [next, hperform]
      rw [hnext]
      exact ih h

theorem cancel_mem_taken (session : StreamingCompilationSession) (inputs : List Input) :
    .cancel ∈ session.taken inputs ↔ .cancel ∈ inputs := by
  induction inputs generalizing session with
  | nil => rfl
  | cons input inputs ih =>
    rw [taken]
    cases hperform : session.perform input with
    | ok session' => simp [ih]
    | error error =>
      have hne : Input.cancel ≠ input := by
        rintro rfl
        cases hperform
      simp [ih, hne]

theorem finalize_eq_ok {compiler : PerformanceCompiler} {asset : PerformanceAsset} :
    session.finalize compiler = .ok asset ↔
      session.cancelled = false ∧ session.speechFinal = true ∧
        ∃ speech, session.speech = some speech ∧
          compiler.compile session.request session.replyText speech session.thinking session.tts =
            .ok asset := by
  rw [finalize, unit_bind_eq_ok, unit_bind_eq_ok, expect_bind_eq_ok, ensure_eq_ok, ensure_eq_ok,
    Bool.not_eq_true']

/-- **Streaming agrees with compiling the whole.**  Whatever arrives, in whatever pieces and
order: the session publishes an asset exactly when it was never cancelled, the last input that it
took is a final speech update, and the asset is the compilation of the whole text that it took
with that speech.  The updates that it took tell of one audio that only grows, and no other
one is final. -/
theorem finalize_run (request : PipelineRequest) (thinking : BackendIdentity)
    (tts : TtsBackendIdentity) (inputs : List Input) (compiler : PerformanceCompiler)
    (asset : PerformanceAsset) :
    (((new request thinking tts).run inputs).finalize compiler = .ok asset ↔
      .cancel ∉ inputs ∧ ∃ earlier update,
        (new request thinking tts).taken inputs = earlier ++ [.speechUpdate update] ∧
          update.finalChunk = true ∧
          compiler.compile request (textOf ((new request thinking tts).taken inputs))
            update.artifact thinking tts = .ok asset) ∧
      Greedy.Ordered named continues (updatesOf ((new request thinking tts).taken inputs)) := by
  have h : Reflects (new request thinking tts) ((new request thinking tts).run inputs)
      ((new request thinking tts).taken inputs) := by
    simpa using (Reflects.new request thinking tts).run inputs
  refine ⟨?_, h.ordered⟩
  rw [finalize_eq_ok, ← cancel_mem_taken (new request thinking tts) inputs, ← Bool.not_eq_true,
    h.cancelled, h.request, h.thinking, h.tts, h.text]
  refine and_congr_right fun hcancel ↦ ?_
  constructor
  · rintro ⟨hfinal, speech, hspeech, hcompile⟩
    obtain ⟨earlier, update, htaken, hlast⟩ := h.closed hfinal hcancel
    refine ⟨earlier, update, htaken, hlast, ?_⟩
    rw [h.speech, htaken, updatesOf_concat_speech, List.getLast?_concat] at hspeech
    rw [← Option.some.inj hspeech] at hcompile
    exact hcompile
  · rintro ⟨earlier, update, htaken, hlast, hcompile⟩
    refine ⟨?_, update.artifact, ?_, hcompile⟩
    · rw [h.final, htaken, updatesOf_concat_speech, List.any_append]
      simp [hlast]
    · rw [h.speech, htaken, updatesOf_concat_speech, List.getLast?_concat]
      rfl

end StreamingCompilationSession

end Aivtuber
