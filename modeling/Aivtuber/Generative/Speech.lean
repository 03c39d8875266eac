import Aivtuber.Base.Greedy
import Aivtuber.Domain.Interfaces
import Aivtuber.Domain.Reflex

/-!
# Streamed speech

What a TTS backend is asked and what it answers with, `crates/domain/src/interfaces.rs`, and
`StreamingSpeechCollector` of `crates/generative/src/lib.rs`, which collects its progress.  A
backend pushes what it likes and need not look at the errors that it gets back: the collector
keeps a greedy selection of the chunks, and the artifact is compared with the last one kept.
-/

open Aivtuber.Check Aivtuber.Text

namespace Aivtuber

structure SpeechRequest where
  text : String
  style : Option String
deriving DecidableEq, Repr

structure SpeechArtifact where
  audioRef : String
  durationMs : Nat
  visemeRef : Option String
deriving DecidableEq, Repr

structure SpeechProgress where
  sequence : Nat
  audioRef : String
  durationMs : Nat
  visemeRef : Option String
  finalChunk : Bool
deriving DecidableEq, Repr

structure TtsBackendIdentity where
  backend : BackendIdentity
  voiceModel : Option String
  visemeMapping : Option String
deriving DecidableEq, Repr

structure StreamingSpeechCollector where
  progress : List SpeechProgress
deriving DecidableEq, Repr

namespace StreamingSpeechCollector

def default : StreamingSpeechCollector := ⟨[]⟩

/-- The checks of a chunk against the chunk before it. -/
def checkContinues (previous progress : SpeechProgress) : Except EngineError Unit := do
  ensure ⟨.invalidRequest, "streaming TTS sequence must be strictly increasing"⟩
    (previous.sequence < progress.sequence)
  ensure ⟨.invalidRequest, "streaming TTS must keep one stable audio_ref"⟩
    (progress.audioRef = previous.audioRef)
  ensure ⟨.invalidRequest, "streaming TTS duration must be monotonic"⟩
    (previous.durationMs ≤ progress.durationMs)
  ensure ⟨.invalidRequest, "streaming TTS emitted data after final_chunk"⟩ (!previous.finalChunk)

def checkPush (collector : StreamingSpeechCollector) (progress : SpeechProgress) :
    Except EngineError Unit := do
  ensure ⟨.invalidRequest, "streaming TTS progress requires audio_ref and positive duration_ms"⟩
    (!(isBlank progress.audioRef || progress.durationMs = 0))
  match collector.progress.getLast? with
  | some previous => checkContinues previous progress
  | none => .ok ()

def push (collector : StreamingSpeechCollector) (progress : SpeechProgress) :
    StreamingSpeechCollector × Except EngineError Unit :=
  match collector.checkPush progress with
  | .ok () => (⟨collector.progress ++ [progress]⟩, .ok ())
  | .error error => (collector, .error error)

/-- The collector once a backend has pushed its chunks. -/
def collect (pushed : List SpeechProgress) : StreamingSpeechCollector :=
  pushed.foldl (fun collector progress ↦ (collector.push progress).1) default

def validateFinal (collector : StreamingSpeechCollector) (artifact : SpeechArtifact) :
    Except EngineError Unit := do
  let finalProgress ← expect ⟨.backend, "streaming TTS returned no progress chunks"⟩
    collector.progress.getLast?
  ensure ⟨.backend, "streaming TTS completed without final_chunk"⟩ finalProgress.finalChunk
  ensure ⟨.backend, "streaming TTS final progress does not match final artifact"⟩
    (!(finalProgress.audioRef ≠ artifact.audioRef ||
      finalProgress.durationMs ≠ artifact.durationMs))

/-! ## What is kept -/

/-- A chunk that names its audio. -/
def named (progress : SpeechProgress) : Bool :=
  !isBlank progress.audioRef && 0 < progress.durationMs

/-- A chunk that goes on where another has stopped: later in the sequence, in the same audio,
no shorter, and not after the final one. -/
def continues (previous progress : SpeechProgress) : Bool :=
  previous.sequence < progress.sequence && progress.audioRef = previous.audioRef &&
    previous.durationMs ≤ progress.durationMs && !previous.finalChunk

theorem continues_iff {previous progress : SpeechProgress} :
    continues previous progress = true ↔
      previous.sequence < progress.sequence ∧ progress.audioRef = previous.audioRef ∧
        previous.durationMs ≤ progress.durationMs ∧ previous.finalChunk = false := by
  simp [continues, and_assoc]

theorem continues_trans (a b c : SpeechProgress) (hab : continues a b = true)
    (hbc : continues b c = true) : continues a c = true := by
  rw [continues_iff] at hab hbc ⊢
  obtain ⟨hsequence, hsame, hduration, hopen⟩ := hab
  obtain ⟨hsequence', hsame', hduration', -⟩ := hbc
  exact ⟨hsequence.trans hsequence', hsame'.trans hsame, hduration.trans hduration', hopen⟩

theorem checkContinues_eq_ok {previous progress : SpeechProgress} :
    checkContinues previous progress = .ok () ↔ continues previous progress = true := by
  rw [checkContinues, continues_iff]
  simp only [unit_bind_eq_ok, ensure_eq_ok, decide_eq_true_eq, Bool.not_eq_true']

theorem checkPush_eq_ok {collector : StreamingSpeechCollector} {progress : SpeechProgress} :
    collector.checkPush progress = .ok () ↔
      Greedy.Fits named continues collector.progress progress := by
  have hnamed : (!(isBlank progress.audioRef || decide (progress.durationMs = 0))) = true ↔
      named progress = true := by
    simp [named, Nat.pos_iff_ne_zero]
  rw [checkPush, unit_bind_eq_ok, ensure_eq_ok, hnamed, Greedy.Fits]
  cases collector.progress.getLast? with
  | none => simp
  | some previous => simp [checkContinues_eq_ok]

theorem push_progress (collector : StreamingSpeechCollector) (progress : SpeechProgress) :
    (collector.push progress).1.progress =
      Greedy.offer named continues collector.progress progress := by
  rw [push, Greedy.offer]
  cases hcheck : collector.checkPush progress with
  | ok _ => rw [if_pos (checkPush_eq_ok.mp hcheck)]
  | error error =>
    rw [if_neg]
    intro hfits
    rw [checkPush_eq_ok.mpr hfits] at hcheck
    cases hcheck

/-- The collector keeps a greedy selection of what is pushed. -/
theorem collect_progress (pushed : List SpeechProgress) :
    (collect pushed).progress = Greedy.keep named continues pushed := by
  induction pushed using List.reverseRecOn with
  | nil => rfl
  | append_singleton pushed progress ih =>
    rw [Greedy.keep_concat, ← ih, ← push_progress, collect, collect, List.foldl_append]
    rfl

theorem validateFinal_eq_ok {collector : StreamingSpeechCollector} {artifact : SpeechArtifact} :
    collector.validateFinal artifact = .ok () ↔
      ∃ last, collector.progress.getLast? = some last ∧ last.finalChunk = true ∧
        last.audioRef = artifact.audioRef ∧ last.durationMs = artifact.durationMs := by
  rw [validateFinal, expect_bind_eq_ok]
  refine exists_congr fun last ↦ and_congr_right fun _ ↦ ?_
  simp [unit_bind_eq_ok, ensure_eq_ok]

/-- What it means that a streamed artifact is sound: its chunks are numbered upwards and tell of
one audio that only grows, up to one final chunk, which is the artifact. -/
structure Streamed (chunks : List SpeechProgress) (artifact : SpeechArtifact) : Prop where
  audioRef : ∀ chunk ∈ chunks, chunk.audioRef = artifact.audioRef
  named : isBlank artifact.audioRef = false
  sequence : chunks.Pairwise fun a b ↦ a.sequence < b.sequence
  grows : chunks.Pairwise fun a b ↦ a.durationMs ≤ b.durationMs
  positive : ∀ chunk ∈ chunks, 0 < chunk.durationMs ∧ chunk.durationMs ≤ artifact.durationMs
  final : ∃ earlier last, chunks = earlier ++ [last] ∧ last.finalChunk = true ∧
    last.durationMs = artifact.durationMs ∧ ∀ chunk ∈ earlier, chunk.finalChunk = false

/-- An artifact is accepted exactly when it closes the chunks that were kept. -/
theorem validateFinal_collect {pushed : List SpeechProgress} {artifact : SpeechArtifact} :
    (collect pushed).validateFinal artifact = .ok () ↔
      Streamed (collect pushed).progress artifact := by
  obtain ⟨hnamed, hfollows⟩ := @Greedy.keep_ordered _ named _ continues_trans pushed
  rw [validateFinal_eq_ok, collect_progress]
  constructor
  · rintro ⟨last, hlast, hfinal, haudio, hduration⟩
    obtain ⟨earlier, hchunks⟩ := List.getLast?_eq_some_iff.mp hlast
    rw [hchunks] at hnamed hfollows ⊢
    have hearlier : ∀ chunk ∈ earlier, continues chunk last = true := by
      intro chunk hchunk
      exact (List.pairwise_append.mp hfollows).2.2 chunk hchunk last List.mem_cons_self
    have hlastNamed := hnamed last (by simp)
    rw [named, Bool.and_eq_true, Bool.not_eq_true', decide_eq_true_eq] at hlastNamed
    refine ⟨?_, ?_, ?_, ?_, ?_, ?_⟩
    · intro chunk hchunk
      rcases List.mem_append.mp hchunk with hchunk | hchunk
      · exact ((continues_iff.mp (hearlier chunk hchunk)).2.1.symm).trans haudio
      · rw [List.mem_singleton.mp hchunk]
        exact haudio
    · rw [← haudio]
      exact hlastNamed.1
    · exact hfollows.imp fun h ↦ (continues_iff.mp h).1
    · exact hfollows.imp fun h ↦ (continues_iff.mp h).2.2.1
    · intro chunk hchunk
      have hpositive := hnamed chunk hchunk
      rw [named, Bool.and_eq_true, decide_eq_true_eq] at hpositive
      refine ⟨hpositive.2, ?_⟩
      rcases List.mem_append.mp hchunk with hchunk | hchunk
      · exact (continues_iff.mp (hearlier chunk hchunk)).2.2.1.trans hduration.le
      · rw [List.mem_singleton.mp hchunk]
        exact hduration.le
    · exact ⟨earlier, last, rfl, hfinal, hduration, fun chunk hchunk ↦
        (continues_iff.mp (hearlier chunk hchunk)).2.2.2⟩
  · intro h
    obtain ⟨earlier, last, hchunks, hfinal, hduration, -⟩ := h.final
    refine ⟨last, ?_, hfinal, h.audioRef last ?_, hduration⟩
    · rw [hchunks, List.getLast?_concat]
    · rw [hchunks]
      simp

/-- **Streamed speech is sound, whatever the backend pushes.**  An accepted artifact closes the
chunks that were kept, a selection of those pushed; all of them are kept exactly when they are
in order by themselves, so that a backend that keeps to the protocol loses none. -/
theorem collect_streamed (pushed : List SpeechProgress) :
    (collect pushed).progress.Sublist pushed ∧
      ((collect pushed).progress = pushed ↔ Greedy.Ordered named continues pushed) ∧
      ∀ artifact, (collect pushed).validateFinal artifact = .ok () ↔
        Streamed (collect pushed).progress artifact := by
  refine ⟨?_, ?_, fun artifact ↦ validateFinal_collect⟩
  · rw [collect_progress]
    exact Greedy.keep_sublist pushed
  · rw [collect_progress]
    exact Greedy.keep_eq_self_iff continues_trans

end StreamingSpeechCollector

end Aivtuber
