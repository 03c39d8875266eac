import Mathlib.Algebra.Order.Group.Nat
import Mathlib.Data.Finset.Card
import Mathlib.Order.Interval.Finset.Nat
import Aivtuber.Domain.ScenarioTrace

/-!
# The actors of a trace

A phase names as many viewers as it declares, as far as its fresh events reach, and no viewer of
another phase (`actorsInPhases`).  How often a viewer repeats decides who an event names and
nothing else of it: the draws of an event do not depend on the choice of its viewer
(`generateScenarioTrace_erase`).
-/

open Aivtuber.Check
open Saturating (u64Max)

namespace Aivtuber

/-! ## Repeats and the rest of an event -/

/-- An event without the viewer it names. -/
def ScenarioEvent.erase (entry : ScenarioEvent) : ScenarioEvent :=
  { entry with event := { entry.event with actorId := none } }

/-- The phase with another share of repeated viewers. -/
def ScenarioPhase.withRepeats (phase : ScenarioPhase) (probability : Float64) : ScenarioPhase :=
  { phase with repeatViewerProbability := probability }

/-- Two scenarios that differ at most in how often their viewers repeat. -/
def SameButRepeats (scenario scenario' : StreamScenario) : Prop :=
  scenario' = { scenario with phases := scenario'.phases } ∧
    List.Forall₂ (fun phase phase' : ScenarioPhase ↦
      phase' = phase.withRepeats phase'.repeatViewerProbability) scenario.phases scenario'.phases

section Repeats

variable {arith : FloatArith} {scenario : StreamScenario} {phase : ScenarioPhase}
  {stretch : Stretch}

/-- Two states of a phase that differ at most in their viewers. -/
structure SameDraws (stretch : Stretch) (state state' : PhaseState) : Prop where
  rng : state.rng = state'.rng
  sequence : state.sequence = state'.sequence
  next : state.nextActor ≤ stretch.actorEnd
  next' : state'.nextActor ≤ stretch.actorEnd

/-- Both fail alike, or both succeed with related results. -/
def Alike {α : Type} (R : α → α → Prop) (x y : Except GenerationFault α) : Prop :=
  (∃ fault, x = .error fault ∧ y = .error fault) ∨ ∃ a b, x = .ok a ∧ y = .ok b ∧ R a b

theorem Alike.bind {α β : Type} {R : α → α → Prop} {S : β → β → Prop}
    {x y : Except GenerationFault α} {f g : α → Except GenerationFault β} (h : Alike R x y)
    (hfg : ∀ a b, R a b → Alike S (f a) (g b)) : Alike S (x >>= f) (y >>= g) := by
  rcases h with ⟨fault, rfl, rfl⟩ | ⟨a, b, rfl, rfl, hab⟩
  · exact Or.inl ⟨fault, rfl, rfl⟩
  · exact hfg a b hab

theorem Alike.bind_same {α β : Type} {S : β → β → Prop} (x : Except GenerationFault α)
    {f g : α → Except GenerationFault β} (hfg : ∀ a, x = .ok a → Alike S (f a) (g a)) :
    Alike S (x >>= f) (x >>= g) := by
  cases x with
  | error fault => exact Or.inl ⟨fault, rfl, rfl⟩
  | ok a => exact hfg a rfl

theorem Alike.pure {α : Type} {R : α → α → Prop} {a b : α} (h : R a b) :
    Alike R (.ok a) (.ok b) := Or.inr ⟨a, b, rfl, rfl, h⟩

theorem Alike.map_eq {α β : Type} {f : α → β} {x y : Except GenerationFault α}
    (h : Alike (fun a b ↦ f a = f b) x y) : x.map f = y.map f := by
  rcases h with ⟨fault, rfl, rfl⟩ | ⟨a, b, rfl, rfl, hab⟩
  · rfl
  · exact congrArg Except.ok hab

/-- The choice of a viewer succeeds on both sides. -/
theorem chooseActor_alike {quota : Nat} (h : stretch.InRange phase)
    (h' : { stretch with quota }.InRange phase) {ordinal : Nat} (hordinal : ordinal < stretch.count)
    (sampled : Nat) {state state' : PhaseState} (hsame : SameDraws stretch state state') :
    Alike (fun chosen chosen' ↦ chosen.2 ≤ stretch.actorEnd ∧ chosen'.2 ≤ stretch.actorEnd)
      (chooseActor stretch ordinal sampled state)
      (chooseActor { stretch with quota } ordinal sampled state') := by
  obtain ⟨actor, next, hchoose, hle⟩ := exists_chooseActor h hordinal sampled hsame.next
  obtain ⟨actor', next', hchoose', hle'⟩ := exists_chooseActor h' hordinal sampled hsame.next'
  rw [hchoose, hchoose']
  exact .pure ⟨hle, hle'⟩

/-- **An event differs at most in its viewer**, and leaves the generator in one state. -/
theorem generateEvent_alike {quota : Nat} (probability : Float64) (phases : List ScenarioPhase)
    (h : stretch.InRange phase) (h' : { stretch with quota }.InRange phase)
    {ordinal base : Nat} {next : Option Nat} (hordinal : ordinal < stretch.count)
    {state state' : PhaseState} (hsame : SameDraws stretch state state') :
    Alike (fun result result' ↦ result.1.erase = result'.1.erase ∧
        SameDraws stretch result.2 result'.2 ∧ result.2.sequence = state.sequence + 1)
      (generateEvent arith scenario phase stretch ordinal base next state)
      (generateEvent arith { scenario with phases } (phase.withRepeats probability)
        { stretch with quota } ordinal base next state') := by
  rw [generateEvent, generateEvent, ← hsame.rng, ← hsame.sequence]
  refine .bind_same _ fun draws _ ↦ .bind_same _ fun kind _ ↦ .bind_same _ fun band _ ↦
    .bind_same _ fun priority _ ↦ .bind_same _ fun offset _ ↦ .bind_same _ fun sequence hsequence ↦
      .bind_same _ fun sampled _ ↦ .bind (chooseActor_alike h h' hordinal sampled hsame) ?_
  rintro ⟨actor, following⟩ ⟨actor', following'⟩ ⟨hle, hle'⟩
  refine .bind_same _ fun origin _ ↦ .bind_same _ fun instant _ ↦ .pure ⟨rfl, ?_, ?_⟩
  · exact ⟨rfl, rfl, hle, hle'⟩
  · exact (fits_eq_ok.mp hsequence).2

theorem generateEvents_alike {quota : Nat} (probability : Float64) (phases : List ScenarioPhase)
    (h : stretch.InRange phase) (h' : { stretch with quota }.InRange phase)
    {ordinal : Nat} {bases : List Nat} (hcount : ordinal + bases.length ≤ stretch.count)
    {state state' : PhaseState} (hsame : SameDraws stretch state state') :
    Alike (fun result result' ↦
        result.1.map ScenarioEvent.erase = result'.1.map ScenarioEvent.erase ∧
          SameDraws stretch result.2 result'.2 ∧
          result.2.sequence = state.sequence + bases.length)
      (generateEvents arith scenario phase stretch ordinal bases state)
      (generateEvents arith { scenario with phases } (phase.withRepeats probability)
        { stretch with quota } ordinal bases state') := by
  induction bases generalizing ordinal state state' with
  | nil => exact .pure ⟨rfl, hsame, rfl⟩
  | cons base bases ih =>
    rw [List.length_cons] at hcount
    rw [generateEvents, generateEvents]
    refine .bind (generateEvent_alike probability phases h h' (by omega) hsame) ?_
    rintro ⟨entry, next⟩ ⟨entry', next'⟩ ⟨hentry, hnext, hsequence⟩
    refine .bind (ih (by omega) hnext) ?_
    rintro ⟨rest, last⟩ ⟨rest', last'⟩ ⟨hrest, hlast, hend⟩
    refine .pure ⟨?_, hlast, ?_⟩
    · rw [List.map_cons, List.map_cons, hentry, hrest]
    · rw [hend, hsequence, List.length_cons]
      omega

theorem length_of_baseOffsets {durationMs count : Nat} {bases : List Nat}
    (h : baseOffsets durationMs count = .ok bases) : bases.length = count := by
  rw [baseOffsets] at h
  have hlength := (List.length_range (n := count)).symm
  generalize List.range count = ordinals at h hlength
  rw [hlength]
  clear hlength
  induction ordinals generalizing bases with
  | nil =>
    cases h
    rfl
  | cons ordinal ordinals ih =>
    rw [List.mapM_cons, bind_eq_ok] at h
    obtain ⟨base, -, h⟩ := h
    rw [bind_eq_ok] at h
    obtain ⟨rest, hrest, h⟩ := h
    cases h
    rw [List.length_cons, List.length_cons, ih hrest]

theorem repeatQuota_le (arith : FloatArith) (count : Nat) (probability : Float64) :
    repeatQuota arith count probability ≤ count :=
  (Nat.min_le_right _ _).trans (Nat.sub_le count 1)

/-- A phase in range differs at most in its viewers, and leaves the next one the same state. -/
theorem generatePhase_alike {startMs index count : Nat} (probability : Float64)
    (phases : List ScenarioPhase) {state : StreamState} (hcount : phase.eventCount arith = .ok count)
    (htotal : state.sequence + count ≤ maxTraceEvents)
    (hactors : state.actorBase + phase.distinctActors.toNat ≤ u32Max) :
    Alike (fun result result' ↦
        result.1.map ScenarioEvent.erase = result'.1.map ScenarioEvent.erase ∧
          result.2 = result'.2 ∧
          result.2 = { sequence := state.sequence + count
                       phaseStartMs := state.phaseStartMs + phase.durationMs
                       actorBase := state.actorBase + phase.distinctActors.toNat })
      (generatePhase arith scenario startMs index phase state)
      (generatePhase arith { scenario with phases } startMs index (phase.withRepeats probability)
        state) := by
  have hend : checkedActorNamespaceEnd scenario.scenarioId index phase state.actorBase =
      .ok (state.actorBase + phase.distinctActors.toNat) :=
    checkedActorNamespaceEnd_eq_ok.mpr ⟨hactors, rfl⟩
  have hcount' : (phase.withRepeats probability).eventCount arith = .ok count := hcount
  have hend' : checkedActorNamespaceEnd scenario.scenarioId index (phase.withRepeats probability)
      state.actorBase = .ok (state.actorBase + phase.distinctActors.toNat) := hend
  have hle : count ≤ maxTraceEvents := (Nat.le_add_left count state.sequence).trans htotal
  rw [generatePhase, generatePhase, hcount, hcount', hend, hend']
  -- The counts and the actor ids are those of both phases.
  refine .bind (R := fun n n' ↦ n = count ∧ n' = count) (.pure ⟨rfl, rfl⟩) ?_
  rintro _ _ ⟨rfl, rfl⟩
  refine .bind (R := fun n n' ↦ n = _ ∧ n' = _) (.pure ⟨rfl, rfl⟩) ?_
  rintro _ _ ⟨rfl, rfl⟩
  refine .bind_same _ fun bases hbases ↦ ?_
  have hlength := length_of_baseOffsets hbases
  refine .bind (generateEvents_alike probability phases ⟨rfl, hactors, hle, repeatQuota_le _ _ _⟩
    ⟨rfl, hactors, hle, repeatQuota_le _ _ _⟩ (by rw [hlength, Nat.zero_add])
    ⟨rfl, rfl, Nat.le_add_right _ _, Nat.le_add_right _ _⟩) ?_
  rintro ⟨events, last⟩ ⟨events', last'⟩ ⟨hevents, hlast, hsequence⟩
  refine .bind_same _ fun phaseStartMs hstart ↦ .pure ⟨hevents, ?_, ?_⟩
  · rw [hlast.sequence]
  · rw [hsequence, hlength, (fits_eq_ok.mp hstart).2]

theorem generatePhases_alike {startMs index : Nat} (phases : List ScenarioPhase)
    {left right : List ScenarioPhase} {state : StreamState}
    (hranged : Ranged arith left state.sequence state.phaseStartMs state.actorBase)
    (hsame : List.Forall₂ (fun phase phase' : ScenarioPhase ↦
      phase' = phase.withRepeats phase'.repeatViewerProbability) left right) :
    Alike (fun trace trace' ↦ trace.map ScenarioEvent.erase = trace'.map ScenarioEvent.erase)
      (generatePhases arith scenario startMs index left state)
      (generatePhases arith { scenario with phases } startMs index right state) := by
  induction hsame generalizing index state with
  | nil => exact .pure rfl
  | @cons phase phase' left right hphase _ ih =>
    obtain ⟨count, hcount, -, htotal, -, hactors, hrest⟩ := hranged
    rw [hphase, generatePhases, generatePhases]
    refine .bind (generatePhase_alike _ phases hcount htotal hactors) ?_
    rintro ⟨events, next⟩ ⟨events', next'⟩ ⟨hevents, rfl, rfl⟩
    refine .bind (ih hrest) ?_
    rintro trace trace' htrace
    refine .pure ?_
    rw [List.map_append, List.map_append, hevents, htrace]

end Repeats

/-- **How often viewers repeat decides nothing but the viewers**: the traces agree event by event
in everything else, or neither comes about. -/
theorem generateScenarioTrace_erase {arith : FloatArith} {scenario scenario' : StreamScenario}
    (h : scenario.validate arith = .ok ()) (h' : scenario'.validate arith = .ok ())
    (hsame : SameButRepeats scenario scenario') :
    (generateScenarioTrace arith scenario).map (List.map ScenarioEvent.erase) =
      (generateScenarioTrace arith scenario').map (List.map ScenarioEvent.erase) := by
  obtain ⟨hrest, hphases⟩ := hsame
  obtain ⟨hranged, -, startMs, hstart⟩ := validate_ranged h
  have hstart' : parseLogicalStart scenario'.logicalStart = .ok startMs := by
    rw [hrest]
    exact hstart
  rw [generateScenarioTrace_eq h hstart, generateScenarioTrace_eq h' hstart']
  apply Alike.map_eq
  have halike : Alike _
      (generatePhases arith scenario startMs 0 scenario.phases
        { sequence := 0, phaseStartMs := 0, actorBase := 0 })
      (generatePhases arith { scenario with phases := scenario'.phases } startMs 0 scenario'.phases
        { sequence := 0, phaseStartMs := 0, actorBase := 0 }) :=
    generatePhases_alike scenario'.phases hranged hphases
  rwa [← hrest] at halike

/-- The chat with every other message from the viewer before. -/
def repeatingChat : StreamScenario :=
  { chatScenario "2026-01-31T12:00:00Z" with
    phases := [chatPhase.withRepeats (.finite (1 / 2))] }

theorem generateScenarioTrace_erase_chat :
    (generateScenarioTrace exactArith (chatScenario "2026-01-31T12:00:00Z")).map
        (List.map ScenarioEvent.erase) =
      (generateScenarioTrace exactArith repeatingChat).map (List.map ScenarioEvent.erase) :=
  generateScenarioTrace_erase (by decide +kernel) (by decide +kernel) ⟨rfl, .cons rfl .nil⟩

/-! ## Repeated slots -/

/-- Whether the slot of an event repeats the viewer before. -/
def repeatSlot (ordinal count quota : Nat) : Bool :=
  (repeatsAt ordinal count quota).toOption == some true

theorem repeatsAt_eq {ordinal count quota : Nat} (h : (ordinal + 1) * quota < 2 ^ 64) :
    repeatsAt ordinal count quota =
      .ok (decide (ordinal * quota / count < (ordinal + 1) * quota / count)) := by
  rw [repeatsAt]
  split
  case isTrue hnone =>
    rcases hnone with rfl | rfl
    · rw [Nat.mul_zero, Nat.mul_zero, decide_eq_false (lt_irrefl _)]
      rfl
    · rw [Nat.div_zero, Nat.div_zero, decide_eq_false (lt_irrefl _)]
      rfl
  case isFalse => exact bind_eq_ok.mpr ⟨_, fits_eq_ok.mpr ⟨h, rfl⟩, rfl⟩

theorem repeatSlot_eq {ordinal count quota : Nat} (h : (ordinal + 1) * quota < 2 ^ 64) :
    repeatSlot ordinal count quota =
      decide (ordinal * quota / count < (ordinal + 1) * quota / count) := by
  rw [repeatSlot, repeatsAt_eq h]
  cases decide (ordinal * quota / count < (ordinal + 1) * quota / count) <;> rfl

/-- The quotient grows by one in a repeated slot, and not in another one. -/
theorem quotient_succ {ordinal count quota : Nat} (h : quota ≤ count) :
    (ordinal + 1) * quota / count = ordinal * quota / count +
      if ordinal * quota / count < (ordinal + 1) * quota / count then 1 else 0 := by
  have hle : ordinal * quota / count ≤ (ordinal + 1) * quota / count :=
    Nat.div_le_div_right (Nat.mul_le_mul_right quota (Nat.le_succ ordinal))
  have hstep : (ordinal + 1) * quota / count ≤ ordinal * quota / count + 1 := by
    rcases Nat.eq_zero_or_pos count with rfl | hpos
    · rw [Nat.div_zero]
      exact Nat.zero_le _
    · rw [← Nat.add_div_right _ hpos, Nat.succ_mul]
      exact Nat.div_le_div_right (Nat.add_le_add_left h _)
  split <;> omega

/-- The repeated slots among the first ones telescope. -/
theorem countP_repeatSlot {count quota : Nat} (h : quota ≤ count) (hcount : count ≤ maxTraceEvents)
    {n : Nat} (hn : n ≤ count) :
    (List.range n).countP (repeatSlot · count quota) = n * quota / count := by
  induction n with
  | zero => rw [Nat.zero_mul, Nat.zero_div, List.range_zero, List.countP_nil]
  | succ n ih =>
    have hfits : (n + 1) * quota < 2 ^ 64 := by
      have hproduct : (n + 1) * quota ≤ maxTraceEvents * maxTraceEvents :=
        Nat.mul_le_mul (hn.trans hcount) (h.trans hcount)
      unfold maxTraceEvents at hproduct
      omega
    rw [List.range_succ, List.countP_append, ih (Nat.le_of_succ_le hn), List.countP_singleton,
      repeatSlot_eq hfits]
    refine Eq.trans ?_ (quotient_succ h).symm
    simp only [decide_eq_true_eq]

theorem quotient_self {count quota : Nat} (h : quota ≤ count) : count * quota / count = quota := by
  rcases Nat.eq_zero_or_pos count with rfl | hpos
  · rw [Nat.div_zero]
    omega
  · exact Nat.mul_div_cancel_left quota hpos

/-- The first event of a phase is fresh. -/
theorem quotient_one {count quota : Nat} (h : quota = 0 ∨ quota < count) : 1 * quota / count = 0 := by
  rw [Nat.one_mul]
  rcases h with rfl | h
  · exact Nat.zero_div count
  · exact Nat.div_eq_of_lt h

theorem repeatQuota_lt (arith : FloatArith) (count : Nat) (probability : Float64) :
    repeatQuota arith count probability = 0 ∨ repeatQuota arith count probability < count := by
  have hle : repeatQuota arith count probability ≤ count - 1 := Nat.min_le_right _ _
  omega

/-! ## Viewers -/

/-- The text that names a viewer. -/
def viewerId (actor : Nat) : Option String := some ("viewer:" ++ Text.pad 4 actor)

theorem pad_injective (width : Nat) : Function.Injective (Text.pad width) := by
  have hzeros : ∀ k n, Nat.ofDigitChars 10 (List.replicate k '0' ++ Nat.toDigits 10 n) 0 = n := by
    intro k n
    induction k with
    | zero => exact Nat.ofDigitChars_toDigits (by decide) (by decide)
    | succ k ih => rwa [List.replicate_succ, List.cons_append, Nat.ofDigitChars_cons]
  intro m n h
  have hchars := String.ofList_injective h
  rw [← hzeros (width - (Nat.toDigits 10 m).length) m, hchars, hzeros]

theorem viewerId_injective : Function.Injective viewerId := by
  intro m n h
  have htext := congrArg String.toList (Option.some.inj h)
  rw [String.toList_append, String.toList_append] at htext
  exact pad_injective 4 (String.toList_inj.mp (List.append_cancel_left htext))

section Viewers

variable {arith : FloatArith} {scenario : StreamScenario} {phase : ScenarioPhase}
  {stretch : Stretch}

/-- The viewer before in a repeated slot, else the next fresh one, else a sampled one. -/
theorem chooseActor_eq_ok {ordinal sampled actor next : Nat} {state : PhaseState}
    {repeated : Bool} (hrepeated : repeatsAt ordinal stretch.count stretch.quota = .ok repeated)
    (h : chooseActor stretch ordinal sampled state = .ok (actor, next)) :
    (repeated = true ∧ state.previousActor = some actor ∧ next = state.nextActor) ∨
      (repeated = false ∨ state.previousActor = none) ∧
        (state.nextActor < stretch.actorEnd ∧ actor = state.nextActor ∧ next = state.nextActor + 1 ∨
          stretch.actorEnd ≤ state.nextActor ∧ actor = sampled ∧ next = state.nextActor) := by
  have hfresh : ∀ {result : Nat × Nat},
      (if state.nextActor < stretch.actorEnd then do
        let next ← fits 32 (state.nextActor + 1)
        pure (state.nextActor, next)
      else
        pure (sampled, state.nextActor) : Except GenerationFault (Nat × Nat)) = .ok result →
      state.nextActor < stretch.actorEnd ∧ result.1 = state.nextActor ∧
          result.2 = state.nextActor + 1 ∨
        stretch.actorEnd ≤ state.nextActor ∧ result.1 = sampled ∧ result.2 = state.nextActor := by
    intro result hresult
    split at hresult
    case isTrue hlt =>
      rw [bind_eq_ok] at hresult
      obtain ⟨_, hfits, hresult⟩ := hresult
      cases hresult
      exact Or.inl ⟨hlt, rfl, (fits_eq_ok.mp hfits).2⟩
    case isFalse hge =>
      cases hresult
      exact Or.inr ⟨not_lt.mp hge, rfl, rfl⟩
  rw [chooseActor] at h
  cases hprevious : state.previousActor with
  | none =>
    rw [hprevious] at h
    exact Or.inr ⟨Or.inr rfl, hfresh h⟩
  | some previous =>
    rw [hprevious] at h
    simp only [hrepeated] at h
    cases repeated with
    | true =>
      cases h
      exact Or.inl ⟨rfl, rfl, rfl⟩
    | false => exact Or.inr ⟨Or.inl rfl, hfresh h⟩

theorem generateEvent_actor {ordinal base : Nat} {next : Option Nat} {state state' : PhaseState}
    {entry : ScenarioEvent}
    (h : generateEvent arith scenario phase stretch ordinal base next state = .ok (entry, state')) :
    ∃ draws actor, drawEvent phase (slotOf phase base next) state.rng = some (draws, state'.rng) ∧
      chooseActor stretch ordinal (stretch.actorBase + draws.sampled % 2 ^ 32) state =
        .ok (actor, state'.nextActor) ∧
      entry.event.actorId = viewerId actor ∧ state'.previousActor = some actor := by
  rw [generateEvent, expect_bind_eq_ok] at h
  obtain ⟨⟨draws, rng⟩, hdraws, h⟩ := h
  simp only [bind_eq_ok, expect_eq_ok, fits_eq_ok] at h
  obtain ⟨kind, -, band, -, priority, -, _, -, _, -, _, ⟨-, rfl⟩, ⟨actor, nextActor⟩, hchoose, _, -,
    _, -, h⟩ := h
  cases h
  exact ⟨draws, actor, hdraws, hchoose, rfl, rfl⟩

/-- The viewers of the first `ordinal` events of a phase: all below the next fresh one, as many as
there were fresh slots, and in a repeated slot the one before. -/
structure Reached (stretch : Stretch) (ordinal : Nat) (actors : List Nat) (state : PhaseState) :
    Prop where
  length : actors.length = ordinal
  last : state.previousActor = actors.getLast?
  members : ∀ actor, actor ∈ actors ↔ stretch.actorBase ≤ actor ∧ actor < state.nextActor
  next : state.nextActor = stretch.actorBase +
    min (stretch.actorEnd - stretch.actorBase) (ordinal - ordinal * stretch.quota / stretch.count)
  repeats : ∀ i < ordinal, repeatSlot i stretch.count stretch.quota = true →
    0 < i ∧ actors[i]? = actors[i - 1]?

theorem Reached.start (state : PhaseState) (hprevious : state.previousActor = none)
    (hnext : state.nextActor = stretch.actorBase) : Reached stretch 0 [] state where
  length := rfl
  last := hprevious
  members actor := by
    rw [hnext]
    simp
  next := by rw [hnext, Nat.zero_sub, Nat.min_zero, Nat.add_zero]
  repeats i hi := absurd hi (Nat.not_lt_zero i)

/-- One more viewer; in a repeated slot it is the last one. -/
theorem Reached.push {ordinal actor : Nat} {actors : List Nat} {state state' : PhaseState}
    (h : Reached stretch ordinal actors state) (hprevious : state'.previousActor = some actor)
    (hmembers : ∀ a, a ∈ actors ∨ a = actor ↔ stretch.actorBase ≤ a ∧ a < state'.nextActor)
    (hnext : state'.nextActor = stretch.actorBase + min (stretch.actorEnd - stretch.actorBase)
      (ordinal + 1 - (ordinal + 1) * stretch.quota / stretch.count))
    (hrepeat : repeatSlot ordinal stretch.count stretch.quota = true →
      0 < ordinal ∧ actors.getLast? = some actor) :
    Reached stretch (ordinal + 1) (actors ++ [actor]) state' where
  length := by rw [List.length_append, h.length, List.length_singleton]
  last := by rw [hprevious, List.getLast?_concat]
  members a := by rw [List.mem_append, List.mem_singleton, hmembers]
  next := hnext
  repeats i hi hslot := by
    have hlength := h.length
    rcases Nat.lt_or_eq_of_le (Nat.le_of_lt_succ hi) with hlt | rfl
    · obtain ⟨hpos, hsame⟩ := h.repeats i hlt hslot
      rw [List.getElem?_append_left (by omega), List.getElem?_append_left (by omega)]
      exact ⟨hpos, hsame⟩
    · obtain ⟨hpos, hlast⟩ := hrepeat hslot
      have hnew : (actors ++ [actor])[i]? = some actor := by
        rw [← hlength, List.getElem?_concat_length]
      rw [hnew, List.getElem?_append_left (by omega : i - 1 < actors.length), ← hlast,
        List.getLast?_eq_getElem?, hlength]
      exact ⟨hpos, rfl⟩

/-- What an event adds to the viewers of its phase. -/
theorem Reached.step (hrange : stretch.InRange phase) (hpos : 0 < phase.distinctActors.toNat)
    (hquota : stretch.quota = 0 ∨ stretch.quota < stretch.count) {ordinal base : Nat}
    {next : Option Nat} {actors : List Nat} {state state' : PhaseState} {entry : ScenarioEvent}
    (hordinal : ordinal < stretch.count) (hslot : slotOf phase base next < 2 ^ 64)
    (h : Reached stretch ordinal actors state)
    (hevent : generateEvent arith scenario phase stretch ordinal base next state =
      .ok (entry, state')) :
    ∃ actor, entry.event.actorId = viewerId actor ∧
      Reached stretch (ordinal + 1) (actors ++ [actor]) state' := by
  obtain ⟨draws, actor, hdraws, hchoose, hactor, hprevious⟩ := generateEvent_actor hevent
  have hproduct : (ordinal + 1) * stretch.quota < 2 ^ 64 := by
    have hle : (ordinal + 1) * stretch.quota ≤ maxTraceEvents * maxTraceEvents :=
      Nat.mul_le_mul (hordinal.trans_le hrange.count) (hrange.quota.trans hrange.count)
    unfold maxTraceEvents at hle
    omega
  have hquotient := @quotient_succ ordinal _ _ hrange.quota
  have hbelow : ordinal * stretch.quota / stretch.count ≤ ordinal := by
    apply Nat.div_le_of_le_mul
    rw [Nat.mul_comm]
    exact Nat.mul_le_mul_right ordinal hrange.quota
  have hend := hrange.actorEnd
  have hnext := h.next
  refine ⟨actor, hactor, ?_⟩
  rcases chooseActor_eq_ok (repeatsAt_eq hproduct) hchoose with
    ⟨hrepeated, hlast, hsame⟩ | ⟨hfresh, hchosen⟩
  · -- A repeated slot: no viewer is added.
    rw [of_decide_eq_true hrepeated |> if_pos] at hquotient
    have hmem : actor ∈ actors := by
      rw [h.last] at hlast
      exact List.mem_of_getLast? hlast
    have hzero : 0 < ordinal := by
      rw [← h.length]
      exact List.length_pos_of_mem hmem
    apply h.push hprevious
    · intro a
      rw [hsame, ← h.members]
      constructor
      · rintro (ha | rfl)
        · exact ha
        · exact hmem
      · exact Or.inl
    · rw [hsame, hnext, hquotient]
      omega
    · intro _
      exact ⟨hzero, h.last ▸ hlast⟩
  · -- A fresh slot: the next viewer, or one of all of them.
    have hnot : ¬ordinal * stretch.quota / stretch.count <
        (ordinal + 1) * stretch.quota / stretch.count := by
      rcases hfresh with hfresh | hnone
      · exact of_decide_eq_false hfresh
      · have hstart : ordinal = 0 := by
          rw [h.last, List.getLast?_eq_none_iff] at hnone
          rw [← h.length, hnone, List.length_nil]
        rw [hstart, Nat.zero_add, quotient_one hquota]
        exact Nat.not_lt_zero _
    rw [if_neg hnot, Nat.add_zero] at hquotient
    have hrepeat : repeatSlot ordinal stretch.count stretch.quota = true →
        0 < ordinal ∧ actors.getLast? = some actor := by
      intro hslot
      rw [repeatSlot_eq hproduct] at hslot
      exact absurd (of_decide_eq_true hslot) hnot
    rcases hchosen with ⟨hroom, rfl, hadded⟩ | ⟨hfull, rfl, hsame⟩
    · apply h.push hprevious _ _ hrepeat
      · intro a
        rw [h.members, hadded]
        omega
      · rw [hadded, hquotient]
        omega
    · obtain ⟨draws', _, hdraws', -, hsampled⟩ := drawEvent_eq_some phase hslot state.rng
      rw [hdraws] at hdraws'
      cases hdraws'
      have hlt := hsampled hpos
      have hmod : draws.sampled % 2 ^ 32 ≤ draws.sampled := Nat.mod_le _ _
      apply h.push hprevious _ _ hrepeat
      · intro a
        rw [h.members, hsame]
        omega
      · rw [hsame, hquotient]
        omega

/-- **What the events of a phase name**, from the first to the last. -/
theorem Reached.run (hrange : stretch.InRange phase) (hpos : 0 < phase.distinctActors.toNat)
    (hquota : stretch.quota = 0 ∨ stretch.quota < stretch.count)
    (hduration : phase.durationMs < 2 ^ 64) {ordinal : Nat} {bases actors : List Nat}
    {state state' : PhaseState} {events : List ScenarioEvent}
    (hbases : ∀ base ∈ bases, base < 2 ^ 64) (hcount : ordinal + bases.length ≤ stretch.count)
    (h : Reached stretch ordinal actors state)
    (hevents : generateEvents arith scenario phase stretch ordinal bases state =
      .ok (events, state')) :
    ∃ added, events.map (·.event.actorId) = added.map viewerId ∧
      Reached stretch (ordinal + bases.length) (actors ++ added) state' := by
  induction bases generalizing ordinal actors state events with
  | nil =>
    cases hevents
    exact ⟨[], rfl, by rwa [List.append_nil]⟩
  | cons base bases ih =>
    rw [List.length_cons] at hcount
    rw [generateEvents, bind_eq_ok] at hevents
    obtain ⟨⟨entry, following⟩, hentry, hevents⟩ := hevents
    rw [bind_eq_ok] at hevents
    obtain ⟨⟨rest, last⟩, hrest, hevents⟩ := hevents
    cases hevents
    have hslot : slotOf phase base bases.head? < 2 ^ 64 := by
      have hend : bases.head?.getD phase.durationMs < 2 ^ 64 := by
        cases bases with
        | nil => exact hduration
        | cons following bases =>
          exact hbases following (List.mem_cons_of_mem _ List.mem_cons_self)
      rw [slotOf]
      omega
    obtain ⟨actor, hactor, hstep⟩ :=
      h.step hrange hpos hquota (by omega : ordinal < stretch.count) hslot hentry
    obtain ⟨added, hadded, hrun⟩ := ih (fun b hb ↦ hbases b (List.mem_cons_of_mem base hb))
      (by omega) hstep hrest
    refine ⟨actor :: added, ?_, ?_⟩
    · rw [List.map_cons, List.map_cons, hactor, hadded]
    · rw [List.length_cons, List.append_cons]
      rwa [Nat.add_right_comm] at hrun

theorem lt_of_baseOffsets {durationMs count : Nat} {bases : List Nat}
    (h : baseOffsets durationMs count = .ok bases) : ∀ base ∈ bases, base < 2 ^ 64 := by
  intro base hbase
  obtain ⟨ordinal, -, hoffset⟩ := (mapM_eq_ok h).2 base hbase
  rw [bind_eq_ok] at hoffset
  obtain ⟨product, -, hoffset⟩ := hoffset
  cases hoffset
  exact Nat.mod_lt _ (by decide)

/-! ## The phases of a trace -/

/-- The viewers that the events of a phase name. -/
structure PhaseActors (arith : FloatArith) (phase : ScenarioPhase) (count : Nat)
    (events : List ScenarioEvent) : Prop where
  length : events.length = count
  slots : (List.range count).countP
      (repeatSlot · count (repeatQuota arith count phase.repeatViewerProbability)) =
    repeatQuota arith count phase.repeatViewerProbability
  repeats : ∀ ordinal < count,
    repeatSlot ordinal count (repeatQuota arith count phase.repeatViewerProbability) = true →
    0 < ordinal ∧ (events.map (·.event.actorId))[ordinal]? =
      (events.map (·.event.actorId))[ordinal - 1]?
  distinct : (events.map (·.event.actorId)).toFinset.card =
    min phase.distinctActors.toNat (count - repeatQuota arith count phase.repeatViewerProbability)

/-- The events of each phase name as many viewers as it declares or reaches, and none of a later
phase. -/
def ActorsInPhases (arith : FloatArith) : List ScenarioPhase → List ScenarioEvent → Prop
  | [], trace => trace = []
  | phase :: phases, trace =>
    ∃ count events rest, trace = events ++ rest ∧ phase.eventCount arith = .ok count ∧
      PhaseActors arith phase count events ∧
      (∀ entry ∈ events, ∀ later ∈ rest, entry.event.actorId ≠ later.event.actorId) ∧
      ActorsInPhases arith phases rest

theorem generatePhase_actors {startMs index count : Nat} {state state' : StreamState}
    {events : List ScenarioEvent} (hcount : phase.eventCount arith = .ok count)
    (hsound : Sound phase) (htotal : state.sequence + count ≤ maxTraceEvents)
    (hduration : state.phaseStartMs + phase.durationMs ≤ u64Max)
    (hactors : state.actorBase + phase.distinctActors.toNat ≤ u32Max)
    (h : generatePhase arith scenario startMs index phase state = .ok (events, state')) :
    PhaseActors arith phase count events ∧
      (∀ entry ∈ events, ∃ actor, state.actorBase ≤ actor ∧
        actor < state.actorBase + phase.distinctActors.toNat ∧
        entry.event.actorId = viewerId actor) ∧
      state' = { sequence := state.sequence + count
                 phaseStartMs := state.phaseStartMs + phase.durationMs
                 actorBase := state.actorBase + phase.distinctActors.toNat } := by
  have hle : count ≤ maxTraceEvents := (Nat.le_add_left count state.sequence).trans htotal
  have hbound : phase.durationMs < 2 ^ 64 := by
    unfold Saturating.u64Max at hduration
    omega
  simp only [generatePhase, bind_eq_ok, refusing_eq_ok, hcount, checkedActorNamespaceEnd_eq_ok,
    fits_eq_ok] at h
  obtain ⟨_, hok, _, ⟨-, rfl⟩, bases, hbases, ⟨generated, last⟩, hevents, _, ⟨-, rfl⟩, h⟩ := h
  cases hok
  cases h
  have hlength := length_of_baseOffsets hbases
  have hquota := repeatQuota_le arith count phase.repeatViewerProbability
  obtain ⟨actors, hnames, hrun⟩ := Reached.run ⟨rfl, hactors, hle, hquota⟩ hsound.actors
    (repeatQuota_lt _ _ _) hbound (lt_of_baseOffsets hbases) (by rw [hlength, Nat.zero_add])
    (Reached.start _ rfl rfl) hevents
  rw [hlength, Nat.zero_add, List.nil_append] at hrun
  have hnumbers := generateEvents_eq_ok hevents
  have hnext := hrun.next
  rw [quotient_self hquota, Nat.add_sub_cancel_left] at hnext
  have hgenerated : generated.length = count := by
    rw [← hrun.length, ← List.length_map (f := viewerId), ← hnames, List.length_map]
  refine ⟨⟨hgenerated, ?_, ?_, ?_⟩, ?_, ?_⟩
  · rw [countP_repeatSlot hquota hle le_rfl, quotient_self hquota]
  · intro ordinal hordinal hslot
    obtain ⟨hpos, hsame⟩ := hrun.repeats ordinal hordinal hslot
    rw [hnames, List.getElem?_map, List.getElem?_map, hsame]
    exact ⟨hpos, rfl⟩
  · have hset : actors.toFinset = Finset.Ico state.actorBase last.nextActor := by
      ext actor
      rw [List.mem_toFinset, Finset.mem_Ico, hrun.members]
    have himage : (actors.map viewerId).toFinset = actors.toFinset.image viewerId := by
      ext name
      simp
    rw [hnames, himage, Finset.card_image_of_injective _ viewerId_injective, hset, Nat.card_Ico,
      hnext, Nat.add_sub_cancel_left]
  · intro entry hentry
    have hname : entry.event.actorId ∈ actors.map viewerId := by
      rw [← hnames]
      exact List.mem_map_of_mem hentry
    obtain ⟨actor, hactor, hid⟩ := List.mem_map.mp hname
    obtain ⟨hlow, hhigh⟩ := (hrun.members actor).mp hactor
    have hreach := hnext.le.trans (Nat.add_le_add_left (Nat.min_le_left _ _) _)
    exact ⟨actor, hlow, hhigh.trans_le hreach, hid.symm⟩
  · rw [hnumbers.2.2, hlength]

theorem generatePhases_actors {startMs index : Nat} {phases : List ScenarioPhase}
    {state : StreamState} {trace : List ScenarioEvent}
    (hranged : Ranged arith phases state.sequence state.phaseStartMs state.actorBase)
    (h : generatePhases arith scenario startMs index phases state = .ok trace) :
    ActorsInPhases arith phases trace ∧
      ∀ entry ∈ trace, ∃ actor, state.actorBase ≤ actor ∧ entry.event.actorId = viewerId actor := by
  induction phases generalizing index state trace with
  | nil =>
    cases h
    exact ⟨rfl, fun _ hentry ↦ absurd hentry List.not_mem_nil⟩
  | cons phase phases ih =>
    obtain ⟨count, hcount, hsound, htotal, hduration, hactors, hrest⟩ := hranged
    rw [generatePhases, bind_eq_ok] at h
    obtain ⟨⟨events, next⟩, hevents, h⟩ := h
    rw [bind_eq_ok] at h
    obtain ⟨rest, hphases, h⟩ := h
    cases h
    obtain ⟨hphase, hwithin, rfl⟩ :=
      generatePhase_actors hcount hsound htotal hduration hactors hevents
    obtain ⟨hinner, hbeyond⟩ := ih hrest hphases
    refine ⟨⟨count, events, rest, rfl, hcount, hphase, ?_, hinner⟩, ?_⟩
    · intro entry hentry later hlater heq
      obtain ⟨actor, -, hlt, hactor⟩ := hwithin entry hentry
      obtain ⟨actor', hle, hactor'⟩ := hbeyond later hlater
      rw [hactor, hactor'] at heq
      have hsame := viewerId_injective heq
      have hapart : state.actorBase + phase.distinctActors.toNat ≤ actor' := hle
      omega
    · intro entry hentry
      rcases List.mem_append.mp hentry with hmem | hmem
      · obtain ⟨actor, hlow, -, hactor⟩ := hwithin entry hmem
        exact ⟨actor, hlow, hactor⟩
      · obtain ⟨actor, hlow, hactor⟩ := hbeyond entry hmem
        exact ⟨actor, (Nat.le_add_right _ _).trans hlow, hactor⟩

end Viewers

/-- **A phase names as many viewers as it declares**, as far as its fresh events reach; as many
slots as its quota repeat the viewer before, and no two phases share a viewer. -/
theorem actorsInPhases {arith : FloatArith} {scenario : StreamScenario} {trace : List ScenarioEvent}
    (h : scenario.validate arith = .ok ()) (htrace : generateScenarioTrace arith scenario = .ok trace) :
    ActorsInPhases arith scenario.phases trace := by
  obtain ⟨hranged, -, startMs, hstart⟩ := validate_ranged h
  rw [generateScenarioTrace_eq h hstart] at htrace
  exact (generatePhases_actors hranged htrace).1

theorem actorsInPhases_chat : ∃ trace,
    generateScenarioTrace exactArith repeatingChat = .ok trace ∧
      ActorsInPhases exactArith repeatingChat.phases trace := by
  obtain ⟨trace, htrace⟩ : ∃ trace, generateScenarioTrace exactArith repeatingChat = .ok trace := by
    have hsome : (generateScenarioTrace exactArith repeatingChat).toOption.isSome = true := by
      decide +kernel
    cases htrace : generateScenarioTrace exactArith repeatingChat with
    | ok trace => exact ⟨trace, rfl⟩
    | error fault =>
      rw [htrace] at hsome
      cases hsome
  exact ⟨trace, htrace, actorsInPhases (by decide +kernel) htrace⟩

end Aivtuber
