import Mathlib.Algebra.GroupWithZero.Nat
import Aivtuber.Domain.ScenarioTrace
import Aivtuber.Hardening.Fault

/-!
# The scenario soak

The soak plays the trace of a scenario with a fault plan laid over it
(`crates/hardening/src/scenario_soak.rs`).  Before the run, the calls that the trace makes to each
subsystem are counted by filters over the trace, and a fault beyond them is refused; in the run,
the injector is consulted call by call while the subsystems work.

What the subsystems do is a parameter, `SoakSteps`: whatever they do and wherever they fail, the
loop consults the injector as the filters count (`count_calls`), so a loop that completes has
consumed the whole plan (`soakLoop_planned`).
-/

open Aivtuber.Check
open Saturating (satAdd u64Max)

namespace Aivtuber.Hardening

/-! ## Overlays and configs -/

structure FaultOverlay where
  schemaVersion : String
  scenarioId : String
  scenarioVersion : UInt32
  seed : Nat
  faults : List FaultSpec

structure SoakConfig where
  logicalEvents : Nat
  eventIntervalMs : Nat
  ingressQueueLimit : Nat
  schedulerHistoryLimit : Nat
  auditLimit : Nat
  telemetryLimit : Nat
  workingMemoryLimit : Nat
  memoryCompactionLimit : Nat
  memoryLinksLimit : Nat
  generatedAssetLimit : Nat
  promotionMetadataLimit : Nat
  generatedAssetEvery : Nat

/-- What the soak checks of its metadata. -/
structure ReproducibilityMetadata where
  datasetId : String
  gitCommit : String
  rustToolchain : String
  configVersion : String
  assetVersion : String
  streamDurationMs : Option Nat

/-- Why a soak is refused or ends early; `step` is the failure of a subsystem. -/
inductive SoakError (ε : Type) where
  | config
  | metadata (field : String)
  | scenario (error : ScenarioError)
  | overlaySchema (schemaVersion : String)
  | overlayWithoutScenario
  | overlayZeroVersion
  | overlayWithoutFaults (scenarioId : String)
  | unobservable (subsystem : FaultSubsystem)
  | plan (error : FaultPlanError)
  | otherScenario (scenarioId : String) (scenarioVersion : UInt32)
  | generation (fault : GenerationFault)
  | tooFewEvents (scenarioId : String) (events : Nat)
  | unreachable (subsystem : FaultSubsystem) (occurrence reachable : Nat)
  | step (error : ε)
  | noMidpoint
  | unfired (planned fired : Nat)

variable {σ ε β : Type}

def SoakConfig.default : SoakConfig where
  logicalEvents := 576000
  eventIntervalMs := 50
  ingressQueueLimit := 128
  schedulerHistoryLimit := 512
  auditLimit := 1024
  telemetryLimit := 1024
  workingMemoryLimit := 256
  memoryCompactionLimit := 128
  memoryLinksLimit := 128
  generatedAssetLimit := 8
  promotionMetadataLimit := 8
  generatedAssetEvery := 200

def SoakConfig.validate (config : SoakConfig) : Except (SoakError ε) Unit :=
  ensure .config
    !(config.logicalEvents < 2 || config.eventIntervalMs = 0 || config.ingressQueueLimit = 0 ||
      config.schedulerHistoryLimit = 0 || config.auditLimit = 0 || config.telemetryLimit = 0 ||
      config.workingMemoryLimit = 0 || config.memoryCompactionLimit = 0 ||
      config.memoryLinksLimit = 0 || config.generatedAssetLimit = 0 ||
      config.promotionMetadataLimit = 0 || config.generatedAssetEvery = 0)

def ReproducibilityMetadata.validate (metadata : ReproducibilityMetadata) :
    Except (SoakError ε) Unit := do
  [("dataset_id", metadata.datasetId), ("git_commit", metadata.gitCommit),
    ("rust_toolchain", metadata.rustToolchain), ("config_version", metadata.configVersion),
    ("asset_version", metadata.assetVersion)].forM fun (name, value) ↦
      ensure (.metadata name) (!Text.isBlank value)
  ensure (.metadata "stream_duration_ms") (metadata.streamDurationMs ≠ some 0)

def faultOverlaySchemaVersion : String := "1"

/-- The subsystems that the soak calls. -/
def scenarioSoakFaultSubsystems : List FaultSubsystem :=
  [.contentIngress, .assetStore, .thinking, .tts]

namespace FaultOverlay

def validate (overlay : FaultOverlay) : Except (SoakError ε) Unit := do
  ensure (.overlaySchema overlay.schemaVersion)
    (overlay.schemaVersion = faultOverlaySchemaVersion)
  ensure .overlayWithoutScenario (!Text.isBlank overlay.scenarioId)
  ensure .overlayZeroVersion (overlay.scenarioVersion ≠ 0)
  ensure (.overlayWithoutFaults overlay.scenarioId) (!overlay.faults.isEmpty)
  overlay.faults.forM fun fault ↦
    ensure (.unobservable fault.subsystem)
      (scenarioSoakFaultSubsystems.contains fault.subsystem)
  let _ ← (FaultPlan.new overlay.seed overlay.faults).mapError .plan
  pure ()

def «matches» (overlay : FaultOverlay) (scenario : StreamScenario) : Bool :=
  overlay.scenarioId = scenario.scenarioId && overlay.scenarioVersion = scenario.scenarioVersion

def plan (overlay : FaultOverlay) : Except (SoakError ε) FaultPlan := do
  overlay.validate
  (FaultPlan.new overlay.seed overlay.faults).mapError .plan

end FaultOverlay

/-! ## Reachability -/

def isContent (entry : ScenarioEvent) : Bool := entry.event.plane = .content

/-- Only a miss takes the generative path. -/
def isMiss (entry : ScenarioEvent) : Bool :=
  (entry.event.payload["semantic_band"]?.bind JsonValue.asStr) = some "miss"

/-- How many times a trace will call each subsystem, zero for one that it does not call. -/
def reachableCallCounts (trace : List ScenarioEvent) (generatedAssetEvery : Nat) :
    FaultSubsystem → Nat
  | .contentIngress => trace.countP isContent
  | .thinking | .tts => trace.countP isMiss
  | .assetStore => trace.zipIdx.countP fun (_, index) ↦ index % generatedAssetEvery = 0
  | _ => 0

/-- The checks before the loop. -/
def prepare (arith : FloatArith) (scenario : StreamScenario) (overlay : FaultOverlay)
    (config : SoakConfig) (metadata : ReproducibilityMetadata) :
    Except (SoakError ε) (List ScenarioEvent × FaultPlan) := do
  config.validate
  metadata.validate
  (scenario.validate arith).mapError .scenario
  overlay.validate
  ensure (.otherScenario scenario.scenarioId scenario.scenarioVersion) (overlay.matches scenario)
  let trace ← (generateScenarioTrace arith scenario).mapError .generation
  ensure (.tooFewEvents scenario.scenarioId trace.length) (2 ≤ trace.length)
  let reachable := reachableCallCounts trace config.generatedAssetEvery
  overlay.faults.forM fun fault ↦
    ensure (.unreachable fault.subsystem fault.occurrence (reachable fault.subsystem))
      (fault.occurrence ≤ reachable fault.subsystem)
  let plan ← overlay.plan
  return (trace, plan)

/-! ## The loop -/

/-- What the soak drives: the security runtime, the scheduler, the memory, the telemetry and
the asset store.  Any step may fail that may fail in the source. -/
structure SoakSteps (σ ε β : Type) where
  /-- The subsystems as the config sets them up. -/
  start : SoakConfig → Except ε σ
  /-- Admit a content event, and take it off the queue if it was queued. -/
  admitContent : EventEnvelope → Nat → σ → Except ε σ
  scheduleAt : Nat → EventEnvelope → σ → Except ε σ
  stopAll : Nat → σ → σ
  advanceTo : Nat → σ → σ
  rememberWorking : EventEnvelope → Nat → σ → Except ε σ
  record : EventEnvelope → σ → σ
  /-- Insert the generated asset of an index, and note its use. -/
  insertHot : Nat → Nat → σ → Except ε σ
  snapshot : σ → β

structure FaultInjectionReport where
  planned : Nat
  consumed : List InjectedFault
  contentIngressDegraded : Nat
  generativeDegraded : Nat
  assetStoreDegraded : Nat

/-- What the loop over the trace keeps. -/
structure SoakState (σ β : Type) where
  drive : σ
  injector : FaultInjector
  firstEventAtMs : Option Nat
  lastEventAtMs : Nat
  midpoint : Option β
  contentIngressDegraded : Nat
  generativeDegraded : Nat
  assetStoreDegraded : Nat

def SoakState.new (drive : σ) (plan : FaultPlan) : SoakState σ β where
  drive
  injector := plan.injector
  firstEventAtMs := none
  lastEventAtMs := 0
  midpoint := none
  contentIngressDegraded := 0
  generativeDegraded := 0
  assetStoreDegraded := 0

namespace SoakState

/-- Content ingress; an event of another plane does not arrive this way. -/
def ingress (steps : SoakSteps σ ε β) (entry : ScenarioEvent) (atMs : Nat)
    (state : SoakState σ β) : Except (SoakError ε) (SoakState σ β) :=
  if isContent entry then
    match state.injector.next .contentIngress with
    | (some _, injector) =>
      .ok { state with
        injector, contentIngressDegraded := satAdd state.contentIngressDegraded 1 }
    | (none, injector) => do
      let drive ← (steps.admitContent entry.event atMs state.drive).mapError .step
      return { state with injector, drive }
  else .ok state

/-- The scheduler, the memory and the telemetry. -/
def advance (steps : SoakSteps σ ε β) (entry : ScenarioEvent) (index atMs : Nat)
    (state : SoakState σ β) : Except (SoakError ε) (SoakState σ β) := do
  let drive ← (steps.scheduleAt atMs entry.event state.drive).mapError .step
  let drive := if index % 10 = 0 then steps.stopAll atMs drive else drive
  let drive := steps.advanceTo (satAdd atMs 1) drive
  let drive ← (steps.rememberWorking entry.event atMs drive).mapError .step
  return { state with drive := steps.record entry.event drive }

/-- The generative path; both providers are consulted, whether or not the first one fails. -/
def generate (entry : ScenarioEvent) (state : SoakState σ β) : SoakState σ β :=
  if isMiss entry then
    let (thinking, injector) := state.injector.next .thinking
    let (tts, injector) := injector.next .tts
    { state with
      injector
      generativeDegraded :=
        if thinking.isSome || tts.isSome then satAdd state.generativeDegraded 1
        else state.generativeDegraded }
  else state

/-- Hot-asset churn. -/
def churn (steps : SoakSteps σ ε β) (generatedAssetEvery index atMs : Nat)
    (state : SoakState σ β) : Except (SoakError ε) (SoakState σ β) :=
  if index % generatedAssetEvery = 0 then
    match state.injector.next .assetStore with
    | (some _, injector) =>
      .ok { state with injector, assetStoreDegraded := satAdd state.assetStoreDegraded 1 }
    | (none, injector) => do
      let drive ← (steps.insertHot index atMs state.drive).mapError .step
      return { state with injector, drive }
  else .ok state

end SoakState

/-- One turn of the loop. -/
def soakEvent (steps : SoakSteps σ ε β) (generatedAssetEvery startMs midpointIndex : Nat)
    (state : SoakState σ β) (turn : ScenarioEvent × Nat) :
    Except (SoakError ε) (SoakState σ β) := do
  let (entry, index) := turn
  let instant ← (scenarioInstantMs entry.event.observedAt).mapError .scenario
  let atMs := instant - startMs
  let state := { state with
    firstEventAtMs := some (state.firstEventAtMs.getD atMs), lastEventAtMs := atMs }
  let state ← state.ingress steps entry atMs
  let state ← state.advance steps entry index atMs
  let state := state.generate entry
  let state ← state.churn steps generatedAssetEvery index atMs
  return { state with
    midpoint := if index + 1 = midpointIndex then some (steps.snapshot state.drive)
      else state.midpoint }

def soakLoop (steps : SoakSteps σ ε β) (generatedAssetEvery startMs : Nat)
    (trace : List ScenarioEvent) (state : SoakState σ β) :
    Except (SoakError ε) (SoakState σ β) :=
  trace.zipIdx.foldlM (soakEvent steps generatedAssetEvery startMs (trace.length / 2)) state

structure ScenarioSoakReport (β : Type) where
  scenarioId : String
  scenarioVersion : UInt32
  faultSeed : Nat
  traceEvents : Nat
  streamDurationMs : Nat
  firstEventAtMs : Nat
  lastEventAtMs : Nat
  midpoint : β
  finalState : β
  faults : FaultInjectionReport

/-- What is left after the loop: the rest of the stream and the consistency check. -/
def finish (steps : SoakSteps σ ε β) (scenario : StreamScenario) (overlay : FaultOverlay)
    (trace : List ScenarioEvent) (state : SoakState σ β) :
    Except (SoakError ε) (ScenarioSoakReport β) := do
  let drive := steps.advanceTo (satAdd scenario.streamDurationMs 1) state.drive
  let midpoint ← expect .noMidpoint state.midpoint
  let planned := overlay.faults.length
  let consumed := state.injector.consumed
  ensure (.unfired planned consumed.length) (consumed.length = planned)
  return {
    scenarioId := scenario.scenarioId
    scenarioVersion := scenario.scenarioVersion
    faultSeed := overlay.seed
    traceEvents := trace.length
    streamDurationMs := scenario.streamDurationMs
    firstEventAtMs := state.firstEventAtMs.getD 0
    lastEventAtMs := state.lastEventAtMs
    midpoint
    finalState := steps.snapshot drive
    faults := {
      planned
      consumed
      contentIngressDegraded := state.contentIngressDegraded
      generativeDegraded := state.generativeDegraded
      assetStoreDegraded := state.assetStoreDegraded } }

def runScenarioSoak (steps : SoakSteps σ ε β) (arith : FloatArith) (scenario : StreamScenario)
    (overlay : FaultOverlay) (config : SoakConfig) (metadata : ReproducibilityMetadata) :
    Except (SoakError ε) (ScenarioSoakReport β) := do
  let (trace, plan) ← prepare arith scenario overlay config metadata
  let drive ← (steps.start config).mapError .step
  let startMs ← (parseLogicalStart scenario.logicalStart).mapError .scenario
  let state ←
    soakLoop steps config.generatedAssetEvery startMs trace (SoakState.new drive plan)
  finish steps scenario overlay trace state

/-! ## The size of a trace -/

theorem length_of_mapM {α γ δ : Type} {f : α → Except δ γ} {l : List α} {l' : List γ}
    (h : l.mapM f = .ok l') : l'.length = l.length := by
  induction l generalizing l' with
  | nil =>
    cases h
    rfl
  | cons a l ih =>
    rw [List.mapM_cons, bind_eq_ok] at h
    obtain ⟨b, -, h⟩ := h
    rw [bind_eq_ok] at h
    obtain ⟨bs, hbs, h⟩ := h
    cases h
    rw [List.length_cons, List.length_cons, ih hbs]

section Size

variable {arith : FloatArith} {scenario : StreamScenario}

theorem length_of_generatePhase {startMs index : Nat} {phase : ScenarioPhase}
    {state state' : StreamState} {events : List ScenarioEvent}
    (h : generatePhase arith scenario startMs index phase state = .ok (events, state')) :
    phase.eventCount arith = .ok events.length := by
  rw [generatePhase, bind_eq_ok] at h
  obtain ⟨count, hcount, h⟩ := h
  rw [bind_eq_ok] at h
  obtain ⟨_, -, h⟩ := h
  rw [bind_eq_ok] at h
  obtain ⟨bases, hbases, h⟩ := h
  rw [bind_eq_ok] at h
  obtain ⟨⟨generated, last⟩, hgenerated, h⟩ := h
  rw [bind_eq_ok] at h
  obtain ⟨_, -, h⟩ := h
  cases h
  have hlength : events.length = bases.length := by
    have hnumbers := congrArg List.length (generateEvents_eq_ok hgenerated).2.1
    rwa [List.length_map, List.length_range'] at hnumbers
  rw [hlength, length_of_mapM hbases, List.length_range, ← refusing_eq_ok.mp hcount]

/-- A trace has as many events as the validator totals. -/
theorem total_of_generatePhases {startMs index : Nat} {phases : List ScenarioPhase}
    {state : StreamState} {trace : List ScenarioEvent} {total whole : Nat}
    (htrace : generatePhases arith scenario startMs index phases state = .ok trace)
    (hcounts : phases.foldlM (fun total phase ↦ do
      let count ← phase.eventCount arith
      ensure ScenarioError.eventCountOverflow (total + count ≤ u64Max)
      pure (total + count)) total = .ok whole) :
    whole = total + trace.length := by
  induction phases generalizing index state trace total with
  | nil =>
    cases htrace
    cases hcounts
    rfl
  | cons phase phases ih =>
    rw [generatePhases, bind_eq_ok] at htrace
    obtain ⟨⟨events, next⟩, hevents, htrace⟩ := htrace
    rw [bind_eq_ok] at htrace
    obtain ⟨rest, hrest, htrace⟩ := htrace
    cases htrace
    rw [List.foldlM_cons, bind_eq_ok] at hcounts
    obtain ⟨_, hcount, hcounts⟩ := hcounts
    rw [bind_eq_ok] at hcount
    obtain ⟨count, hcount, hadd⟩ := hcount
    rw [unit_bind_eq_ok] at hadd
    cases hadd.2
    rw [length_of_generatePhase hevents] at hcount
    cases hcount
    rw [ih hrest hcounts, List.length_append, Nat.add_assoc]

theorem length_trace_le {trace : List ScenarioEvent}
    (h : generateScenarioTrace arith scenario = .ok trace) : trace.length ≤ maxTraceEvents := by
  rw [generateScenarioTrace, unit_bind_eq_ok, bind_eq_ok] at h
  obtain ⟨hvalid, startMs, -, htrace⟩ := h
  rw [refusing_eq_ok] at hvalid
  simp only [StreamScenario.validate, bind_eq_ok] at hvalid
  obtain ⟨_, -, _, -, _, -, _, -, _, -, _, -, _, -, _, -, whole, hcounts, _, -, _, hwhole, -⟩ :=
    hvalid
  have hle := ensure_eq_ok.mp hwhole
  rw [decide_eq_true_eq, total_of_generatePhases htrace hcounts, Nat.zero_add] at hle
  exact hle

end Size

/-! ## The calls of a trace -/

/-- The subsystems that one turn of the loop calls. -/
def consultations (generatedAssetEvery : Nat) (turn : ScenarioEvent × Nat) :
    List FaultSubsystem :=
  (if isContent turn.1 then [.contentIngress] else []) ++
    (if isMiss turn.1 then [.thinking, .tts] else []) ++
      if turn.2 % generatedAssetEvery = 0 then [.assetStore] else []

/-- The calls of some turns, in order. -/
def calls (generatedAssetEvery : Nat) (turns : List (ScenarioEvent × Nat)) :
    List FaultSubsystem :=
  turns.flatMap (consultations generatedAssetEvery)

/-- One turn calls each subsystem at most once. -/
theorem count_consultations_le (generatedAssetEvery : Nat) (turn : ScenarioEvent × Nat)
    (subsystem : FaultSubsystem) :
    (consultations generatedAssetEvery turn).count subsystem ≤ 1 := by
  rw [consultations]
  cases isContent turn.1 <;> cases isMiss turn.1 <;> cases subsystem <;>
    by_cases hslot : turn.2 % generatedAssetEvery = 0 <;> simp [hslot]

/-- What a turn calls. -/
theorem contains_consultations (generatedAssetEvery : Nat) (turn : ScenarioEvent × Nat) :
    (consultations generatedAssetEvery turn).contains .contentIngress = isContent turn.1 ∧
      (consultations generatedAssetEvery turn).contains .thinking = isMiss turn.1 ∧
      (consultations generatedAssetEvery turn).contains .tts = isMiss turn.1 ∧
      (consultations generatedAssetEvery turn).contains .assetStore =
        decide (turn.2 % generatedAssetEvery = 0) := by
  rw [consultations]
  cases isContent turn.1 <;> cases isMiss turn.1 <;>
    by_cases hslot : turn.2 % generatedAssetEvery = 0 <;> simp [hslot]

/-- A call is counted at the turn that makes it. -/
theorem count_calls_eq (generatedAssetEvery : Nat) (turns : List (ScenarioEvent × Nat))
    (subsystem : FaultSubsystem) :
    (calls generatedAssetEvery turns).count subsystem = turns.countP fun turn ↦
      (consultations generatedAssetEvery turn).contains subsystem := by
  induction turns with
  | nil => rfl
  | cons turn turns ih =>
    have honce : (consultations generatedAssetEvery turn).count subsystem =
        if (consultations generatedAssetEvery turn).contains subsystem then 1 else 0 := by
      split
      case isTrue hcalled =>
        apply Nat.le_antisymm (count_consultations_le generatedAssetEvery turn subsystem)
        exact List.count_pos_iff.mpr (List.contains_iff_mem.mp hcalled)
      case isFalse hcalled =>
        exact List.count_eq_zero.mpr (mt List.contains_iff_mem.mpr hcalled)
    rw [calls] at ih
    rw [calls, List.flatMap_cons, List.count_append, ih, List.countP_cons, honce, Nat.add_comm]

/-- **The filters count the calls of the loop**. -/
theorem count_calls (trace : List ScenarioEvent) (generatedAssetEvery : Nat)
    (subsystem : FaultSubsystem) :
    (calls generatedAssetEvery trace.zipIdx).count subsystem =
      reachableCallCounts trace generatedAssetEvery subsystem := by
  have hfirst : ∀ p : ScenarioEvent → Bool,
      trace.zipIdx.countP (fun turn ↦ p turn.1) = trace.countP p := by
    intro p
    rw [← List.zipIdx_map_fst 0 trace, List.countP_map]
    simp only [List.zipIdx_map_fst]
    rfl
  have hcalled := contains_consultations generatedAssetEvery
  rw [count_calls_eq]
  cases subsystem
  case contentIngress =>
    simp only [(hcalled _).1]
    exact hfirst isContent
  case thinking =>
    simp only [(hcalled _).2.1]
    exact hfirst isMiss
  case tts =>
    simp only [(hcalled _).2.2.1]
    exact hfirst isMiss
  case assetStore =>
    simp only [(hcalled _).2.2.2]
    rfl
  all_goals
    refine List.countP_eq_zero.mpr fun turn _ ↦ ?_
    rw [consultations]
    cases isContent turn.1 <;> cases isMiss turn.1 <;>
      by_cases hslot : turn.2 % generatedAssetEvery = 0 <;> simp [hslot]

/-- The calls of content ingress are not those of another subsystem. -/
theorem count_append_ingress {subsystem : FaultSubsystem} (h : subsystem ≠ .contentIngress)
    {before : List FaultSubsystem} {content : Bool} :
    (before ++ if content then [FaultSubsystem.contentIngress] else []).count subsystem =
      before.count subsystem := by
  cases content with
  | false => rw [if_neg Bool.false_ne_true, List.append_nil]
  | true => rw [if_pos rfl, List.count_append, List.count_singleton, beq_false_of_ne h.symm]; rfl

theorem length_calls_le (generatedAssetEvery : Nat) (turns : List (ScenarioEvent × Nat)) :
    (calls generatedAssetEvery turns).length ≤ 4 * turns.length := by
  induction turns with
  | nil => exact Nat.le_refl 0
  | cons turn turns ih =>
    have hturn : (consultations generatedAssetEvery turn).length ≤ 4 := by
      rw [consultations]
      cases isContent turn.1 <;> cases isMiss turn.1 <;>
        by_cases hslot : turn.2 % generatedAssetEvery = 0 <;> simp [hslot]
    rw [calls] at ih
    rw [calls, List.flatMap_cons, List.length_append, List.length_cons]
    omega

/-- Whether the call that a turn makes to the subsystem, by its number, is to fail. -/
def firesAt (plan : FaultPlan) (generatedAssetEvery : Nat) (turns : List (ScenarioEvent × Nat))
    (subsystem : FaultSubsystem) (i : Nat) : Bool :=
  turns[i]?.any (fun turn ↦ (consultations generatedAssetEvery turn).contains subsystem) &&
    plan.fires subsystem ((calls generatedAssetEvery (turns.take (i + 1))).count subsystem)

section Fires

variable {plan : FaultPlan} {every : Nat} {turns : List (ScenarioEvent × Nat)}
  {turn : ScenarioEvent × Nat} {subsystem : FaultSubsystem}

theorem firesAt_append_of_lt {i : Nat} (h : i < turns.length) :
    firesAt plan every (turns ++ [turn]) subsystem i = firesAt plan every turns subsystem i := by
  rw [firesAt, firesAt, List.getElem?_append_left h, List.take_append_of_le_length h]

theorem firesAt_append_last :
    firesAt plan every (turns ++ [turn]) subsystem turns.length =
      ((consultations every turn).contains subsystem &&
        plan.fires subsystem ((calls every turns).count subsystem + 1)) := by
  have hwhole : (turns ++ [turn]).take (turns.length + 1) = turns ++ [turn] :=
    List.take_of_length_le (by rw [List.length_append, List.length_singleton])
  have hcalls : calls every (turns ++ [turn]) = calls every turns ++ consultations every turn := by
    rw [calls, List.flatMap_append, List.flatMap_singleton]
    rfl
  rw [firesAt, hwhole, List.getElem?_concat_length, Option.any_some, hcalls, List.count_append]
  rcases ((consultations every turn).contains subsystem).eq_false_or_eq_true with h | h
  · have honce : (consultations every turn).count subsystem = 1 := by
      apply Nat.le_antisymm (count_consultations_le every turn subsystem)
      exact List.count_pos_iff.mpr (List.contains_iff_mem.mp h)
    rw [honce]
  · rw [h, Bool.false_and, Bool.false_and]

/-- One more index is counted by what holds there. -/
theorem countP_range_succ {p q : Nat → Bool} {n : Nat} (h : ∀ i < n, p i = q i) :
    (List.range (n + 1)).countP p = (List.range n).countP q + if p n then 1 else 0 := by
  rw [List.range_succ, List.countP_append, List.countP_singleton]
  congr 1
  apply List.countP_congr
  intro i hi
  rw [h i (List.mem_range.mp hi)]

end Fires

/-! ## What the loop keeps -/

/-- How many of the turns a call to the subsystem fails at. -/
def firedTurns (plan : FaultPlan) (every : Nat) (turns : List (ScenarioEvent × Nat))
    (subsystem : FaultSubsystem) : Nat :=
  (List.range turns.length).countP (firesAt plan every turns subsystem)

/-- How many of the turns a provider fails at, be it one of them or both. -/
def generativeTurns (plan : FaultPlan) (every : Nat) (turns : List (ScenarioEvent × Nat)) : Nat :=
  (List.range turns.length).countP fun i ↦
    firesAt plan every turns .thinking i || firesAt plan every turns .tts i

/-- The state after some turns of a loop with the midpoint at `middle`. -/
structure Played (plan : FaultPlan) (every middle : Nat) (turns : List (ScenarioEvent × Nat))
    (state : SoakState σ β) : Prop where
  injector : Consulted plan (calls every turns) state.injector
  ingress : state.contentIngressDegraded = firedTurns plan every turns .contentIngress
  generative : state.generativeDegraded = generativeTurns plan every turns
  assetStore : state.assetStoreDegraded = firedTurns plan every turns .assetStore
  midpoint : 1 ≤ middle → middle ≤ turns.length → state.midpoint.isSome

section Turn

variable {steps : SoakSteps σ ε β} {entry : ScenarioEvent} {every index atMs : Nat}
  {state state' : SoakState σ β}

theorem ingress_eq_ok (h : state.ingress steps entry atMs = .ok state') : ∃ drive, state' =
    if isContent entry then
      { state with
        drive
        injector := (state.injector.next .contentIngress).2
        contentIngressDegraded :=
          if (state.injector.next .contentIngress).1.isSome then
            satAdd state.contentIngressDegraded 1
          else state.contentIngressDegraded }
    else { state with drive } := by
  rw [SoakState.ingress] at h
  split at h
  case isFalse hcontent =>
    cases h
    exact ⟨state.drive, by rw [if_neg hcontent]⟩
  case isTrue hcontent =>
    simp only [if_pos hcontent]
    rcases hnext : state.injector.next .contentIngress with ⟨kind, injector⟩
    rw [hnext] at h
    cases kind with
    | some kind =>
      cases h
      exact ⟨state.drive, rfl⟩
    | none =>
      rw [bind_eq_ok] at h
      obtain ⟨drive, -, h⟩ := h
      cases h
      exact ⟨drive, rfl⟩

theorem advance_eq_ok (h : state.advance steps entry index atMs = .ok state') :
    ∃ drive, state' = { state with drive } := by
  rw [SoakState.advance, bind_eq_ok] at h
  obtain ⟨scheduled, -, h⟩ := h
  rw [bind_eq_ok] at h
  obtain ⟨remembered, -, h⟩ := h
  cases h
  exact ⟨_, rfl⟩

theorem churn_eq_ok (h : state.churn steps every index atMs = .ok state') : ∃ drive, state' =
    if index % every = 0 then
      { state with
        drive
        injector := (state.injector.next .assetStore).2
        assetStoreDegraded :=
          if (state.injector.next .assetStore).1.isSome then satAdd state.assetStoreDegraded 1
          else state.assetStoreDegraded }
    else { state with drive } := by
  rw [SoakState.churn] at h
  split at h
  case isFalse hslot =>
    cases h
    exact ⟨state.drive, by rw [if_neg hslot]⟩
  case isTrue hslot =>
    simp only [if_pos hslot]
    rcases hnext : state.injector.next .assetStore with ⟨kind, injector⟩
    rw [hnext] at h
    cases kind with
    | some kind =>
      cases h
      exact ⟨state.drive, rfl⟩
    | none =>
      rw [bind_eq_ok] at h
      obtain ⟨drive, -, h⟩ := h
      cases h
      exact ⟨drive, rfl⟩

end Turn

/-- A counter below its bound counts one more. -/
theorem satAdd_one {n : Nat} (h : n < u64Max) (fired : Bool) :
    (if fired then satAdd n 1 else n) = n + if fired then 1 else 0 := by
  cases fired with
  | false => rfl
  | true =>
    rw [if_pos rfl, if_pos rfl, satAdd]
    omega

section Loop

variable {plan : FaultPlan} {every middle startMs : Nat} {turns : List (ScenarioEvent × Nat)}
  {turn : ScenarioEvent × Nat} {steps : SoakSteps σ ε β} {state state' : SoakState σ β}

theorem firedTurns_le (subsystem : FaultSubsystem) :
    firedTurns plan every turns subsystem ≤ turns.length := by
  have hle := List.countP_le_length (p := firesAt plan every turns subsystem)
    (l := List.range turns.length)
  rwa [List.length_range] at hle

theorem generativeTurns_le : generativeTurns plan every turns ≤ turns.length := by
  have hle := List.countP_le_length (l := List.range turns.length)
    (p := fun i ↦ firesAt plan every turns .thinking i || firesAt plan every turns .tts i)
  rwa [List.length_range] at hle

theorem firedTurns_append (subsystem : FaultSubsystem) :
    firedTurns plan every (turns ++ [turn]) subsystem =
      firedTurns plan every turns subsystem +
        if (consultations every turn).contains subsystem &&
            plan.fires subsystem ((calls every turns).count subsystem + 1) then 1 else 0 := by
  rw [firedTurns, List.length_append, List.length_singleton,
    countP_range_succ fun i hi ↦ firesAt_append_of_lt hi, firesAt_append_last]
  rfl

theorem generativeTurns_append :
    generativeTurns plan every (turns ++ [turn]) = generativeTurns plan every turns +
      if isMiss turn.1 && (plan.fires .thinking ((calls every turns).count .thinking + 1) ||
          plan.fires .tts ((calls every turns).count .tts + 1)) then 1 else 0 := by
  obtain ⟨-, hthinking, htts, -⟩ := contains_consultations every turn
  rw [generativeTurns, List.length_append, List.length_singleton,
    countP_range_succ (q := fun i ↦
      firesAt plan every turns .thinking i || firesAt plan every turns .tts i) ?_]
  · rw [firesAt_append_last, firesAt_append_last, hthinking, htts,
      ← Bool.and_or_distrib_left]
    rfl
  · intro i hi
    rw [firesAt_append_of_lt hi, firesAt_append_of_lt hi]

variable {entry : ScenarioEvent} {index atMs : Nat} {before : List FaultSubsystem}

theorem ingress_consulted (hstep : state.ingress steps entry atMs = .ok state')
    (hplan : plan.WellFormed) (hroom : before.length < u64Max)
    (hcounter : state.contentIngressDegraded < u64Max)
    (h : Consulted plan before state.injector) :
    Consulted plan (before ++ if isContent entry then [.contentIngress] else [])
        state'.injector ∧
      state'.contentIngressDegraded = state.contentIngressDegraded +
        (if isContent entry && plan.fires .contentIngress (before.count .contentIngress + 1) then 1
          else 0) ∧
      state'.generativeDegraded = state.generativeDegraded ∧
      state'.assetStoreDegraded = state.assetStoreDegraded ∧
      state'.midpoint = state.midpoint := by
  obtain ⟨drive, rfl⟩ := ingress_eq_ok hstep
  obtain ⟨hfires, hnext⟩ := h.next hplan hroom .contentIngress
  cases isContent entry with
  | false =>
    refine ⟨?_, rfl, rfl, rfl, rfl⟩
    rw [if_neg Bool.false_ne_true, List.append_nil]
    exact h
  | true =>
    refine ⟨hnext, ?_, rfl, rfl, rfl⟩
    rw [Bool.true_and, ← hfires]
    exact satAdd_one hcounter _

theorem generate_consulted (entry : ScenarioEvent) (state : SoakState σ β)
    (hplan : plan.WellFormed) (hroom : before.length + 1 < u64Max)
    (hcounter : state.generativeDegraded < u64Max) (h : Consulted plan before state.injector) :
    Consulted plan (before ++ if isMiss entry then [.thinking, .tts] else [])
        (state.generate entry).injector ∧
      (state.generate entry).generativeDegraded = state.generativeDegraded +
        (if isMiss entry && (plan.fires .thinking (before.count .thinking + 1) ||
            plan.fires .tts (before.count .tts + 1)) then 1 else 0) ∧
      (state.generate entry).contentIngressDegraded = state.contentIngressDegraded ∧
      (state.generate entry).assetStoreDegraded = state.assetStoreDegraded ∧
      (state.generate entry).midpoint = state.midpoint := by
  obtain ⟨hthinking, hfirst⟩ := h.next hplan (by omega) .thinking
  obtain ⟨htts, hsecond⟩ := hfirst.next hplan
    (by rw [List.length_append, List.length_singleton]; exact hroom) .tts
  have hother : (before ++ [FaultSubsystem.thinking]).count .tts = before.count .tts := by
    rw [List.count_append]
    rfl
  rw [hother] at htts
  rw [List.append_assoc] at hsecond
  rw [SoakState.generate]
  cases isMiss entry with
  | false =>
    refine ⟨?_, rfl, rfl, rfl, rfl⟩
    rw [if_neg Bool.false_ne_true, List.append_nil]
    exact h
  | true =>
    refine ⟨hsecond, ?_, rfl, rfl, rfl⟩
    rw [Bool.true_and, ← hthinking, ← htts]
    exact satAdd_one hcounter _

theorem churn_consulted (hstep : state.churn steps every index atMs = .ok state')
    (hplan : plan.WellFormed) (hroom : before.length < u64Max)
    (hcounter : state.assetStoreDegraded < u64Max) (h : Consulted plan before state.injector) :
    Consulted plan (before ++ if index % every = 0 then [.assetStore] else [])
        state'.injector ∧
      state'.assetStoreDegraded = state.assetStoreDegraded +
        (if decide (index % every = 0) && plan.fires .assetStore (before.count .assetStore + 1)
          then 1 else 0) ∧
      state'.contentIngressDegraded = state.contentIngressDegraded ∧
      state'.generativeDegraded = state.generativeDegraded ∧
      state'.midpoint = state.midpoint := by
  obtain ⟨drive, rfl⟩ := churn_eq_ok hstep
  obtain ⟨hfires, hnext⟩ := h.next hplan hroom .assetStore
  by_cases hslot : index % every = 0
  · rw [if_pos hslot, if_pos hslot]
    refine ⟨hnext, ?_, rfl, rfl, rfl⟩
    rw [decide_eq_true hslot, Bool.true_and, ← hfires]
    exact satAdd_one hcounter _
  · rw [if_neg hslot, if_neg hslot, List.append_nil, decide_eq_false hslot]
    exact ⟨h, rfl, rfl, rfl, rfl⟩

/-- **One turn** consults the injector as the turn calls the subsystems. -/
theorem Played.next (hplan : plan.WellFormed) (hroom : 4 * turns.length + 4 < u64Max)
    (hindex : turn.2 = turns.length) (h : Played plan every middle turns state)
    (hturn : soakEvent steps every startMs middle state turn = .ok state') :
    Played plan every middle (turns ++ [turn]) state' := by
  obtain ⟨entry, index⟩ := turn
  have hlength := length_calls_le every turns
  have hingress := h.ingress.trans_le (firedTurns_le .contentIngress)
  have hgenerative := h.generative.trans_le generativeTurns_le
  have hassets := h.assetStore.trans_le (firedTurns_le .assetStore)
  rw [soakEvent] at hturn
  dsimp only at hturn hindex
  rw [bind_eq_ok] at hturn
  obtain ⟨instant, -, hturn⟩ := hturn
  rw [bind_eq_ok] at hturn
  obtain ⟨admitted, hadmitted, hturn⟩ := hturn
  rw [bind_eq_ok] at hturn
  obtain ⟨advanced, hadvanced, hturn⟩ := hturn
  rw [bind_eq_ok] at hturn
  obtain ⟨churned, hchurned, hturn⟩ := hturn
  cases hturn
  obtain ⟨drive, rfl⟩ := advance_eq_ok hadvanced
  -- The calls of the turn, one part after the other.
  have hcontent :
      (if isContent entry then [FaultSubsystem.contentIngress] else []).length ≤ 1 := by
    split <;> simp
  have hmiss : (if isMiss entry then [FaultSubsystem.thinking, .tts] else []).length ≤ 2 := by
    split <;> simp
  obtain ⟨hconsulted, hcount, hgenerative₁, hassets₁, hmidpoint₁⟩ :=
    ingress_consulted hadmitted hplan (by omega) (by dsimp only; omega) h.injector
  obtain ⟨hconsulted₂, hcount₂, hingress₂, hassets₂, hmidpoint₂⟩ :=
    generate_consulted entry { admitted with drive } hplan
      (by rw [List.length_append]; omega) (by dsimp only; rw [hgenerative₁]; dsimp only; omega)
      hconsulted
  obtain ⟨hconsulted₃, hcount₃, hingress₃, hgenerative₃, hmidpoint₃⟩ :=
    churn_consulted hchurned hplan (by rw [List.length_append, List.length_append]; omega)
      (by rw [hassets₂]; dsimp only; rw [hassets₁]; dsimp only; omega) hconsulted₂
  obtain ⟨hcalled, hthinking, htts, hslot⟩ := contains_consultations every (entry, index)
  refine ⟨?_, ?_, ?_, ?_, ?_⟩
  · rw [calls, List.flatMap_append, List.flatMap_singleton, consultations, ← List.append_assoc,
      ← List.append_assoc]
    exact hconsulted₃
  · rw [firedTurns_append, hcalled, ← h.ingress]
    dsimp only
    rw [hingress₃, hingress₂]
    exact hcount
  · rw [generativeTurns_append, ← h.generative]
    dsimp only
    rw [hgenerative₃, hcount₂]
    dsimp only
    rw [hgenerative₁, count_append_ingress (by decide), count_append_ingress (by decide)]
  · rw [firedTurns_append, hslot, ← h.assetStore]
    dsimp only
    rw [hcount₃, hassets₂]
    dsimp only
    rw [hassets₁, List.count_append, count_append_ingress (by decide)]
    cases isMiss entry <;> rfl
  · intro hpos hle
    dsimp only
    rw [List.length_append, List.length_singleton] at hle
    by_cases hhere : index + 1 = middle
    · rw [if_pos hhere]
      rfl
    · rw [if_neg hhere, hmidpoint₃, hmidpoint₂]
      dsimp only
      rw [hmidpoint₁]
      exact h.midpoint hpos (by omega)

/-- **A whole loop** ends with the calls of the whole trace. -/
theorem played_of_soakLoop {trace : List ScenarioEvent} {drive : σ} (hplan : plan.WellFormed)
    (hroom : 4 * trace.length < u64Max)
    (h : soakLoop steps every startMs trace (SoakState.new drive plan) = .ok state) :
    Played plan every (trace.length / 2) trace.zipIdx state := by
  apply foldlM_invariant (P := Played plan every (trace.length / 2)) _ _ h
  · intro before turn after hturns state state' hplayed hturn
    have hlength := congrArg List.length hturns
    rw [List.length_append, List.length_cons, List.length_zipIdx] at hlength
    have hindex : turn.2 = before.length := by
      have hget : trace.zipIdx[before.length]? = some turn := by
        rw [← hturns, List.getElem?_append_right le_rfl, Nat.sub_self]
        rfl
      rw [List.getElem?_zipIdx, Option.map_eq_some_iff] at hget
      obtain ⟨entry, -, rfl⟩ := hget
      exact Nat.zero_add _
    exact hplayed.next hplan (by omega) hindex hturn
  · exact ⟨Consulted.start hplan, rfl, rfl, rfl,
      fun hpos hle ↦ absurd (hpos.trans hle) (by decide)⟩

end Loop

/-! ## The consistency check -/

/-- What the loop has done to the injector when it is complete: every subsystem was called as
often as was counted before the run, every planned fault was consumed once and in the order of
the plan, and each counter is the number of the events at which a fault of its kind fired. -/
structure Planned (plan : FaultPlan) (every : Nat) (trace : List ScenarioEvent)
    (state : SoakState σ β) : Prop where
  consulted : ∀ subsystem,
    state.injector.counters subsystem = reachableCallCounts trace every subsystem
  inOrder : ∀ subsystem, state.injector.consumed.filter (·.subsystem = subsystem) =
    (plan.faults.filter (·.subsystem = subsystem)).map FaultSpec.injected
  once : state.injector.consumed.Perm (plan.faults.map FaultSpec.injected)
  ingress : state.contentIngressDegraded = firedTurns plan every trace.zipIdx .contentIngress
  generative : state.generativeDegraded = generativeTurns plan every trace.zipIdx
  assetStore : state.assetStoreDegraded = firedTurns plan every trace.zipIdx .assetStore

section Prepared

variable {steps : SoakSteps σ ε β} {arith : FloatArith} {scenario : StreamScenario}
  {overlay : FaultOverlay} {config : SoakConfig} {metadata : ReproducibilityMetadata}
  {trace : List ScenarioEvent} {plan : FaultPlan}

/-- What the checks before the loop establish. -/
theorem prepare_eq_ok
    (h : prepare (ε := ε) arith scenario overlay config metadata = .ok (trace, plan)) :
    trace.length ≤ maxTraceEvents ∧ 2 ≤ trace.length ∧ plan.WellFormed ∧
      plan.faults.Perm overlay.faults ∧
      ∀ fault ∈ plan.faults, fault.occurrence ≤
        reachableCallCounts trace config.generatedAssetEvery fault.subsystem := by
  rw [prepare] at h
  simp only [unit_bind_eq_ok] at h
  obtain ⟨-, -, -, -, -, h⟩ := h
  rw [bind_eq_ok] at h
  obtain ⟨generated, hgenerated, h⟩ := h
  rw [unit_bind_eq_ok, ensure_eq_ok, decide_eq_true_iff, unit_bind_eq_ok, forM_eq_ok,
    bind_eq_ok] at h
  obtain ⟨htwo, hreachable, plan', hplan, h⟩ := h
  cases h
  rw [FaultOverlay.plan, unit_bind_eq_ok, mapError_eq_ok] at hplan
  obtain ⟨hwell, hperm⟩ := FaultPlan.new_eq_ok hplan.2
  refine ⟨length_trace_le (mapError_eq_ok.mp hgenerated), htwo, hwell, hperm, ?_⟩
  intro fault hfault
  have hchecked := ensure_eq_ok.mp (hreachable fault (hperm.mem_iff.mp hfault))
  exact of_decide_eq_true hchecked

/-- **Planned faults fire exactly once**, whatever the subsystems do: if the loop completes, the
plan is consumed and the report is made. -/
theorem soakLoop_planned {startMs : Nat} {drive : σ} {state : SoakState σ β}
    (hprepared : prepare (ε := ε) arith scenario overlay config metadata = .ok (trace, plan))
    (hloop : soakLoop steps config.generatedAssetEvery startMs trace (SoakState.new drive plan) =
      .ok state) :
    Planned plan config.generatedAssetEvery trace state ∧
      ∃ report, finish steps scenario overlay trace state = .ok report ∧
        report.faults.consumed.length = report.faults.planned := by
  obtain ⟨hlength, htwo, hplan, hperm, hreachable⟩ := prepare_eq_ok hprepared
  have hroom : 4 * trace.length < u64Max := by
    unfold maxTraceEvents at hlength
    unfold u64Max
    omega
  have hplayed := played_of_soakLoop hplan hroom hloop
  have hconsumed := hplayed.injector.all_consumed fun fault hfault ↦ by
    rw [count_calls]
    exact hreachable fault hfault
  have hplanned : Planned plan config.generatedAssetEvery trace state := by
    refine ⟨fun subsystem ↦ ?_, hconsumed.1, hconsumed.2, hplayed.ingress, hplayed.generative,
      hplayed.assetStore⟩
    rw [hplayed.injector.counters, count_calls]
  refine ⟨hplanned, ?_⟩
  obtain ⟨midpoint, hmidpoint⟩ := Option.isSome_iff_exists.mp
    (hplayed.midpoint (by omega) (by rw [List.length_zipIdx]; omega))
  have hfired : state.injector.consumed.length = overlay.faults.length := by
    rw [hconsumed.2.length_eq, List.length_map, hperm.length_eq]
  have hfinish : ∃ report, finish steps scenario overlay trace state = .ok report ∧
      report.faults.consumed = state.injector.consumed ∧
        report.faults.planned = overlay.faults.length := by
    simp only [finish, expect_bind_eq_ok, unit_bind_eq_ok, ensure_eq_ok, decide_eq_true_eq]
    exact ⟨_, ⟨midpoint, hmidpoint, hfired, rfl⟩, rfl, rfl⟩
  obtain ⟨report, hreport, hreported, hcount⟩ := hfinish
  exact ⟨report, hreport, by rw [hreported, hcount, hfired]⟩

end Prepared

/-- Subsystems that never fail, and count their content events and their assets. -/
def countingSteps : SoakSteps (Nat × Nat) Empty (Nat × Nat) where
  start _ := .ok (0, 0)
  admitContent _ _ drive := .ok (drive.1 + 1, drive.2)
  scheduleAt _ _ drive := .ok drive
  stopAll _ drive := drive
  advanceTo _ drive := drive
  rememberWorking _ _ drive := .ok drive
  record _ drive := drive
  insertHot _ _ drive := .ok (drive.1, drive.2 + 1)
  snapshot drive := drive

/-- Two faults for the two events of the sample stream. -/
def chatOverlay : FaultOverlay where
  schemaVersion := faultOverlaySchemaVersion
  scenarioId := "chat"
  scenarioVersion := 1
  seed := 3
  faults := [⟨.contentIngress, 2, .flood⟩, ⟨.assetStore, 1, .corrupted⟩]

def chatMetadata : ReproducibilityMetadata where
  datasetId := "scenario-chat-v1"
  gitCommit := "0"
  rustToolchain := "stable"
  configVersion := "1"
  assetVersion := "1"
  streamDurationMs := some 2000

/-- The second message and the first asset fail. -/
theorem soakLoop_planned_chat : ∃ trace plan state,
    prepare (ε := Empty) exactArith (chatScenario "2026-01-31T12:00:00Z") chatOverlay .default
        chatMetadata = .ok (trace, plan) ∧
      soakLoop countingSteps 200 1769860800000 trace (SoakState.new (0, 0) plan) = .ok state ∧
      Planned plan 200 trace state ∧
      ∃ report, finish countingSteps (chatScenario "2026-01-31T12:00:00Z") chatOverlay trace
        state = .ok report ∧ report.faults.consumed.length = report.faults.planned := by
  have hruns : ((prepare (ε := Empty) exactArith (chatScenario "2026-01-31T12:00:00Z")
      chatOverlay .default chatMetadata).toOption.bind fun (trace, plan) ↦
        (soakLoop countingSteps 200 1769860800000 trace
          (SoakState.new (0, 0) plan)).toOption).isSome = true := by decide +kernel
  obtain ⟨state, hstate⟩ := Option.isSome_iff_exists.mp hruns
  obtain ⟨⟨trace, plan⟩, hprepared, hloop⟩ := Option.bind_eq_some_iff.mp hstate
  have hok : ∀ {δ γ : Type} {x : Except δ γ} {a : γ}, x.toOption = some a → x = .ok a := by
    intro δ γ x a h
    cases x with
    | error _ => cases h
    | ok b => exact congrArg _ (Option.some.inj h)
  refine ⟨trace, plan, state, hok hprepared, hok hloop, ?_⟩
  exact soakLoop_planned (hok hprepared) (hok hloop)

end Aivtuber.Hardening
