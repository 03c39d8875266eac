import Aivtuber.App.BudgetWindow

/-!
# The snapshot of the budget governor

`GenerativeBudgetGovernor::snapshot` of `crates/app/src/budget.rs` reports, for each
budget, what is used of it.  `try_admit` computes what it compares with the limits from the
same ledgers by other code: it trims the front of every ledger and then counts all that is
left, while the snapshot counts the untrimmed calls, and of the amounts those that are not
below the horizon.

The six budgets are compared one by one.  What the snapshot reports is what the next
admission compares exactly when no call in front of a ledger is old, and the small amounts
that a trim would leave behind add up to nothing (`snapshot_agrees_iff`).
-/

open Saturating

namespace Aivtuber

/-- The budgets, in the order of the records and of the checks of an admission. -/
inductive BudgetType where
  | concurrent | llmCalls | ttsCalls | llmUnits | ttsChars | estimatedCost
deriving DecidableEq, Repr

/-- What is used of a budget. -/
structure GenerativeBudgetRecord where
  budgetType : BudgetType
  limit : Option Nat
  consumed : Nat
  remaining : Option Nat
  rejectedOrDegraded : Nat
deriving DecidableEq, Repr

namespace GenerativeBudgetGovernor

/-- The record of a budget with a limit. -/
def record (governor : GenerativeBudgetGovernor) (budgetType : BudgetType) (consumed limit : Nat) :
    GenerativeBudgetRecord where
  budgetType := budgetType
  limit := some limit
  consumed := consumed
  remaining := some (limit - consumed)
  rejectedOrDegraded := governor.rejectedDegraded

/-- The sum of the entries of a ledger that are not below the horizon. -/
def windowConsumed (governor : GenerativeBudgetGovernor) (nowMs : Nat) (ledger : List Nat) : Nat :=
  ledgerSum (ledger.filter (governor.policy.horizonMs nowMs ≤ ·))

/-- The records of the enforced budgets; nothing is trimmed. -/
def snapshot (governor : GenerativeBudgetGovernor) (nowMs : Nat) : List GenerativeBudgetRecord :=
  if !governor.isEnforced then []
  else
    (governor.policy.maxConcurrentGenerations.map
      (governor.record .concurrent governor.inFlight)).toList ++
    (governor.policy.maxLlmCallsPerInterval.map
      (governor.record .llmCalls governor.llmCalls.length)).toList ++
    (governor.policy.maxTtsCallsPerInterval.map
      (governor.record .ttsCalls governor.ttsCalls.length)).toList ++
    (governor.policy.maxLlmUnitsPerInterval.map
      (governor.record .llmUnits (governor.windowConsumed nowMs governor.llmUnits))).toList ++
    (governor.policy.maxTtsCharsPerInterval.map
      (governor.record .ttsChars (governor.windowConsumed nowMs governor.ttsChars))).toList ++
    (governor.policy.maxEstimatedCostMilliunitsPerInterval.map
      (governor.record .estimatedCost
        (governor.windowConsumed nowMs governor.costMilliunits))).toList

end GenerativeBudgetGovernor

/-! ## Budget by budget -/

namespace BudgetType

def all : List BudgetType := [concurrent, llmCalls, ttsCalls, llmUnits, ttsChars, estimatedCost]

theorem mem_all (budgetType : BudgetType) : budgetType ∈ all := by
  cases budgetType <;> simp [all]

def limit (policy : GenerativeBudgetPolicy) : BudgetType → Option Nat
  | concurrent => policy.maxConcurrentGenerations
  | llmCalls => policy.maxLlmCallsPerInterval
  | ttsCalls => policy.maxTtsCallsPerInterval
  | llmUnits => policy.maxLlmUnitsPerInterval
  | ttsChars => policy.maxTtsCharsPerInterval
  | estimatedCost => policy.maxEstimatedCostMilliunitsPerInterval

def denial : BudgetType → BudgetDenialReason
  | concurrent => .concurrentBudgetExhausted
  | llmCalls => .llmCallBudgetExhausted
  | ttsCalls => .ttsCallBudgetExhausted
  | llmUnits => .llmUnitBudgetExhausted
  | ttsChars => .ttsCharBudgetExhausted
  | estimatedCost => .costBudgetExhausted

/-- What an admission compares with the limit, once the ledgers are trimmed. -/
def compared (governor : GenerativeBudgetGovernor) : BudgetType → Nat
  | concurrent => governor.inFlight
  | llmCalls => governor.llmCalls.length
  | ttsCalls => governor.ttsCalls.length
  | llmUnits => ledgerSum governor.llmUnits
  | ttsChars => ledgerSum governor.ttsChars
  | estimatedCost => ledgerSum governor.costMilliunits

/-- What the snapshot reports. -/
def reported (governor : GenerativeBudgetGovernor) (nowMs : Nat) : BudgetType → Nat
  | concurrent => governor.inFlight
  | llmCalls => governor.llmCalls.length
  | ttsCalls => governor.ttsCalls.length
  | llmUnits => governor.windowConsumed nowMs governor.llmUnits
  | ttsChars => governor.windowConsumed nowMs governor.ttsChars
  | estimatedCost => governor.windowConsumed nowMs governor.costMilliunits

/-- With so much used of a limit, there is no room for an admission. -/
def lacksRoom (policy : GenerativeBudgetPolicy) (admission : BudgetAdmission) (used limit : Nat) :
    BudgetType → Bool
  | concurrent | llmUnits => limit ≤ used
  | llmCalls | ttsCalls => policy.effectiveLimit (admission.priority = .high) limit ≤ used
  | ttsChars => policy.effectiveLimit (admission.priority = .high) limit <
      satAdd used admission.estimatedTtsChars
  | estimatedCost => limit < satAdd used admission.estimatedCostMilliunits

end BudgetType

/-- The first budget of the records without room for an admission. -/
def shortage (policy : GenerativeBudgetPolicy) (admission : BudgetAdmission)
    (records : List GenerativeBudgetRecord) : Option BudgetDenialReason :=
  records.findSome? fun record ↦
    if record.limit.any fun limit ↦
        record.budgetType.lacksRoom policy admission record.consumed limit then
      some record.budgetType.denial
    else none

namespace GenerativeBudgetGovernor

/-- The enforced budgets, each with what an admission at `nowMs` compares with its limit. -/
def comparedUsage (governor : GenerativeBudgetGovernor) (nowMs : Nat) : List (BudgetType × Nat) :=
  if !governor.isEnforced then []
  else BudgetType.all.filterMap fun budgetType ↦
    (budgetType.limit governor.policy).map fun _ ↦
      (budgetType, budgetType.compared (governor.trimWindows nowMs))

/-- The snapshot at `nowMs` reports what an admission at `nowMs` compares, and an admission that
is charged is refused for the first budget that the snapshot shows without room for it. -/
structure SnapshotAgrees (governor : GenerativeBudgetGovernor) (nowMs : Nat) : Prop where
  usage : (governor.snapshot nowMs).map (fun record ↦ (record.budgetType, record.consumed)) =
    governor.comparedUsage nowMs
  refusals : ∀ admission reason,
    (governor.tryAdmit admission nowMs).2 = .error reason ↔
      governor.charges admission = true ∧
        shortage governor.policy admission (governor.snapshot nowMs) = some reason

/-- The entries of a ledger below the horizon that a trim leaves, since they stand behind one
that is not. -/
def leftBehind (horizonMs : Nat) (ledger : List Nat) : List Nat :=
  (ledger.dropWhile (· < horizonMs)).filter (· < horizonMs)

/-- The enforced ledgers look alike to a trim and to the snapshot: the oldest call is within the
window, and the small amounts left behind by a trim add up to nothing. -/
structure WindowsAlike (governor : GenerativeBudgetGovernor) (nowMs : Nat) : Prop where
  llmCalls : governor.policy.maxLlmCallsPerInterval.isSome = true →
    ∀ atMs ∈ governor.llmCalls.head?, governor.policy.horizonMs nowMs ≤ atMs
  ttsCalls : governor.policy.maxTtsCallsPerInterval.isSome = true →
    ∀ atMs ∈ governor.ttsCalls.head?, governor.policy.horizonMs nowMs ≤ atMs
  ttsChars : governor.policy.maxTtsCharsPerInterval.isSome = true →
    ledgerSum (leftBehind (governor.policy.horizonMs nowMs) governor.ttsChars) = 0
  estimatedCost : governor.policy.maxEstimatedCostMilliunitsPerInterval.isSome = true →
    ledgerSum (leftBehind (governor.policy.horizonMs nowMs) governor.costMilliunits) = 0

/-! ## The snapshot and the checks, read budget by budget -/

variable {governor : GenerativeBudgetGovernor}

theorem snapshot_eq (h : governor.isEnforced = true) (nowMs : Nat) :
    governor.snapshot nowMs = BudgetType.all.filterMap fun budgetType ↦
      (budgetType.limit governor.policy).map
        (governor.record budgetType (budgetType.reported governor nowMs)) := by
  simp only [snapshot, h, BudgetType.all, BudgetType.limit, BudgetType.reported,
    List.filterMap_cons, List.filterMap_nil]
  cases governor.policy.maxConcurrentGenerations <;>
  cases governor.policy.maxLlmCallsPerInterval <;>
  cases governor.policy.maxTtsCallsPerInterval <;>
  cases governor.policy.maxLlmUnitsPerInterval <;>
  cases governor.policy.maxTtsCharsPerInterval <;>
  cases governor.policy.maxEstimatedCostMilliunitsPerInterval <;> rfl

/-- The first of the checks that fails. -/
def firstDenial (policy : GenerativeBudgetPolicy) (admission : BudgetAdmission)
    (used : BudgetType → Nat) : Option BudgetDenialReason :=
  BudgetType.all.findSome? fun budgetType ↦
    if (budgetType.limit policy).any fun limit ↦
        budgetType.lacksRoom policy admission (used budgetType) limit then
      some budgetType.denial
    else none

theorem findSome?_cons_ite {α β : Type} (p : α → Bool) (f : α → β) (a : α) (l : List α) :
    (a :: l).findSome? (fun a ↦ if p a then some (f a) else none) =
      if p a then some (f a) else l.findSome? fun a ↦ if p a then some (f a) else none := by
  cases h : p a <;> simp [h]

theorem denial_eq (governor : GenerativeBudgetGovernor) (admission : BudgetAdmission) :
    governor.denial admission =
      firstDenial governor.policy admission fun budgetType ↦ budgetType.compared governor := by
  simp only [firstDenial, BudgetType.all, findSome?_cons_ite]
  rfl

theorem shortage_snapshot (h : governor.isEnforced = true) (admission : BudgetAdmission)
    (nowMs : Nat) : shortage governor.policy admission (governor.snapshot nowMs) =
      firstDenial governor.policy admission fun budgetType ↦ budgetType.reported governor nowMs := by
  rw [snapshot_eq h, shortage, firstDenial]
  induction BudgetType.all with
  | nil => rfl
  | cons budgetType rest ih =>
    rw [List.filterMap_cons, List.findSome?_cons]
    cases hlimit : budgetType.limit governor.policy with
    | none => exact ih
    | some limit =>
      rw [Option.map_some, List.findSome?_cons, ih]
      rfl

/-- The usages agree when they do for each budget with a limit. -/
theorem usage_iff (h : governor.isEnforced = true) (nowMs : Nat) :
    (governor.snapshot nowMs).map (fun record ↦ (record.budgetType, record.consumed)) =
        governor.comparedUsage nowMs ↔
      ∀ budgetType : BudgetType, (budgetType.limit governor.policy).isSome = true →
        budgetType.reported governor nowMs =
          budgetType.compared (governor.trimWindows nowMs) := by
  rw [snapshot_eq h, List.map_filterMap, comparedUsage, h, Bool.not_true,
    if_neg Bool.false_ne_true]
  constructor
  · intro heq budgetType hlimit
    obtain ⟨limit, hlimit⟩ := Option.isSome_iff_exists.mp hlimit
    have hmem : (budgetType, budgetType.reported governor nowMs) ∈
        BudgetType.all.filterMap fun budgetType ↦ (budgetType.limit governor.policy).map fun _ ↦
          (budgetType, budgetType.compared (governor.trimWindows nowMs)) := by
      rw [← heq, List.mem_filterMap]
      exact ⟨budgetType, budgetType.mem_all, by rw [hlimit]; rfl⟩
    obtain ⟨other, -, hother⟩ := List.mem_filterMap.mp hmem
    obtain ⟨-, -, hpair⟩ := Option.map_eq_some_iff.mp hother
    obtain ⟨rfl, hused⟩ := Prod.mk.inj hpair
    exact hused.symm
  · intro hall
    refine List.filterMap_congr fun budgetType _ ↦ ?_
    cases hlimit : budgetType.limit governor.policy with
    | none => rfl
    | some limit =>
      have hused := hall budgetType (by rw [hlimit]; rfl)
      simp only [Option.map_some, record, hused]

/-- The first denial depends on the usage of the budgets with a limit. -/
theorem firstDenial_congr {policy : GenerativeBudgetPolicy} {used used' : BudgetType → Nat}
    (h : ∀ budgetType : BudgetType, (budgetType.limit policy).isSome = true →
      used budgetType = used' budgetType) (admission : BudgetAdmission) :
    firstDenial policy admission used = firstDenial policy admission used' := by
  rw [firstDenial, firstDenial]
  congr 1
  funext budgetType
  cases hlimit : budgetType.limit policy with
  | none => rfl
  | some limit => rw [h budgetType (by rw [hlimit]; rfl)]

/-- An admission is refused for the first budget without room for it. -/
theorem refused_iff (governor : GenerativeBudgetGovernor) (admission : BudgetAdmission)
    (nowMs : Nat) (reason : BudgetDenialReason) :
    (governor.tryAdmit admission nowMs).2 = .error reason ↔ governor.charges admission = true ∧
      firstDenial governor.policy admission
        (fun budgetType ↦ budgetType.compared (governor.trimWindows nowMs)) = some reason := by
  have hdenial := denial_eq (governor.trimWindows nowMs) admission
  rw [show (governor.trimWindows nowMs).policy = governor.policy from rfl] at hdenial
  cases hcharges : governor.charges admission with
  | false =>
    rw [Book.tryAdmit_uncharged hcharges]
    simp
  | true =>
    rw [Book.tryAdmit_charged hcharges, ← hdenial]
    cases (governor.trimWindows nowMs).denial admission <;> simp

/-- When the usages agree, so do the refusals. -/
theorem snapshotAgrees_iff (h : governor.isEnforced = true) (nowMs : Nat) :
    governor.SnapshotAgrees nowMs ↔
      ∀ budgetType : BudgetType, (budgetType.limit governor.policy).isSome = true →
        budgetType.reported governor nowMs =
          budgetType.compared (governor.trimWindows nowMs) := by
  rw [← usage_iff h]
  refine ⟨SnapshotAgrees.usage, fun husage ↦ ⟨husage, fun admission reason ↦ ?_⟩⟩
  rw [refused_iff, shortage_snapshot h,
    firstDenial_congr ((usage_iff h nowMs).mp husage) admission]

/-- Nothing is enforced, and nothing is reported. -/
theorem snapshotAgrees_of_not_enforced (h : governor.isEnforced = false) (nowMs : Nat) :
    governor.SnapshotAgrees nowMs := by
  have hsnapshot : governor.snapshot nowMs = [] := by
    rw [snapshot, h]
    rfl
  refine ⟨?_, fun admission reason ↦ ?_⟩
  · rw [hsnapshot, comparedUsage, h]
    rfl
  · have hcharges : governor.charges admission = false := by
      rw [charges, h, Bool.false_and]
    rw [refused_iff, hcharges]
    simp

/-! ## Where the two computations differ -/

/-- A trim keeps all the calls exactly when the one in front is within the window. -/
theorem length_dropWhile_eq_iff (horizonMs : Nat) (ledger : List Nat) :
    ledger.length = (ledger.dropWhile (· < horizonMs)).length ↔
      ∀ atMs ∈ ledger.head?, horizonMs ≤ atMs := by
  cases ledger with
  | nil => simp
  | cons atMs rest =>
    have hrest := (List.dropWhile_suffix (fun atMs ↦ decide (atMs < horizonMs))
      (l := rest)).length_le
    rw [List.dropWhile_cons, List.head?_cons]
    by_cases hold : atMs < horizonMs
    · rw [if_pos (decide_eq_true hold)]
      refine ⟨fun h ↦ ?_, fun h ↦ absurd (h atMs rfl) (Nat.not_le.mpr hold)⟩
      rw [List.length_cons] at h
      omega
    · rw [if_neg (by simpa using hold)]
      refine ⟨fun _ other hother ↦ ?_, fun _ ↦ rfl⟩
      cases hother
      exact Nat.not_lt.mp hold

/-- What a trim drops is nothing to the snapshot. -/
theorem filter_dropWhile (horizonMs : Nat) (ledger : List Nat) :
    (ledger.dropWhile (· < horizonMs)).filter (horizonMs ≤ ·) =
      ledger.filter (horizonMs ≤ ·) := by
  induction ledger with
  | nil => rfl
  | cons amount rest ih =>
    by_cases hsmall : amount < horizonMs
    · rw [List.dropWhile_cons_of_pos (by simpa using hsmall), ih,
        List.filter_cons_of_neg (by simpa using hsmall)]
    · rw [List.dropWhile_cons_of_neg (by simpa using hsmall)]

/-- A sum splits at the horizon. -/
theorem sum_filter_add (horizonMs : Nat) (ledger : List Nat) :
    (ledger.filter (horizonMs ≤ ·)).sum + (ledger.filter (· < horizonMs)).sum = ledger.sum := by
  induction ledger with
  | nil => rfl
  | cons amount rest ih =>
    by_cases hsmall : amount < horizonMs
    · rw [List.filter_cons_of_neg (by simpa using hsmall),
        List.filter_cons_of_pos (by simpa using hsmall), List.sum_cons, List.sum_cons]
      omega
    · rw [List.filter_cons_of_pos (by simpa using hsmall),
        List.filter_cons_of_neg (by simpa using hsmall), List.sum_cons, List.sum_cons]
      omega

/-- The snapshot's sum is that of the trimmed ledger exactly when the small amounts that the
trim leaves add up to nothing. -/
theorem windowConsumed_eq_iff (nowMs : Nat) (ledger : List Nat) :
    governor.windowConsumed nowMs ledger =
        ledgerSum (ledger.dropWhile (· < governor.policy.horizonMs nowMs)) ↔
      ledgerSum (leftBehind (governor.policy.horizonMs nowMs) ledger) = 0 := by
  have hsplit := sum_filter_add (governor.policy.horizonMs nowMs)
    (ledger.dropWhile (· < governor.policy.horizonMs nowMs))
  rw [windowConsumed, ← filter_dropWhile, leftBehind, ledgerSum, ledgerSum, ledgerSum]
  omega

theorem llmUnits_returnSlot (governor : GenerativeBudgetGovernor) (slot : Bool) :
    (governor.returnSlot slot).llmUnits = governor.llmUnits := by
  rw [returnSlot]
  split <;> rfl

theorem llmUnits_update {host : BudgetHost} {index : Nat}
    {f : BudgetReservation → Option BudgetReservation × GenerativeBudgetGovernor}
    (h : host.governor.llmUnits = []) (hf : ∀ reservation, (f reservation).2.llmUnits = []) :
    (host.update index f).governor.llmUnits = [] := by
  rw [BudgetHost.update]
  cases host.reservation index with
  | none => exact h
  | some reservation => exact hf reservation

/-- No operation charges the units of the language model. -/
theorem llmUnits_eq_nil (policy : GenerativeBudgetPolicy) (ops : List BudgetHost.Op) :
    (BudgetHost.machine.run (.new policy) ops).governor.llmUnits = [] := by
  refine BudgetHost.machine.run_invariant (P := fun host ↦ host.governor.llmUnits = []) ?_ rfl ops
  intro host op h
  cases op with
  | tryAdmit admission nowMs =>
    dsimp only [Machine.next, BudgetHost.machine, BudgetHost.perform]
    cases hcharges : host.governor.charges admission with
    | false =>
      rw [Book.tryAdmit_uncharged hcharges]
      exact h
    | true =>
      have htrim : (host.governor.trimWindows nowMs).llmUnits = [] := by
        rw [trimWindows, h]
        rfl
      rw [Book.tryAdmit_charged hcharges]
      cases (host.governor.trimWindows nowMs).denial admission <;> exact htrim
  | settle index ttsChars cost =>
    dsimp only [Machine.next, BudgetHost.machine, BudgetHost.perform]
    refine llmUnits_update h fun reservation ↦ ?_
    rw [BudgetReservation.settle]
    cases reservation.finished with
    | false => exact (llmUnits_returnSlot _ _).trans h
    | true => exact h
  | release index =>
    dsimp only [Machine.next, BudgetHost.machine, BudgetHost.perform]
    refine llmUnits_update h fun reservation ↦ ?_
    rw [BudgetReservation.release]
    cases reservation.finished with
    | false => exact (llmUnits_returnSlot _ _).trans h
    | true => exact h
  | clone index => exact h
  | drop index => exact llmUnits_update h fun reservation ↦ (llmUnits_returnSlot _ _).trans h
  | noteDegraded => exact h
  | tick nowMs =>
    dsimp only [Machine.next, BudgetHost.machine, BudgetHost.perform]
    rw [tick, trimWindows, h]
    rfl

end GenerativeBudgetGovernor

open GenerativeBudgetGovernor in
/-- **The snapshot and the admissions.**  In every state that a host can reach, the snapshot of
an enforcing governor reports what an admission of the same instant compares, and shows too
little room for exactly what is refused, if and only if its windows look alike to both. -/
theorem BudgetHost.snapshot_agrees_iff (policy : GenerativeBudgetPolicy)
    (ops : List BudgetHost.Op) (nowMs : Nat) :
    (BudgetHost.machine.run (.new policy) ops).governor.SnapshotAgrees nowMs ↔
      (BudgetHost.machine.run (.new policy) ops).governor.isEnforced = false ∨
        (BudgetHost.machine.run (.new policy) ops).governor.WindowsAlike nowMs := by
  have hunits := llmUnits_eq_nil policy ops
  revert hunits
  generalize (BudgetHost.machine.run (.new policy) ops).governor = governor
  intro hunits
  cases henforced : governor.isEnforced with
  | false =>
    exact ⟨fun _ ↦ .inl rfl, fun _ ↦ snapshotAgrees_of_not_enforced henforced nowMs⟩
  | true =>
    rw [snapshotAgrees_iff henforced]
    constructor
    · intro h
      refine .inr ?_
      exact
        { llmCalls := fun hlimit ↦ (length_dropWhile_eq_iff _ _).mp (h .llmCalls hlimit)
          ttsCalls := fun hlimit ↦ (length_dropWhile_eq_iff _ _).mp (h .ttsCalls hlimit)
          ttsChars := fun hlimit ↦ (windowConsumed_eq_iff _ _).mp (h .ttsChars hlimit)
          estimatedCost := fun hlimit ↦
            (windowConsumed_eq_iff _ _).mp (h .estimatedCost hlimit) }
    · intro hwindows
      have h := hwindows.resolve_left (Bool.noConfusion)
      rintro (_ | _ | _ | _ | _ | _) hlimit
      · rfl
      · exact (length_dropWhile_eq_iff _ _).mpr (h.llmCalls hlimit)
      · exact (length_dropWhile_eq_iff _ _).mpr (h.ttsCalls hlimit)
      · refine (windowConsumed_eq_iff _ _).mpr ?_
        rw [hunits]
        rfl
      · exact (windowConsumed_eq_iff _ _).mpr (h.ttsChars hlimit)
      · exact (windowConsumed_eq_iff _ _).mpr (h.estimatedCost hlimit)

/-- One call a second. -/
def oneCallPolicy : GenerativeBudgetPolicy :=
  { GenerativeBudgetPolicy.default with
    enabled := true
    maxLlmCallsPerInterval := some 1
    intervalMs := 1000 }

/-- The snapshot shows no room, although the call has left the window and the next one is
admitted. -/
theorem BudgetHost.snapshot_counts_old_calls :
    ¬(BudgetHost.machine.run (.new oneCallPolicy)
      [.tryAdmit ⟨.ordinary, 0, 0⟩ 10]).governor.SnapshotAgrees 2000 := by
  intro h
  have hshort := (h.refusals ⟨.ordinary, 0, 0⟩ .llmCallBudgetExhausted).mpr (by decide)
  cases hshort

end Aivtuber
