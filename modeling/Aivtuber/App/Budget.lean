import Aivtuber.Base.Check
import Aivtuber.Base.Machine
import Aivtuber.Base.Saturating
import Aivtuber.Base.Text

/-!
# The budget governor

`GenerativeBudgetGovernor` of `crates/app/src/budget.rs`.  Before any provider work, the
governor admits a request against its budgets: requests in flight, calls, characters and
cost.  Calls are kept by their instants, characters and cost by their amounts, and one
function trims all of these ledgers.

A host owns a governor and the reservations that it was given, which it settles,
releases, clones or drops.
-/

open Aivtuber.Check Aivtuber.Text Saturating

namespace Aivtuber

/-- The policy; a budget that is `none` is not enforced. -/
structure GenerativeBudgetPolicy where
  enabled : Bool
  maxConcurrentGenerations : Option Nat
  maxLlmCallsPerInterval : Option Nat
  maxTtsCallsPerInterval : Option Nat
  maxLlmUnitsPerInterval : Option Nat
  maxTtsCharsPerInterval : Option Nat
  maxEstimatedCostMilliunitsPerInterval : Option Nat
  pricingInputVersion : Option String
  intervalMs : Nat
  highPriorityReservePercent : Nat
  chargeShadowToBudget : Bool
deriving DecidableEq, Repr

structure BudgetConfigError where
  field : String
  message : String
deriving DecidableEq, Repr

namespace GenerativeBudgetPolicy

def default : GenerativeBudgetPolicy where
  enabled := false
  maxConcurrentGenerations := none
  maxLlmCallsPerInterval := none
  maxTtsCallsPerInterval := none
  maxLlmUnitsPerInterval := none
  maxTtsCharsPerInterval := none
  maxEstimatedCostMilliunitsPerInterval := none
  pricingInputVersion := none
  intervalMs := 60000
  highPriorityReservePercent := 0
  chargeShadowToBudget := false

/-- A limit of zero is a mistake. -/
def validateLimit (name : String) (limit : Option Nat) : Except BudgetConfigError Unit :=
  ensure ⟨name, "must be greater than zero when enforced"⟩ (limit ≠ some 0)

def validate (policy : GenerativeBudgetPolicy) :
    Except BudgetConfigError GenerativeBudgetPolicy := do
  ensure ⟨"interval_ms", "must be greater than zero"⟩ (policy.intervalMs ≠ 0)
  validateLimit "max_concurrent_generations" policy.maxConcurrentGenerations
  validateLimit "max_llm_calls_per_interval" policy.maxLlmCallsPerInterval
  validateLimit "max_tts_calls_per_interval" policy.maxTtsCallsPerInterval
  validateLimit "max_llm_units_per_interval" policy.maxLlmUnitsPerInterval
  validateLimit "max_tts_chars_per_interval" policy.maxTtsCharsPerInterval
  validateLimit "max_estimated_cost_milliunits_per_interval"
    policy.maxEstimatedCostMilliunitsPerInterval
  ensure ⟨"pricing_input_version", "is required when a cost budget is configured"⟩
    (policy.maxEstimatedCostMilliunitsPerInterval.isNone ||
      policy.pricingInputVersion.any fun version ↦ !isBlank version)
  ensure ⟨"high_priority_reserve_percent", "must be within 0..=100"⟩
    (policy.highPriorityReservePercent ≤ 100)
  .ok policy

example : default.validate = .ok default := by decide

def reserveShare (policy : GenerativeBudgetPolicy) (limit : Nat) : Nat :=
  satMul limit policy.highPriorityReservePercent / 100

/-- What ordinary admissions may use of a limit. -/
def ordinaryShare (policy : GenerativeBudgetPolicy) (limit : Nat) : Nat :=
  limit - policy.reserveShare limit

/-- The share of a limit that a priority may use. -/
def effectiveLimit (policy : GenerativeBudgetPolicy) (high : Bool) (limit : Nat) : Nat :=
  if high then limit else policy.ordinaryShare limit

/-- The oldest instant of the window that ends at `nowMs`. -/
def horizonMs (policy : GenerativeBudgetPolicy) (nowMs : Nat) : Nat := nowMs - policy.intervalMs

end GenerativeBudgetPolicy

inductive BudgetPriorityClass where
  | high | ordinary | shadow
deriving DecidableEq, Repr

inductive BudgetDenialReason where
  | concurrentBudgetExhausted
  | llmCallBudgetExhausted
  | ttsCallBudgetExhausted
  | llmUnitBudgetExhausted
  | ttsCharBudgetExhausted
  | costBudgetExhausted
deriving DecidableEq, Repr

structure BudgetAdmission where
  priority : BudgetPriorityClass
  estimatedTtsChars : Nat
  estimatedCostMilliunits : Nat
deriving DecidableEq, Repr

/-- A reservation; `inFlightSlot` says whether it still holds a slot of its governor. -/
structure BudgetReservation where
  grantedAtMs : Nat
  chargedTtsChars : Nat
  chargedCostMilliunits : Nat
  inFlightSlot : Bool
  finished : Bool
deriving DecidableEq, Repr

structure GenerativeBudgetGovernor where
  policy : GenerativeBudgetPolicy
  llmCalls : List Nat
  ttsCalls : List Nat
  llmUnits : List Nat
  ttsChars : List Nat
  costMilliunits : List Nat
  /-- A 32-bit counter, shared with the reservations. -/
  inFlight : Nat
  inFlightHighWater : Nat
  deniedTotal : Nat
  rejectedDegraded : Nat
  denialsByReason : List (BudgetDenialReason × Nat)

/-- The unsigned 64-bit sum of a ledger, which wraps. -/
def ledgerSum (ledger : List Nat) : Nat := ledger.sum % 2 ^ 64

/-- Charge a ledger, unless there is nothing to charge. -/
def pushCharge (ledger : List Nat) (amount : Nat) : List Nat :=
  if 0 < amount then ledger ++ [amount] else ledger

namespace GenerativeBudgetGovernor

def new (policy : GenerativeBudgetPolicy) : GenerativeBudgetGovernor where
  policy := policy
  llmCalls := []
  ttsCalls := []
  llmUnits := []
  ttsChars := []
  costMilliunits := []
  inFlight := 0
  inFlightHighWater := 0
  deniedTotal := 0
  rejectedDegraded := 0
  denialsByReason := []

def isEnforced (governor : GenerativeBudgetGovernor) : Bool := governor.policy.enabled

/-- Every ledger loses the entries in front that are smaller than the horizon. -/
def trimWindows (governor : GenerativeBudgetGovernor) (nowMs : Nat) : GenerativeBudgetGovernor :=
  let trim := List.dropWhile (· < governor.policy.horizonMs nowMs)
  { governor with
    llmCalls := trim governor.llmCalls
    ttsCalls := trim governor.ttsCalls
    llmUnits := trim governor.llmUnits
    ttsChars := trim governor.ttsChars
    costMilliunits := trim governor.costMilliunits }

/-- The denials with one more of a reason. -/
def countDenial (reason : BudgetDenialReason) :
    List (BudgetDenialReason × Nat) → List (BudgetDenialReason × Nat)
  | [] => [(reason, 1)]
  | (known, count) :: rest =>
    if known = reason then (known, satAdd count 1) :: rest
    else (known, count) :: countDenial reason rest

def deny (governor : GenerativeBudgetGovernor) (reason : BudgetDenialReason) :
    GenerativeBudgetGovernor :=
  { governor with
    deniedTotal := satAdd governor.deniedTotal 1
    denialsByReason := countDenial reason governor.denialsByReason }

def unchargedReservation (nowMs : Nat) : BudgetReservation where
  grantedAtMs := nowMs
  chargedTtsChars := 0
  chargedCostMilliunits := 0
  inFlightSlot := false
  finished := false

/-- The first budget, in the order of the checks, that has no room for an admission. -/
def denial (governor : GenerativeBudgetGovernor) (admission : BudgetAdmission) :
    Option BudgetDenialReason :=
  let policy := governor.policy
  let high : Bool := admission.priority = .high
  if policy.maxConcurrentGenerations.any fun limit ↦ limit ≤ governor.inFlight then
    some .concurrentBudgetExhausted
  else if policy.maxLlmCallsPerInterval.any fun limit ↦
      policy.effectiveLimit high limit ≤ governor.llmCalls.length then
    some .llmCallBudgetExhausted
  else if policy.maxTtsCallsPerInterval.any fun limit ↦
      policy.effectiveLimit high limit ≤ governor.ttsCalls.length then
    some .ttsCallBudgetExhausted
  else if policy.maxLlmUnitsPerInterval.any fun limit ↦ limit ≤ ledgerSum governor.llmUnits then
    some .llmUnitBudgetExhausted
  else if policy.maxTtsCharsPerInterval.any fun limit ↦ policy.effectiveLimit high limit <
      satAdd (ledgerSum governor.ttsChars) admission.estimatedTtsChars then
    some .ttsCharBudgetExhausted
  else if policy.maxEstimatedCostMilliunitsPerInterval.any fun limit ↦
      limit < satAdd (ledgerSum governor.costMilliunits) admission.estimatedCostMilliunits then
    some .costBudgetExhausted
  else none

/-- Charge the ledgers of an admission, and its slot. -/
def grant (governor : GenerativeBudgetGovernor) (admission : BudgetAdmission) (nowMs : Nat) :
    GenerativeBudgetGovernor × BudgetReservation :=
  let policy := governor.policy
  let chargedTtsChars := if policy.maxTtsCharsPerInterval.isSome then admission.estimatedTtsChars
    else 0
  let chargedCostMilliunits := if policy.maxEstimatedCostMilliunitsPerInterval.isSome then
    admission.estimatedCostMilliunits else 0
  let inFlight := (governor.inFlight + 1) % 2 ^ 32
  ({ governor with
      llmCalls := if policy.maxLlmCallsPerInterval.isSome then governor.llmCalls ++ [nowMs]
        else governor.llmCalls
      ttsCalls := if policy.maxTtsCallsPerInterval.isSome then governor.ttsCalls ++ [nowMs]
        else governor.ttsCalls
      ttsChars := pushCharge governor.ttsChars chargedTtsChars
      costMilliunits := pushCharge governor.costMilliunits chargedCostMilliunits
      inFlight := inFlight
      inFlightHighWater := max governor.inFlightHighWater inFlight },
    { grantedAtMs := nowMs
      chargedTtsChars := chargedTtsChars
      chargedCostMilliunits := chargedCostMilliunits
      inFlightSlot := true
      finished := false })

def tryAdmit (governor : GenerativeBudgetGovernor) (admission : BudgetAdmission) (nowMs : Nat) :
    GenerativeBudgetGovernor × Except BudgetDenialReason BudgetReservation :=
  if !governor.isEnforced then (governor, .ok (unchargedReservation nowMs))
  else if admission.priority = .shadow && !governor.policy.chargeShadowToBudget then
    (governor, .ok (unchargedReservation nowMs))
  else
    let governor := governor.trimWindows nowMs
    match governor.denial admission with
    | some reason => (governor.deny reason, .error reason)
    | none =>
      let (governor, reservation) := governor.grant admission nowMs
      (governor, .ok reservation)

/-- Give back a slot, if there is one; the counter wraps. -/
def returnSlot (governor : GenerativeBudgetGovernor) (inFlightSlot : Bool) :
    GenerativeBudgetGovernor :=
  if inFlightSlot then { governor with inFlight := (governor.inFlight + (2 ^ 32 - 1)) % 2 ^ 32 }
  else governor

def settleUnits (governor : GenerativeBudgetGovernor)
    (ttsChars estimatedCostMilliunits alreadyChargedTtsChars alreadyChargedCostMilliunits : Nat)
    (inFlightSlot : Bool) : GenerativeBudgetGovernor :=
  let governor := governor.returnSlot inFlightSlot
  let extraTtsChars := ttsChars - alreadyChargedTtsChars
  let extraCost := estimatedCostMilliunits - alreadyChargedCostMilliunits
  { governor with
    ttsChars := if governor.policy.maxTtsCharsPerInterval.isSome then
      pushCharge governor.ttsChars extraTtsChars else governor.ttsChars
    costMilliunits := if governor.policy.maxEstimatedCostMilliunitsPerInterval.isSome then
      pushCharge governor.costMilliunits extraCost else governor.costMilliunits }

def releaseSlot (governor : GenerativeBudgetGovernor) (inFlightSlot : Bool) :
    GenerativeBudgetGovernor :=
  let governor := governor.returnSlot inFlightSlot
  { governor with rejectedDegraded := satAdd governor.rejectedDegraded 1 }

def noteDegraded (governor : GenerativeBudgetGovernor) : GenerativeBudgetGovernor :=
  { governor with rejectedDegraded := satAdd governor.rejectedDegraded 1 }

def tick (governor : GenerativeBudgetGovernor) (nowMs : Nat) : GenerativeBudgetGovernor :=
  governor.trimWindows nowMs

end GenerativeBudgetGovernor

namespace BudgetReservation

/-- The reservation once it is finished: its slot is taken. -/
def close (reservation : BudgetReservation) : BudgetReservation :=
  { reservation with finished := true, inFlightSlot := false }

def settle (reservation : BudgetReservation) (governor : GenerativeBudgetGovernor)
    (ttsChars estimatedCostMilliunits : Nat) : BudgetReservation × GenerativeBudgetGovernor :=
  if reservation.finished then (reservation, governor)
  else
    (reservation.close,
      governor.settleUnits ttsChars estimatedCostMilliunits reservation.chargedTtsChars
        reservation.chargedCostMilliunits reservation.inFlightSlot)

def release (reservation : BudgetReservation) (governor : GenerativeBudgetGovernor) :
    BudgetReservation × GenerativeBudgetGovernor :=
  if reservation.finished then (reservation, governor)
  else (reservation.close, governor.releaseSlot reservation.inFlightSlot)

/-- A drop returns the slot alone. -/
def drop (reservation : BudgetReservation) (governor : GenerativeBudgetGovernor) :
    GenerativeBudgetGovernor := governor.returnSlot reservation.inFlightSlot

end BudgetReservation

/-! ## A host -/

/-- A governor and the reservations that it gave; a dropped one leaves `none`. -/
structure BudgetHost where
  governor : GenerativeBudgetGovernor
  reservations : List (Option BudgetReservation)

namespace BudgetHost

def new (policy : GenerativeBudgetPolicy) : BudgetHost := ⟨.new policy, []⟩

inductive Op where
  | tryAdmit (admission : BudgetAdmission) (nowMs : Nat)
  | settle (index ttsChars estimatedCostMilliunits : Nat)
  | release (index : Nat)
  | clone (index : Nat)
  | drop (index : Nat)
  | noteDegraded
  | tick (nowMs : Nat)
deriving DecidableEq

/-- The reservation at an index, unless it was dropped. -/
def reservation (host : BudgetHost) (index : Nat) : Option BudgetReservation :=
  (host.reservations[index]?).join

/-- Run `f` on the reservation at an index; there may be none. -/
def update (host : BudgetHost) (index : Nat)
    (f : BudgetReservation → Option BudgetReservation × GenerativeBudgetGovernor) : BudgetHost :=
  match host.reservation index with
  | none => host
  | some reservation =>
    { governor := (f reservation).2
      reservations := host.reservations.set index (f reservation).1 }

def perform (host : BudgetHost) : Op → BudgetHost × Except BudgetDenialReason Unit
  | .tryAdmit admission nowMs =>
    match host.governor.tryAdmit admission nowMs with
    | (governor, .ok reservation) =>
      (⟨governor, host.reservations ++ [some reservation]⟩, .ok ())
    | (governor, .error reason) => ({ host with governor }, .error reason)
  | .settle index ttsChars estimatedCostMilliunits =>
    (host.update index fun reservation ↦
      (reservation.settle host.governor ttsChars estimatedCostMilliunits).map some id, .ok ())
  | .release index =>
    (host.update index fun reservation ↦ (reservation.release host.governor).map some id, .ok ())
  | .clone index =>
    ({ host with reservations := host.reservations ++
        ((host.reservation index).map some).toList }, .ok ())
  | .drop index =>
    (host.update index fun reservation ↦ (none, reservation.drop host.governor), .ok ())
  | .noteDegraded => ({ host with governor := host.governor.noteDegraded }, .ok ())
  | .tick nowMs => ({ host with governor := host.governor.tick nowMs }, .ok ())

def machine : Machine BudgetHost Op (Except BudgetDenialReason Unit) := ⟨perform⟩

end BudgetHost

end Aivtuber
