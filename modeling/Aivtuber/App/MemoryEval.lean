import Aivtuber.Base.Rounding
import Aivtuber.Domain.Context

/-!
# Long-range memory evaluation

The case document of `crates/app/src/memory_eval.rs`, and the report that measures what reached
generation.  The claims of a case say what a store was told; its expectations say which of them
a request has to receive, and which it must not.
-/

open Aivtuber.Check Aivtuber.Text Saturating

namespace Aivtuber

def memoryEvalFixtureSchemaVersion : String := "memory-eval-v1"
def memoryEvalReportSchemaVersion : String := "memory-long-range-eval/v1"

/-- How values are shown in messages. -/
structure Format where
  debug : String → String
  debugList : List String → String
  float : Float64 → String

/-! ## Cases -/

structure MemoryEvalConfig where
  maxEntries : Option Nat
  durableTtlMs : Option Nat
  maxClaimBytes : Option Nat
  maxLinks : Option Nat
  maxLinksPerMemory : Option Nat
deriving DecidableEq

structure MemoryEvalClaim where
  eventId : String
  actor : Option String
  text : String
  textBytes : Option Nat
  topic : Option String
  recordedAtMs : Nat
  eventAtMs : Option Nat
  supersedes : Option String
  causedBy : Option String
deriving DecidableEq

namespace MemoryEvalClaim

/-- When the content of the claim happened. -/
def eventAt (claim : MemoryEvalClaim) : Nat := claim.eventAtMs.getD claim.recordedAtMs

def isAscii (text : String) : Bool := text.toList.all fun c ↦ c.toNat < 128

/-- The text of the claim, repeated up to `textBytes`. -/
def claimText (format : Format) (claim : MemoryEvalClaim) : Except String String :=
  match claim.textBytes with
  | none => .ok claim.text
  | some bytes =>
    if bytes = 0 ∨ !isAscii claim.text then
      .error ("claim " ++ format.debug claim.eventId ++
        " text_bytes requires a non-empty ASCII seed")
    else .ok (String.ofList
      ((List.replicate bytes claim.text.toList).flatten.take bytes))

end MemoryEvalClaim

structure MemoryEvalQuery where
  actor : Option String
  topic : Option String
  nowMs : Nat
  chargedBytes : Nat
deriving DecidableEq

structure MemoryEvalCase where
  id : String
  config : MemoryEvalConfig
  claims : List MemoryEvalClaim
  query : MemoryEvalQuery
  mustDeliver : List String
  mustNotDeliver : List String
  stale : List String
  expectedTemporalErrors : Nat
  expectedDeliveryOrder : List String
  expectedRetainedCausalSpans : Option Nat
deriving DecidableEq

structure MemoryEvalFixture where
  schemaVersion : String
  cases : List MemoryEvalCase
deriving DecidableEq

/-! ## Validation -/

namespace MemoryEvalClaim

def declares (claims : List MemoryEvalClaim) (id : String) : Bool :=
  claims.any fun claim ↦ claim.eventId = id

/-- The checks of one claim, after the claims before it. -/
def validate (format : Format) (fail : String → String) (claims before : List MemoryEvalClaim)
    (claim : MemoryEvalClaim) : Except String Unit := do
  let id := format.debug claim.eventId
  ensure (fail ("claim id " ++ id ++ " is empty or repeated"))
    (!(isBlank claim.eventId || declares before claim.eventId))
  ensure (fail ("claim " ++ id ++ " has empty text")) (claim.text ≠ "")
  ensure (fail ("claim " ++ id ++ " text_bytes requires a non-empty ASCII seed"))
    (claim.textBytes.all fun bytes ↦ !(bytes = 0 || !isAscii claim.text))
  match claim.supersedes with
  | some target =>
    ensure (fail ("claim " ++ id ++ " supersedes unknown claim " ++ format.debug target))
      (declares claims target)
  | none => .ok ()
  match claim.causedBy with
  | some target =>
    ensure (fail ("claim " ++ id ++ " is caused by unknown claim " ++ format.debug target))
      (declares claims target)
  | none => .ok ()

/-- The checks of all claims, in order. -/
def validateAll (format : Format) (fail : String → String) (claims : List MemoryEvalClaim) :
    (before rest : List MemoryEvalClaim) → Except String Unit
  | _, [] => .ok ()
  | before, claim :: rest => do
    validate format fail claims before claim
    validateAll format fail claims (before ++ [claim]) rest

end MemoryEvalClaim

namespace MemoryEvalCase

def validate (format : Format) (before : List MemoryEvalCase) (case : MemoryEvalCase) :
    Except String Unit := do
  let fail := fun message ↦ "case " ++ format.debug case.id ++ ": " ++ message
  ensure "case ids must not be empty" (!isBlank case.id)
  ensure (fail "duplicate case id") (!before.any fun other ↦ other.id = case.id)
  ensure (fail "a case needs at least one claim") (!case.claims.isEmpty)
  MemoryEvalClaim.validateAll format fail case.claims [] case.claims
  (case.mustDeliver ++ case.mustNotDeliver ++ case.expectedDeliveryOrder).forM fun id ↦
    ensure (fail ("expectation names unknown claim " ++ format.debug id))
      (MemoryEvalClaim.declares case.claims id)
  case.stale.forM fun id ↦
    ensure (fail ("stale claim " ++ format.debug id ++ " must also be in must_not_deliver"))
      (id ∈ case.mustNotDeliver)
  case.mustDeliver.forM fun id ↦
    ensure (fail ("claim " ++ format.debug id ++ " is both required and refused"))
      (id ∉ case.mustNotDeliver)
  match case.expectedRetainedCausalSpans with
  | none => .ok ()
  | some expected =>
    let declared := (case.claims.filter fun claim ↦ claim.causedBy.isSome).length
    ensure
      (fail ("expected_retained_causal_spans " ++ toString expected ++ " exceeds the " ++
        toString declared ++ " declared causal edge(s) in the case"))
      (expected ≤ declared)

end MemoryEvalCase

namespace MemoryEvalFixture

def validateCases (format : Format) : (before rest : List MemoryEvalCase) → Except String Unit
  | _, [] => .ok ()
  | before, case :: rest => do
    case.validate format before
    validateCases format (before ++ [case]) rest

/-- Refuse a fixture that could not be compared. -/
def validate (format : Format) (fixture : MemoryEvalFixture) : Except String Unit := do
  ensure ("expected schema_version " ++ memoryEvalFixtureSchemaVersion ++ ", got " ++
      format.debug fixture.schemaVersion)
    (fixture.schemaVersion = memoryEvalFixtureSchemaVersion)
  ensure "a fixture needs at least one case" (!fixture.cases.isEmpty)
  validateCases format [] fixture.cases

end MemoryEvalFixture

/-! ## Delivery -/

structure DeliveredClaim where
  claimId : String
  deliveredText : String
  retainedText : String
deriving DecidableEq

/-- Why an item that a service answered with was refused. -/
inductive RefusalReason where
  | outOfScope | removed | unknown
deriving DecidableEq, Repr

def RefusalReason.debug : RefusalReason → String
  | .outOfScope => "OutOfScope"
  | .removed => "Removed"
  | .unknown => "Unknown"

structure RefusedItem where
  claimId : Option String
  reason : RefusalReason
deriving DecidableEq

structure CausalEdge where
  effect : String
  cause : String
deriving DecidableEq

structure CaseDelivery where
  claims : List DeliveredClaim
  refused : List RefusedItem
  causalEdges : List CausalEdge

structure MemoryRetention where
  entriesHighWater : Nat
  linksHighWater : Nat
  maxEntries : Nat
  maxLinks : Nat

def declaredCausalEdges (case : MemoryEvalCase) : List CausalEdge :=
  case.claims.filterMap fun claim ↦ claim.causedBy.map fun cause ↦ ⟨claim.eventId, cause⟩

def pairsDelivered (delivered : List String) (edges : List CausalEdge) : Nat :=
  (edges.filter fun edge ↦ edge.effect ∈ delivered && edge.cause ∈ delivered).length

def declaredCausalPairsDelivered (case : MemoryEvalCase) (delivered : List String) : Nat :=
  pairsDelivered delivered (declaredCausalEdges case)

/-! ## Reports -/

variable (rounding : Rounding)

structure CaseReport where
  case : String
  delivered : List String
  mustDeliver : List String
  refusedClaims : List String
  staleClaims : List String
  retainedCausalSpans : Nat
  currentFactCorrectness : rounding.Double
  staleMemoryUse : Nat
  absentViolations : Nat
  refusedItems : List RefusedItem
  temporalOrderErrors : Nat
  contextItems : Nat
  claimBytes : Nat
  requestBytes : Nat
  withinItemBudget : Bool
  withinByteBudget : Bool
  truncatedClaims : Nat
  entriesHighWater : Nat
  linksHighWater : Nat
  maxEntries : Nat
  maxLinks : Nat

structure Totals where
  cases : Nat
  currentFactCorrectness : rounding.Double
  staleMemoryUse : Nat
  absentViolations : Nat
  retainedCausalSpans : Nat
  refusedItems : Nat
  temporalOrderErrors : Nat
  truncatedClaims : Nat
  maxContextItems : Nat
  maxClaimBytes : Nat
  maxRequestBytes : Nat
  maxEntriesHighWater : Nat
  maxLinksHighWater : Nat

structure EvalReport where
  schemaVersion : String
  fixtureSchemaVersion : String
  fixtureDigest : String
  contextItemBudget : Nat
  contextByteBudget : Nat
  itemByteBudget : Nat
  totals : Totals rounding
  cases : List (CaseReport rounding)

/-- The share of the required claims that were delivered. -/
def correctness (mustDeliver delivered : List String) : rounding.Double :=
  if mustDeliver.isEmpty then ⟨rounding.ofNat 1, Rounding.isDouble_ofNat 1⟩
  else
    let hits := (mustDeliver.filter (· ∈ delivered)).length
    ⟨rounding.div (rounding.ofNat hits) (rounding.ofNat mustDeliver.length),
      Rounding.isDouble_div _ _⟩

/-- The delivered pairs that stand against the order of their events. -/
def temporalOrderErrors (case : MemoryEvalCase) (delivered : List String) : Nat :=
  let eventAt := fun id ↦
    ((case.claims.reverse.find? fun claim ↦ claim.eventId = id).map MemoryEvalClaim.eventAt).getD 0
  ((delivered.zip delivered.tail).filter fun pair ↦ eventAt pair.1 < eventAt pair.2).length

/-- Measure the delivery of one case against its expectations. -/
def measureCase (case : MemoryEvalCase) (delivery : CaseDelivery) (retention : MemoryRetention) :
    CaseReport rounding :=
  let delivered := delivery.claims.map DeliveredClaim.claimId
  let claimBytes := (delivery.claims.map fun claim ↦ claim.deliveredText.utf8ByteSize).sum
  let requestBytes := satAdd case.query.chargedBytes claimBytes
  { case := case.id
    delivered := delivered
    mustDeliver := case.mustDeliver
    refusedClaims := case.mustNotDeliver
    staleClaims := case.stale
    retainedCausalSpans := pairsDelivered delivered delivery.causalEdges
    currentFactCorrectness := correctness rounding case.mustDeliver delivered
    staleMemoryUse := (delivered.filter (· ∈ case.stale)).length
    absentViolations := (delivered.filter (· ∈ case.mustNotDeliver)).length
    refusedItems := delivery.refused
    temporalOrderErrors := temporalOrderErrors case delivered
    contextItems := delivery.claims.length
    claimBytes := claimBytes
    requestBytes := requestBytes
    withinItemBudget := delivery.claims.length ≤ maxThinkingContextItems &&
      delivery.claims.all fun claim ↦ claim.deliveredText.utf8ByteSize ≤ maxThinkingTextBytes
    withinByteBudget := requestBytes ≤ maxThinkingContextBytes
    truncatedClaims :=
      (delivery.claims.filter fun claim ↦ claim.deliveredText ≠ claim.retainedText).length
    entriesHighWater := retention.entriesHighWater
    linksHighWater := retention.linksHighWater
    maxEntries := retention.maxEntries
    maxLinks := retention.maxLinks }

variable {rounding}

/-- The sum of a count over the rows, as the machine adds. -/
def sumOf (count : CaseReport rounding → Nat) (cases : List (CaseReport rounding)) : Nat :=
  (cases.map count).sum % (u64Max + 1)

def maxOf (count : CaseReport rounding → Nat) (cases : List (CaseReport rounding)) : Nat :=
  (cases.map count).foldr max 0

/-- The mean correctness of the rows. -/
def meanCorrectness (cases : List (CaseReport rounding)) : Float64 :=
  rounding.div (rounding.sum (cases.map fun case ↦ case.currentFactCorrectness.val))
    (rounding.ofNat cases.length)

/-- The aggregate of the rows of a report. -/
def totalsFor (cases : List (CaseReport rounding)) : Totals rounding where
  cases := cases.length
  currentFactCorrectness := ⟨meanCorrectness cases, Rounding.isDouble_div _ _⟩
  staleMemoryUse := sumOf CaseReport.staleMemoryUse cases
  absentViolations := sumOf CaseReport.absentViolations cases
  retainedCausalSpans := sumOf CaseReport.retainedCausalSpans cases
  refusedItems := sumOf (fun case ↦ case.refusedItems.length) cases
  temporalOrderErrors := sumOf CaseReport.temporalOrderErrors cases
  truncatedClaims := sumOf CaseReport.truncatedClaims cases
  maxContextItems := maxOf CaseReport.contextItems cases
  maxClaimBytes := maxOf CaseReport.claimBytes cases
  maxRequestBytes := maxOf CaseReport.requestBytes cases
  maxEntriesHighWater := maxOf CaseReport.entriesHighWater cases
  maxLinksHighWater := maxOf CaseReport.linksHighWater cases

/-- The report of measured cases. -/
def reportFor (fixtureDigest : MemoryEvalFixture → String) (fixture : MemoryEvalFixture)
    (cases : List (CaseReport rounding)) : EvalReport rounding where
  schemaVersion := memoryEvalReportSchemaVersion
  fixtureSchemaVersion := fixture.schemaVersion
  fixtureDigest := fixtureDigest fixture
  contextItemBudget := maxThinkingContextItems
  contextByteBudget := maxThinkingContextBytes
  itemByteBudget := maxThinkingTextBytes
  totals := totalsFor cases
  cases := cases

end Aivtuber
