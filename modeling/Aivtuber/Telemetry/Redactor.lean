import Mathlib.Data.List.Basic

/-!
# Redacted audit records

`SecretRedactor` and `AuditRecord` of `crates/telemetry/src/lib.rs`.
-/

namespace Aivtuber

inductive AuditCategory where
  | ingress | authorization | output | generation | memory
deriving DecidableEq, Repr

/-- Minimal structured audit record. -/
structure AuditRecord where
  eventId : Option String
  category : AuditCategory
  decision : String
  detail : String
deriving DecidableEq, Repr

/-- Replace the occurrences of `pattern` from left to right, none overlapping the one
before; `skip` characters belong to an occurrence already replaced. -/
def replaceAll (pattern replacement : List Char) : Nat → List Char → List Char
  | _, [] => []
  | skip + 1, _ :: text => replaceAll pattern replacement skip text
  | 0, c :: text =>
    if pattern.isPrefixOf (c :: text) then
      replacement ++ replaceAll pattern replacement (pattern.length - 1) text
    else c :: replaceAll pattern replacement 0 text

/-- Redacts configured secrets before text reaches the audit. -/
structure SecretRedactor where
  secrets : List String
  secrets_nonempty : ∀ secret ∈ secrets, secret ≠ ""

namespace SecretRedactor

def new (secrets : List String) : SecretRedactor where
  secrets := secrets.filter (· ≠ "")
  secrets_nonempty := fun _ h ↦ of_decide_eq_true (List.mem_filter.mp h).2

def redact (redactor : SecretRedactor) (text : String) : String :=
  redactor.secrets.foldl (fun output secret ↦
    String.ofList (replaceAll secret.toList "[REDACTED]".toList 0 output.toList)) text

def record (redactor : SecretRedactor) (eventId : Option String) (category : AuditCategory)
    (decision detail : String) : AuditRecord where
  eventId := eventId
  category := category
  decision := redactor.redact decision
  detail := redactor.redact detail

end SecretRedactor

end Aivtuber
