import Aivtuber.Telemetry.Redaction

/-!
# The public output policy

`PublicOutputPolicy` of `crates/runtime/src/lib.rs` lets out a redacted text, or the redacted
cached reaction in its place.
-/

namespace Aivtuber

inductive OutputVerdict where
  | allow | redact | replaceWithCached | suppress
deriving DecidableEq, Repr

structure PublicOutput where
  verdict : OutputVerdict
  text : Option String
  reason : String
deriving DecidableEq, Repr

structure PublicOutputPolicy where
  redactor : SecretRedactor
  cachedReaction : Option String

namespace PublicOutputPolicy

/-- Terms of the control plane, which are not published. -/
def controlTerms : List String :=
  ["obs.control", "tool.grant", "memory.admin", "performer.stop", "performer.mute"]

def isControlText (text : String) : Bool :=
  let lower := text.toList.map Char.toLower
  controlTerms.any fun term ↦ term.toList <:+: lower

def evaluate (policy : PublicOutputPolicy) (text : String) : PublicOutput :=
  if isControlText text then
    match policy.cachedReaction with
    | some cached =>
      { verdict := .replaceWithCached
        text := some (policy.redactor.redact cached)
        reason := "control_plane_text" }
    | none => { verdict := .suppress, text := none, reason := "control_plane_text" }
  else
    let redacted := policy.redactor.redact text
    if redacted ≠ text then
      { verdict := .redact, text := some redacted, reason := "configured_secret_redacted" }
    else { verdict := .allow, text := some text, reason := "clean" }

end PublicOutputPolicy

end Aivtuber
