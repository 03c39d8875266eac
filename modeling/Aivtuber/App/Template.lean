import Aivtuber.Base.Placeholder
import Aivtuber.Domain.Event

/-!
# Response templates

The template composer of `crates/app/src/routing.rs`.  A curated template has placeholders
`{slot}`; its slots are bound to values that come from events and are not trusted.  The
composer replaces one placeholder after the other and refuses a text that is too large, or
that still looks as if it had a placeholder.
-/

open Aivtuber.Check Aivtuber.Text Placeholder

namespace Aivtuber

def maxTemplateSlotBytes : Nat := 256

def maxTemplateSlots : Nat := 8

def maxTemplateRenderBytes : Nat := 1024

structure ResponseTemplate where
  id : String
  version : String
  /-- The text, with its placeholders. -/
  text : String
  /-- The names that the template binds. -/
  slots : List String
deriving DecidableEq, Repr

inductive TemplateFallback where
  | missingTemplate
  | invalidTemplate
  | slotLimitExceeded
  | slotValueTooLarge
  | renderTooLarge
deriving DecidableEq, Repr

def TemplateFallback.reason : TemplateFallback → String
  | missingTemplate => "template_missing"
  | invalidTemplate => "template_invalid"
  | slotLimitExceeded => "template_slot_limit"
  | slotValueTooLarge => "template_slot_too_large"
  | renderTooLarge => "template_render_too_large"

structure TemplateComposition where
  templateId : String
  templateVersion : String
  text : String
deriving DecidableEq, Repr

/-- The control characters of Unicode. -/
def isControl (c : Char) : Bool :=
  let n := c.toNat
  n < 0x20 || (0x7F ≤ n && n ≤ 0x9F)

def braces : Delimiters Char := ⟨'{', '}', by decide⟩

/-- A value without the white space at its ends, and without control characters. -/
def normalizeSlot (value : String) : List Char :=
  (trim value).toList.filter fun c ↦ !isControl c

/-- The text without its groups in braces.  Within a group everything up to its closing brace is
left out; an opening brace that is never closed stays. -/
def removeGroups : (inGroup : Bool) → List Char → List Char
  | _, [] => []
  | true, c :: rest => removeGroups (c ≠ '}') rest
  | false, c :: rest =>
    if c = '{' ∧ '}' ∈ rest then removeGroups true rest else c :: removeGroups false rest

def removePlaceholders (text : List Char) : List Char := removeGroups false text

namespace ResponseTemplate

/-- The text of the template with the declared slots bound, one after the other. -/
def interpolate (template : ResponseTemplate) (slots : List (String × String)) : List Char :=
  slots.foldl (fun rendered (name, value) ↦
    if template.slots.contains name then
      replace (braces.placeholder name.toList) (normalizeSlot value) rendered
    else rendered) template.text.toList

/-- The checks before a text is rendered. -/
def checkSlots (template : ResponseTemplate) (slots : List (String × String)) :
    Except TemplateFallback Unit := do
  ensure .invalidTemplate
    !(isBlank template.id || isBlank template.version || isBlank template.text)
  ensure .slotLimitExceeded (slots.length ≤ maxTemplateSlots)
  slots.forM fun (name, value) ↦
    ensure .slotValueTooLarge
      (name.utf8ByteSize ≤ 64 && value.utf8ByteSize ≤ maxTemplateSlotBytes)

/-- The checks of a rendered text, and its composition. -/
def complete (template : ResponseTemplate) (rendered : List Char) :
    Except TemplateFallback TemplateComposition := do
  ensure .renderTooLarge ((String.ofList rendered).utf8ByteSize ≤ maxTemplateRenderBytes)
  ensure .invalidTemplate
    (!(rendered.contains '{' && rendered.contains '}') || removePlaceholders rendered = rendered)
  let text := trim (String.ofList rendered)
  ensure .invalidTemplate (text ≠ "")
  .ok ⟨template.id, template.version, text⟩

def render (template : ResponseTemplate) (slots : List (String × String)) :
    Except TemplateFallback TemplateComposition := do
  template.checkSlots slots
  template.complete (template.interpolate slots)

end ResponseTemplate

structure TemplatePack where
  templates : List ResponseTemplate

def TemplatePack.get (pack : TemplatePack) (id : String) : Option ResponseTemplate :=
  pack.templates.find? (·.id = id)

def compose (pack : TemplatePack) (templateId : String) (slots : List (String × String)) :
    Except TemplateFallback TemplateComposition := do
  let template ← expect .missingTemplate (pack.get templateId)
  template.render slots

/-- The routes of a template decision. -/
inductive TemplateRoute where
  | silent
  | template (templateId : String) (composition : TemplateComposition)
deriving DecidableEq, Repr

/-- The planner's part in a template decision. -/
structure TemplatePlanner where
  templates : TemplatePack
  lastTemplateFallback : Option TemplateFallback

namespace TemplatePlanner

/-- The declared slots that the payload of an event has a text for. -/
def templateSlots (planner : TemplatePlanner) (event : EventEnvelope) (templateId : String) :
    List (String × String) :=
  match planner.templates.get templateId with
  | none => []
  | some template =>
    template.slots.filterMap fun slot ↦
      (event.payload[slot]?.bind JsonValue.asStr).map fun value ↦ (slot, value)

def templateRoute (planner : TemplatePlanner) (event : EventEnvelope) (templateId : String) :
    TemplatePlanner × TemplateRoute :=
  match compose planner.templates templateId (planner.templateSlots event templateId) with
  | .ok composition =>
    ({ planner with lastTemplateFallback := none },
      .template composition.templateId composition)
  | .error fallback => ({ planner with lastTemplateFallback := some fallback }, .silent)

end TemplatePlanner

end Aivtuber
