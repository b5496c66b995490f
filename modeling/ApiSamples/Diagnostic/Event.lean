import ApiSamples.Diagnostic
import ApiSamples.Json.Document
import ApiSamples.Text.Shown

namespace ApiSamples

/-- A named part of an event: a name out of a fixed list, or a text. -/
structure Event.Field where
  key : String
  value : String
  isName : Bool
  deriving DecidableEq, Repr

structure Event where
  level : String
  message : String
  fields : List Event.Field
  deriving DecidableEq, Repr

namespace Severity

def level : Severity → String
  | warning => "WARN"
  | error => "ERROR"

end Severity

namespace Diagnostic

def event (d : Diagnostic) : Event :=
  ⟨d.severity.level, d.message,
    [⟨"diagnostic.kind", d.defect.label, true⟩, ⟨"diagnostic.owner", d.defect.owner, false⟩,
      ⟨"diagnostic.member", d.defect.member, false⟩]⟩

end Diagnostic

namespace Warning

def message : Warning → String
  | undeclaredEnumValue _ _ => "Example value is not a declared enum value"
  | suppressed _ _ => "Sample suppressed"
  | looseFlattening _ _ _ => "Transformation does not name a formal parameter"

def fields : Warning → List Event.Field
  | undeclaredEnumValue className value => [⟨"class", className, false⟩, ⟨"value", value, false⟩]
  | suppressed operation exampleName =>
    [⟨"operation", operation, false⟩, ⟨"example", exampleName, false⟩]
  | looseFlattening operation flattened holder =>
    [⟨"operation", operation, false⟩, ⟨"flattened", flattened, false⟩,
      ⟨"original", holder, false⟩]

def event (w : Warning) : Event := ⟨Severity.warning.level, w.message, w.fields⟩

end Warning

/-- The log of some notes. Diagnostics stand in it only if they are logged too. -/
def Note.events (withDiagnostics : Bool) : Note → List Event
  | diagnostic d => if withDiagnostics then [d.event] else []
  | warning w => [w.event]

def eventsOf (withDiagnostics : Bool) (notes : List Note) : List Event :=
  notes.flatMap (Note.events withDiagnostics)

/-- A control character that can begin a command to a terminal is an escape in a message. -/
def Text.guardedChar (c : Char) : List Char :=
  let hex := Nat.toDigits 16 c.toNat
  if [0x07, 0x08, 0x0C].contains c.toNat then '\\' :: 'x' :: '0' :: hex
  else if [0x1B, 0x7F].contains c.toNat then '\\' :: 'x' :: hex
  else if 0x80 ≤ c.toNat ∧ c.toNat ≤ 0x9F then '\\' :: 'u' :: '{' :: hex ++ ['}']
  else [c]

def Text.guarded (s : String) : String := String.ofList (s.toList.flatMap guardedChar)

namespace Event

def Field.assignment (f : Field) : String :=
  f.key ++ "=" ++ if f.isName then Text.shown f.value else f.value

def line (e : Event) : String :=
  " ".intercalate (e.level :: Text.guarded e.message :: e.fields.map Field.assignment)

def document (e : Event) : Document :=
  .record [("level", .string e.level),
    ("fields", .record (("message", .string e.message) ::
      e.fields.map fun f => (f.key, .string f.value)))]

def logged (e : Event) (asJson : Bool) : String := if asJson then e.document.text else e.line

end Event

end ApiSamples
