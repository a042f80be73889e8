import Intake.Json.Problem
import Intake.Path
import Intake.Value.Literal

/-!
# Faults

A rejection says that the value at some path is not what was expected, and carries the value that was
found. The whole numbers in that value are taken to be short enough to be written down; readers yield no
others. Every other fault is a computation that a value or a text made impossible.
-/

namespace Intake

/-- A value that does not have the expected shape. -/
structure Rejection where
  /-- Where the value was found. -/
  path : Path
  /-- What was expected. -/
  expected : Text
  /-- The value. -/
  found : Value
  /-- Whether the message names the value's kind. -/
  showKind : Bool

/-- The rejection in words. -/
def Rejection.message (r : Rejection) : Text :=
  let kind := if r.showKind then s!" ({r.found.kind.name})" else ""
  "Expected '" ++ r.path.text ++ "' to be " ++ r.expected ++ ", but found: " ++ r.found.display ++ kind

/-- Everything that can fail between a text or a value and a typed result. -/
inductive Fault where
  /-- A value was rejected. -/
  | rejected (r : Rejection)
  /-- A text is no JSON. -/
  | malformedJson (e : Json.ReadError)
  /-- Bytes are no text. -/
  | malformedUtf8 (flaw : Utf8.Flaw)
  /-- A numeral lies outside the bounds of decimal numbers. -/
  | numberOutOfBounds
  /-- A signaling not-a-number was compared with a number. -/
  | signalingComparison
  /-- An instant lies outside the calendar. -/
  | instantOutOfCalendar
  /-- A whole number is too long to be written into a text. -/
  | integerTooLong
  /-- A value has no JSON form. -/
  | unencodable (e : Json.WriteError)
  /-- A text has no bytes. -/
  | tornText (torn : Torn)

namespace Fault

/-- The fault in words. -/
def message : Fault → Text
  | rejected r => r.message
  | malformedJson e => e.message
  | malformedUtf8 flaw => flaw.message
  | numberOutOfBounds | signalingComparison => "[<class 'decimal.InvalidOperation'>]"
  | instantOutOfCalendar => "date value out of range"
  | integerTooLong => Numeral.tooLong
  | unencodable e => e.message
  | tornText torn => torn.message

/-- The name of the fault's class, by which logs and clients tell faults apart. -/
def className : Fault → String
  | rejected _ => "ValidationTypeError"
  | malformedJson _ => "JSONDecodeError"
  | malformedUtf8 _ => "UnicodeDecodeError"
  | numberOutOfBounds | signalingComparison => "InvalidOperation"
  | instantOutOfCalendar => "OverflowError"
  | integerTooLong => "ValueError"
  | unencodable e => e.className
  | tornText _ => "UnicodeEncodeError"

end Fault

end Intake
