import Intake.Text.Quoted
import Intake.Value.Basic

/-!
# What can go wrong with JSON

Reading stops at the first place where the text is no JSON; writing stops at the first value that has no
JSON form.
-/

namespace Intake.Json

/-- Why a text is no JSON. -/
inductive Problem where
  | expectingValue
  | expectingValueOrBracket
  | expectingName
  | expectingNameOrBrace
  | expectingColon
  | expectingCommaOrBracket
  | expectingCommaOrBrace
  | trailingCommaInArray
  | trailingCommaInObject
  | unterminatedString
  | controlCharacter (p : Point)
  | invalidEscape (p : Point)
  | invalidUnicodeEscape
  | extraData
deriving DecidableEq

/-- The literal of a single point. -/
def pointLiteral (p : Point) : String := String.ofList (Quoted.text [p])

namespace Problem

/-- The problem in words. -/
def text : Problem → String
  | expectingValue => "Expecting value"
  | expectingValueOrBracket => "Expecting value or ']'"
  | expectingName => "Expecting property name enclosed in double quotes"
  | expectingNameOrBrace => "Expecting property name enclosed in double quotes or '\x7d'"
  | expectingColon => "Expecting ':' delimiter"
  | expectingCommaOrBracket => "Expecting ',' delimiter or ']'"
  | expectingCommaOrBrace => "Expecting ',' delimiter or '\x7d'"
  | trailingCommaInArray => "Illegal trailing comma before end of array"
  | trailingCommaInObject => "Illegal trailing comma before end of object"
  | unterminatedString => "Unterminated string starting at"
  | controlCharacter p => "Invalid control character " ++ pointLiteral p ++ " at"
  | invalidEscape p => "Invalid \\X escape sequence " ++ pointLiteral p
  | invalidUnicodeEscape => "Invalid \\uXXXX escape sequence"
  | extraData => "Extra data"

end Problem

/-- A place in a text. -/
structure Place where
  line : Nat
  column : Nat
  /-- The number of characters before it. -/
  offset : Nat
deriving DecidableEq

/-- The place after a text. Lines and columns count from one. -/
def Place.after (before : Text) : Place where
  line := before.count (.char '\n') + 1
  column := (before.reverse.takeWhile (· ≠ .char '\n')).length + 1
  offset := before.length

/-- Why and where a text is no JSON. Data after a value is located by both its ends. -/
structure ReadError where
  problem : Problem
  place : Place
  stop : Option Place
deriving DecidableEq

/-- The failure in words. -/
def ReadError.message (e : ReadError) : String :=
  match e.stop with
  | none =>
    s!"{e.problem.text}: line {e.place.line} column {e.place.column} (char {e.place.offset})"
  | some stop =>
    s!"{e.problem.text}: line {e.place.line} column {e.place.column} - " ++
      s!"line {stop.line} column {stop.column} (char {e.place.offset} - {stop.offset})"

/-- Why a value has no JSON form. -/
inductive WriteError where
  /-- Values of this kind have none. -/
  | value (kind : Kind)
  /-- Values of this kind are no keys. -/
  | key (kind : Kind)
  /-- The number is infinite or no number. -/
  | notFinite (shown : String)
  /-- The whole number is too long. -/
  | integerTooLong
  /-- The bytes are no text. -/
  | bytes (flaw : Utf8.Flaw)
deriving DecidableEq

namespace WriteError

/-- The failure in words. -/
def message : WriteError → String
  | value kind => s!"Object of type {kind.name} is not JSON serializable"
  | key kind => s!"keys must be str, int, float, bool or None, not {kind.name}"
  | notFinite shown => s!"Out of range float values are not JSON compliant: {shown}"
  | integerTooLong => Numeral.tooLong
  | bytes flaw => flaw.message

/-- The name of the failure's class. -/
def className : WriteError → String
  | value _ => "TypeError"
  | key _ => "TypeError"
  | notFinite _ => "ValueError"
  | integerTooLong => "ValueError"
  | bytes _ => "UnicodeDecodeError"

end WriteError

end Intake.Json
