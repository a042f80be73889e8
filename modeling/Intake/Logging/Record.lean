import Intake.Json.Tree
import Intake.Logging.Filling

/-!
# Log records

What is known about one event: who logs it, how bad it is, a message with values for its slots, further
fields, and what is to be said of the exception that goes with it. A record is written as a line of JSON, for
machines, or as plain text, for people. In JSON, of the further fields three are shown when they are there,
and values of any kind do: what has no JSON form is shown as its text.
-/

namespace Intake.Logging

/-- An event. -/
structure Record where
  /-- Who logs it. -/
  logger : Text
  /-- The name of the level. -/
  level : Text
  template : Text
  /-- The values for the template; without any the template is the message. -/
  values : List Value
  /-- Further fields by name. -/
  extra : List (Text × Value)
  /-- The exception information that goes with it, as it is formatted: a trace, a class with a text, or the word
  for no exception where the information names none. -/
  exception : Option Text

/-- Why a record has no line. -/
inductive LineError where
  | message (p : Template.Problem)
  /-- A map has a key that is no name. -/
  | key (kind : Kind)
  /-- A whole number is too long. -/
  | integerTooLong
deriving DecidableEq

namespace LineError

/-- The failure in words. -/
def text : LineError → String
  | message p => p.message
  | key kind => s!"keys must be str, int, float, bool or None, not {Template.longKindName kind}"
  | integerTooLong => Numeral.tooLong

/-- The name of the failure's class. -/
def className : LineError → String
  | message p => p.className
  | key _ => "TypeError"
  | integerTooLong => "ValueError"

end LineError

/-- The message with its values. -/
def Record.message (r : Record) : Except LineError Text :=
  if r.values.isEmpty then .ok r.template
  else (Template.fill r.template r.values).mapError .message

/-- The token of a binary number; those that are no finite number have names. -/
def binaryToken (x : Binary64) : List Char :=
  match x with
  | .nan => "NaN".toList
  | .infinity negative => (if negative then "-Infinity" else "Infinity").toList
  | x => x.text

/-- The name under which a map's entry is shown. -/
def nameOfKey : Value → Except LineError Text
  | .text t => .ok t
  | .float x => .ok (.ofChars (binaryToken x))
  | .bool b => .ok (.ofChars (Json.boolToken b))
  | .null => .ok "null"
  | .int n => (Numeral.written .integerTooLong n).map .ofChars
  | v => .error (.key v.kind)

mutual

/-- A value as it is shown in a line. -/
def shown : Value → Except LineError Json
  | .null => .ok .null
  | .bool b => .ok (.bool b)
  | .int n => (Numeral.written .integerTooLong n).map .number
  | .float x => .ok (.number (binaryToken x))
  | .text t => .ok (.text t)
  | .list xs => (shownItems xs).map .array
  | .tuple xs => (shownItems xs).map .array
  | .map entries => (shownEntries entries).map .object
  | v => .ok (.text v.display)

/-- Several values. -/
def shownItems : List Value → Except LineError (List Json)
  | [] => .ok []
  | x :: xs =>
    match shown x with
    | .error e => .error e
    | .ok j => (shownItems xs).map (j :: ·)

/-- A map's entries. -/
def shownEntries : List (Value × Value) → Except LineError (List (Text × Json))
  | [] => .ok []
  | (k, v) :: entries =>
    match nameOfKey k with
    | .error e => .error e
    | .ok name =>
      match shown v with
      | .error e => .error e
      | .ok j => (shownEntries entries).map ((name, j) :: ·)

end

/-- The further fields that are shown, in order. -/
def shownFields : List String := ["path", "error_code", "status"]

/-- The value of a further field, unless it is missing or null. -/
def Record.field? (r : Record) (name : String) : Option Value :=
  match r.extra.find? fun (key, _) => key = name with
  | some (_, .null) => none
  | some (_, v) => some v
  | none => none

/-- The members for the further fields. -/
def Record.fieldMembers (r : Record) : List String → Except LineError (List (Text × Json))
  | [] => .ok []
  | name :: names =>
    match r.field? name with
    | none => r.fieldMembers names
    | some v =>
      match shown v with
      | .error e => .error e
      | .ok j => (r.fieldMembers names).map ((Text.ofString name, j) :: ·)

/-- A member with a text. -/
def textMember (name : String) (t : Text) : Text × Json := (name, .text t)

/-- The member for the exception, if there is one. -/
def Record.exceptionMembers (r : Record) : List (Text × Json) :=
  match r.exception with
  | some report => [textMember "exception" report]
  | none => []

/-- The record as JSON. -/
def Record.toJson (r : Record) (timestamp : String) : Except LineError Json :=
  match r.message with
  | .error e => .error e
  | .ok message =>
    (r.fieldMembers shownFields).map fun fields =>
      .object ([textMember "timestamp" timestamp, textMember "level" r.level,
        textMember "logger" r.logger, textMember "message" message] ++ fields ++ r.exceptionMembers)

/-- The record as a line of JSON. -/
def Record.jsonLine (r : Record) (timestamp : String) : Except LineError Text :=
  (r.toJson timestamp).map fun tree => tree.render .spaced

/-- What separates a text from the exception after it: the end of the line, unless that is there already. -/
def lineEnd (t : Text) : Text := if t.getLast? = some (.char '\n') then [] else ['\n']

/-- The record as plain text. The exception follows on a line of its own, if there is anything to be said of it. -/
def Record.plainText (r : Record) (timestamp : String) : Except LineError Text :=
  r.message.map fun message =>
    let line := timestamp ++ " " ++ r.level ++ " " ++ r.logger ++ " - " ++ message
    match r.exception with
    | some (p :: report) => line ++ lineEnd line ++ p :: report
    | _ => line

end Intake.Logging
