import Intake.Json.Problem
import Intake.Json.Tree

/-!
# Values as JSON

The JSON form in which values leave the program. Decimal numbers are written digit for digit, bytes as
the text they encode, tuples as arrays. Keys that are no text are written as the text of their value.
Infinities, what is no number, instants and documents have no JSON form.
-/

namespace Intake.Json

/-- The token of a decimal number. -/
def decimalToken (d : Decimal) : Except WriteError (List Char) :=
  match d with
  | .finite x _ => .ok x.text
  | .infinity negative => .error (.notFinite (if negative then "-inf" else "inf"))
  | .nan .. => .error (.notFinite "nan")

/-- The token of a binary number. -/
def floatToken (x : Binary64) : Except WriteError (List Char) :=
  match x with
  | .finite .. => .ok x.text
  | _ => .error (.notFinite (String.ofList x.text))

/-- The text that bytes encode. -/
def textOfBytes (bs : List UInt8) : Except WriteError (List Char) :=
  match Utf8.decode bs with
  | .ok cs => .ok cs
  | .error flaw => .error (.bytes flaw)

/-- The name under which a map's entry is written. -/
def nameOfKey : Value → Except WriteError Text
  | .text t => .ok t
  | .bytes bs => (textOfBytes bs).map .ofChars
  | .float x => (floatToken x).map .ofChars
  | .bool b => .ok (.ofChars (boolToken b))
  | .null => .ok "null"
  | .int n => (Numeral.written .integerTooLong n).map .ofChars
  | .decimal d => .ok (.ofChars d.text)
  | v => .error (.key v.kind)

mutual

/-- The JSON form of a value. -/
def ofValue : Value → Except WriteError Json
  | .null => .ok .null
  | .bool b => .ok (.bool b)
  | .int n => (Numeral.written .integerTooLong n).map .number
  | .float x => (floatToken x).map .number
  | .decimal d => (decimalToken d).map .number
  | .text t => .ok (.text t)
  | .bytes bs => (textOfBytes bs).map fun cs => .text (.ofChars cs)
  | .list xs => (ofValues xs).map .array
  | .tuple xs => (ofValues xs).map .array
  | .map entries => (ofEntries entries).map .object
  | v => .error (.value v.kind)

/-- The JSON forms of several values; the first failure counts. -/
def ofValues : List Value → Except WriteError (List Json)
  | [] => .ok []
  | x :: xs =>
    match ofValue x with
    | .error e => .error e
    | .ok j => (ofValues xs).map (j :: ·)

/-- The JSON forms of a map's entries; of each entry the key comes first. -/
def ofEntries : List (Value × Value) → Except WriteError (List (Text × Json))
  | [] => .ok []
  | (k, v) :: entries =>
    match nameOfKey k with
    | .error e => .error e
    | .ok name =>
      match ofValue v with
      | .error e => .error e
      | .ok j => (ofEntries entries).map ((name, j) :: ·)

end

end Intake.Json
