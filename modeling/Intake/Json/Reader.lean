import Intake.Fault
import Intake.Value.Equality

/-!
# Reading JSON

The reader takes a value off the front of a text and returns the text after it. It is strict: no
comments, no trailing commas, no names for infinities. Every number becomes a decimal value with all its
digits, and of two members with one name the later gives the value and the earlier the position.

Where the text is no JSON, the reader returns the text from that place on; the place itself follows from
its length.
-/

namespace Intake.Json

/-- Why reading stops short. -/
inductive Halt where
  /-- The text is no JSON from here on. -/
  | stuck (problem : Problem) (rest : Text)
  /-- A number has no value. -/
  | numberOutOfBounds

/-- What is read, and the text after it. -/
abbrev Taken (α : Type) := Except Halt (α × Text)

/-- Stops at a text. -/
def stuckAt {α : Type} (problem : Problem) (rest : Text) : Taken α := .error (.stuck problem rest)

/-- The four characters that may stand between tokens. -/
def isBlank (p : Point) : Bool :=
  p == .char ' ' || p == .char '\t' || p == .char '\n' || p == .char '\r'

/-- The text after any blanks. -/
def skipBlanks (t : Text) : Text := t.dropWhile isBlank

/-- The value of a hexadecimal digit. -/
def hexDigit? : Point → Option Nat
  | .half _ => none
  | .char c =>
    if c.isDigit then some (c.toNat - '0'.toNat)
    else if 'a' ≤ c ∧ c ≤ 'f' then some (c.toNat - 'a'.toNat + 10)
    else if 'A' ≤ c ∧ c ≤ 'F' then some (c.toNat - 'A'.toNat + 10)
    else none

/-- The number that four hexadecimal digits write. -/
def hex4? (a b c d : Point) : Option Nat :=
  match hexDigit? a, hexDigit? b, hexDigit? c, hexDigit? d with
  | some a, some b, some c, some d => some (((a * 16 + b) * 16 + c) * 16 + d)
  | _, _, _, _ => none

/-- The number is the first half of a character beyond the basic plane. -/
def isHighHalf (n : Nat) : Bool := 0xD800 ≤ n && n < 0xDC00

/-- The number is the second half of such a character. -/
def isLowHalf (n : Nat) : Bool := 0xDC00 ≤ n && n < 0xE000

/-- The character of two halves. -/
def joinHalves (high low : Nat) : Char := Char.ofNat (0x10000 + (high - 0xD800) * 0x400 + (low - 0xDC00))

/-- The character that a letter after a backslash stands for. -/
def shortEscape? : Point → Option Char
  | .half _ => none
  | .char c =>
    if c = '"' then some '"'
    else if c = '\\' then some '\\'
    else if c = '/' then some '/'
    else if c = 'b' then some '\x08'
    else if c = 'f' then some '\x0c'
    else if c = 'n' then some '\n'
    else if c = 'r' then some '\r'
    else if c = 't' then some '\t'
    else none

/-- A first half that waited for its second one in vain. -/
def loneHalf (pending : Option Nat) : Text := pending.toList.map Point.ofCode

/-- The points that a numbered escape completes, and the half that it leaves waiting. -/
def takeUnit (pending : Option Nat) (unit : Nat) : Text × Option Nat :=
  match pending with
  | some high =>
    if isLowHalf unit then ([joinHalves high unit], none)
    else if isHighHalf unit then (loneHalf pending, some unit)
    else (loneHalf pending ++ [Point.ofCode unit], none)
  | none => if isHighHalf unit then ([], some unit) else ([Point.ofCode unit], none)

/-- Puts points in front of what is read. -/
def Taken.prepend (t : Text) (taken : Taken Text) : Taken Text :=
  taken.map fun (read, rest) => (t ++ read, rest)

/-- Reads a text up to its closing quotation mark. `opening` is the text from the opening one on, and
`pending` a first half of a character that was read just before. -/
def takeString (opening : Text) (pending : Option Nat) : Text → Taken Text
  | [] => stuckAt .unterminatedString opening
  | '"' :: rest => .ok (loneHalf pending, rest)
  | ['\\'] => stuckAt .unterminatedString opening
  | '\\' :: 'u' :: a :: b :: c :: d :: rest =>
    match hex4? a b c d with
    | none => stuckAt .invalidUnicodeEscape ('\\' :: 'u' :: a :: b :: c :: d :: rest)
    | some unit =>
      let (completed, waiting) := takeUnit pending unit
      Taken.prepend completed (takeString opening waiting rest)
  | '\\' :: 'u' :: rest => stuckAt .invalidUnicodeEscape ('\\' :: 'u' :: rest)
  | '\\' :: p :: rest =>
    match shortEscape? p with
    | none => stuckAt (.invalidEscape p) (p :: rest)
    | some c => Taken.prepend (loneHalf pending ++ [.char c]) (takeString opening none rest)
  | p :: rest =>
    if p.code < 0x20 then stuckAt (.controlCharacter p) (p :: rest)
    else Taken.prepend (loneHalf pending ++ [p]) (takeString opening none rest)

/-- Reads a name or a number, the tokens without brackets or quotation marks. -/
def takeBare (t : Text) : Taken Value :=
  match t with
  | 'n' :: 'u' :: 'l' :: 'l' :: rest => .ok (.null, rest)
  | 't' :: 'r' :: 'u' :: 'e' :: rest => .ok (.bool true, rest)
  | 'f' :: 'a' :: 'l' :: 's' :: 'e' :: rest => .ok (.bool false, rest)
  | t =>
    match Numeral.scan? t.leading.1 with
    | none => stuckAt .expectingValue t
    | some (numeral, rest) =>
      match Decimal.ofNumeral? numeral with
      | none => .error .numberOutOfBounds
      | some d => .ok (.decimal d, .ofChars rest ++ t.leading.2)

/-- Puts a member among those read before it. -/
def setMember (name : Text) (value : Value) (members : List (Value × Value)) : List (Value × Value) :=
  Value.setEntry (.text name) value members

mutual

/-- Reads a value. Every step either takes a character or turns to a part of the value, so twice the
length of the text is fuel enough. -/
def takeValue : Nat → Text → Taken Value
  | 0, cs => stuckAt .expectingValue cs
  | fuel + 1, cs =>
    match cs with
    | '"' :: rest => (takeString cs none rest).map fun (t, rest) => (.text t, rest)
    | '[' :: rest =>
      match skipBlanks rest with
      | [] => stuckAt .expectingValueOrBracket []
      | ']' :: rest => .ok (.list [], rest)
      | rest => (takeItems fuel rest).map fun (items, rest) => (.list items, rest)
    | '\x7b' :: rest =>
      match skipBlanks rest with
      | '\x7d' :: rest => .ok (.map [], rest)
      | '"' :: rest => (takeMembers fuel [] ('"' :: rest)).map fun (members, rest) => (.map members, rest)
      | rest => stuckAt .expectingNameOrBrace rest
    | cs => takeBare cs

/-- Reads an array's items, of which there is at least one, and the closing bracket. -/
def takeItems : Nat → Text → Taken (List Value)
  | 0, cs => stuckAt .expectingValue cs
  | fuel + 1, cs =>
    match takeValue fuel cs with
    | .error halt => .error halt
    | .ok (item, rest) =>
      match skipBlanks rest with
      | ']' :: rest => .ok ([item], rest)
      | ',' :: afterComma =>
        match skipBlanks afterComma with
        | ']' :: _ => stuckAt .trailingCommaInArray (',' :: afterComma)
        | next => (takeItems fuel next).map fun (items, rest) => (item :: items, rest)
      | rest => stuckAt .expectingCommaOrBracket rest

/-- Reads an object's members, of which there is at least one, and the closing brace. -/
def takeMembers : Nat → List (Value × Value) → Text → Taken (List (Value × Value))
  | 0, _, cs => stuckAt .expectingValue cs
  | fuel + 1, members, cs =>
    match cs with
    | '"' :: afterQuote =>
      match takeString cs none afterQuote with
      | .error halt => .error halt
      | .ok (name, rest) =>
        match skipBlanks rest with
        | ':' :: afterColon =>
          match takeValue fuel (skipBlanks afterColon) with
          | .error halt => .error halt
          | .ok (value, rest) =>
            let members := setMember name value members
            match skipBlanks rest with
            | '\x7d' :: rest => .ok (members, rest)
            | ',' :: afterComma =>
              match skipBlanks afterComma with
              | '\x7d' :: _ => stuckAt .trailingCommaInObject (',' :: afterComma)
              | next => takeMembers fuel members next
            | rest => stuckAt .expectingCommaOrBrace rest
        | rest => stuckAt .expectingColon rest
    | cs => stuckAt .expectingName cs

end

/-- The place of a rest inside the whole text. -/
def placeOf (whole rest : Text) : Place := Place.after (whole.take (whole.length - rest.length))

/-- The fault for a halt, located in the whole text. -/
def Halt.fault (whole : Text) : Halt → Fault
  | stuck problem rest => .malformedJson ⟨problem, placeOf whole rest, none⟩
  | numberOutOfBounds => .numberOutOfBounds

/-- Drops a byte order mark in front of a text, also one whose bytes were taken for characters. -/
def dropMark : Text → Text
  | '\uFEFF' :: rest => rest
  | 'ï' :: '»' :: '¿' :: rest => rest
  | cs => cs

/-- Reads a text that is one JSON value, with blanks around it. -/
def read (whole : Text) : Except Fault Value :=
  let start := skipBlanks (dropMark whole)
  match takeValue (2 * start.length + 1) start with
  | .error halt => .error (halt.fault whole)
  | .ok (value, rest) =>
    match skipBlanks rest with
    | [] => .ok value
    | rest => .error (.malformedJson ⟨.extraData, placeOf whole rest, some (placeOf whole [])⟩)

end Intake.Json
