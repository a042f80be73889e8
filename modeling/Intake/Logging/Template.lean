import Intake.Number.Numeral
import Intake.Text.Basic

/-!
# Message templates

The message of a log record may have slots for values. A slot begins with a percent sign and ends with the
letter of a conversion; in between it may name a value, set flags, a width and a precision. Two percent
signs stand for one.

A template is taken apart without looking at any value. What is wrong with a slot is part of what it is,
because it matters only when the slot's turn comes.
-/

namespace Intake.Template

/-- A width or a precision. -/
inductive Amount where
  | absent
  | given (n : Nat)
  /-- The next value says it. -/
  | taken
deriving DecidableEq

/-- The flags of a slot. -/
structure Flags where
  /-- The text stands at the left. -/
  left : Bool
  /-- Numbers have a sign always. -/
  plus : Bool
  /-- Numbers without a sign have a blank. -/
  blank : Bool
  /-- The longer form of a number. -/
  longer : Bool
  /-- Numbers are filled with zeros. -/
  zero : Bool
deriving DecidableEq

/-- The name of the value for a slot. -/
inductive SlotName where
  | absent
  | given (name : Text)
  /-- The bracket is not closed. -/
  | unclosed
deriving DecidableEq

/-- A place for a value. -/
structure Slot where
  name : SlotName
  flags : Flags
  width : Amount
  precision : Amount
  /-- The point of the conversion and its place in the template; none when the template ends before it. -/
  conversion : Option (Point × Nat)
deriving DecidableEq

/-- A part of a template. -/
inductive Piece where
  | text (p : Point)
  | slot (s : Slot)
deriving DecidableEq

/-- The characters of flags. -/
def flagMarks : Text := ['-', '+', ' ', '#', '0']

/-- The flags among some marks. -/
def Flags.ofMarks (marks : Text) : Flags where
  left := marks.contains (.char '-')
  plus := marks.contains (.char '+')
  blank := marks.contains (.char ' ')
  longer := marks.contains (.char '#')
  zero := marks.contains (.char '0')

/-- Reads a name up to the bracket that closes it; brackets inside it come in pairs. `depth` counts those
that are still open. -/
def takeName (depth : Nat) : Text → Text → Option Text × Text
  | _, [] => (none, [])
  | read, p :: rest =>
    if p = ')' then
      match depth with
      | 0 => (some read.reverse, rest)
      | depth + 1 => takeName depth (p :: read) rest
    else if p = '(' then takeName (depth + 1) (p :: read) rest
    else takeName depth (p :: read) rest

/-- Reads the name in front of a slot, if there is one. -/
def takeSlotName : Text → SlotName × Text
  | '(' :: rest =>
    match takeName 0 [] rest with
    | (some name, rest) => (.given name, rest)
    | (none, rest) => (.unclosed, rest)
  | t => (.absent, t)

/-- Reads a width: a number or an asterisk. -/
def takeWidth : Text → Amount × Text
  | '*' :: rest => (.taken, rest)
  | t =>
    let (ds, rest) := Numeral.takeDigits t.leading.1
    (if ds.isEmpty then .absent else .given (Numeral.natOf ds), .ofChars rest ++ t.leading.2)

/-- Reads a precision: a point and what may stand for a width. A point alone means zero. -/
def takePrecision : Text → Amount × Text
  | '.' :: rest =>
    match takeWidth rest with
    | (.absent, rest) => (.given 0, rest)
    | other => other
  | t => (.absent, t)

/-- Skips one letter that says nothing. -/
def skipLength : Text → Text
  | p :: rest => if p = 'h' ∨ p = 'l' ∨ p = 'L' then rest else p :: rest
  | [] => []

/-- Reads a slot after its percent sign. `size` is the length of the whole template. -/
def takeSlot (size : Nat) (t : Text) : Slot × Text :=
  let (name, t) := takeSlotName t
  let flags := Flags.ofMarks (t.takeWhile flagMarks.contains)
  let (width, t) := takeWidth (t.dropWhile flagMarks.contains)
  let (precision, t) := takePrecision t
  match skipLength t with
  | [] => (⟨name, flags, width, precision, none⟩, [])
  | p :: rest => (⟨name, flags, width, precision, some (p, size - rest.length - 1)⟩, rest)

/-- The pieces of a text; every step takes a point, so its length is fuel enough. -/
def piecesFrom (size : Nat) : Nat → Text → List Piece
  | 0, _ => []
  | _, [] => []
  | fuel + 1, p :: rest =>
    if p = '%' then
      match rest with
      | '%' :: rest => .text '%' :: piecesFrom size fuel rest
      | rest =>
        let (slot, rest) := takeSlot size rest
        .slot slot :: piecesFrom size fuel rest
    else .text p :: piecesFrom size fuel rest

/-- The pieces of a template. -/
def pieces (template : Text) : List Piece := piecesFrom template.length template.length template

end Intake.Template
