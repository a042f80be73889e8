import Intake.Calendar.Instant
import Intake.Number.Numeral

/-!
# Fixed layouts

Dates and times are written in fixed layouts: groups of digits of known length between fixed characters.
A layout matches a text or not as a whole, and yields the numbers of its groups; filled with numbers it
gives the text back.
-/

namespace Intake

/-- A part of a layout. -/
inductive LayoutPart where
  /-- A group of so many decimal digits. -/
  | digits (count : Nat)
  /-- A fixed character. -/
  | mark (c : Char)
deriving DecidableEq

/-- A fixed layout. -/
abbrev TextLayout := List LayoutPart

namespace TextLayout

/-- Splits a group of so many digits off the front: its number and the text after it. -/
def takeGroup (count : Nat) (cs : List Char) : Option (Nat × List Char) :=
  let group := cs.take count
  if group.length = count ∧ group.all Char.isDigit then some (Numeral.natOf group, cs.drop count)
  else none

/-- The numbers of a text's groups, if the text as a whole has the layout. -/
def numbers? : TextLayout → List Char → Option (List Nat)
  | [], cs => if cs.isEmpty then some [] else none
  | .digits count :: parts, cs =>
    match takeGroup count cs with
    | some (n, rest) => (numbers? parts rest).map (n :: ·)
    | none => none
  | .mark m :: parts, cs =>
    match cs with
    | c :: rest => if c = m then numbers? parts rest else none
    | [] => none

/-- The text with these numbers in its groups. -/
def fill : TextLayout → List Nat → List Char
  | .digits count :: parts, n :: ns => Instant.padded count n ++ fill parts ns
  | .mark m :: parts, ns => m :: fill parts ns
  | _, _ => []

/-- The layout that is a fixed text. -/
def fixed (s : String) : TextLayout := s.toList.map .mark

/-- Year, month and day. -/
def date : TextLayout := [.digits 4, .mark '-', .digits 2, .mark '-', .digits 2]

/-- A date with the clock at midnight. -/
def midnight : TextLayout := date ++ fixed "T00:00:00"

/-- A date and a clock. -/
def dateTime : TextLayout :=
  date ++ [.mark 'T', .digits 2, .mark ':', .digits 2, .mark ':', .digits 2]

/-- A date and a clock with milliseconds, in Coordinated Universal Time. -/
def dateTimeMillis : TextLayout := dateTime ++ [.mark '.', .digits 3, .mark 'Z']

end TextLayout

end Intake
