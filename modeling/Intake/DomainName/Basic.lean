import Intake.DomainName.Label
import Intake.DomainName.Mapping

/-!
# Domain names

A domain name for mail is a sequence of labels. Text is mapped to the characters that names are made of,
split at its points, and every label is brought into both of its forms. Names that are too long, that have
a single label, whose last label ends in a digit, or that are set aside for other uses are refused.
-/

namespace Intake

/-- A domain name. -/
structure DomainName where
  labels : List DomainName.Label
deriving DecidableEq

namespace DomainName

/-- Whether a character may occur in a name as it is written: letters, digits, hyphens and points of
ASCII, and everything beyond it. -/
def isNameChar (c : Char) : Bool := c.isAlphanum || c = '-' || c = '.' || 0x80 ≤ c.toNat

/-- A text that can be shown as it is, and would not combine with what comes before it. -/
def isSafe (cs : List Char) : Bool := cs.all isPrintable && !(cs.head?.any isMark)

/-- The parts of a text between points. -/
def split (cs : List Char) : List (List Char) := cs.splitOn '.'

/-- Labels with a point between them. -/
def join (labels : List (List Char)) : List Char := ['.'].intercalate labels

/-- The length that no name in ASCII exceeds. -/
def maxLength : Nat := 253

/-- The length that no label in ASCII exceeds. -/
def maxLabel : Nat := 63

/-- The name in ASCII. -/
def ascii (d : DomainName) : List Char := join (d.labels.map Label.ascii)

/-- The name in any script. -/
def unicode (d : DomainName) : List Char := join (d.labels.map Label.unicode)

/-- Top-level names that are set aside. -/
def reserved : List String := ["arpa", "invalid", "local", "localhost", "onion", "test"]

/-- Two hyphens after the first two characters are kept for labels in ASCII that stand for others. -/
def isKeptBack (label : List Char) : Bool :=
  2 ≤ label.length && hasMiddleHyphens label && label.take 2 ≠ ['x', 'n']

/-- Whether a label looks like one, before its characters are looked at. -/
def isShaped (label : List Char) : Bool := !label.isEmpty && !hasOuterHyphen label && !isKeptBack label

/-- Whether mail can be sent to a name. -/
def isDeliverable (d : DomainName) : Bool :=
  match d.labels.getLast? with
  | none => false
  | some last =>
    2 ≤ d.labels.length && d.ascii.length ≤ maxLength &&
      d.labels.all (fun l => l.ascii.length ≤ maxLabel) &&
      last.ascii.getLast?.any Char.isAlpha && !reserved.contains (String.ofList last.ascii)

/-- Reads a name. -/
def ofText? (cs : List Char) : Option DomainName :=
  if !(cs.all isNameChar && isSafe cs) then none
  else
    let name := remapped cs
    let labels := split name
    if !(name.all isNameChar && labels.all isShaped) then none
    else
      match labels.mapM Label.ofText? with
      | none => none
      | some labels =>
        let d : DomainName := ⟨labels⟩
        if d.isDeliverable then some d else none

end DomainName

end Intake
