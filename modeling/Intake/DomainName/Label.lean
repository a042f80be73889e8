import Intake.DomainName.LabelCharacter
import Intake.DomainName.Punycode
import Intake.Text.Composed
import Intake.Text.Printable

/-!
# Labels of domain names

A label has two forms: one in any script, and one in ASCII, in which labels are looked up. Labels in any
script are composed, do not begin with a mark, have hyphens in no odd places, and consist of characters
that may stand where they stand. Those with characters that are written from right to left follow further
rules, so that they can be told apart when they are shown.
-/

namespace Intake.DomainName

/-! ## Characters in their places -/

/-- The combining class of the marks after which joiners may stand. -/
def viramaClass : Nat := 9

/-- Whether the character before is a mark that leaves out a vowel; `before` is given last first. -/
def followsVirama (before : List Char) : Bool :=
  match before with
  | c :: _ => Canonical.combiningClass c = viramaClass
  | [] => false

/-- How a character joins. -/
def joiningOf (c : Char) : Joining :=
  match labelCharacter? c with
  | some l => l.joining
  | none => .none

/-- Whether the first character that does not let its neighbours join each other joins on a side. -/
def joinsWith (side : Joining) (cs : List Char) : Bool :=
  match cs.dropWhile (fun c => joiningOf c = .transparent) with
  | c :: _ => joiningOf c = side || joiningOf c = .both
  | [] => false

/-- Whether a character belongs to a script. -/
def isIn (s : Script) (c : Char) : Bool :=
  match labelCharacter? c with
  | some l => l.script = s
  | none => false

/-- Whether a code lies in a range. -/
def isBetween (first last : Nat) (c : Char) : Bool := first ≤ c.toNat && c.toNat ≤ last

/-- The digits of Arabic. -/
def isArabicDigit : Char → Bool := isBetween 0x0660 0x0669

/-- The digits of the further languages that are written in Arabic letters. -/
def isExtendedArabicDigit : Char → Bool := isBetween 0x06F0 0x06F9

/-- Whether a joiner may stand between others: after a mark that leaves out a vowel, and the one that
keeps characters apart also between characters that would join. -/
def joinerAllowed (before : List Char) (c : Char) (after : List Char) : Bool :=
  followsVirama before || (c = '\u200C' && joinsWith .left before && joinsWith .right after)

/-- Whether a character with a rule of its own may stand between others: the middle dot between two
letters `l`, the Greek numeral sign before Greek, the Hebrew signs after Hebrew, the middle dot of Katakana
anywhere with Japanese, and Arabic digits of one kind only. -/
def contextAllowed (before : List Char) (c : Char) (after : List Char) : Bool :=
  if c = '\u00B7' then before.head? == some 'l' && after.head? == some 'l'
  else if c = '\u0375' then after.head?.any (isIn .greek)
  else if c = '\u05F3' ∨ c = '\u05F4' then before.head?.any (isIn .hebrew)
  else if c = '\u30FB' then (before ++ after).any fun d => d ≠ '\u30FB' && isIn .japanese d
  else if isArabicDigit c then !(before ++ after).any isExtendedArabicDigit
  else if isExtendedArabicDigit c then !(before ++ after).any isArabicDigit
  else false

/-- Whether a character may stand between others. -/
def allowedBetween (before : List Char) (c : Char) (after : List Char) : Bool :=
  match labelCharacter? c with
  | none => false
  | some l =>
    match l.use with
    | .valid => true
    | .joiner => joinerAllowed before c after
    | .contextual => contextAllowed before c after

/-- Whether all characters may stand where they do. -/
def allAllowed (before : List Char) : List Char → Bool
  | [] => true
  | c :: after => allowedBetween before c after && allAllowed (c :: before) after

/-! ## Directions -/

/-- The directions from right to left. -/
def rightward : List Direction := [.right, .arabicLetter]

/-- The directions in a label from right to left. -/
def rightDirections : List Direction :=
  [.right, .arabicLetter, .arabicNumber, .number, .mark, .neutral]

/-- The directions in a label from left to right. -/
def leftDirections : List Direction := [.left, .number, .mark, .neutral]

/-- The directions with which a label from right to left ends, but for marks. -/
def rightEnds : List Direction := [.right, .arabicLetter, .number, .arabicNumber]

/-- The directions with which a label from left to right ends, but for marks. -/
def leftEnds : List Direction := [.left, .number]

/-- Whether a label ends with one of some directions, but for marks. -/
def endsWith (ends directions : List Direction) : Bool :=
  match directions.reverse.dropWhile (· = .mark) with
  | last :: _ => ends.contains last
  | [] => false

/-- The rules for labels with a direction. Only those with a character from right to left have to follow
them. -/
def directionsAllowed (directions : List Direction) : Bool :=
  if directions.all fun d => !rightward.contains d && d ≠ .arabicNumber then true
  else
    match directions with
    | [] => true
    | first :: _ =>
      if rightward.contains first then
        directions.all rightDirections.contains && endsWith rightEnds directions &&
          !(directions.contains .number && directions.contains .arabicNumber)
      else
        first = .left && directions.all leftDirections.contains && endsWith leftEnds directions

/-- The directions of a label's characters. -/
def directionsOf (cs : List Char) : List Direction :=
  cs.filterMap fun c => (labelCharacter? c).map LabelCharacter.direction

/-! ## Labels -/

/-- Two hyphens stand in the third and the fourth place. -/
def hasMiddleHyphens (cs : List Char) : Bool := (cs.drop 2).take 2 = ['-', '-']

/-- A label begins or ends with a hyphen. -/
def hasOuterHyphen (cs : List Char) : Bool := cs.head? == some '-' || cs.getLast? == some '-'

/-- Whether a text is a label. -/
def isLabel (cs : List Char) : Bool :=
  !cs.isEmpty && Canonical.composed cs = cs && !hasMiddleHyphens cs && !hasOuterHyphen cs &&
    !(cs.head?.any isMark) && allAllowed [] cs && directionsAllowed (directionsOf cs)

/-- A label in its two forms. -/
structure Label where
  unicode : List Char
  ascii : List Char
deriving DecidableEq

/-- What begins a label that stands for one in another script. -/
def encodedMark : List Char := ['x', 'n', '-', '-']

/-- A label that stands for one in another script, without its mark. -/
def decodeLabel? (cs : List Char) : Option (List Char) :=
  if cs.isEmpty || cs.getLast? == some '-' then none
  else (Punycode.decode cs).filter isLabel

/-- A label from either of its forms, in lower case. -/
def Label.ofText? (cs : List Char) : Option Label :=
  if cs.all Punycode.isBasic then
    if encodedMark.isPrefixOf cs then (decodeLabel? (cs.drop encodedMark.length)).map fun u => ⟨u, cs⟩
    else if isLabel cs then some ⟨cs, cs⟩ else none
  else if isLabel cs then some ⟨cs, encodedMark ++ Punycode.encode cs⟩
  else none

end Intake.DomainName
