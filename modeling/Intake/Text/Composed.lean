import Intake.Text.Canonical

/-!
# Composed text

The composed form of a text: every character is taken apart as far as possible, marks are put in the order
of their classes, and then characters are put together again as far as possible. Texts that are
canonically equivalent have the same composed form.
-/

namespace Intake.Canonical

/-! ## Syllables of Hangul -/

/-- The first syllable. -/
def firstSyllable : Nat := 0xAC00

/-- The number of syllables. -/
def syllableCount : Nat := 11172

/-- The first leading consonant. -/
def firstLead : Nat := 0x1100

/-- The first vowel. -/
def firstVowel : Nat := 0x1161

/-- The place before the first trailing consonant. -/
def beforeTrail : Nat := 0x11A7

/-- The number of leading consonants. -/
def leadCount : Nat := 19

/-- The number of vowels. -/
def vowelCount : Nat := 21

/-- The number of trailing consonants, none being one of them. -/
def trailCount : Nat := 28

/-- A syllable's letters. -/
def letters? (c : Char) : Option (List Char) :=
  let n := c.toNat - firstSyllable
  if firstSyllable ≤ c.toNat ∧ n < syllableCount then
    let lead := Char.ofNat (firstLead + n / (vowelCount * trailCount))
    let vowel := Char.ofNat (firstVowel + n % (vowelCount * trailCount) / trailCount)
    let trail := n % trailCount
    some ([lead, vowel] ++ (if trail = 0 then [] else [Char.ofNat (beforeTrail + trail)]))
  else none

/-- The syllable of a leading consonant and a vowel, or of a syllable and a trailing consonant. -/
def syllable? (a b : Char) : Option Char :=
  let lead := a.toNat - firstLead
  let vowel := b.toNat - firstVowel
  let open_ := a.toNat - firstSyllable
  let trail := b.toNat - beforeTrail
  if firstLead ≤ a.toNat ∧ lead < leadCount ∧ firstVowel ≤ b.toNat ∧ vowel < vowelCount then
    some (Char.ofNat (firstSyllable + (lead * vowelCount + vowel) * trailCount))
  else if firstSyllable ≤ a.toNat ∧ open_ < syllableCount ∧ open_ % trailCount = 0 ∧
      beforeTrail < b.toNat ∧ trail < trailCount then
    some (Char.ofNat (a.toNat + trail))
  else none

/-! ## Taking apart, ordering, and putting together -/

/-- The parts of a character, if it has any. -/
def parts? (c : Char) : Option (List Char) :=
  if c.toNat < 0x80 then none
  else match letters? c with
    | some letters => some letters
    | none => (decompositionTable.entryAt? c).map Decomposition.parts

/-- Takes a character apart, and its parts again, so many times. -/
def takeApart : Nat → Char → List Char
  | 0, c => [c]
  | depth + 1, c =>
    match parts? c with
    | some parts => parts.flatMap (takeApart depth)
    | none => [c]

/-- No character can be taken apart more often. -/
def maxDepth : Nat := 8

/-- Puts a character in front of a text, and a mark behind those marks that come before it. -/
def insertMark (c : Char) : List Char → List Char
  | [] => [c]
  | d :: rest =>
    if 0 < combiningClass d ∧ combiningClass d < combiningClass c then d :: insertMark c rest
    else c :: d :: rest

/-- A text with its marks in order. -/
def ordered (cs : List Char) : List Char := cs.foldr insertMark []

/-- The character that two others make up. -/
def compose? (a b : Char) : Option Char :=
  match syllable? a b with
  | some c => some c
  | none => (compositions.find? fun (pair, _) => pair = (a, b)).map Prod.snd

/-- Puts the marks that follow a character together with it. Those that could not be are kept in `between`,
last first; a mark does not pass one of its own class or of a higher one. -/
def composeFrom (first : Char) (between : List Char) : List Char → List Char
  | [] => first :: between.reverse
  | c :: rest =>
    let isBlocked := match between with
      | [] => false
      | last :: _ => combiningClass c ≤ combiningClass last
    match if isBlocked then none else compose? first c with
    | some d => composeFrom d between rest
    | none =>
      if combiningClass c = 0 then first :: (between.reverse ++ composeFrom c [] rest)
      else composeFrom first (c :: between) rest

/-- Puts characters and marks together. Marks without a character in front of them stay as they are. -/
def compose : List Char → List Char
  | [] => []
  | c :: rest => if combiningClass c = 0 then composeFrom c [] rest else c :: compose rest

/-- The composed form of a text. -/
def composed (cs : List Char) : List Char := compose (ordered (cs.flatMap (takeApart maxDepth)))

end Intake.Canonical
