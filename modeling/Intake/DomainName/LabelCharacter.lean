import Intake.Text.RunTable

/-!
# Characters of labels

The characters that may stand in the labels of domain names, and what the rules for labels ask about them:
whether they may stand anywhere, the direction in which they are written, how they join with their
neighbours, and the scripts that some rules name. All other characters may not stand in labels at all. The
table is for characters that Unicode 14 assigns.
-/

namespace Intake.DomainName

/-- Where a character may stand. -/
inductive Use where
  | valid
  /-- Where it joins, or keeps from joining, its neighbours. -/
  | joiner
  /-- Where a rule of its own is met. -/
  | contextual
deriving DecidableEq

/-- The direction in which a character is written. -/
inductive Direction where
  | left
  | right
  | arabicLetter
  | arabicNumber
  | number
  | mark
  | neutral
deriving DecidableEq

/-- The sides on which a character joins its neighbours. -/
inductive Joining where
  | none
  | left
  | right
  | both
  /-- It lets its neighbours join each other. -/
  | transparent
deriving DecidableEq

/-- The scripts that rules name. -/
inductive Script where
  | other
  | greek
  | hebrew
  /-- Hiragana, Katakana and Han. -/
  | japanese
deriving DecidableEq

/-- A character that may stand in labels. -/
structure LabelCharacter where
  use : Use
  direction : Direction
  joining : Joining
  script : Script
deriving DecidableEq

/-- The combinations of properties that occur. -/
def combinations : List LabelCharacter :=
  [⟨.valid, .left, .none, .other⟩,
   ⟨.valid, .mark, .transparent, .other⟩,
   ⟨.valid, .right, .none, .other⟩,
   ⟨.valid, .arabicLetter, .both, .other⟩,
   ⟨.valid, .left, .none, .greek⟩,
   ⟨.valid, .arabicLetter, .right, .other⟩,
   ⟨.valid, .left, .none, .japanese⟩,
   ⟨.valid, .right, .both, .other⟩,
   ⟨.valid, .right, .right, .other⟩,
   ⟨.valid, .arabicLetter, .none, .other⟩,
   ⟨.valid, .neutral, .none, .other⟩,
   ⟨.valid, .mark, .transparent, .hebrew⟩,
   ⟨.valid, .left, .transparent, .other⟩,
   ⟨.valid, .left, .both, .other⟩,
   ⟨.contextual, .neutral, .none, .other⟩,
   ⟨.valid, .right, .none, .hebrew⟩,
   ⟨.valid, .right, .left, .other⟩,
   ⟨.valid, .number, .none, .other⟩,
   ⟨.contextual, .neutral, .none, .greek⟩,
   ⟨.contextual, .right, .none, .hebrew⟩,
   ⟨.contextual, .arabicNumber, .none, .other⟩,
   ⟨.contextual, .number, .none, .other⟩,
   ⟨.joiner, .neutral, .none, .other⟩,
   ⟨.valid, .left, .left, .other⟩,
   ⟨.valid, .arabicLetter, .left, .other⟩,
   ⟨.valid, .arabicNumber, .none, .other⟩,
   ⟨.valid, .mark, .none, .other⟩,
   ⟨.valid, .right, .transparent, .other⟩]

/-- Runs of code points: 0 for characters that may not stand in labels, and otherwise the number of their
combination of properties, counted from one. -/
def labelRuns : String := "
  45 0 1 11 2 0 10 18 39 0 26 1 60 0 1 15 39 0 24 1 1 0 8 1 1 0 1 1 1 0 1 1 1 0 1 1 1 0 1 1 1 0 1
  1 1 0 1 1 1 0 1 1 1 0 1 1 1 0 1 1 1 0 1 1 1 0 1 1 1 0 1 1 1 0 1 1 1 0 1 1 1 0 1 1 1 0 1 1 1 0 1
  1 1 0 1 1 1 0 1 1 1 0 1 1 1 0 1 1 1 0 1 1 1 0 1 1 1 0 1 1 1 0 1 1 3 0 1 1 1 0 2 1 1 0 1 1 1 0 1
  1 1 0 1 1 3 0 1 1 1 0 1 1 1 0 1 1 1 0 1 1 2 0 1 1 1 0 1 1 1 0 1 1 1 0 1 1 1 0 1 1 1 0 1 1 1 0 1
  1 1 0 1 1 1 0 1 1 1 0 1 1 1 0 1 1 1 0 1 1 1 0 1 1 1 0 1 1 1 0 1 1 1 0 1 1 1 0 1 1 1 0 1 1 1 0 1
  1 1 0 1 1 1 0 1 1 1 0 1 1 1 0 1 1 2 0 1 1 1 0 1 1 1 0 1 1 1 0 1 1 2 0 1 1 1 0 1 1 2 0 1 1 3 0 2
  1 4 0 1 1 2 0 1 1 3 0 3 1 2 0 1 1 2 0 1 1 1 0 1 1 1 0 1 1 2 0 1 1 1 0 2 1 1 0 1 1 2 0 1 1 3 0 1
  1 1 0 1 1 2 0 3 1 1 0 7 1 10 0 1 1 1 0 1 1 1 0 1 1 1 0 1 1 1 0 1 1 1 0 1 1 1 0 1 1 1 0 2 1 1 0 1
  1 1 0 1 1 1 0 1 1 1 0 1 1 1 0 1 1 1 0 1 1 1 0 1 1 1 0 1 1 1 0 2 1 4 0 1 1 3 0 1 1 1 0 1 1 1 0 1
  1 1 0 1 1 1 0 1 1 1 0 1 1 1 0 1 1 1 0 1 1 1 0 1 1 1 0 1 1 1 0 1 1 1 0 1 1 1 0 1 1 1 0 1 1 1 0 1
  1 1 0 1 1 1 0 1 1 1 0 1 1 1 0 1 1 1 0 1 1 1 0 1 1 1 0 1 1 1 0 1 1 1 0 1 1 1 0 1 1 1 0 1 1 1 0 1
  1 1 0 1 1 1 0 1 1 1 0 7 1 2 0 1 1 2 0 2 1 1 0 1 1 4 0 1 1 1 0 1 1 1 0 1 1 1 0 1 1 1 0 97 1 9 0 2
  11 7 1 4 0 10 11 2 1 26 0 1 11 1 0 1 1 17 0 64 2 2 0 1 2 3 0 9 2 1 0 32 2 1 0 1 5 1 0 1 5 1 0 1
  19 1 0 1 5 3 0 3 5 18 0 1 5 27 0 35 5 8 0 1 5 1 0 1 5 1 0 1 5 1 0 1 5 1 0 1 5 1 0 1 5 1 0 1 1 1
  0 1 1 1 0 1 1 1 0 1 1 1 0 1 1 1 0 1 1 1 0 1 1 3 0 1 5 4 0 1 5 2 0 2 5 51 0 48 1 1 0 1 1 1 0 1 1
  1 0 1 1 1 0 1 1 1 0 1 1 1 0 1 1 1 0 1 1 1 0 1 1 1 0 1 1 1 0 1 1 1 0 1 1 1 0 1 1 1 0 1 1 1 0 1 1
  1 0 1 1 1 0 1 1 1 0 1 1 1 0 5 2 3 0 1 1 1 0 1 1 1 0 1 1 1 0 1 1 1 0 1 1 1 0 1 1 1 0 1 1 1 0 1 1
  1 0 1 1 1 0 1 1 1 0 1 1 1 0 1 1 1 0 1 1 1 0 1 1 1 0 1 1 1 0 1 1 1 0 1 1 1 0 1 1 1 0 1 1 1 0 1 1
  1 0 1 1 1 0 1 1 1 0 1 1 1 0 1 1 1 0 1 1 1 0 1 1 1 0 1 1 2 0 1 1 1 0 1 1 1 0 1 1 1 0 1 1 1 0 1 1
  1 0 1 1 1 0 2 1 1 0 1 1 1 0 1 1 1 0 1 1 1 0 1 1 1 0 1 1 1 0 1 1 1 0 1 1 1 0 1 1 1 0 1 1 1 0 1 1
  1 0 1 1 1 0 1 1 1 0 1 1 1 0 1 1 1 0 1 1 1 0 1 1 1 0 1 1 1 0 1 1 1 0 1 1 1 0 1 1 1 0 1 1 1 0 1 1
  1 0 1 1 1 0 1 1 1 0 1 1 1 0 1 1 1 0 1 1 1 0 1 1 1 0 1 1 1 0 1 1 1 0 1 1 1 0 1 1 1 0 1 1 1 0 1 1
  1 0 1 1 1 0 1 1 1 0 1 1 1 0 1 1 1 0 1 1 1 0 1 1 1 0 1 1 1 0 1 1 1 0 1 1 1 0 1 1 1 0 1 1 1 0 1 1
  1 0 1 1 1 0 1 1 41 0 1 1 6 0 39 1 1 0 1 1 8 0 45 12 1 0 1 12 1 0 2 12 1 0 2 12 1 0 1 12 8 0 27
  16 4 0 4 16 2 20 27 0 11 2 5 0 1 4 1 10 4 6 1 4 1 6 1 4 1 6 5 4 4 6 13 4 1 0 7 4 1 6 2 4 21 2 10
  21 4 0 2 4 1 2 3 6 1 10 4 0 15 4 18 6 38 4 1 6 2 4 9 6 1 4 1 6 1 4 1 6 2 4 2 6 1 0 1 6 7 2 2 0 6
  2 2 10 2 2 1 0 4 2 2 6 10 22 3 4 2 10 1 4 16 0 1 6 1 2 3 4 5 6 4 4 1 6 9 4 1 6 1 4 1 6 1 4 1 6 2
  4 1 6 27 2 2 0 1 6 11 4 3 6 15 4 2 6 4 4 1 6 1 4 2 6 3 4 2 6 6 4 38 10 11 2 1 10 14 0 10 3 33 8
  9 2 2 3 7 0 1 2 2 0 22 3 4 2 1 3 9 2 1 3 3 2 1 3 5 2 18 0 1 9 5 8 2 9 1 8 1 9 10 8 1 9 1 8 3 9 3
  2 4 0 1 4 1 10 4 4 1 10 1 6 1 4 2 6 5 0 19 6 3 10 1 4 1 10 1 0 5 4 1 6 9 0 8 2 10 4 3 6 1 10 1 6
  2 4 2 6 6 4 1 6 15 4 1 10 24 2 1 0 32 2 55 1 1 2 1 1 1 2 4 1 8 2 4 1 1 2 3 1 7 2 8 0 2 1 2 2 2 0
  10 1 1 0 16 1 1 2 2 1 1 0 8 1 2 0 2 1 2 0 22 1 1 0 7 1 1 0 1 1 3 0 4 1 2 0 1 2 4 1 4 2 2 0 2 1 2
  0 2 1 1 2 1 1 8 0 1 1 8 0 2 1 2 2 2 0 12 1 10 0 1 1 1 0 1 2 2 0 2 2 1 1 1 0 6 1 4 0 2 1 2 0 22 1
  1 0 7 1 1 0 1 1 2 0 1 1 2 0 2 1 2 0 1 2 1 0 3 1 2 2 4 0 2 2 2 0 3 2 3 0 1 2 10 0 1 1 9 0 10 1 2
  2 3 1 1 2 11 0 2 2 1 1 1 0 9 1 1 0 3 1 1 0 22 1 1 0 7 1 1 0 2 1 1 0 5 1 2 0 1 2 4 1 5 2 1 0 2 2
  1 1 1 0 2 1 1 2 2 0 1 1 15 0 2 1 2 2 2 0 10 1 9 0 1 1 6 2 1 0 1 2 2 1 1 0 8 1 2 0 2 1 2 0 22 1 1
  0 7 1 1 0 2 1 1 0 5 1 2 0 1 2 2 1 1 2 1 1 4 2 2 0 2 1 2 0 2 1 1 2 7 0 2 2 1 1 7 0 3 1 2 2 2 0 10
  1 1 0 1 1 16 0 1 2 1 1 1 0 6 1 3 0 3 1 1 0 4 1 3 0 2 1 1 0 1 1 1 0 2 1 3 0 2 1 3 0 3 1 3 0 12 1
  4 0 2 1 1 2 2 1 3 0 3 1 1 0 3 1 1 2 2 0 1 1 6 0 1 1 14 0 10 1 16 0 1 2 3 1 1 2 8 1 1 0 3 1 1 0
  23 1 1 0 16 1 2 0 1 2 1 1 3 2 4 1 1 0 3 2 1 0 4 2 7 0 2 2 1 0 3 1 2 0 1 1 2 0 2 1 2 2 2 0 10 1
  16 0 1 1 1 2 2 1 1 0 8 1 1 0 3 1 1 0 23 1 1 0 10 1 1 0 5 1 2 0 1 2 2 1 1 13 5 1 1 0 1 13 2 1 1 0
  2 1 2 2 7 0 2 1 6 0 2 1 1 0 2 1 2 2 2 0 10 1 1 0 2 1 13 0 2 2 11 1 1 0 3 1 1 0 41 1 2 2 4 1 4 2
  1 0 3 1 1 0 3 1 1 2 1 1 5 0 4 1 7 0 3 1 2 2 2 0 10 1 10 0 6 1 1 0 1 2 2 1 1 0 18 1 3 0 24 1 1 0
  9 1 1 0 1 1 2 0 7 1 3 0 1 2 4 0 3 1 3 2 1 0 1 2 1 0 8 1 6 0 10 1 2 0 2 1 13 0 48 1 1 2 1 1 1 0 7
  2 5 0 7 1 8 2 1 0 10 1 39 0 2 1 1 0 1 1 1 0 5 1 1 0 24 1 1 0 1 1 1 0 10 1 1 2 1 1 1 0 9 2 1 1 2
  0 5 1 1 0 1 1 1 0 6 2 2 0 10 1 4 0 2 1 32 0 1 1 10 0 1 1 12 0 2 2 6 0 10 1 11 0 1 2 1 0 1 2 1 0
  1 2 4 0 5 1 1 0 4 1 1 0 4 1 1 0 4 1 1 0 4 1 1 0 4 1 1 0 12 1 1 0 3 1 4 0 2 2 1 0 1 2 5 0 5 2 1 1
  1 2 1 0 3 2 1 0 2 2 5 1 6 2 1 0 4 2 1 0 4 2 1 0 4 2 1 0 4 2 1 0 4 2 1 0 12 2 1 0 3 2 9 0 1 2 57
  0 45 1 4 2 1 1 6 2 1 1 2 2 2 1 2 2 11 1 6 0 8 1 2 2 4 1 3 2 16 1 4 2 13 1 1 2 2 1 2 2 6 1 1 2 15
  1 1 2 50 0 43 1 2 0 3 1 256 0 73 1 1 0 4 1 2 0 7 1 1 0 1 1 1 0 4 1 2 0 41 1 1 0 4 1 2 0 33 1 1 0
  4 1 2 0 7 1 1 0 1 1 1 0 4 1 2 0 15 1 1 0 57 1 1 0 4 1 2 0 67 1 2 0 3 2 32 0 16 1 16 0 86 1 11 0
  620 1 2 0 17 1 1 0 26 1 5 0 75 1 6 0 8 1 7 0 18 1 3 2 1 1 9 0 19 1 2 2 1 1 11 0 18 1 2 2 12 0 13
  1 1 0 3 1 1 0 2 2 12 0 52 1 2 0 1 1 7 2 8 1 1 2 2 1 11 2 3 0 1 1 4 0 1 1 1 2 2 0 10 1 38 0 10 1
  6 0 89 14 7 0 5 1 2 2 34 14 1 2 1 14 5 0 70 1 10 0 31 1 1 0 3 2 4 1 2 2 3 1 4 0 2 1 1 2 6 1 3 2
  10 0 40 1 2 0 5 1 11 0 44 1 4 0 26 1 6 0 10 1 38 0 23 1 2 2 2 1 1 2 4 0 54 1 1 2 1 1 7 2 1 0 1 2
  1 1 1 2 2 1 8 2 6 1 10 2 2 0 1 2 10 1 6 0 10 1 13 0 1 1 8 0 14 2 1 0 16 2 49 0 4 2 48 1 1 2 1 1
  5 2 1 1 1 2 5 1 1 2 10 1 3 0 10 1 17 0 9 2 12 0 2 2 32 1 4 2 2 1 2 2 1 1 3 2 56 1 1 2 1 1 2 2 3
  1 1 2 1 1 3 2 2 1 12 0 44 1 8 2 2 1 2 2 8 0 10 1 3 0 49 1 82 0 3 2 1 0 13 2 1 1 7 2 4 1 1 2 6 1
  1 2 3 1 2 2 1 1 5 0 38 1 5 5 1 1 3 0 1 1 11 0 1 1 18 0 1 1 28 0 13 1 1 0 34 1 37 0 64 2 1 0 1 1
  1 0 1 1 1 0 1 1 1 0 1 1 1 0 1 1 1 0 1 1 1 0 1 1 1 0 1 1 1 0 1 1 1 0 1 1 1 0 1 1 1 0 1 1 1 0 1 1
  1 0 1 1 1 0 1 1 1 0 1 1 1 0 1 1 1 0 1 1 1 0 1 1 1 0 1 1 1 0 1 1 1 0 1 1 1 0 1 1 1 0 1 1 1 0 1 1
  1 0 1 1 1 0 1 1 1 0 1 1 1 0 1 1 1 0 1 1 1 0 1 1 1 0 1 1 1 0 1 1 1 0 1 1 1 0 1 1 1 0 1 1 1 0 1 1
  1 0 1 1 1 0 1 1 1 0 1 1 1 0 1 1 1 0 1 1 1 0 1 1 1 0 1 1 1 0 1 1 1 0 1 1 1 0 1 1 1 0 1 1 1 0 1 1
  1 0 1 1 1 0 1 1 1 0 1 1 1 0 1 1 1 0 1 1 1 0 1 1 1 0 1 1 1 0 1 1 1 0 1 1 1 0 1 1 1 0 1 1 1 0 1 1
  1 0 1 1 1 0 1 1 1 0 1 1 1 0 1 1 1 0 1 1 1 0 1 1 1 0 1 1 1 0 1 1 1 0 1 1 1 0 1 1 1 0 1 1 1 0 1 1
  1 0 1 1 1 0 5 1 2 0 2 1 1 0 1 1 1 0 1 1 1 0 1 1 1 0 1 1 1 0 1 1 1 0 1 1 1 0 1 1 1 0 1 1 1 0 1 1
  1 0 1 1 1 0 1 1 1 0 1 1 1 0 1 1 1 0 1 1 1 0 1 1 1 0 1 1 1 0 1 1 1 0 1 1 1 0 1 1 1 0 1 1 1 0 1 1
  1 0 1 1 1 0 1 1 1 0 1 1 1 0 1 1 1 0 1 1 1 0 1 1 1 0 1 1 1 0 1 1 1 0 1 1 1 0 1 1 1 0 1 1 1 0 1 1
  1 0 1 1 1 0 1 1 1 0 1 1 1 0 1 1 1 0 1 1 1 0 1 1 1 0 1 1 1 0 1 1 1 0 1 1 1 0 1 1 1 0 1 1 1 0 1 1
  1 0 1 1 1 0 1 1 1 0 1 1 1 0 1 1 8 5 8 0 6 5 10 0 8 5 8 0 8 5 8 0 6 5 10 0 8 5 8 0 8 5 8 0 1 5 1
  0 1 5 1 0 1 5 1 0 1 5 1 0 1 5 1 0 1 5 1 0 1 5 51 0 2 5 4 0 1 5 15 0 1 5 9 0 3 5 3 0 2 5 8 0 3 5
  1 0 4 5 14 0 1 5 21 0 2 23 320 0 1 1 53 0 1 1 2731 0 48 1 1 0 1 1 3 0 2 1 1 0 1 1 1 0 1 1 1 0 1
  1 4 0 1 1 1 0 2 1 1 0 6 1 5 0 1 1 1 0 1 1 1 0 1 1 1 0 1 1 1 0 1 1 1 0 1 1 1 0 1 1 1 0 1 1 1 0 1
  1 1 0 1 1 1 0 1 1 1 0 1 1 1 0 1 1 1 0 1 1 1 0 1 1 1 0 1 1 1 0 1 1 1 0 1 1 1 0 1 1 1 0 1 1 1 0 1
  1 1 0 1 1 1 0 1 1 1 0 1 1 1 0 1 1 1 0 1 1 1 0 1 1 1 0 1 1 1 0 1 1 1 0 1 1 1 0 1 1 1 0 1 1 1 0 1
  1 1 0 1 1 1 0 1 1 1 0 1 1 1 0 1 1 1 0 1 1 1 0 1 1 1 0 1 1 1 0 1 1 1 0 1 1 1 0 1 1 1 0 1 1 1 0 1
  1 1 0 1 1 1 0 1 1 1 0 1 1 1 0 1 1 1 0 2 1 7 0 1 1 1 0 1 1 3 2 1 0 1 1 12 0 38 1 1 0 1 1 5 0 1 1
  2 0 56 1 23 0 1 2 23 1 9 0 7 1 1 0 7 1 1 0 7 1 1 0 7 1 1 0 7 1 1 0 7 1 1 0 7 1 1 0 7 1 1 0 32 2
  47 0 1 11 469 0 1 7 1 1 1 7 34 0 4 2 14 0 1 1 4 0 86 7 2 0 2 2 2 0 2 7 2 0 90 7 1 15 1 1 2 7 6 0
  43 1 112 0 32 1 48 0 16 7 512 0 6592 7 64 0 20992 7 1165 1 67 0 46 1 2 0 269 1 3 0 28 1 21 0 1 1
  1 0 1 1 1 0 1 1 1 0 1 1 1 0 1 1 1 0 1 1 1 0 1 1 1 0 1 1 1 0 1 1 1 0 1 1 1 0 1 1 1 0 1 1 1 0 1 1
  1 0 1 1 1 0 1 1 1 0 1 1 1 0 1 1 1 0 1 1 1 0 1 1 1 0 1 1 1 0 1 1 1 0 1 1 1 0 2 1 1 2 4 0 10 2 1 0
  1 11 1 0 1 1 1 0 1 1 1 0 1 1 1 0 1 1 1 0 1 1 1 0 1 1 1 0 1 1 1 0 1 1 1 0 1 1 1 0 1 1 1 0 1 1 1 0
  1 1 1 0 1 1 1 0 1 1 2 0 2 2 70 1 10 0 2 2 37 0 9 11 3 0 1 1 1 0 1 1 1 0 1 1 1 0 1 1 1 0 1 1 1 0
  1 1 1 0 3 1 1 0 1 1 1 0 1 1 1 0 1 1 1 0 1 1 1 0 1 1 1 0 1 1 1 0 1 1 1 0 1 1 1 0 1 1 1 0 1 1 1 0
  1 1 1 0 1 1 1 0 1 1 1 0 1 1 1 0 1 1 1 0 1 1 1 0 1 1 1 0 1 1 1 0 1 1 1 0 1 1 1 0 1 1 1 0 1 1 1 0
  1 1 1 0 1 1 1 0 1 1 1 0 1 1 1 0 1 1 1 0 1 1 1 0 1 1 1 0 1 1 1 0 1 1 1 0 8 1 1 0 1 1 1 0 1 1 2 0
  1 1 1 0 1 1 1 0 1 1 1 0 1 1 1 0 1 1 1 11 3 0 1 1 1 0 2 1 1 0 1 1 1 0 3 1 1 0 1 1 1 0 1 1 1 0 1 1
  1 0 1 1 1 0 1 1 1 0 1 1 1 0 1 1 1 0 1 1 1 0 1 1 1 0 1 1 5 0 1 1 5 0 1 1 1 0 1 1 1 0 1 1 1 0 1 1
  1 0 1 1 1 0 1 1 1 0 1 1 1 0 1 1 4 0 1 1 1 0 1 1 6 0 1 1 1 0 1 1 1 0 1 1 1 0 1 1 1 0 1 1 28 0 2 1
  2 0 8 1 1 2 3 1 1 2 4 1 1 2 25 1 2 2 1 1 4 0 1 2 19 0 50 14 1 24 1 1 12 0 68 1 2 2 10 0 10 1 6 0
  18 2 6 1 3 0 1 1 1 0 2 1 1 2 38 1 8 2 2 0 23 1 11 2 2 1 44 0 3 2 48 1 1 2 2 1 4 2 2 1 2 2 3 1 14
  0 11 1 6 0 5 1 1 2 25 1 1 0 41 1 6 2 2 1 2 2 2 1 2 2 9 0 3 1 1 2 8 1 1 2 1 1 2 0 10 1 6 0 23 1 3
  0 2 1 1 2 51 1 1 2 1 1 3 2 2 1 2 2 5 1 2 2 1 1 1 2 1 1 24 0 3 1 2 0 12 1 2 2 2 1 2 0 4 1 1 2 10
  0 6 1 2 0 6 1 2 0 6 1 9 0 7 1 1 0 7 1 1 0 43 1 5 0 5 1 1 5 3 1 87 0 37 1 1 2 2 1 1 2 2 1 1 0 1 1
  1 2 2 0 10 1 6 0 11172 1 8810 0 2 7 1 0 1 7 1 0 2 7 10 0 1 7 1 0 1 7 1 0 2 7 2 0 3 7 244 0 1 12
  769 0 16 2 67 0 1 10 396 0 12 1 1 0 26 1 1 0 19 1 1 0 2 1 1 0 15 1 2 0 14 1 34 0 123 1 258 0 1 2
  130 0 29 1 3 0 49 1 15 0 1 2 31 0 32 1 13 0 20 1 1 0 8 1 6 0 38 1 5 2 5 0 30 1 2 0 36 1 4 0 8 1
  88 0 118 1 2 0 10 1 46 0 36 1 4 0 40 1 8 0 52 1 51 0 11 1 1 0 15 1 1 0 7 1 1 0 2 1 67 0 311 1 9
  0 22 1 10 0 8 1 24 0 1 1 127 0 6 3 2 0 1 3 1 0 44 3 1 0 2 3 3 0 1 3 2 0 23 3 10 0 23 3 9 0 31 3
  65 0 19 3 1 0 2 3 10 0 22 3 10 0 26 3 70 0 56 3 6 0 2 3 64 0 1 3 3 2 1 0 2 2 5 0 4 2 4 3 1 0 3 3
  1 0 29 3 2 0 3 2 4 0 1 2 32 0 29 3 3 0 29 3 35 0 5 8 1 9 1 3 1 9 1 0 2 9 2 3 1 17 5 9 4 8 1 17 5
  8 1 9 3 8 1 9 2 3 1 9 2 2 25 0 54 3 10 0 22 3 10 0 19 3 13 0 1 8 1 9 1 8 3 9 3 8 1 9 2 8 1 9 1 8
  2 9 1 8 1 9 110 0 73 3 119 0 51 3 13 0 1 25 33 4 1 6 1 4 4 2 8 0 10 26 326 0 42 3 1 0 2 2 3 0 2
  3 78 0 29 3 10 0 1 3 8 0 3 4 1 6 17 4 1 10 11 2 31 0 4 8 2 9 12 8 4 2 42 0 1 8 1 3 2 8 3 9 1 3 1
  8 2 9 2 8 1 9 2 8 1 3 1 8 2 9 1 8 27 0 23 3 9 0 1 1 1 2 54 1 15 2 31 0 10 1 1 2 2 1 2 2 1 1 9 0
  3 2 49 1 4 2 2 1 2 2 7 0 1 2 13 0 25 1 7 0 10 1 6 0 3 2 36 1 5 2 1 1 8 2 1 0 10 1 4 0 4 1 8 0 35
  1 1 2 2 0 1 1 9 0 2 2 52 1 9 2 6 1 4 0 4 2 1 0 1 1 1 2 11 1 1 0 1 1 35 0 18 1 1 0 28 1 3 2 2 1 1
  2 1 1 2 2 6 0 1 2 65 0 7 1 1 0 1 1 1 0 4 1 1 0 15 1 1 0 10 1 7 0 47 1 1 2 3 1 8 2 5 0 10 1 6 0 2
  2 2 1 1 0 8 1 2 0 2 1 2 0 22 1 1 0 7 1 1 0 2 1 1 0 5 1 1 0 2 2 3 1 1 2 4 1 2 0 2 1 2 0 3 1 2 0 1
  1 6 0 1 1 5 0 7 1 2 0 7 2 3 0 5 2 139 0 56 1 8 2 2 1 3 2 1 1 1 2 4 1 5 0 10 1 4 0 1 2 3 1 30 0
  51 1 6 2 1 1 1 2 4 1 2 2 1 1 2 2 2 1 1 0 1 1 8 0 10 1 166 0 50 1 4 2 2 0 4 1 2 2 1 1 2 2 23 0 4
  1 2 2 34 0 51 1 8 2 2 1 1 2 1 1 2 2 3 0 1 1 11 0 10 1 38 0 43 1 1 2 1 1 1 2 2 1 6 2 1 1 1 2 1 1
  7 0 10 1 54 0 27 1 2 0 1 2 1 27 1 2 2 1 4 2 1 1 5 2 4 0 10 1 6 0 7 1 185 0 47 1 9 2 1 1 2 2 133
  0 42 1 21 0 8 1 2 0 1 1 2 0 8 1 1 0 2 1 1 0 30 1 1 0 2 1 2 0 2 2 1 1 1 2 4 1 1 2 12 0 10 1 70 0
  8 1 2 0 42 1 4 2 2 0 2 2 4 1 1 2 1 1 1 0 2 1 27 0 1 1 6 2 2 13 2 2 40 1 6 2 2 1 4 2 8 0 1 2 8 0
  1 1 6 2 2 1 3 2 46 1 13 2 1 1 2 2 3 0 1 1 18 0 73 1 263 0 9 1 1 0 38 1 7 2 1 0 6 2 1 1 1 13 1 1
  15 0 10 1 24 0 30 1 2 0 22 2 1 0 1 1 7 2 1 1 2 2 1 1 2 2 73 0 7 1 1 0 2 1 1 0 38 1 6 2 3 0 1 2 1
  0 2 2 1 0 7 2 1 1 1 2 8 0 10 1 6 0 6 1 1 0 2 1 1 0 37 1 1 0 2 2 1 0 2 1 1 2 1 1 1 2 1 1 7 0 10 1
  310 0 19 1 2 2 2 1 185 0 1 1 79 0 922 1 230 0 196 1 2636 0 97 1 15 0 1071 1 4049 0 583 1 8633 0
  569 1 7 0 31 1 1 0 10 1 6 0 79 1 1 0 10 1 6 0 30 1 2 0 5 2 11 0 48 1 7 2 9 0 4 1 12 0 10 1 9 0
  21 1 5 0 19 1 720 0 32 1 128 0 75 1 4 0 1 2 56 1 7 0 4 2 13 1 64 0 2 1 1 0 1 7 1 2 11 0 2 7 14 0
  6136 1 8 0 1238 1 42 0 9 1 8935 0 4 7 1 0 7 7 1 0 2 7 1 0 291 7 45 0 3 7 17 0 4 7 8 0 396 1 2308
  0 107 1 5 0 13 1 3 0 9 1 7 0 10 1 3 0 2 2 4705 0 46 2 2 0 23 2 2745 0 55 2 4 0 50 2 8 0 1 2 14 0
  1 2 22 0 5 2 1 0 15 2 1104 0 31 1 225 0 7 2 1 0 17 2 2 0 7 2 1 0 2 2 1 0 5 2 213 0 45 1 3 0 7 2
  7 1 2 0 10 1 4 0 1 1 321 0 30 1 1 2 17 0 44 1 4 2 10 1 1254 0 7 1 1 0 4 1 1 0 2 1 1 0 15 1 1 0
  197 3 11 0 7 2 75 0 34 8 7 2 1 28 4 0 10 3 5798 0 42720 7 32 0 4153 7 7 0 222 7 2 0 5762 7 14 0
  7473 7 5151 0 4939 7 912565 0"

/-- The table, ready for look-ups. -/
def labelTable : RunTable Nat := .ofText labelRuns

/-- The combinations, ready for look-ups. -/
def combinationTable : Array LabelCharacter := combinations.toArray

/-- The properties of a character, if it may stand in labels. -/
def labelCharacter? (c : Char) : Option LabelCharacter :=
  match labelTable.valueAt c with
  | 0 => none
  | n + 1 => combinationTable[n]?

end Intake.DomainName
