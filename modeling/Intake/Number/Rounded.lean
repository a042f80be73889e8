import Intake.Number.Binary64

/-!
# Binary numbers with a given precision

The text of a binary number, rounded to so many places after the point or to so many digits in all. The
exact value is rounded, to the even neighbour on a tie.
-/

namespace Intake.Binary64

/-- How a number is written with a given precision. -/
inductive Format where
  /-- Without a power of ten, with so many places after the point. -/
  | fixed
  /-- With a power of ten, with so many places after the point. -/
  | scientific
  /-- With so many digits in all, and a power of ten only where it is far from zero. Zeros at the end are
  dropped. -/
  | general
deriving DecidableEq

/-- A word of digits with so many of them after the point. The point may be kept when none are. -/
def withPoint (keepPoint : Bool) (ds : List Char) (places : Nat) : List Char :=
  if places = 0 then (if keepPoint then ds ++ ['.'] else ds) else Scientific.pointed ds places

/-- The nearest multiple of a power of ten, as a multiple of it. -/
def nearestMultiple (m : Nat) (e : Int) (power : Int) : Nat :=
  let (n, d) := scaled 2 e m 1
  let (n, d) := scaled 10 (-power) n d
  roundDiv n d

/-- So many digits of a number, as a coefficient, and the power of ten of the first one. -/
def leadingDigits (m : Nat) (e : Int) (count : Nat) : Nat × Int :=
  if m = 0 then (0, 0)
  else
    let (n, d) := scaled 2 e m 1
    let first := firstPower n d
    let coefficient := nearestMultiple m e (first - count + 1)
    if coefficient = Nat.pow 10 count then (coefficient / 10, first + 1) else (coefficient, first)

/-- A number without a power of ten. -/
def fixedText (keepPoint : Bool) (m : Nat) (e : Int) (places : Nat) : List Char :=
  withPoint keepPoint (Nat.toDigits 10 (nearestMultiple m e (-places))) places

/-- The digits of a coefficient, filled with zeros on the left. -/
def filled (count coefficient : Nat) : List Char :=
  let ds := Nat.toDigits 10 coefficient
  List.replicate (count - ds.length) '0' ++ ds

/-- A number with a power of ten. -/
def scientificText (keepPoint : Bool) (m : Nat) (e : Int) (places : Nat) : List Char :=
  let (coefficient, first) := leadingDigits m e (places + 1)
  withPoint keepPoint (filled (places + 1) coefficient) places ++ 'e' :: powerText first

/-- A coefficient without so many zeros at its end, and how many places are left. -/
def dropPlaces (coefficient : Nat) : Nat → Nat × Nat
  | 0 => (coefficient, 0)
  | places + 1 =>
    if coefficient % 10 = 0 then dropPlaces (coefficient / 10) places else (coefficient, places + 1)

/-- A number in whichever notation is shorter to read. -/
def generalText (keepZeros : Bool) (m : Nat) (e : Int) (digits : Nat) : List Char :=
  let count := max digits 1
  let (coefficient, first) := leadingDigits m e count
  let trim (places : Nat) : Nat × Nat := if keepZeros then (coefficient, places) else dropPlaces coefficient places
  if plainFrom ≤ first ∧ first < count then
    let (coefficient, places) := trim (count - 1 - first).toNat
    withPoint keepZeros (filled (places + 1) coefficient) places
  else
    let (coefficient, places) := trim (count - 1)
    withPoint keepZeros (filled (places + 1) coefficient) places ++ 'e' :: powerText first

/-- The text of a number with a given precision. The longer form keeps a point, and the zeros at the end,
that the shorter one drops. -/
def formatted (format : Format) (longer : Bool) (precision : Nat) : Binary64 → List Char
  | nan => "nan".toList
  | infinity negative => (if negative then "-inf" else "inf").toList
  | finite negative m e _ =>
    let body := match format with
      | .fixed => fixedText longer m e precision
      | .scientific => scientificText longer m e precision
      | .general => generalText longer m e precision
    if negative then '-' :: body else body

end Intake.Binary64
