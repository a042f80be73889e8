import Intake.Number.Decimal

/-!
# Binary floating point

A binary64 number as an exact value: sign, significand and power of two. Reading rounds a decimal
number to the nearest binary one, to the even significand on a tie. Printing writes the fewest digits
that read back, and of those the nearest to the exact value.
-/

namespace Intake

namespace Binary64

/-- Significands lie below this bound. -/
def significandBound : Nat := Nat.pow 2 53

/-- The power of two of the smallest positive number. -/
def minExponent : Int := -1074

/-- The largest power of two of a significand. -/
def maxExponent : Int := 971

/-- A significand and a power of two are those of a binary64 number: the significand has full length,
unless the power is the smallest one. -/
def Fits (significand : Nat) (exponent : Int) : Prop :=
  significand < significandBound ∧ (significandBound / 2 ≤ significand ∨ exponent = minExponent) ∧
    minExponent ≤ exponent ∧ exponent ≤ maxExponent

instance (m : Nat) (e : Int) : Decidable (Fits m e) := by unfold Fits; infer_instance

end Binary64

/-- A binary64 number. Not-a-number has no sign and no payload here. -/
inductive Binary64 where
  | nan
  | infinity (negative : Bool)
  /-- The number `± significand · 2 ^ exponent`. -/
  | finite (negative : Bool) (significand : Nat) (exponent : Int)
    (fits : Binary64.Fits significand exponent)
deriving DecidableEq

namespace Binary64

/-- A zero of either sign. -/
def zero (negative : Bool) : Binary64 := .finite negative 0 minExponent (by decide)

/-- The ratio `num · base ^ power / den`, as numerator and denominator. -/
def scaled (base : Nat) (power : Int) (num den : Nat) : Nat × Nat :=
  if 0 ≤ power then (num * Nat.pow base power.toNat, den) else (num, den * Nat.pow base (-power).toNat)

/-- The power of two at which a positive ratio has a significand of full length. -/
def targetExponent (num den : Nat) : Int :=
  let guess : Int := (num.log2 : Int) - den.log2 - 53
  let (n, d) := scaled 2 (-guess) num den
  max minExponent (if n / d < significandBound then guess else guess + 1)

/-- The number nearest to a ratio; infinite when that is too large. -/
def ofRatio (negative : Bool) (num den : Nat) : Binary64 :=
  if num = 0 then zero negative
  else
    let e := targetExponent num den
    let (n, d) := scaled 2 (-e) num den
    let m := roundDiv n d
    let (m, e) := if m = significandBound then (m / 2, e + 1) else (m, e)
    if h : Fits m e then .finite negative m e h else .infinity negative

/-- Powers of ten beyond these are out of reach of any binary64 number with so few digits. -/
def powerReach : Int := 400

/-- The number nearest to a decimal one. The power of the first digit is looked at first, so that a
far exponent never becomes a power of ten. -/
def ofScientific (x : Scientific) : Binary64 :=
  if x.coefficient = 0 ∨ x.adjusted < -powerReach then zero x.negative
  else if powerReach < x.adjusted then .infinity x.negative
  else
    let (n, d) := scaled 10 x.exponent x.coefficient 1
    ofRatio x.negative n d

/-- The exact decimal value of a finite number. -/
def toScientific? : Binary64 → Option Scientific
  | finite negative m e _ =>
    some (if 0 ≤ e then ⟨negative, m * Nat.pow 2 e.toNat, 0⟩
      else ⟨negative, m * Nat.pow 5 (-e).toNat, e⟩)
  | _ => none

/-- A finite number without its fraction. -/
def truncate? (x : Binary64) : Option Int := x.toScientific?.map Scientific.truncate

/-- The interval of numbers that round to `m · 2 ^ e`, in quarters of the last place. -/
structure Cell where
  lower : Nat
  middle : Nat
  upper : Nat
  /-- Both ends belong to the interval. -/
  closed : Bool

/-- The cell of a positive significand. Below a power of two the numbers lie twice as close. -/
def cell (m : Nat) (e : Int) : Cell where
  lower := 4 * m - (if m = significandBound / 2 ∧ e ≠ minExponent then 1 else 2)
  middle := 4 * m
  upper := 4 * m + 2
  closed := m % 2 == 0

/-- Whether the ratio `num / den` lies in the cell. -/
def Cell.contains (c : Cell) (num den : Nat) : Bool :=
  if c.closed then c.lower * den ≤ num && num ≤ c.upper * den
  else c.lower * den < num && num < c.upper * den

/-- The distance of two natural numbers. -/
def distance (a b : Nat) : Nat := (a - b) + (b - a)

/-- The decimal grid point nearest to the middle of the cell and inside it, if there is one. The
grid's points are the multiples of `10 ^ power`, and the cell's unit is `2 ^ (e - 2)`. -/
def Cell.onGrid? (c : Cell) (e power : Int) : Option Nat :=
  -- a point `p` stands for `p · 10 ^ power / 2 ^ (e - 2)` quarters, that is `p · up / down`
  let (u, d) := scaled 10 power 1 1
  let (up, down) := scaled 2 (2 - e) u d
  let below := c.middle * down / up
  let hit (p : Nat) : Bool := c.contains (p * up) down
  match hit below, hit (below + 1) with
  | false, false => none
  | true, false => some below
  | false, true => some (below + 1)
  | true, true =>
    let low := distance (c.middle * down) (below * up)
    let high := distance (c.middle * down) ((below + 1) * up)
    if low < high then some below
    else if high < low then some (below + 1)
    else if below % 2 = 0 then some below else some (below + 1)

/-- The power of ten of the first digit of a positive ratio. -/
def firstPower (num den : Nat) : Int :=
  if den ≤ num then (Nat.toDigits 10 (num / den)).length - 1
  else
    -- the least `k` with `den ≤ num · 10 ^ k` is the number of digits of this quotient
    Int.neg (Nat.toDigits 10 ((den - 1) / num)).length

/-- Tries one, two, and more digits until the grid meets the cell. -/
def searchDigits (c : Cell) (e first : Int) : List Nat → Option (Nat × Int)
  | [] => none
  | n :: rest =>
    let power := first - n
    match c.onGrid? e power with
    | some p => some (p, power)
    | none => searchDigits c e first rest

/-- The fewest digits that read back as `m · 2 ^ e`, as a coefficient and a power of ten. Seventeen
digits always do. -/
def shortest (m : Nat) (e : Int) : Nat × Int :=
  let (n, d) := scaled 2 e m 1
  match searchDigits (cell m e) e (firstPower n d) (List.range 17) with
  | some (p, power) => Scientific.dropZeros p power
  | none => (m, e)

/-- Powers of ten of a first digit from here on are written in scientific notation. -/
def scientificFrom : Int := 16

/-- The smallest power of ten of a first digit that is written with a point alone. -/
def plainFrom : Int := -4

/-- At least two digits of a power of ten, after its sign. -/
def powerText (power : Int) : List Char :=
  let ds := Nat.toDigits 10 power.natAbs
  (if power < 0 then '-' else '+') :: (if ds.length < 2 then '0' :: ds else ds)

/-- The text of a positive number from its shortest digits: plain notation always has a point. -/
def unsignedText (coefficient : Nat) (exponent : Int) : List Char :=
  let ds := Nat.toDigits 10 coefficient
  let first := exponent + ds.length - 1
  if plainFrom ≤ first ∧ first < scientificFrom then
    if 0 ≤ exponent then ds ++ List.replicate exponent.toNat '0' ++ ['.', '0']
    else Scientific.pointed ds (-exponent).toNat
  else Scientific.leading ds ++ 'e' :: powerText first

/-- The number's text. -/
def text : Binary64 → List Char
  | nan => "nan".toList
  | infinity negative => (if negative then "-inf" else "inf").toList
  | finite negative m e _ =>
    let body := if m = 0 then "0.0".toList else
      let (coefficient, exponent) := shortest m e
      unsignedText coefficient exponent
    if negative then '-' :: body else body

/-- Reads a number from its text. -/
def ofText? (cs : List Char) : Option Binary64 :=
  match Numeral.ofPlain? cs with
  | some n => some (ofScientific (.ofNumeral n))
  | none =>
    let (negative, rest) := Numeral.takeMinus cs
    if rest = "inf".toList then some (.infinity negative)
    else if rest = "nan".toList then some .nan
    else none

end Binary64

end Intake
