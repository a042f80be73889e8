import Intake.Number.Numeral

/-!
# Decimal numbers

A decimal number keeps its sign, all its digits and its exponent: `1.0` and `1.00` are equal numbers
but different values. Exponents are bounded, so a numeral outside the bounds has no value; infinities
and two kinds of not-a-number complete the type.

`Scientific` is the bare triple without bounds. It serves for exact arithmetic on whole numbers and
binary fractions, which need not lie within them.
-/

namespace Intake

/-- The quotient rounded to the nearest whole number, and to the even one on a tie. -/
def roundDiv (num den : Nat) : Nat :=
  let q := num / den
  let r := num % den
  if 2 * r < den then q else if den < 2 * r then q + 1 else if q % 2 = 0 then q else q + 1

/-- The number `± coefficient · 10 ^ exponent`, with its digits as they are. -/
structure Scientific where
  /-- The sign; a zero has one too. -/
  negative : Bool
  /-- All digits, read as one whole number. -/
  coefficient : Nat
  /-- The power of ten of the last digit. -/
  exponent : Int
deriving DecidableEq

namespace Scientific

/-- The digits of the coefficient. -/
def digits (x : Scientific) : List Char := Nat.toDigits 10 x.coefficient

/-- The power of ten of the first digit. -/
def adjusted (x : Scientific) : Int := x.exponent + x.digits.length - 1

/-- The largest power of ten that a first digit may have. -/
def maxAdjusted : Int := 999999999999999999

/-- The smallest power of ten that a last digit may have. -/
def minExponent : Int := -1999999999999999997

/-- Both ends of the number lie within the bounds. -/
def InRange (x : Scientific) : Prop := minExponent ≤ x.exponent ∧ x.adjusted ≤ maxAdjusted

instance (x : Scientific) : Decidable x.InRange := by unfold InRange; infer_instance

/-- The number that a numeral writes. -/
def ofNumeral (n : Numeral) : Scientific where
  negative := n.negative
  coefficient := Numeral.natOf (n.whole ++ n.fraction)
  exponent := n.power - n.fraction.length

/-- A whole number, with exponent zero. -/
def ofInt (n : Int) : Scientific := ⟨n < 0, n.natAbs, 0⟩

/-- Whether the number is whole: no digit other than zero stands after the point. Digits are counted
first, so that a far exponent never becomes a power of ten. -/
def isIntegral (x : Scientific) : Bool :=
  x.coefficient == 0 || decide (0 ≤ x.exponent) ||
    (decide ((-x.exponent).toNat ≤ x.digits.length) && x.coefficient % Nat.pow 10 (-x.exponent).toNat == 0)

/-- Moves trailing zeros of a coefficient into the exponent. -/
def dropZeros (coefficient : Nat) (exponent : Int) : Nat × Int :=
  if h : coefficient ≠ 0 ∧ coefficient % 10 = 0 then dropZeros (coefficient / 10) (exponent + 1)
  else (coefficient, exponent)
termination_by coefficient
decreasing_by exact Nat.div_lt_self (Nat.pos_of_ne_zero h.1) (by decide)

/-- Whether two triples are the same number. Zeros agree whatever their sign and exponent. -/
def sameNumber (x y : Scientific) : Bool :=
  if x.coefficient = 0 ∨ y.coefficient = 0 then x.coefficient = y.coefficient
  else x.negative = y.negative ∧
    dropZeros x.coefficient x.exponent = dropZeros y.coefficient y.exponent

/-- The number rounded to the nearest whole one, and to the even one on a tie. Where no digit stands after
the point, the number stays as it is. Digits are counted first, so that a far exponent never becomes a
power of ten. -/
def nearestWhole (x : Scientific) : Scientific :=
  if 0 ≤ x.exponent then x
  else
    let places := (-x.exponent).toNat
    ⟨x.negative, if x.digits.length < places then 0 else roundDiv x.coefficient (Nat.pow 10 places), 0⟩

/-- The whole number left when the digits after the point are dropped. -/
def truncate (x : Scientific) : Int :=
  let size :=
    if 0 ≤ x.exponent then x.coefficient * Nat.pow 10 x.exponent.toNat
    else if x.digits.length < (-x.exponent).toNat then 0
    else x.coefficient / Nat.pow 10 (-x.exponent).toNat
  Numeral.signed x.negative size

/-- The exponent mark of scientific notation: a sign and the power's digits. -/
def powerText (power : Int) : List Char :=
  (if power < 0 then '-' else '+') :: Nat.toDigits 10 power.natAbs

/-- The digits with a point `places` digits from the right, filled with zeros on the left. -/
def pointed (ds : List Char) (places : Nat) : List Char :=
  if places < ds.length then ds.take (ds.length - places) ++ '.' :: ds.drop (ds.length - places)
  else '0' :: '.' :: (List.replicate (places - ds.length) '0' ++ ds)

/-- The digits in scientific notation: a point after the first one, when there are more. -/
def leading (ds : List Char) : List Char :=
  match ds with
  | d :: e :: rest => d :: '.' :: e :: rest
  | ds => ds

/-- The smallest power of a first digit that is still written with a point alone. -/
def plainLimit : Int := -6

/-- The number's text, without its sign. Plain notation serves while the exponent is not positive and
the first digit is at most six places after the point. -/
def unsignedText (x : Scientific) : List Char :=
  if x.exponent ≤ 0 ∧ plainLimit ≤ x.adjusted then
    if x.exponent = 0 then x.digits else pointed x.digits (-x.exponent).toNat
  else leading x.digits ++ 'E' :: powerText x.adjusted

/-- The number's text. -/
def text (x : Scientific) : List Char :=
  if x.negative then '-' :: x.unsignedText else x.unsignedText

end Scientific

/-- A decimal number within bounds, an infinity, or not a number. -/
inductive Decimal where
  /-- A finite number within the bounds. -/
  | finite (value : Scientific) (inRange : value.InRange)
  /-- An infinity of either sign. -/
  | infinity (negative : Bool)
  /-- Not a number: quiet or signaling, with diagnostic digits (none when zero). -/
  | nan (negative signaling : Bool) (payload : Nat)
deriving DecidableEq

namespace Decimal

/-- The value of a triple, if it lies within the bounds. -/
def ofScientific? (x : Scientific) : Option Decimal :=
  if h : x.InRange then some (.finite x h) else none

/-- The value of a numeral, if it lies within the bounds. -/
def ofNumeral? (n : Numeral) : Option Decimal := ofScientific? (.ofNumeral n)

/-- Neither infinite nor a not-a-number. -/
def isFinite : Decimal → Bool
  | finite .. => true
  | _ => false

/-- The number's text: every value has its own. -/
def text : Decimal → List Char
  | finite x _ => x.text
  | infinity negative => (if negative then "-Infinity" else "Infinity").toList
  | nan negative signaling payload =>
    (if negative then ['-'] else []) ++ (if signaling then ['s'] else []) ++ "NaN".toList ++
      (if payload = 0 then [] else Nat.toDigits 10 payload)

/-- Reads an infinity or a not-a-number, without its sign. -/
def ofSpecial? (negative : Bool) (cs : List Char) : Option Decimal :=
  if cs = "Infinity".toList then some (.infinity negative)
  else
    let (signaling, cs) := match cs with
      | 's' :: rest => (true, rest)
      | cs => (false, cs)
    match cs with
    | 'N' :: 'a' :: 'N' :: ds =>
      if ds.all Char.isDigit then some (.nan negative signaling (Numeral.natOf ds)) else none
    | _ => none

/-- Reads any decimal value from its text. -/
def ofText? (cs : List Char) : Option Decimal :=
  match Numeral.ofPlain? cs with
  | some n => ofNumeral? n
  | none => let (negative, rest) := Numeral.takeMinus cs; ofSpecial? negative rest

end Decimal

end Intake
