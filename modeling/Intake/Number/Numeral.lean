/-!
# Numerals

A number as it is written in decimal notation: sign, digits before the point, digits after it and a
power of ten. Two notations share these parts. The plain one stands alone in a text and may leave out
the digits on one side of the point; the strict one is the number token of JSON and is read off the
front of a longer text.
-/

namespace Intake

/-- The parts of a written decimal number. -/
structure Numeral where
  /-- A minus sign is written. -/
  negative : Bool
  /-- The digits before the point. -/
  whole : List Char
  /-- The digits after the point. -/
  fraction : List Char
  /-- The written power of ten; zero when none is written. -/
  power : Int
deriving DecidableEq

namespace Numeral

/-- The number that a word of decimal digits writes. -/
def natOf (ds : List Char) : Nat := Nat.ofDigitChars 10 ds 0

/-- Whole numbers with more digits are not written. -/
def maxDigits : Nat := 4300

/-- What is said of a whole number that is too long to be written. -/
def tooLong : String :=
  "Exceeds the limit (4300 digits) for integer string conversion; " ++
    "use sys.set_int_max_str_digits() to increase the limit"

/-- The text of a whole number, unless it is too long. -/
def ofInt? (n : Int) : Option (List Char) :=
  if (Nat.toDigits 10 n.natAbs).length ≤ maxDigits then some (toString n).toList else none

/-- The text of a whole number, with what is said of one that is too long. -/
def written {ε : Type} (long : ε) (n : Int) : Except ε (List Char) :=
  match ofInt? n with
  | some cs => .ok cs
  | none => .error long

/-- The digits at the front of a text, and the text after them. -/
def takeDigits (cs : List Char) : List Char × List Char :=
  (cs.takeWhile Char.isDigit, cs.dropWhile Char.isDigit)

/-- Splits an optional minus sign off the front. -/
def takeMinus : List Char → Bool × List Char
  | '-' :: rest => (true, rest)
  | cs => (false, cs)

/-- Splits an optional sign of either kind off the front; a plus sign says nothing. -/
def takeSign : List Char → Bool × List Char
  | '-' :: rest => (true, rest)
  | '+' :: rest => (false, rest)
  | cs => (false, cs)

/-- The integer with this sign and size. -/
def signed (negative : Bool) (n : Nat) : Int := if negative then -(n : Int) else n

/-- Splits a power of ten off the front: the letter `e` of either case, an optional sign and at least
one digit. Where one of these is missing, nothing is taken. -/
def takePower (cs : List Char) : Int × List Char :=
  match cs with
  | [] => (0, [])
  | c :: afterMark =>
    if c = 'e' ∨ c = 'E' then
      let (negative, afterSign) := takeSign afterMark
      let (ds, rest) := takeDigits afterSign
      if ds.isEmpty then (0, cs) else (signed negative (natOf ds), rest)
    else (0, cs)

/-- Splits a point and at least one digit off the front, or takes nothing. -/
def takeFraction (cs : List Char) : List Char × List Char :=
  match cs with
  | '.' :: afterPoint =>
    let (ds, rest) := takeDigits afterPoint
    if ds.isEmpty then ([], cs) else (ds, rest)
  | _ => ([], cs)

/-- Splits the whole part of a strict numeral off the front: a lone zero, or digits that do not start
with one. -/
def takeWhole? : List Char → Option (List Char × List Char)
  | [] => none
  | c :: rest =>
    if c = '0' then some (['0'], rest)
    else if c.isDigit then some (takeDigits (c :: rest))
    else none

/-- Reads a strict numeral off the front of a text: the longest one that stands there. -/
def scan? (cs : List Char) : Option (Numeral × List Char) :=
  let (negative, unsigned) := takeMinus cs
  match takeWhole? unsigned with
  | none => none
  | some (whole, afterWhole) =>
    let (fraction, afterFraction) := takeFraction afterWhole
    let (power, rest) := takePower afterFraction
    some (⟨negative, whole, fraction, power⟩, rest)

/-- Splits a point and any digits after it off the front. -/
def takePoint : List Char → List Char × List Char
  | '.' :: afterPoint => takeDigits afterPoint
  | cs => ([], cs)

/-- Reads a plain numeral that is the whole text: an optional minus sign, digits with an optional
point and at least one digit on one side of it, and an optional power of ten. -/
def ofPlain? (cs : List Char) : Option Numeral :=
  let (negative, unsigned) := takeMinus cs
  let (whole, afterWhole) := takeDigits unsigned
  let (fraction, afterFraction) := takePoint afterWhole
  if whole.isEmpty ∧ fraction.isEmpty then none
  else
    let (power, rest) := takePower afterFraction
    if rest.isEmpty then some ⟨negative, whole, fraction, power⟩ else none

end Numeral

end Intake
