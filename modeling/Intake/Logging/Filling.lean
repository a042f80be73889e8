import Intake.Logging.Template
import Intake.Number.Rounded
import Intake.Value.Literal

/-!
# Filling templates

Values go into the slots of a template one after the other, or by their names when there is a single map
of them. Values of any kind have a text; whole numbers are written in three bases, and numbers with a
fraction with a given precision. Every value has to be used, unless it has a name.
-/

namespace Intake.Template

/-- Why a template cannot be filled. -/
inductive Problem where
  | tooFewValues
  | tooManyValues
  | incompleteSlot
  | unclosedName
  | namesWithoutMap
  | missingName (name : Text)
  | amountNotInteger
  | widthTooLarge
  | precisionTooLarge
  | precisionUnwritable
  | takenWidthTooLarge
  | takenPrecisionTooLarge
  | unknownConversion (p : Point) (position : Nat)
  | notWhole (conversion : Char) (kind : Kind)
  | notNumber (conversion : Char) (kind : Kind)
  | notReal (kind : Kind)
  | notCharacter
  | characterTooLarge
  | binaryNan
  | binaryInfinity
  | decimalNan
  | decimalInfinity
  | signalingNan
  | integerTooLong
  | integerTooLarge
deriving DecidableEq

/-- The long name of a kind. -/
def longKindName : Kind → String
  | .decimal => "decimal.Decimal"
  | .instant => "datetime.datetime"
  | kind => kind.name

/-- A point as it is shown in a message, if it can be. -/
def shownInMessage : Point → Char
  | .char c => if 31 ≤ c.toNat ∧ c.toNat ≤ 126 then c else '?'
  | .half _ => '?'

namespace Problem

/-- The problem in words. -/
def message : Problem → String
  | tooFewValues => "not enough arguments for format string"
  | tooManyValues => "not all arguments converted during string formatting"
  | incompleteSlot => "incomplete format"
  | unclosedName => "incomplete format key"
  | namesWithoutMap => "format requires a mapping"
  | missingName name => textLiteral name
  | amountNotInteger => "* wants int"
  | widthTooLarge => "width too big"
  | precisionTooLarge => "precision too big"
  | precisionUnwritable => "precision too large"
  | takenWidthTooLarge => "Python int too large to convert to C ssize_t"
  | takenPrecisionTooLarge => "Python int too large to convert to C int"
  | unknownConversion p position =>
    let shown := String.singleton (shownInMessage p)
    let code := String.ofList (Nat.toDigits 16 p.code)
    s!"unsupported format character '{shown}' (0x{code}) at index {position}"
  | notWhole conversion kind =>
    s!"%{conversion} format: an integer is required, not {longKindName kind}"
  | notNumber conversion kind =>
    s!"%{conversion} format: a real number is required, not {longKindName kind}"
  | notReal kind => s!"must be real number, not {longKindName kind}"
  | notCharacter => "%c requires int or char"
  | characterTooLarge => "%c arg not in range(0x110000)"
  | binaryNan => "cannot convert float NaN to integer"
  | binaryInfinity => "cannot convert float infinity to integer"
  | decimalNan => "cannot convert NaN to integer"
  | decimalInfinity => "cannot convert Infinity to integer"
  | signalingNan => "cannot convert signaling NaN to float"
  | integerTooLong => Numeral.tooLong
  | integerTooLarge => "int too large to convert to float"

/-- The name of the problem's class. -/
def className : Problem → String
  | missingName _ => "KeyError"
  | incompleteSlot | unclosedName | widthTooLarge | precisionTooLarge | unknownConversion .. | binaryNan
  | decimalNan | signalingNan | integerTooLong => "ValueError"
  | precisionUnwritable | takenWidthTooLarge | takenPrecisionTooLarge | characterTooLarge
  | binaryInfinity | decimalInfinity | integerTooLarge => "OverflowError"
  | _ => "TypeError"

end Problem

/-- The values for the slots. -/
inductive Supply where
  /-- Values still to be used, in order. -/
  | inOrder (rest : List Value)
  /-- Values by name, and the one to be used next, if any. -/
  | byName (entries : List (Value × Value)) (next : Option Value)

namespace Supply

/-- The values of a record. A single map that is not empty gives its values by name; without a name it
stands for itself. -/
def ofArguments : List Value → Supply
  | [.map (entry :: entries)] => .byName (entry :: entries) (some (.map (entry :: entries)))
  | values => .inOrder values

/-- Takes the next value. -/
def take : Supply → Except Problem (Value × Supply)
  | inOrder (v :: rest) => .ok (v, .inOrder rest)
  | byName entries (some v) => .ok (v, .byName entries none)
  | _ => .error .tooFewValues

/-- Looks a name up; its value is the one to be used next. -/
def select : SlotName → Supply → Except Problem Supply
  | .absent, supply => .ok supply
  | _, inOrder _ => .error .namesWithoutMap
  | .unclosed, byName _ _ => .error .unclosedName
  | .given name, byName entries _ =>
    match Value.lookup name entries with
    | some v => .ok (.byName entries (some v))
    | none => .error (.missingName name)

/-- Complains of values that were not used. -/
def finish : Supply → Except Problem Unit
  | inOrder (_ :: _) => .error .tooManyValues
  | _ => .ok ()

end Supply

/-- The largest width. -/
def maxWidth : Nat := Nat.pow 2 63 - 1

/-- The largest precision. -/
def maxPrecision : Nat := Nat.pow 2 31 - 1

/-- The whole number that a width or a precision is taken from. -/
def amountOf : Value → Except Problem Int
  | .int n => .ok n
  | .bool b => .ok (if b then 1 else 0)
  | _ => .error .amountNotInteger

/-- A width, and whether it moves the text to the left. -/
def takeWidthFrom (supply : Supply) : Amount → Except Problem (Option (Nat × Bool) × Supply)
  | .absent => .ok (none, supply)
  | .given n => if maxWidth < n then .error .widthTooLarge else .ok (some (n, false), supply)
  | .taken => do
    let (v, supply) ← supply.take
    let n ← amountOf v
    if n < -(maxWidth : Int) - 1 ∨ (maxWidth : Int) < n then throw .takenWidthTooLarge
    pure (some (n.natAbs, n < 0), supply)

/-- A precision; one below zero counts as zero. -/
def takePrecisionFrom (supply : Supply) : Amount → Except Problem (Option Nat × Supply)
  | .absent => .ok (none, supply)
  | .given n => if maxPrecision < n then .error .precisionTooLarge else .ok (some n, supply)
  | .taken => do
    let (v, supply) ← supply.take
    let n ← amountOf v
    if n < -(maxPrecision : Int) - 1 ∨ (maxPrecision : Int) < n then throw .takenPrecisionTooLarge
    pure (some n.toNat, supply)

/-- A text for a slot: a sign, a mark of the base, and the rest. -/
structure Filled where
  sign : Text
  mark : Text
  body : Text
  /-- Zeros may stand between the mark and the rest. -/
  numeric : Bool

/-- A text that is no number. -/
def Filled.plain (t : Text) : Filled := ⟨[], [], t, false⟩

/-- Splits the sign off a number's text; a number without one may get one by the flags. -/
def Filled.number (flags : Flags) (mark : List Char) (negative : Bool) (digits : List Char) : Filled where
  sign := if negative then ['-'] else if flags.plus then ['+'] else if flags.blank then [' '] else []
  mark := .ofChars mark
  body := .ofChars digits
  numeric := true

/-- Fills a text up to a width. -/
def Filled.padded (f : Filled) (flags : Flags) (width : Nat) : Text :=
  let missing := width - (f.sign.length + f.mark.length + f.body.length)
  let front := f.sign ++ f.mark
  if flags.left then front ++ f.body ++ List.replicate missing (.char ' ')
  else if f.numeric && flags.zero then front ++ List.replicate missing (.char '0') ++ f.body
  else List.replicate missing (.char ' ') ++ front ++ f.body

/-- The literal of a value in ASCII. -/
def asciiLiteral (v : Value) : List Char :=
  v.literal.toList.flatMap fun c => if c.toNat < 0x80 then [c] else Quoted.numbered c.toNat

/-- A text cut to a precision. -/
def cut (precision : Option Nat) (t : Text) : Text :=
  match precision with
  | some n => t.take n
  | none => t

/-- The whole number that a decimal number is without its fraction. -/
def wholeOfDecimal : Decimal → Except Problem Int
  | .finite x _ =>
    if x.coefficient ≠ 0 ∧ Numeral.maxDigits ≤ x.adjusted then .error .integerTooLong
    else if x.coefficient = 0 then .ok 0
    else .ok x.truncate
  | .infinity _ => .error .decimalInfinity
  | .nan .. => .error .decimalNan

/-- The whole number that a value is without its fraction. -/
def wholeOf (conversion : Char) : Value → Except Problem Int
  | .int n => .ok n
  | .bool b => .ok (if b then 1 else 0)
  | .float x =>
    match x with
    | .nan => .error .binaryNan
    | .infinity _ => .error .binaryInfinity
    | x => .ok (x.truncate?.getD 0)
  | .decimal d => wholeOfDecimal d
  | v => .error (.notNumber conversion v.kind)

/-- The whole number that a value is. -/
def integerOf (conversion : Char) : Value → Except Problem Int
  | .int n => .ok n
  | .bool b => .ok (if b then 1 else 0)
  | v => .error (.notWhole conversion v.kind)

/-- A whole number in a base, with at least so many digits. In the base ten a long one is not written. -/
def filledInteger (flags : Flags) (base : Nat) (mark : List Char) (upper : Bool) (precision : Option Nat)
    (n : Int) : Except Problem Filled :=
  let ds := Nat.toDigits base n.natAbs
  let ds := if upper then ds.map Char.toUpper else ds
  if maxPrecision - 3 < precision.getD 0 then .error .precisionUnwritable
  else if base = 10 ∧ Numeral.maxDigits < ds.length then .error .integerTooLong
  else
    let zeros := List.replicate (precision.getD 0 - ds.length) '0'
    .ok (.number flags (if flags.longer then mark else []) (n < 0) (zeros ++ ds))

/-- The binary number that a value is. -/
def binaryOf : Value → Except Problem Binary64
  | .float x => .ok x
  | .bool b => .ok (Binary64.ofScientific (.ofInt (if b then 1 else 0)))
  | .int n =>
    match Binary64.ofScientific (.ofInt n) with
    | .infinity _ => .error .integerTooLarge
    | x => .ok x
  | .decimal (.finite x _) => .ok (Binary64.ofScientific x)
  | .decimal (.infinity negative) => .ok (.infinity negative)
  | .decimal (.nan _ signaling _) => if signaling then .error .signalingNan else .ok .nan
  | v => .error (.notReal v.kind)

/-- A number with a fraction, with a precision of six unless another is given. -/
def filledBinary (flags : Flags) (format : Binary64.Format) (upper : Bool) (precision : Option Nat)
    (x : Binary64) : Filled :=
  let cs := Binary64.formatted format flags.longer (precision.getD 6) x
  let (negative, cs) := Numeral.takeMinus cs
  .number flags [] negative (if upper then cs.map Char.toUpper else cs)

/-- The point that a value is: a text of a single one, or a point's number. -/
def characterOf : Value → Except Problem Point
  | .text [p] => .ok p
  | .int n => if 0 ≤ n ∧ n < 0x110000 then .ok (Point.ofCode n.toNat) else .error .characterTooLarge
  | .bool b => .ok (if b then '\x01' else '\x00')
  | _ => .error .notCharacter

/-- One of the texts of a value, cut to a precision, unless a whole number in the value is too long. -/
def filledText (precision : Option Nat) (v : Value) (text : Text) : Except Problem Filled :=
  if v.hasText then .ok (.plain (cut precision text)) else .error .integerTooLong

/-- Converts a value by a letter. -/
def convertBy (conversion : Char) (position : Nat) (flags : Flags) (precision : Option Nat) (v : Value) :
    Except Problem Filled :=
  match conversion with
  | 's' => filledText precision v v.display
  | 'r' => filledText precision v v.literal
  | 'a' => filledText precision v (.ofChars (asciiLiteral v))
  | 'd' | 'i' | 'u' => (wholeOf conversion v).bind (filledInteger flags 10 [] false precision)
  | 'o' => (integerOf conversion v).bind (filledInteger flags 8 ['0', 'o'] false precision)
  | 'x' => (integerOf conversion v).bind (filledInteger flags 16 ['0', 'x'] false precision)
  | 'X' => (integerOf conversion v).bind (filledInteger flags 16 ['0', 'X'] true precision)
  | 'e' => (binaryOf v).map (filledBinary flags .scientific false precision)
  | 'E' => (binaryOf v).map (filledBinary flags .scientific true precision)
  | 'f' => (binaryOf v).map (filledBinary flags .fixed false precision)
  | 'F' => (binaryOf v).map (filledBinary flags .fixed true precision)
  | 'g' => (binaryOf v).map (filledBinary flags .general false precision)
  | 'G' => (binaryOf v).map (filledBinary flags .general true precision)
  | 'c' => (characterOf v).map fun p => .plain [p]
  | _ => .error (.unknownConversion conversion position)

/-- Converts a value. -/
def convert (conversion : Point) (position : Nat) (flags : Flags) (precision : Option Nat) (v : Value) :
    Except Problem Filled :=
  match conversion with
  | .char c => convertBy c position flags precision v
  | .half _ => .error (.unknownConversion conversion position)

/-- The text of a slot. -/
def fillSlot (s : Slot) (supply : Supply) : Except Problem (Text × Supply) := do
  let supply ← supply.select s.name
  let (width, supply) ← takeWidthFrom supply s.width
  let (precision, supply) ← takePrecisionFrom supply s.precision
  match s.conversion with
  | none => throw .incompleteSlot
  | some (conversion, position) =>
    let (v, supply) ← supply.take
    let filled ← convert conversion position s.flags precision v
    let (width, moved) := width.getD (0, false)
    pure (filled.padded { s.flags with left := s.flags.left || moved } width, supply)

/-- The text of pieces. -/
def fillPieces : List Piece → Supply → Except Problem Text
  | [], supply => supply.finish.map fun _ => []
  | .text p :: rest, supply => (fillPieces rest supply).map (p :: ·)
  | .slot s :: rest, supply => do
    let (filled, supply) ← fillSlot s supply
    let more ← fillPieces rest supply
    pure (filled ++ more)

/-- The text of a template with values. -/
def fill (template : Text) (values : List Value) : Except Problem Text :=
  fillPieces (pieces template) (.ofArguments values)

end Intake.Template
