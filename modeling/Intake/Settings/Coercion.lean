import Intake.Number.Binary64
import Intake.Text.Blank
import Intake.Text.Utf8
import Intake.Value.Basic

/-!
# Reading a setting

A setting comes as a value of any kind: as text from the environment, or as whatever the program was
given. Each reader takes everything that plainly means a text, a truth value or a whole number, and says
of the rest why it means none.
-/

namespace Intake.Settings

/-- Why a value does not do for a setting. -/
inductive Problem where
  | notText
  | notUnicode
  | notBoolean
  | unclearBoolean
  | notInteger
  | unclearInteger
  | integerTooLong
  | fractional
  | notFinite
  /-- The number was read, but it is no status for errors of the client's. -/
  | status (n : Int)
  /-- The number was read, but it is too long to be written into a message. -/
  | unprintableStatus
  /-- There is no such setting. -/
  | unknown
deriving DecidableEq

namespace Problem

/-- The problem's name. -/
def name : Problem → String
  | notText => "string_type"
  | notUnicode => "string_unicode"
  | notBoolean => "bool_type"
  | unclearBoolean => "bool_parsing"
  | notInteger => "int_type"
  | unclearInteger => "int_parsing"
  | integerTooLong => "int_parsing_size"
  | fractional => "int_from_float"
  | notFinite => "finite_number"
  | status _ | unprintableStatus => "value_error"
  | unknown => "extra_forbidden"

/-- The problem in words. -/
def message : Problem → String
  | notText => "Input should be a valid string"
  | notUnicode => "Input should be a valid string, unable to parse raw data as a unicode string"
  | notBoolean => "Input should be a valid boolean"
  | unclearBoolean => "Input should be a valid boolean, unable to interpret input"
  | notInteger => "Input should be a valid integer"
  | unclearInteger => "Input should be a valid integer, unable to parse string as an integer"
  | integerTooLong => "Unable to parse input string as an integer, exceeded maximum size"
  | fractional => "Input should be a valid integer, got a number with a fractional part"
  | notFinite => "Input should be a finite number"
  | status n => s!"Value error, validation_error_status must be 4xx, got {n}"
  | unprintableStatus => "Value error, " ++ Numeral.tooLong
  | unknown => "Extra inputs are not permitted"

end Problem

/-- A text, whole or not, also one that is given as bytes. -/
def readText : Value → Except Problem Text
  | .text t => .ok t
  | .bytes bs =>
    match Utf8.decode bs with
    | .ok cs => .ok (.ofChars cs)
    | .error _ => .error .notUnicode
  | _ => .error .notText

/-- Words for a truth value, in lower case. -/
def yesWords : List String := ["1", "t", "y", "on", "yes", "true"]

/-- Words for its opposite. -/
def noWords : List String := ["0", "f", "n", "no", "off", "false"]

/-- The truth value that a word means, in letters of either case. -/
def booleanOfWord (cs : List Char) : Except Problem Bool :=
  let word := String.ofList (cs.map Char.toLower)
  if yesWords.contains word then .ok true
  else if noWords.contains word then .ok false
  else .error .unclearBoolean

/-- The truth value of zero or one. -/
def booleanOfInt (n : Int) : Except Problem Bool :=
  if n = 0 then .ok false else if n = 1 then .ok true else .error .unclearBoolean

/-- The first number that does not fit into 64 bits with a sign. -/
def wordBound : Int := 0x8000000000000000

/-- Whether a number fits into 64 bits with a sign. -/
def isWord (n : Int) : Bool := -wordBound ≤ n && n < wordBound

/-- The whole number that a binary one is. It has to lie strictly between the bounds of 64 bits. -/
def integerOfBinary (x : Binary64) : Except Problem Int :=
  match x.toScientific? with
  | none => .error .notFinite
  | some exact =>
    if !exact.isIntegral then .error .fractional
    else
      let n := exact.truncate
      if -wordBound < n ∧ n < wordBound then .ok n else .error .integerTooLong

/-- The truth value that a binary number means: anything but a whole number of moderate size is of the
wrong kind. -/
def booleanOfBinary (x : Binary64) : Except Problem Bool :=
  match integerOfBinary x with
  | .ok n => booleanOfInt n
  | .error _ => .error .notBoolean

/-- A truth value. -/
def readBoolean : Value → Except Problem Bool
  | .bool b => .ok b
  | .text t =>
    match t.chars? with
    | some cs => booleanOfWord cs
    | none => .error .notUnicode
  | .bytes bs =>
    match Utf8.decode bs with
    | .ok cs => booleanOfWord cs
    | .error _ => .error .unclearBoolean
  | .int n => if isWord n then booleanOfInt n else .error .notBoolean
  | .float x => booleanOfBinary x
  | .decimal (.finite x _) => booleanOfBinary (Binary64.ofScientific x)
  | _ => .error .notBoolean

/-- Whether a text begins with a numeral that is too long, its sign included. -/
def startsTooLong (cs : List Char) : Bool :=
  let (negative, unsigned) := Numeral.takeMinus cs
  let (ds, _) := Numeral.takeDigits unsigned
  ds.head? != some '0' && Numeral.maxDigits < ds.length + (if negative then 1 else 0)

/-- The whole number of a strict numeral: an optional minus sign, and digits without a leading zero. -/
def strictInteger? (cs : List Char) : Option Int :=
  let (negative, unsigned) := Numeral.takeMinus cs
  let (ds, rest) := Numeral.takeDigits unsigned
  if ds.isEmpty || !rest.isEmpty || (ds.head? == some '0' && ds != ['0']) || startsTooLong cs then none
  else some (Numeral.signed negative (Numeral.natOf ds))

/-- Drops a plus sign. A minus sign must not follow it. -/
def dropPlus? : List Char → Option (List Char)
  | '+' :: '-' :: _ => none
  | '+' :: rest => some rest
  | cs => some cs

/-- Drops leading zeros and the underscores among them. The last character before a point or the end
stays. -/
def dropZeros? (last : Char) : List Char → Option (List Char)
  | [] => some [last]
  | c :: rest =>
    if c = '0' ∨ c = '_' then dropZeros? c rest
    else if c.isDigit then some (c :: rest)
    else if c = '.' then some (last :: c :: rest)
    else none

/-- Drops leading zeros from a text that begins with a digit; one with a minus sign stays as it is. -/
def dropLeading? : List Char → Option (List Char)
  | [] => none
  | c :: rest =>
    if c = '0' then dropZeros? '0' rest
    else if c.isDigit || c = '-' then some (c :: rest)
    else none

/-- Drops a point with nothing but zeros after it. -/
def dropFraction (cs : List Char) : List Char :=
  match cs.dropWhile (· ≠ '.') with
  | '.' :: zeros => if zeros.all (· == '0') then cs.takeWhile (· ≠ '.') else cs
  | _ => cs

/-- Two underscores stand side by side, the first character being given. -/
def hasDouble (before : Char) : List Char → Bool
  | [] => false
  | c :: rest => (before = '_' && c = '_') || hasDouble c rest

/-- Drops underscores that stand one by one between other characters. -/
def dropUnderscores (cs : List Char) : List Char :=
  if cs.head? == some '_' || cs.getLast? == some '_' || hasDouble ' ' cs then cs
  else cs.filter (· ≠ '_')

/-- The whole number that a text means: a strict numeral, or one with blanks around it, a plus sign,
leading zeros, a fraction of zeros, or underscores between digits. -/
def integerOfText (cs : List Char) : Except Problem Int :=
  if startsTooLong cs then .error .integerTooLong
  else
    match strictInteger? cs with
    | some n => .ok n
    | none =>
      let plain? := (dropPlus? (trimmed cs)).bind dropLeading?
      match plain?.bind fun plain => strictInteger? (dropUnderscores (dropFraction plain)) with
      | some n => .ok n
      | none => .error .unclearInteger

/-- The whole number that a decimal one is, of any size. -/
def integerOfDecimal : Decimal → Except Problem Scientific
  | .finite x _ => if x.isIntegral then .ok x else .error .fractional
  | _ => .error .notFinite

/-- The statuses for errors of the client's. -/
abbrev ClientStatus := { n : Int // 400 ≤ n ∧ n ≤ 499 }

/-- A number as a status for errors of the client's. -/
def clientStatus (n : Int) : Except Problem ClientStatus :=
  if h : 400 ≤ n ∧ n ≤ 499 then .ok ⟨n, h⟩
  else if (Numeral.ofInt? n).isSome then .error (.status n)
  else .error .unprintableStatus

/-- The status that a decimal number is. One that is too long to be written is told apart by its first
digit, so that a far exponent never becomes a power of ten. -/
def clientStatusOfDecimal (d : Decimal) : Except Problem ClientStatus :=
  match integerOfDecimal d with
  | .error p => .error p
  | .ok x =>
    if x.coefficient ≠ 0 ∧ Numeral.maxDigits ≤ x.adjusted then .error .unprintableStatus
    else if x.coefficient = 0 then clientStatus 0
    else clientStatus x.truncate

/-- A status for errors of the client's, as it is given. -/
def readStatus : Value → Except Problem ClientStatus
  | .int n => clientStatus n
  | .bool b => clientStatus (if b then 1 else 0)
  | .text t =>
    match t.chars? with
    | some cs => (integerOfText cs).bind clientStatus
    | none => .error .notUnicode
  | .bytes bs =>
    match Utf8.decode bs with
    | .ok cs => (integerOfText cs).bind clientStatus
    | .error _ => .error .unclearInteger
  | .float x => (integerOfBinary x).bind clientStatus
  | .decimal d => clientStatusOfDecimal d
  | _ => .error .notInteger

end Intake.Settings
