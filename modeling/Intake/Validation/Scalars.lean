import Intake.Calendar.Eastern
import Intake.Email.Address
import Intake.Validation.Basic
import Intake.Validation.Layout

/-!
# Validators for single values

Truth values, numbers, texts, one of a list of values, and instants in four notations. None of them trims
or converts: a value is accepted as it stands, or read from text in exactly one notation.
-/

namespace Intake.Validator

variable {α : Type}

/-- The default for null, if there is one; everything else is not as expected. -/
def orDefault (default : Option Bool) (expected : Text) : Validator Checked Bool := fun x path =>
  match x, default with
  | .null, some b => .ok b
  | x, _ => .error (unexpected expected x path)

/-- A truth value. -/
def boolean (default : Option Bool) : Validator Checked Bool := fun x path =>
  match x with
  | .bool b => .ok b
  | x => orDefault default "a boolean" x path

/-- A truth value written as one of two texts. -/
def booleanText (yes no : String) (default : Option Bool) : Validator Checked Bool := fun x path =>
  match x with
  | .text t =>
    if t = yes then .ok true
    else if t = no then .ok false
    else .error (unexpected s!"\"{yes}\" or \"{no}\"" x path)
  | x => orDefault default s!"\"{yes}\" or \"{no}\"" x path

/-- A truth value written as a word. -/
def booleanWord : Option Bool → Validator Checked Bool := booleanText "true" "false"

/-- A truth value written as a letter. -/
def booleanLetter : Option Bool → Validator Checked Bool := booleanText "Y" "N"

/-- A finite decimal number. -/
def number : Validator Checked Decimal := fun x path =>
  match x with
  | .decimal (.finite d h) => .ok (.finite d h)
  | x => .error (unexpected "a number" x path)

/-- The number that a text writes in plain notation. -/
def numberOfText? (t : Text) : Option Decimal :=
  t.chars?.bind fun cs => (Numeral.ofPlain? cs).bind Decimal.ofNumeral?

/-- A finite decimal number, written in plain notation. -/
def numberText : Validator Checked Decimal := fun x path =>
  match x with
  | .text t =>
    match numberOfText? t with
    | some d => .ok d
    | none => .error (unexpected "a number string" x path)
  | x => .error (unexpected "a number string" x path)

/-- Whether a decimal number is whole: rounding it to a whole number does not change it. -/
def isWhole : Decimal → Bool
  | .finite d _ => d.sameNumber d.nearestWhole
  | _ => false

/-- Refuses a number that is not whole. -/
def wholeOnly (expected : Text) (v : Validator Checked Decimal) : Validator Checked Decimal :=
  fun x path =>
    match v x path with
    | .error fault => .error fault
    | .ok d => if isWhole d then .ok d else .error (unexpected expected x path)

/-- A whole decimal number. -/
def integer : Validator Checked Decimal := wholeOnly "an integer" number

/-- A whole decimal number, written in plain notation. -/
def integerText : Validator Checked Decimal := wholeOnly "an integer string" numberText

/-- A bound in words, unless it is too long. -/
def writtenBound (n : Int) : Checked Text := (Numeral.written .integerTooLong n).map .ofChars

/-- The bounds of a length in words. -/
def describeLength (min max : Option Int) : Checked Text :=
  match min, max with
  | none, none => .ok "at most None"
  | none, some high => (writtenBound high).map ("at most " ++ ·)
  | some low, none => (writtenBound low).map ("at least " ++ ·)
  | some low, some high =>
    if low = high then (writtenBound low).map ("exactly " ++ ·)
    else do
      let low ← writtenBound low
      let high ← writtenBound high
      pure ("between " ++ low ++ " and " ++ high)

/-- Whether a length is refused by its bounds: it has to be below the one and above the other at once.
A length that breaks a single bound passes. -/
def lengthRefused (min max : Option Int) (length : Nat) : Bool :=
  match min, max with
  | some low, some high => (length : Int) < low && high < (length : Int)
  | _, _ => false

/-- A text, with bounds on its length, and an e-mail address if that is asked for. -/
def string (min max : Option Int) (email : Bool) : Validator Checked Text := fun x path =>
  match x with
  | .text t =>
    if lengthRefused min max t.length then
      match describeLength min max with
      | .error fault => .error fault
      | .ok bounds => .error (unsuitable (bounds ++ " characters") x path)
    else if email && !Email.isAccepted t then .error (unsuitable "an email" x path)
    else .ok t
  | x => .error (unexpected "a string" x path)

/-- Whether one of the given values has the same kind and is equal. -/
def isOneOf (x : Value) : List Value → Checked Bool
  | [] => .ok false
  | v :: vs =>
    if x.kind = v.kind then
      match x.equal? v with
      | none => .error .signalingComparison
      | some true => .ok true
      | some false => isOneOf x vs
    else isOneOf x vs

/-- The given values in words, unless one of them is too long. -/
def describeValues (values : List Value) : Checked Text :=
  if Value.allHaveText values then
    .ok ("one of [" ++ (Text.ofString ", ").intercalate (values.map Value.display) ++ "]")
  else .error .integerTooLong

/-- One of the given values. -/
def oneOf (values : List Value) : Validator Checked Value := fun x path =>
  match isOneOf x values with
  | .error fault => .error fault
  | .ok true => .ok x
  | .ok false =>
    match describeValues values with
    | .error fault => .error fault
    | .ok expected => .error (unsuitable expected x path)

/-- The instant of a date and a clock in Coordinated Universal Time; a reading that the calendar or the
clock does not have is refused. -/
def instantOf (t : Text) (path : Path) (d : Date) (c : Clock) (micro : Nat) : Checked Instant :=
  match Instant.ofReading? d c micro with
  | some instant => .ok instant
  | none => .error (unsuitable "a valid calendar date" (.text t) path)

/-- A text of a given length, read by its layout. The bounds never refuse a text by themselves; the
layout does. -/
def laidOut (layout : TextLayout) (length : Int) (expected : Text)
    (build : Text → Path → List Nat → Checked Instant) : Validator Checked Instant := fun x path =>
  match string (some length) (some length) false x path with
  | .error fault => .error fault
  | .ok t =>
    match t.chars?.bind layout.numbers? with
    | some numbers => build t path numbers
    | none => .error (unsuitable expected (.text t) path)

/-- What the two notations for dates expect. -/
def dateExpected : String := "a date string with no time component"

/-- What the two notations for dates with a clock expect. -/
def dateTimeExpected : String := "a date-time string"

/-- Midnight of a date. -/
def buildDate (t : Text) (path : Path) : List Nat → Checked Instant
  | [year, month, day] => instantOf t path ⟨year, month, day⟩ .midnight 0
  | _ => .error (unsuitable dateExpected (.text t) path)

/-- A clock's reading in Eastern time. -/
def buildEastern (t : Text) (path : Path) : List Nat → Checked Instant
  | [year, month, day, hour, minute, second] =>
    let d : Date := ⟨year, month, day⟩
    let c : Clock := ⟨hour, minute, second⟩
    if d.Valid ∧ c.Valid then
      match Instant.ofSeconds? (Eastern.zone.resolve (wallSeconds d c)) 0 with
      | some instant => .ok instant
      | none => .error .instantOutOfCalendar
    else .error (unsuitable "a valid calendar date" (.text t) path)
  | _ => .error (unsuitable dateTimeExpected (.text t) path)

/-- A clock's reading with milliseconds in Coordinated Universal Time. -/
def buildMillis (t : Text) (path : Path) : List Nat → Checked Instant
  | [year, month, day, hour, minute, second, millis] =>
    instantOf t path ⟨year, month, day⟩ ⟨hour, minute, second⟩ (millis * 1000)
  | _ => .error (unsuitable dateTimeExpected (.text t) path)

/-- A date, meaning its midnight in Coordinated Universal Time. -/
def date : Validator Checked Instant := laidOut .date 10 dateExpected buildDate

/-- A date written with its midnight, in Coordinated Universal Time. -/
def midnight : Validator Checked Instant := laidOut .midnight 19 dateExpected buildDate

/-- A date and a clock's reading in Eastern time. -/
def easternTime : Validator Checked Instant := laidOut .dateTime 19 dateTimeExpected buildEastern

/-- A date and a clock's reading with milliseconds, in Coordinated Universal Time. -/
def utcTime : Validator Checked Instant := laidOut .dateTimeMillis 24 dateTimeExpected buildMillis

/-- An object, an array or null. -/
def object : Validator Checked Bool := fun x path =>
  match x with
  | .null => .ok true
  | .map _ => .ok true
  | .list _ => .ok true
  | .tuple _ => .ok true
  | x => .error (unexpected "an object" x path)

/-- A demand on the kind of a value. -/
inductive KindTest where
  /-- Any value will do. -/
  | anything
  /-- A value of this kind. -/
  | only (kind : Kind)
deriving DecidableEq

namespace KindTest

/-- The demand's name in messages. -/
def name : KindTest → String
  | anything => "object"
  | only kind => kind.name

/-- Whether a value meets the demand. Truth values count as whole numbers too. -/
def admits (t : KindTest) (x : Value) : Bool :=
  match t with
  | anything => true
  | only kind => x.kind = kind || (kind = .int && x.kind = .bool)

end KindTest

/-- A value of a given kind. -/
def ofKind (t : KindTest) : Validator Checked Value := fun x path =>
  if t.admits x then .ok x else .error (unexpected t.name x path)

end Intake.Validator
