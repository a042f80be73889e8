import Intake.Value.Basic

/-!
# Equality of values

Numbers are equal when they are the same number, whatever their kind: truth values count as 0 and 1, and
a binary fraction equals a decimal one only if it does so exactly. A not-a-number equals nothing. A
signaling one cannot be compared with numbers at all, so equality is partial. Everything else is equal to
its own kind only; a list never equals a tuple. Lists of different lengths are not compared further, while
tuples are compared item by item up to the first difference. Maps are equal when they have equal values
under equal keys, in any order.
-/

namespace Intake

/-- A number without bounds on its exponent. -/
inductive ExtendedNumber where
  | finite (x : Scientific)
  | infinity (negative : Bool)
  | nan (signaling : Bool)
deriving DecidableEq

namespace ExtendedNumber

/-- Whether the number signals when it is compared. -/
def isSignaling : ExtendedNumber → Bool
  | nan signaling => signaling
  | _ => false

/-- Whether two numbers are the same, unless one of them signals. -/
def same? (x y : ExtendedNumber) : Option Bool :=
  if x.isSignaling || y.isSignaling then none
  else match x, y with
    | finite a, finite b => some (a.sameNumber b)
    | infinity a, infinity b => some (a == b)
    | _, _ => some false

end ExtendedNumber

namespace Value

/-- The number that a value is, if it is one. -/
def number? : Value → Option ExtendedNumber
  | bool b => some (.finite (.ofInt (if b then 1 else 0)))
  | int n => some (.finite (.ofInt n))
  | decimal (.finite x _) => some (.finite x)
  | decimal (.infinity negative) => some (.infinity negative)
  | decimal (.nan _ signaling _) => some (.nan signaling)
  | float .nan => some (.nan false)
  | float (.infinity negative) => some (.infinity negative)
  | float x => x.toScientific?.map .finite
  | _ => none

/-- The value of the first entry whose key satisfies a test. -/
def lookupBy (test : Value → Option Bool) : List (Value × Value) → Option Value
  | [] => none
  | (k, v) :: entries => if test k = some true then some v else lookupBy test entries

/-- Both answers hold; the first that does not, or that is none, decides. -/
def andThen? (first : Option Bool) (second : Option Bool) : Option Bool :=
  match first with
  | some true => second
  | other => other

mutual

/-- Whether two values are equal; none where a signaling not-a-number meets a number. -/
def equal? : Value → Value → Option Bool
  | null, null => some true
  | text s, text t => some (s == t)
  | bytes s, bytes t => some (s == t)
  | instant s, instant t => some (s == t)
  | document s, document t => some (s == t)
  | list xs, list ys => if xs.length = ys.length then allEqual? xs ys else some false
  | tuple xs, tuple ys => sameItems? xs ys
  | map xs, map ys => if xs.length = ys.length then entriesIn? xs ys else some false
  | a, b =>
    match a.number?, b.number? with
    | some x, some y => x.same? y
    | _, _ => some false
termination_by structural x => x

/-- Whether two sequences of one length agree item by item. -/
def allEqual? : List Value → List Value → Option Bool
  | x :: xs, y :: ys => andThen? (equal? x y) (allEqual? xs ys)
  | _, _ => some true
termination_by structural x => x

/-- Whether two sequences agree item by item and end together. Their items are compared before it is known
whether they do. -/
def sameItems? : List Value → List Value → Option Bool
  | x :: xs, y :: ys => andThen? (equal? x y) (sameItems? xs ys)
  | [], [] => some true
  | _, _ => some false
termination_by structural x => x

/-- Whether every entry of one map has its equal in another. -/
def entriesIn? : List (Value × Value) → List (Value × Value) → Option Bool
  | [], _ => some true
  | (k, v) :: entries, others =>
    match lookupBy (fun other => equal? k other) others with
    | none => some false
    | some w => andThen? (equal? v w) (entriesIn? entries others)
termination_by structural x => x

end

/-- Puts something under a key: in the place of the entry with an equal key, which keeps its own key, or
at the end. -/
def setEntry {α : Type} (key : Value) (a : α) : List (Value × α) → List (Value × α)
  | [] => [(key, a)]
  | (k, b) :: entries =>
    if equal? k key = some true then (k, a) :: entries else (k, b) :: setEntry key a entries

/-- Puts entries one after the other. -/
def collect {α : Type} (entries : List (Value × α)) : List (Value × α) :=
  entries.foldl (fun done entry => setEntry entry.1 entry.2 done) []

end Value

end Intake
