import Intake.Path
import Intake.Value.Literal

/-! # Locations in a value

A location leads from a value to one inside it: through a field of an object, an element of an array or an
entry of a map.  `Value.At x l y` says that `y` stands at `l` in `x`; an object has every field, since a
missing one counts as null.  `Path.along` is the path of a location, as the validators build it: a field is
a label of its own, an index or a key goes into brackets behind the last label.

The relation is stated by its first step, and so are the lemmas: a location found inside a part is a location
inside the whole, one step longer (`Value.At.field`, `.element`, `.key`), and its path is the one that the
part was read at, extended.
-/
namespace Intake

/-- One step into a value. -/
inductive Segment where
  /-- Into an object, to the field of a name. -/
  | field (name : String)
  /-- Into an array, be it a list or a tuple. -/
  | element (i : Nat)
  /-- Into a map, to the entry of a key. -/
  | key (k : Value)

/-- The steps from a value to one inside it. -/
abbrev Location := List Segment

/-- The value of an object's field; a missing field counts as null. -/
def Value.fieldOrNull (name : Text) (entries : List (Value × Value)) : Value :=
  (Value.lookup name entries).getD .null

/-- The value at a location. -/
inductive Value.At : Value → Location → Value → Prop where
  | here (x : Value) : At x [] x
  | field {entries : List (Value × Value)} {name : String} {rest : Location} {y : Value}
      (h : At (fieldOrNull name entries) rest y) : At (.map entries) (.field name :: rest) y
  | element {x z y : Value} {xs : List Value} {i : Nat} {rest : Location}
      (hx : x.elements? = some xs) (hi : xs[i]? = some z) (h : At z rest y) :
      At x (.element i :: rest) y
  | key {entries : List (Value × Value)} {k z y : Value} {rest : Location}
      (hk : (k, z) ∈ entries) (h : At z rest y) : At (.map entries) (.key k :: rest) y

namespace Path

/-- The path of one step. -/
def step (p : Path) : Segment → Path
  | .field name => p.field name
  | .element i => p.index (toString i)
  | .key k => p.index k.display

/-- The path of a location. -/
def along (p : Path) (l : Location) : Path := l.foldl step p

end Path

end Intake
