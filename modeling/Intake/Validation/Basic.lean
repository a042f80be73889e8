import Intake.Fault
import Intake.Value.Equality

/-!
# Validators

A validator reads the value at a path: it returns a typed result or fails. Containers are validated with
a validator for what they contain; each element is read at a path that names it, in order, and the first
failure is the failure of the whole. The container validators work in any computation that can fail, so
that a caller may also watch the calls they make.
-/

namespace Intake

/-- A result or a fault. -/
abbrev Checked (α : Type) := Except Fault α

/-- A reader for the value at a path. -/
abbrev Validator (m : Type → Type) (α : Type) := Value → Path → m α

/-- The fault of a value that is not as expected, naming its kind. -/
def unexpected (expected : Text) (found : Value) (path : Path) : Fault :=
  .rejected ⟨path, expected, found, true⟩

/-- The fault of a value whose kind is right and whose content is not. -/
def unsuitable (expected : Text) (found : Value) (path : Path) : Fault :=
  .rejected ⟨path, expected, found, false⟩

namespace Validator

variable {m : Type → Type} [Monad m] [MonadExceptOf Fault m] {α : Type}

/-- Nothing for null; everything else is read. -/
def optional (v : Validator m α) : Validator m (Option α) := fun x path =>
  match x with
  | .null => pure none
  | x => do
    let y ← v x path
    pure (some y)

/-- Reads elements in order, from an index on. -/
def readItems (v : Validator m α) (path : Path) : Nat → List Value → m (List α)
  | _, [] => pure []
  | i, x :: xs => do
    let y ← v x (path.index (toString i))
    let ys ← readItems v path (i + 1) xs
    pure (y :: ys)

/-- Reads entries in order, each at the path of its key. -/
def readEntries (v : Validator m α) (path : Path) : List (Value × Value) → m (List (Value × α))
  | [] => pure []
  | (k, x) :: entries => do
    let y ← v x (path.index k.display)
    let ys ← readEntries v path entries
    pure ((k, y) :: ys)

/-- Every element of an array. -/
def array (v : Validator m α) : Validator m (List α) := fun x path =>
  match x.elements? with
  | some xs => readItems v path 0 xs
  | none => throw (unexpected "an array" x path)

/-- Every element of an array; anything else counts as the one element of an array, at the path of the
array itself. -/
def paramArray (v : Validator m α) : Validator m (List α) := fun x path =>
  match x.elements? with
  | some xs => readItems v path 0 xs
  | none => do
    let y ← v x path
    pure [y]

/-- Elements keyed by their indices, from an index on. -/
def numbered (i : Nat) : List Value → List (Value × Value)
  | [] => []
  | x :: xs => (.text (toString i), x) :: numbered (i + 1) xs

/-- The entries of a map, or of an array read as one. -/
def entries? : Value → Option (List (Value × Value))
  | .map entries => some entries
  | x => x.elements?.map (numbered 0)

/-- Every value of a map, under its key. An array is read as a map keyed by its indices. -/
def map (v : Validator m α) : Validator m (List (Value × α)) := fun x path =>
  match entries? x with
  | some entries => do
    let results ← readEntries v path entries
    pure (Value.collect results)
  | none => throw (unexpected "a map" x path)

end Validator

/-- Writes every value of a validated map. -/
def printMap {α β : Type} (print : α → β) (entries : List (Value × α)) : List (Value × β) :=
  entries.map fun (k, a) => (k, print a)

end Intake
