/-!
# Tables over code points

A property of characters as runs of code points that share a value. A table is written as a text of
decimal numbers, from code point zero on. Where every code point has a value, the numbers are the length
and the value of one run after the other, and the last run goes on to the end. Where only some have one,
each run begins with its distance from the run before.
-/

namespace Intake

/-- A property of code points. -/
structure RunTable (α : Type) where
  /-- The first code point of each run and the run's value, in ascending order. -/
  runs : Array (Nat × α)

namespace RunTable

variable {α : Type}

/-- The decimal numbers of a text; anything but a digit separates them. -/
def numbers (s : String) : List Nat :=
  let step (acc : List Nat × Option Nat) (c : Char) : List Nat × Option Nat :=
    if c.isDigit then (acc.1, some (10 * acc.2.getD 0 + (c.toNat - '0'.toNat)))
    else match acc.2 with
      | some n => (n :: acc.1, none)
      | none => acc
  let (done, last) := s.toList.foldl step ([], none)
  ((last.toList ++ done)).reverse

/-- Places runs one after the other from a code point on. -/
def place (start : Nat) : List Nat → List (Nat × Nat)
  | length :: value :: rest => (start, value) :: place (start + length) rest
  | _ => []

/-- Reads a table in which every code point has a value. -/
def ofText (s : String) : RunTable Nat := ⟨(place 0 (numbers s)).toArray⟩

/-- The last run in `[low, high)` that starts at or before a code point, or the run at `low`. -/
def search (runs : Array (Nat × α)) (code low high : Nat) : Option (Nat × α) :=
  if low + 1 < high then
    let middle := (low + high) / 2
    match runs[middle]? with
    | some (first, _) => if first ≤ code then search runs code middle high else search runs code low middle
    | none => none
  else runs[low]?
termination_by high - low
decreasing_by all_goals omega

/-- The run that starts last at or before a character: its first code point and its value. -/
def runAt? (t : RunTable α) (c : Char) : Option (Nat × α) :=
  (search t.runs c.toNat 0 t.runs.size).filter fun (first, _) => first ≤ c.toNat

/-- The value at a character, where every code point has one. -/
def valueAt (t : RunTable Nat) (c : Char) : Nat :=
  match t.runAt? c with
  | some (_, value) => value
  | none => 0

/-- The value at a character, where every run is a single code point. -/
def entryAt? (t : RunTable α) (c : Char) : Option α :=
  match t.runAt? c with
  | some (first, value) => if first = c.toNat then some value else none
  | none => none

example : ((ofText "65 0 26 1 5 2").valueAt 'Z', (ofText "65 0 26 1 5 2").valueAt 'z') = (1, 2) := by
  decide +kernel

end RunTable

end Intake
