import Intake.Validation.Basic

/-!
# Watched validation

A validation that also tells which validators it called, on what and where. A call is noted before it
runs, so a failing run ends with the call that failed; what follows a failure is neither run nor noted.
-/

namespace Intake

/-- A result or a fault, and the calls made on the way to it, in order. -/
structure Watched (α : Type) where
  calls : List (Value × Path)
  outcome : Checked α

namespace Watched

variable {α β : Type}

/-- A computation that calls no validator. -/
def ofChecked (outcome : Checked α) : Watched α := ⟨[], outcome⟩

/-- The calls of the second computation follow those of the first, unless that fails. -/
protected def bind (w : Watched α) (next : α → Watched β) : Watched β :=
  match w.outcome with
  | .error fault => ⟨w.calls, .error fault⟩
  | .ok a =>
    let rest := next a
    ⟨w.calls ++ rest.calls, rest.outcome⟩

/-- Another computation in place of one that fails. -/
protected def tryCatch (w : Watched α) (handle : Fault → Watched α) : Watched α :=
  match w.outcome with
  | .error fault =>
    let rest := handle fault
    ⟨w.calls ++ rest.calls, rest.outcome⟩
  | .ok _ => w

instance : Monad Watched where
  pure a := ofChecked (.ok a)
  bind := Watched.bind

instance : MonadExceptOf Fault Watched where
  throw fault := ofChecked (.error fault)
  tryCatch := Watched.tryCatch

/-- Notes the call of a validator, and makes it. -/
def called (v : Validator Watched α) : Validator Watched α := fun x path =>
  let w := v x path
  ⟨(x, path) :: w.calls, w.outcome⟩

/-- A validator that calls no others. -/
def leaf (v : Validator Checked α) : Validator Watched α := fun x path => ofChecked (v x path)

end Watched

end Intake
