import Intake.Document.Basic
import Intake.Validation.Scalars

/-!
# Reading documents

Each part of a document is read from an object, field by field in a fixed order, each field at a path of
its own. A field that is missing is read as null, a field that nobody asks for is not looked at, and the
first failure is the failure of the whole. Two choices are read off the shape of the data: a step's
argument is a text or a table, and a feature's child is a rule as soon as it has children.
-/

namespace Intake

namespace Validator

variable {α : Type}

/-- The entries of an object. -/
def fields (x : Value) (path : Path) : Checked (List (Value × Value)) :=
  match x with
  | .map entries => .ok entries
  | x => .error (unexpected "an object" x path)

/-- Reads the field of a name. -/
def field (name : String) (v : Validator Checked α) (entries : List (Value × Value)) (path : Path) :
    Checked α :=
  v ((Value.lookup name entries).getD .null) (path.field name)

/-- Any text. -/
def anyText : Validator Checked Text := string none none false

/-- A sequence of texts. -/
def texts : Validator Checked (List Text) := array anyText

/-- A table's rows. -/
def rows : Validator Checked (List (List Text)) := array texts

end Validator

open Validator

/-- A table is read header first. -/
def DataTable.decode : Validator Checked DataTable := fun x path => do
  let entries ← fields x path
  let header ← field "header" (optional texts) entries path
  let rows ← field "rows" Validator.rows entries path
  pure { header, rows }

/-- A step's argument is a text, or a table. -/
def StepArgument.decode : Validator Checked StepArgument := fun x path =>
  match x with
  | .text s => .ok (.docString s)
  | .map entries => (DataTable.decode (.map entries) path).map .table
  | x => .error (unexpected "a string or a data table" x path)

/-- A step. -/
def Step.decode : Validator Checked Step := fun x path => do
  let entries ← fields x path
  let text ← field "text" anyText entries path
  let argument ← field "argument" (optional StepArgument.decode) entries path
  pure { text, argument }

/-- A table of examples. -/
def Examples.decode : Validator Checked Examples := fun x path => do
  let entries ← fields x path
  let tags ← field "tags" (optional texts) entries path
  let name ← field "name" anyText entries path
  let description ← field "description" (optional anyText) entries path
  let header ← field "header" texts entries path
  let rows ← field "rows" Validator.rows entries path
  pure { tags, name, description, header, rows }

/-- A background. -/
def Background.decode : Validator Checked Background := fun x path => do
  let entries ← fields x path
  let name ← field "name" anyText entries path
  let description ← field "description" (optional anyText) entries path
  let given ← field "given" (array Step.decode) entries path
  pure { name, description, given }

/-- A scenario. -/
def Scenario.decode : Validator Checked Scenario := fun x path => do
  let entries ← fields x path
  let tags ← field "tags" (optional texts) entries path
  let name ← field "name" anyText entries path
  let description ← field "description" (optional anyText) entries path
  let given ← field "given" (array Step.decode) entries path
  let «when» ← field "when" (array Step.decode) entries path
  let then_ ← field "then" (array Step.decode) entries path
  let examples ← field "examples" (optional Examples.decode) entries path
  pure { tags, name, description, given, «when», then_, examples }

/-- A rule. -/
def Rule.decode : Validator Checked Rule := fun x path => do
  let entries ← fields x path
  let tags ← field "tags" (optional texts) entries path
  let name ← field "name" anyText entries path
  let description ← field "description" (optional anyText) entries path
  let background ← field "background" (optional Background.decode) entries path
  let children ← field "children" (array Scenario.decode) entries path
  pure { tags, name, description, background, children }

/-- A feature's child is a rule when it has a field for children, whatever that holds, and a scenario
otherwise. -/
def FeatureChild.decode : Validator Checked FeatureChild := fun x path => do
  let entries ← fields x path
  if (Value.lookup "children" entries).isSome then (Rule.decode (.map entries) path).map .rule
  else (Scenario.decode (.map entries) path).map .scenario

/-- A feature. -/
def Feature.decode : Validator Checked Feature := fun x path => do
  let entries ← fields x path
  let tags ← field "tags" (optional texts) entries path
  let name ← field "name" anyText entries path
  let description ← field "description" (optional anyText) entries path
  let background ← field "background" (optional Background.decode) entries path
  let children ← field "children" (array FeatureChild.decode) entries path
  pure { tags, name, description, background, children }

end Intake
