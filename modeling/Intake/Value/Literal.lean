import Intake.Text.Quoted
import Intake.Value.Basic

/-!
# Written values

A value has two written forms. The literal one shows what the value is made of: text is quoted, and
numbers, instants and documents are named. The display form is for reading: text stands as it is, a
number without its name, and everything that holds other values as its literal.
-/

namespace Intake

/-- Items with a comma between them. -/
def commaSeparated (items : List String) : String := ", ".intercalate items

/-- A constructor's name with named arguments. -/
def callLiteral (name : String) (arguments : List (String × String)) : String :=
  name ++ "(" ++ commaSeparated (arguments.map fun (k, v) => k ++ "=" ++ v) ++ ")"

/-- A tuple from its items' literals; a single item is followed by a comma. -/
def tupleLiteral : List String → String
  | [item] => s!"({item},)"
  | items => s!"({commaSeparated items})"

/-- The literal of an absent or present part. -/
def optionLiteral {α : Type} (literal : α → String) : Option α → String
  | none => "None"
  | some a => literal a

/-- The literal of a text. -/
def textLiteral (t : Text) : String := String.ofList (Quoted.text t)

/-- The literal of a sequence of texts. -/
def textsLiteral (ts : List Text) : String := tupleLiteral (ts.map textLiteral)

/-- The literal of a table's rows. -/
def rowsLiteral (rows : List (List Text)) : String := tupleLiteral (rows.map textsLiteral)

namespace DataTable

/-- The literal of a table. -/
def literal (t : DataTable) : String :=
  callLiteral "DataTable" [("rows", rowsLiteral t.rows), ("header", optionLiteral textsLiteral t.header)]

end DataTable

namespace StepArgument

/-- The literal of a step's argument. -/
def literal : StepArgument → String
  | docString s => textLiteral s
  | table t => t.literal

end StepArgument

namespace Step

/-- The literal of a step. -/
def literal (s : Step) : String :=
  callLiteral "Step"
    [("text", textLiteral s.text), ("argument", optionLiteral StepArgument.literal s.argument)]

/-- The literal of a sequence of steps. -/
def listLiteral (steps : List Step) : String := tupleLiteral (steps.map literal)

end Step

namespace Examples

/-- The literal of a table of examples. -/
def literal (e : Examples) : String :=
  callLiteral "Examples"
    [("name", textLiteral e.name), ("header", textsLiteral e.header), ("rows", rowsLiteral e.rows),
     ("tags", optionLiteral textsLiteral e.tags),
     ("description", optionLiteral textLiteral e.description)]

end Examples

namespace Background

/-- The literal of a background. -/
def literal (b : Background) : String :=
  callLiteral "Background"
    [("name", textLiteral b.name), ("given", Step.listLiteral b.given),
     ("description", optionLiteral textLiteral b.description)]

end Background

namespace Scenario

/-- The literal of a scenario. -/
def literal (s : Scenario) : String :=
  callLiteral "Scenario"
    [("name", textLiteral s.name), ("given", Step.listLiteral s.given),
     ("when", Step.listLiteral s.when), ("then", Step.listLiteral s.then_),
     ("tags", optionLiteral textsLiteral s.tags),
     ("description", optionLiteral textLiteral s.description),
     ("examples", optionLiteral Examples.literal s.examples)]

end Scenario

namespace Rule

/-- The literal of a rule. -/
def literal (r : Rule) : String :=
  callLiteral "Rule"
    [("name", textLiteral r.name), ("children", tupleLiteral (r.children.map Scenario.literal)),
     ("tags", optionLiteral textsLiteral r.tags),
     ("description", optionLiteral textLiteral r.description),
     ("background", optionLiteral Background.literal r.background)]

end Rule

namespace FeatureChild

/-- The literal of a feature's child. -/
def literal : FeatureChild → String
  | rule r => r.literal
  | scenario s => s.literal

end FeatureChild

namespace Feature

/-- The literal of a feature. -/
def literal (f : Feature) : String :=
  callLiteral "Feature"
    [("name", textLiteral f.name), ("children", tupleLiteral (f.children.map FeatureChild.literal)),
     ("tags", optionLiteral textsLiteral f.tags),
     ("description", optionLiteral textLiteral f.description),
     ("background", optionLiteral Background.literal f.background)]

end Feature

namespace Document

/-- The literal of a document. -/
def literal : Document → String
  | dataTable t => t.literal
  | step s => s.literal
  | examples e => e.literal
  | background b => b.literal
  | scenario s => s.literal
  | rule r => r.literal
  | feature f => f.literal

end Document

namespace Instant

/-- The literal of an instant. -/
def literal (t : Instant) : String :=
  "datetime.datetime(" ++ commaSeparated (t.shownFields.map toString) ++
    ", tzinfo=datetime.timezone.utc)"

end Instant

namespace Value

/-- The word for a truth value. -/
def boolText (b : Bool) : String := if b then "True" else "False"

mutual

/-- The literal form of a value. -/
def literal : Value → String
  | null => "None"
  | bool b => boolText b
  | int n => toString n
  | float x => String.ofList x.text
  | decimal d => s!"Decimal('{String.ofList d.text}')"
  | text s => textLiteral s
  | bytes bs => String.ofList (Quoted.bytes bs)
  | instant t => t.literal
  | list xs => s!"[{commaSeparated (literals xs)}]"
  | tuple xs => tupleLiteral (literals xs)
  | map entries => "\x7b" ++ commaSeparated (entryLiterals entries) ++ "\x7d"
  | document d => d.literal

/-- The literal forms of several values. -/
def literals : List Value → List String
  | [] => []
  | x :: xs => literal x :: literals xs

/-- The literal forms of a map's entries. -/
def entryLiterals : List (Value × Value) → List String
  | [] => []
  | (k, v) :: entries => (literal k ++ ": " ++ literal v) :: entryLiterals entries

end

mutual

/-- Whether every whole number in a value is short enough to be written. -/
def hasText : Value → Bool
  | int n => (Numeral.ofInt? n).isSome
  | list xs => allHaveText xs
  | tuple xs => allHaveText xs
  | map entries => entriesHaveText entries
  | _ => true

/-- Whether several values do. -/
def allHaveText : List Value → Bool
  | [] => true
  | x :: xs => x.hasText && allHaveText xs

/-- Whether a map's keys and values do. -/
def entriesHaveText : List (Value × Value) → Bool
  | [] => true
  | (k, v) :: entries => k.hasText && v.hasText && entriesHaveText entries

end

/-- The display form of a value. -/
def display : Value → Text
  | text s => s
  | decimal d => .ofChars d.text
  | instant t => .ofChars (t.text ' ')
  | v => literal v

end Value

end Intake
