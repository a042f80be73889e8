import Intake.Calendar.Instant
import Intake.Document.Basic
import Intake.Number.Binary64

/-!
# Values

Untrusted data before validation and typed data after it. A value knows its kind; a map keeps its entries
in the order in which their keys first came, and its keys may be of any kind.
-/

namespace Intake

/-- A dynamic value. -/
inductive Value where
  | null
  | bool (b : Bool)
  | int (n : Int)
  | float (x : Binary64)
  | decimal (d : Decimal)
  | text (s : Text)
  | bytes (bs : List UInt8)
  | instant (t : Instant)
  | list (xs : List Value)
  | tuple (xs : List Value)
  | map (entries : List (Value × Value))
  | document (d : Document)

/-- The kinds of values. Each part of a document is a kind of its own. -/
inductive Kind where
  | null
  | bool
  | int
  | float
  | decimal
  | text
  | bytes
  | instant
  | list
  | tuple
  | map
  | dataTable
  | step
  | examples
  | background
  | scenario
  | rule
  | feature
deriving DecidableEq

/-- The kind's name in messages. -/
def Kind.name : Kind → String
  | null => "NoneType"
  | bool => "bool"
  | int => "int"
  | float => "float"
  | decimal => "Decimal"
  | text => "str"
  | bytes => "bytes"
  | instant => "datetime"
  | list => "list"
  | tuple => "tuple"
  | map => "dict"
  | dataTable => "DataTable"
  | step => "Step"
  | examples => "Examples"
  | background => "Background"
  | scenario => "Scenario"
  | rule => "Rule"
  | feature => "Feature"

/-- The kind of a part of a document. -/
def Document.kind : Document → Kind
  | dataTable _ => .dataTable
  | step _ => .step
  | examples _ => .examples
  | background _ => .background
  | scenario _ => .scenario
  | rule _ => .rule
  | feature _ => .feature

namespace Value

/-- The kind of a value. -/
def kind : Value → Kind
  | null => .null
  | bool _ => .bool
  | int _ => .int
  | float _ => .float
  | decimal _ => .decimal
  | text _ => .text
  | bytes _ => .bytes
  | instant _ => .instant
  | list _ => .list
  | tuple _ => .tuple
  | map _ => .map
  | document d => d.kind

/-- Nothing is there. -/
def isNull : Value → Bool
  | null => true
  | _ => false

/-- The elements of an array, be it a list or a tuple. -/
def elements? : Value → Option (List Value)
  | list xs => some xs
  | tuple xs => some xs
  | _ => none

/-- The value under a text key. -/
def lookup (name : Text) : List (Value × Value) → Option Value
  | [] => none
  | (.text key, value) :: rest => if key = name then some value else lookup name rest
  | _ :: rest => lookup name rest

/-- A map whose keys are texts. -/
def object (fields : List (Text × Value)) : Value := .map (fields.map fun (k, v) => (.text k, v))

end Value

end Intake
