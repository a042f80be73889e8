import Intake.Value.Basic

/-!
# Writing documents

Each part of a document is written as an object that its reader reads back. A part that is absent has no
field.
-/

namespace Intake

/-- A field, if there is a value for it. -/
def optionalField (name : String) : Option Value → List (Text × Value)
  | none => []
  | some v => [(.ofString name, v)]

/-- A sequence of texts. -/
def textsValue (ss : List Text) : Value := .list (ss.map .text)

/-- A table's rows. -/
def rowsValue (rows : List (List Text)) : Value := .list (rows.map textsValue)

/-- A table as an object. -/
def DataTable.toValue (t : DataTable) : Value :=
  .object (optionalField "header" (t.header.map textsValue) ++ [(Text.ofString "rows", rowsValue t.rows)])

/-- A step's argument: a text, or a table as an object. -/
def StepArgument.toValue : StepArgument → Value
  | docString s => .text s
  | table t => t.toValue

/-- A step as an object. -/
def Step.toValue (s : Step) : Value :=
  .object ((Text.ofString "text", .text s.text) ::
    optionalField "argument" (s.argument.map StepArgument.toValue))

/-- A sequence of steps. -/
def stepsValue (steps : List Step) : Value := .list (steps.map Step.toValue)

/-- The fields with which everything that has tags begins. -/
def headingFields (tags : Option (List Text)) (name : Text) (description : Option Text) :
    List (Text × Value) :=
  optionalField "tags" (tags.map textsValue) ++ (Text.ofString "name", .text name) ::
    optionalField "description" (description.map .text)

/-- A table of examples as an object. -/
def Examples.toValue (e : Examples) : Value :=
  .object (headingFields e.tags e.name e.description ++
    [(Text.ofString "header", textsValue e.header), (Text.ofString "rows", rowsValue e.rows)])

/-- A background as an object. -/
def Background.toValue (b : Background) : Value :=
  .object (headingFields none b.name b.description ++ [(Text.ofString "given", stepsValue b.given)])

/-- A scenario as an object. -/
def Scenario.toValue (s : Scenario) : Value :=
  .object (headingFields s.tags s.name s.description ++
    [(Text.ofString "given", stepsValue s.given), (Text.ofString "when", stepsValue s.when),
      (Text.ofString "then", stepsValue s.then_)] ++
      optionalField "examples" (s.examples.map Examples.toValue))

/-- A rule as an object. -/
def Rule.toValue (r : Rule) : Value :=
  .object (headingFields r.tags r.name r.description ++
    optionalField "background" (r.background.map Background.toValue) ++
      [(Text.ofString "children", .list (r.children.map Scenario.toValue))])

/-- A feature's child as an object. -/
def FeatureChild.toValue : FeatureChild → Value
  | rule r => r.toValue
  | scenario s => s.toValue

/-- A feature as an object. -/
def Feature.toValue (f : Feature) : Value :=
  .object (headingFields f.tags f.name f.description ++
    optionalField "background" (f.background.map Background.toValue) ++
      [(Text.ofString "children", .list (f.children.map FeatureChild.toValue))])

/-- Any part as an object. -/
def Document.toValue : Document → Value
  | dataTable t => t.toValue
  | step s => s.toValue
  | examples e => e.toValue
  | background b => b.toValue
  | scenario s => s.toValue
  | rule r => r.toValue
  | feature f => f.toValue

end Intake
