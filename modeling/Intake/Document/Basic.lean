import Intake.Text.Basic

/-!
# Feature documents

A feature describes behaviour by scenarios, each a list of steps that set up, act and observe. Scenarios
may be grouped under a rule, may share a background, and may be repeated over a table of examples. Every
sequence keeps its order, and names, tags and rows may repeat.
-/

namespace Intake

/-- A table of texts with an optional header. -/
structure DataTable where
  header : Option (List Text)
  rows : List (List Text)
deriving DecidableEq

/-- What a step may carry besides its text. -/
inductive StepArgument where
  | docString (s : Text)
  | table (t : DataTable)
deriving DecidableEq

/-- One line of a scenario. -/
structure Step where
  text : Text
  argument : Option StepArgument
deriving DecidableEq

/-- The table of values over which a scenario is repeated. -/
structure Examples where
  tags : Option (List Text)
  name : Text
  description : Option Text
  header : List Text
  rows : List (List Text)
deriving DecidableEq

/-- Steps that come before every scenario. -/
structure Background where
  name : Text
  description : Option Text
  given : List Step
deriving DecidableEq

/-- One example of behaviour. -/
structure Scenario where
  tags : Option (List Text)
  name : Text
  description : Option Text
  given : List Step
  when : List Step
  then_ : List Step
  examples : Option Examples
deriving DecidableEq

/-- Scenarios that illustrate one rule. -/
structure Rule where
  tags : Option (List Text)
  name : Text
  description : Option Text
  background : Option Background
  children : List Scenario
deriving DecidableEq

/-- A direct part of a feature. -/
inductive FeatureChild where
  | rule (r : Rule)
  | scenario (s : Scenario)
deriving DecidableEq

/-- A whole document. -/
structure Feature where
  tags : Option (List Text)
  name : Text
  description : Option Text
  background : Option Background
  children : List FeatureChild
deriving DecidableEq

/-- Any part of a document that can stand alone. -/
inductive Document where
  | dataTable (t : DataTable)
  | step (s : Step)
  | examples (e : Examples)
  | background (b : Background)
  | scenario (s : Scenario)
  | rule (r : Rule)
  | feature (f : Feature)
deriving DecidableEq

end Intake
