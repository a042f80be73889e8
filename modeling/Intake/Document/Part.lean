import Intake.Document.Decoder
import Intake.Document.Printer

/-!
# Parts of a document by name

The parts that can be asked for by name, and what reading one yields as a value: a step's argument may
turn out to be a text, and everything else is a part of a document.
-/

namespace Intake

/-- The parts of a document that can be read on their own. -/
inductive Part where
  | dataTable
  | stepArgument
  | step
  | examples
  | background
  | scenario
  | rule
  | featureChild
  | feature
deriving DecidableEq

/-- A step's argument as a value. -/
def StepArgument.asValue : StepArgument → Value
  | docString s => .text s
  | table t => .document (.dataTable t)

/-- A feature's child as a document. -/
def FeatureChild.asDocument : FeatureChild → Document
  | rule r => .rule r
  | scenario s => .scenario s

/-- Reads a part. -/
def Part.decode (p : Part) : Validator Checked Value := fun x path =>
  match p with
  | dataTable => (DataTable.decode x path).map (.document ∘ .dataTable)
  | stepArgument => (StepArgument.decode x path).map StepArgument.asValue
  | step => (Step.decode x path).map (.document ∘ .step)
  | examples => (Examples.decode x path).map (.document ∘ .examples)
  | background => (Background.decode x path).map (.document ∘ .background)
  | scenario => (Scenario.decode x path).map (.document ∘ .scenario)
  | rule => (Rule.decode x path).map (.document ∘ .rule)
  | featureChild => (FeatureChild.decode x path).map (.document ∘ FeatureChild.asDocument)
  | feature => (Feature.decode x path).map (.document ∘ .feature)

/-- Writes a value that reading a part yields: documents as objects, and all else as it is. -/
def Value.printed : Value → Value
  | document d => d.toValue
  | v => v

end Intake
