import Intake.Document.Part
import Intake.Validation.Watched

/-!
# Validators as data

A specification describes a validator: one for single values, one for a part of a document, or a container
validator over another specification. Running it yields a value, since what it reads depends on the
specification.
-/

namespace Intake

/-- A description of a validator. -/
inductive Spec where
  | boolean (default : Option Bool)
  | booleanWord (default : Option Bool)
  | booleanLetter (default : Option Bool)
  | number
  | numberText
  | integer
  | integerText
  | string (min max : Option Int) (email : Bool)
  | oneOf (values : List Value)
  | midnight
  | date
  | easternTime
  | utcTime
  | object
  | ofKind (test : Validator.KindTest)
  /-- Accepts everything. -/
  | identity
  | part (p : Part)
  | optional (inner : Spec)
  | array (inner : Spec)
  | paramArray (inner : Spec)
  | map (inner : Spec)

namespace Spec

/-- A validator for single values, with its result as a value. -/
def leaf {α : Type} (toValue : α → Value) (v : Validator Checked α) : Validator Watched Value :=
  Watched.leaf fun x path => (v x path).map toValue

/-- Runs the validator that a specification describes. -/
def run : Spec → Validator Watched Value
  | boolean default => leaf .bool (Validator.boolean default)
  | booleanWord default => leaf .bool (Validator.booleanWord default)
  | booleanLetter default => leaf .bool (Validator.booleanLetter default)
  | number => leaf .decimal Validator.number
  | numberText => leaf .decimal Validator.numberText
  | integer => leaf .decimal Validator.integer
  | integerText => leaf .decimal Validator.integerText
  | string min max email => leaf .text (Validator.string min max email)
  | oneOf values => leaf id (Validator.oneOf values)
  | midnight => leaf .instant Validator.midnight
  | date => leaf .instant Validator.date
  | easternTime => leaf .instant Validator.easternTime
  | utcTime => leaf .instant Validator.utcTime
  | object => leaf .bool Validator.object
  | ofKind test => leaf id (Validator.ofKind test)
  | identity => fun x _ => pure x
  | part p => leaf id p.decode
  | optional inner => fun x path => do
    let result ← Validator.optional (Watched.called inner.run) x path
    pure (result.getD .null)
  | array inner => fun x path => do
    let results ← Validator.array (Watched.called inner.run) x path
    pure (.list results)
  | paramArray inner => fun x path => do
    let results ← Validator.paramArray (Watched.called inner.run) x path
    pure (.list results)
  | map inner => fun x path => do
    let results ← Validator.map (Watched.called inner.run) x path
    pure (.map results)

/-- The outcome alone. -/
def validate (s : Spec) : Validator Checked Value := fun x path => (s.run x path).outcome

end Spec

end Intake
