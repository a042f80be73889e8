import Intake.Text.Basic

/-!
# Paths

A path names a place inside a value: a list of labels, the last of which may carry bracketed indices. A
field adds a label of its own; an index of an array or a key of a map goes into brackets behind the last
label. Extending a path never changes it for others.
-/

namespace Intake

/-- The name of a place. -/
structure Path where
  labels : List Text
deriving DecidableEq

namespace Path

/-- Puts an index in brackets behind the last label. Without any label the index becomes the first. -/
def indexLabels (i : Text) : List Text → List Text
  | [] => [i]
  | [last] => [last ++ "[" ++ i ++ "]"]
  | label :: rest => label :: indexLabels i rest

/-- The place of an array's element or of a map's entry. -/
def index (p : Path) (i : Text) : Path := ⟨indexLabels i p.labels⟩

/-- The place of an object's field. -/
def field (p : Path) (name : String) : Path := ⟨p.labels ++ [Text.ofString name]⟩

/-- The path in one text, with points between the labels. -/
def text (p : Path) : Text := [Point.char '.'].intercalate p.labels

end Path

end Intake
