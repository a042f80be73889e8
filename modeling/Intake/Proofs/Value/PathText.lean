import Intake.Proofs.Value.Location

/-! # The text of a location

A path is written down as one text, and what a location adds to it depends on the location alone: behind a label a
field comes with a point, an index or a key in brackets.  So the text of `p.along l` is the text of `p` followed by
`Location.suffix l`, whatever `p` is (`Path.text_along`).  The one exception is a path without labels, where the first
step is a label of its own and is written without its marks (`Path.text_along_of_nil`).
-/
namespace Intake

/-- A step as it is written behind a label. -/
def Segment.suffix : Segment → Text
  | .field name => "." ++ name
  | .element i => "[" ++ toString i ++ "]"
  | .key k => "[" ++ k.display ++ "]"

/-- A step as it is written where no label stands in front of it. -/
def Segment.label : Segment → Text
  | .field name => name
  | .element i => toString i
  | .key k => k.display

/-- What a location adds to the text of a path that has a label. -/
def Location.suffix : Location → Text
  | [] => []
  | segment :: rest => segment.suffix ++ suffix rest

/-- The text of a location in a value that has no path of its own. -/
def Location.text : Location → Text
  | [] => []
  | segment :: rest => segment.label ++ suffix rest

namespace Path
variable {p : Path}

theorem intercalate_concat (separator last : Text) {labels : List Text} (h : labels ≠ []) :
    separator.intercalate (labels ++ [last]) = separator.intercalate labels ++ separator ++ last := by
  induction labels with
  | nil => exact absurd rfl h
  | cons label rest ih =>
    cases rest with
    | nil => simp only [List.singleton_append, List.intercalate_cons_cons, List.intercalate_singleton]
    | cons next rest =>
      have hrest := ih (List.cons_ne_nil next rest)
      rw [List.cons_append] at hrest
      simp only [List.cons_append, List.intercalate_cons_cons, hrest, List.append_assoc]

theorem text_field (h : p.labels ≠ []) (name : String) : (p.field name).text = p.text ++ "." ++ name :=
  intercalate_concat _ _ h

theorem indexLabels_ne_nil (i : Text) (labels : List Text) : indexLabels i labels ≠ [] := by
  fun_cases indexLabels i labels <;> exact List.cons_ne_nil _ _

theorem intercalate_indexLabels (separator i : Text) {labels : List Text} (h : labels ≠ []) :
    separator.intercalate (indexLabels i labels) = separator.intercalate labels ++ "[" ++ i ++ "]" := by
  induction labels with
  | nil => exact absurd rfl h
  | cons label rest ih =>
    cases rest with
    | nil => rw [indexLabels, List.intercalate_singleton, List.intercalate_singleton]
    | cons next rest =>
      have hrest : next :: rest ≠ [] := List.cons_ne_nil next rest
      rw [indexLabels, List.intercalate_cons_of_ne_nil (indexLabels_ne_nil i _), ih hrest,
        List.intercalate_cons_of_ne_nil hrest]
      · simp only [List.append_assoc]
      · exact hrest

theorem text_index (h : p.labels ≠ []) (i : Text) : (p.index i).text = p.text ++ "[" ++ i ++ "]" :=
  intercalate_indexLabels _ i h

theorem labels_step_ne_nil (p : Path) (segment : Segment) : (p.step segment).labels ≠ [] := by
  cases segment with
  | field name => exact List.append_ne_nil_of_right_ne_nil _ (List.cons_ne_nil _ [])
  | element i => exact indexLabels_ne_nil _ _
  | key k => exact indexLabels_ne_nil _ _

theorem text_step (h : p.labels ≠ []) (segment : Segment) :
    (p.step segment).text = p.text ++ segment.suffix := by
  cases segment with
  | field name => rw [step, text_field h, Segment.suffix, List.append_assoc]
  | element i => simp only [step, text_index h, Segment.suffix, List.append_assoc]
  | key k => simp only [step, text_index h, Segment.suffix, List.append_assoc]

/-- Without a label in front, a step becomes one. -/
theorem text_step_of_nil (h : p.labels = []) (segment : Segment) : (p.step segment).text = segment.label := by
  cases segment <;>
    simp only [step, field, index, text, h, indexLabels, List.nil_append, List.intercalate_singleton, Segment.label]

/-- **A location adds one text to all paths that have a label.** -/
theorem text_along (h : p.labels ≠ []) (l : Location) : (p.along l).text = p.text ++ Location.suffix l := by
  induction l generalizing p with
  | nil => exact (List.append_nil _).symm
  | cons segment rest ih =>
    have hrest : (p.along (segment :: rest)).text = (p.step segment).text ++ Location.suffix rest :=
      ih (p.labels_step_ne_nil segment)
    rw [hrest, text_step h, Location.suffix, List.append_assoc]

theorem text_along_of_nil (h : p.labels = []) (l : Location) : (p.along l).text = Location.text l := by
  cases l with
  | nil => rw [along, List.foldl_nil, text, h, List.intercalate_nil, Location.text]
  | cons segment rest =>
    have hrest : (p.along (segment :: rest)).text = (p.step segment).text ++ Location.suffix rest :=
      text_along (p.labels_step_ne_nil segment) rest
    rw [hrest, text_step_of_nil h, Location.text]

/-- What a location is written as behind a path: after the labels, or alone where there are none. -/
theorem text_along_eq (p : Path) (l : Location) :
    (p.along l).text = if p.labels = [] then Location.text l else p.text ++ Location.suffix l := by
  split
  · rename_i h
    exact text_along_of_nil h l
  · rename_i h
    exact text_along h l

end Path

end Intake
