import Intake.Document.Part
import Intake.Proofs.Validation.Outcome

/-! # Printed documents are read back

A decoder undoes its printer when it reads every printed value, at any path, as what was printed
(`Validator.Undoes`).  Arrays inherit this from their elements, and an object from its fields: a printed object
is looked up by names (`lookup_entriesOf_cons`, `lookup_entriesOf_optionalField`), a field that is absent is
read as null, and no field prints null.  From here on each kind of part follows from the kinds inside it.

A step's argument and a feature's child say nothing of their own alternative.  It is read off the value: an
argument is a table iff it is an object, and a child is a rule iff it has children, which a rule always prints
and a scenario never.
-/
namespace Intake

/-! ## Looking up printed fields -/

namespace Value

/-- The entries of an object with these fields. -/
def entriesOf (fields : List (Text × Value)) : List (Value × Value) :=
  fields.map fun f => (.text f.1, f.2)

variable (name : Text) (key : String) (y : Value) (o : Option Value) (fields : List (Text × Value))

@[simp] theorem lookup_entriesOf_nil : lookup name (entriesOf []) = none := rfl

@[simp] theorem lookup_entriesOf_cons : lookup name (entriesOf ((Text.ofString key, y) :: fields)) =
    if Text.ofString key = name then some y else lookup name (entriesOf fields) := rfl

@[simp] theorem lookup_entriesOf_optionalField_append :
    lookup name (entriesOf (optionalField key o ++ fields)) =
      if Text.ofString key = name then o.or (lookup name (entriesOf fields))
      else lookup name (entriesOf fields) := by
  cases o with
  | none =>
    rw [Option.none_or, ite_self]
    rfl
  | some y => exact lookup_entriesOf_cons name key y fields

@[simp] theorem lookup_entriesOf_optionalField :
    lookup name (entriesOf (optionalField key o)) = if Text.ofString key = name then o else none := by
  cases o with
  | none =>
    rw [ite_self]
    rfl
  | some y => exact lookup_entriesOf_cons name key y []

end Value

/-- What stands after the heading stands after each of its fields. -/
theorem headingFields_append (tags : Option (List Text)) (name : Text)
    (description : Option Text) (rest : List (Text × Value)) :
    headingFields tags name description ++ rest = optionalField "tags" (tags.map textsValue) ++
      (Text.ofString "name", .text name) :: (optionalField "description" (description.map .text) ++ rest) := by
  rw [headingFields, List.append_assoc, List.cons_append]

namespace Validator
variable {α : Type} {v : Validator Checked α} {print : α → Value}

/-- What is printed is read back, at any path. -/
def Undoes (v : Validator Checked α) (print : α → Value) : Prop := ∀ a path, v (print a) path = .ok a

/-! ## Texts and arrays -/

theorem undoes_anyText : anyText.Undoes .text := fun _ _ => rfl

theorem readItems_map (hv : v.Undoes print) (path : Path) (i : Nat) (ys : List α) :
    readItems v path i (ys.map print) = .ok ys := by
  refine readItems_of_results ?_ path i
  rw [List.forall₂_map_left_iff, List.forall₂_same]
  exact fun a _ path' => hv a path'

theorem undoes_array (hv : v.Undoes print) : (array v).Undoes fun ys => .list (ys.map print) :=
  fun ys path => readItems_map hv path 0 ys

theorem undoes_texts : texts.Undoes textsValue := undoes_array undoes_anyText

theorem undoes_rows : rows.Undoes rowsValue := undoes_array undoes_texts

/-! ## Objects -/

section Fields
variable {entries : List (Value × Value)} {name : String} {path : Path}

theorem field_required {a : α} (hv : v.Undoes print) (h : Value.lookup name entries = some (print a)) :
    field name v entries path = .ok a := by
  rw [field, h]
  exact hv a _

theorem field_optional {o : Option α} (hv : v.Undoes print) (hp : ∀ a, (print a).isNull = false)
    (h : Value.lookup name entries = o.map print) : field name (optional v) entries path = .ok o := by
  rw [field, h]
  cases o with
  | none => rfl
  | some a =>
    rw [Option.map_some, Option.getD_some]
    unfold optional
    split
    · -- What is printed would be taken for a missing field if it were null.
      rename_i hnull
      have ha := hp a
      rw [hnull] at ha
      cases ha
    · rw [hv]
      rfl

end Fields

theorem undoes_object {fs : α → List (Text × Value)} {read : List (Value × Value) → Path → Checked α}
    (h : ∀ a entries path, entries = Value.entriesOf (fs a) → read entries path = .ok a) :
    Undoes (fun x path => fields x path >>= fun entries => read entries path)
      (fun a => .object (fs a)) := by
  intro a path
  exact h a _ path rfl

end Validator

/-! ## The decoders -/

open Validator

theorem DataTable.decode_undoes : DataTable.decode.Undoes DataTable.toValue := by
  refine undoes_object fun t entries path he => ?_
  have hheader : field "header" (optional texts) entries path = .ok t.header :=
    field_optional undoes_texts (fun _ => rfl) (by simp [he])
  have hrows : field "rows" Validator.rows entries path = .ok t.rows :=
    field_required undoes_rows (by simp [he])
  rw [hheader, Checked.bind_ok, hrows]
  rfl

theorem StepArgument.decode_undoes : StepArgument.decode.Undoes StepArgument.toValue := by
  intro a path
  cases a with
  | docString s => rfl
  | table t =>
    show (DataTable.decode t.toValue path).map StepArgument.table = _
    rw [DataTable.decode_undoes]
    rfl

theorem StepArgument.isNull_toValue (a : StepArgument) : a.toValue.isNull = false := by
  cases a with
  | docString s => rfl
  | table t => rfl

theorem Step.decode_undoes : Step.decode.Undoes Step.toValue := by
  refine undoes_object fun s entries path he => ?_
  have htext : field "text" anyText entries path = .ok s.text :=
    field_required undoes_anyText (by simp [he])
  have hargument : field "argument" (optional StepArgument.decode) entries path = .ok s.argument :=
    field_optional StepArgument.decode_undoes StepArgument.isNull_toValue (by simp [he])
  rw [htext, Checked.bind_ok, hargument]
  rfl

theorem undoes_steps : (array Step.decode).Undoes stepsValue := undoes_array Step.decode_undoes

theorem Examples.decode_undoes : Examples.decode.Undoes Examples.toValue := by
  refine undoes_object fun e entries path he => ?_
  rw [headingFields_append] at he
  have htags : field "tags" (optional texts) entries path = .ok e.tags :=
    field_optional undoes_texts (fun _ => rfl) (by simp [he])
  have hname : field "name" anyText entries path = .ok e.name :=
    field_required undoes_anyText (by simp [he])
  have hdescription : field "description" (optional anyText) entries path = .ok e.description :=
    field_optional undoes_anyText (fun _ => rfl) (by simp [he])
  have hheader : field "header" texts entries path = .ok e.header :=
    field_required undoes_texts (by simp [he])
  have hrows : field "rows" Validator.rows entries path = .ok e.rows :=
    field_required undoes_rows (by simp [he])
  rw [htags, Checked.bind_ok, hname, Checked.bind_ok, hdescription, Checked.bind_ok, hheader,
    Checked.bind_ok, hrows]
  rfl

theorem Background.decode_undoes : Background.decode.Undoes Background.toValue := by
  refine undoes_object fun b entries path he => ?_
  rw [headingFields_append] at he
  have hname : field "name" anyText entries path = .ok b.name :=
    field_required undoes_anyText (by simp [he])
  have hdescription : field "description" (optional anyText) entries path = .ok b.description :=
    field_optional undoes_anyText (fun _ => rfl) (by simp [he])
  have hgiven : field "given" (array Step.decode) entries path = .ok b.given :=
    field_required undoes_steps (by simp [he])
  rw [hname, Checked.bind_ok, hdescription, Checked.bind_ok, hgiven]
  rfl

theorem Scenario.decode_undoes : Scenario.decode.Undoes Scenario.toValue := by
  refine undoes_object fun s entries path he => ?_
  rw [List.append_assoc, headingFields_append] at he
  have htags : field "tags" (optional texts) entries path = .ok s.tags :=
    field_optional undoes_texts (fun _ => rfl) (by simp [he])
  have hname : field "name" anyText entries path = .ok s.name :=
    field_required undoes_anyText (by simp [he])
  have hdescription : field "description" (optional anyText) entries path = .ok s.description :=
    field_optional undoes_anyText (fun _ => rfl) (by simp [he])
  have hgiven : field "given" (array Step.decode) entries path = .ok s.given :=
    field_required undoes_steps (by simp [he])
  have hwhen : field "when" (array Step.decode) entries path = .ok s.when :=
    field_required undoes_steps (by simp [he])
  have hthen : field "then" (array Step.decode) entries path = .ok s.then_ :=
    field_required undoes_steps (by simp [he])
  have hexamples : field "examples" (optional Examples.decode) entries path = .ok s.examples :=
    field_optional Examples.decode_undoes (fun _ => rfl) (by simp [he])
  rw [htags, Checked.bind_ok, hname, Checked.bind_ok, hdescription, Checked.bind_ok, hgiven,
    Checked.bind_ok, hwhen, Checked.bind_ok, hthen, Checked.bind_ok, hexamples]
  rfl

/-- The fields of a rule or a feature are read back once its children are. -/
theorem group_fields {α : Type} {child : Validator Checked α} {print : α → Value}
    (hchild : child.Undoes print) {tags : Option (List Text)} {name : Text}
    {description : Option Text} {background : Option Background} {children : List α}
    {entries : List (Value × Value)} {path : Path}
    (he : entries = Value.entriesOf (headingFields tags name description ++
      optionalField "background" (background.map Background.toValue) ++
        [(Text.ofString "children", .list (children.map print))])) :
    field "tags" (optional texts) entries path = .ok tags ∧
      field "name" anyText entries path = .ok name ∧
      field "description" (optional anyText) entries path = .ok description ∧
      field "background" (optional Background.decode) entries path = .ok background ∧
      field "children" (array child) entries path = .ok children := by
  rw [List.append_assoc, headingFields_append] at he
  refine ⟨?_, ?_, ?_, ?_, ?_⟩
  · exact field_optional undoes_texts (fun _ => rfl) (by simp [he])
  · exact field_required undoes_anyText (by simp [he])
  · exact field_optional undoes_anyText (fun _ => rfl) (by simp [he])
  · exact field_optional Background.decode_undoes (fun _ => rfl) (by simp [he])
  · exact field_required (undoes_array hchild) (by simp [he])

theorem Rule.decode_undoes : Rule.decode.Undoes Rule.toValue := by
  refine undoes_object fun r entries path he => ?_
  obtain ⟨htags, hname, hdescription, hbackground, hchildren⟩ := group_fields Scenario.decode_undoes he
  rw [htags, Checked.bind_ok, hname, Checked.bind_ok, hdescription, Checked.bind_ok, hbackground,
    Checked.bind_ok, hchildren]
  rfl

/-- The alternative is read off the field for children. -/
theorem FeatureChild.decode_of_children {entries : List (Value × Value)} (path : Path)
    (h : (Value.lookup "children" entries).isSome = true) :
    FeatureChild.decode (.map entries) path = (Rule.decode (.map entries) path).map .rule := if_pos h

theorem FeatureChild.decode_of_no_children {entries : List (Value × Value)} (path : Path)
    (h : Value.lookup "children" entries = none) :
    FeatureChild.decode (.map entries) path = (Scenario.decode (.map entries) path).map .scenario :=
  if_neg (by rw [h]; exact nofun)

theorem FeatureChild.decode_undoes : FeatureChild.decode.Undoes FeatureChild.toValue := by
  intro c path
  cases c with
  | rule r =>
    have hc : (Value.lookup "children" (Value.entriesOf (headingFields r.tags r.name r.description ++
        optionalField "background" (r.background.map Background.toValue) ++
          [(Text.ofString "children", .list (r.children.map Scenario.toValue))]))).isSome = true := by
      rw [List.append_assoc, headingFields_append]
      simp
    exact (FeatureChild.decode_of_children path hc).trans
      (congrArg (Except.map _) (Rule.decode_undoes r path))
  | scenario s =>
    have hc : Value.lookup "children" (Value.entriesOf (headingFields s.tags s.name s.description ++
        [(Text.ofString "given", stepsValue s.given), (Text.ofString "when", stepsValue s.when),
          (Text.ofString "then", stepsValue s.then_)] ++
          optionalField "examples" (s.examples.map Examples.toValue))) = none := by
      rw [List.append_assoc, headingFields_append]
      simp
    exact (FeatureChild.decode_of_no_children path hc).trans
      (congrArg (Except.map _) (Scenario.decode_undoes s path))

theorem Feature.decode_undoes : Feature.decode.Undoes Feature.toValue := by
  refine undoes_object fun f entries path he => ?_
  obtain ⟨htags, hname, hdescription, hbackground, hchildren⟩ := group_fields FeatureChild.decode_undoes he
  rw [htags, Checked.bind_ok, hname, Checked.bind_ok, hdescription, Checked.bind_ok, hbackground,
    Checked.bind_ok, hchildren]
  rfl

/-! ## Any part -/

/-- The part as which a document is read. -/
def Document.part : Document → Part
  | dataTable _ => .dataTable
  | step _ => .step
  | examples _ => .examples
  | background _ => .background
  | scenario _ => .scenario
  | rule _ => .rule
  | feature _ => .feature

theorem Document.decode_undoes (d : Document) (path : Path) :
    d.part.decode d.toValue path = .ok (.document d) := by
  cases d with
  | dataTable t => exact congrArg (Except.map _) (DataTable.decode_undoes t path)
  | step s => exact congrArg (Except.map _) (Step.decode_undoes s path)
  | examples e => exact congrArg (Except.map _) (Examples.decode_undoes e path)
  | background b => exact congrArg (Except.map _) (Background.decode_undoes b path)
  | scenario s => exact congrArg (Except.map _) (Scenario.decode_undoes s path)
  | rule r => exact congrArg (Except.map _) (Rule.decode_undoes r path)
  | feature f => exact congrArg (Except.map _) (Feature.decode_undoes f path)

end Intake
