import Intake.Proofs.Document.ReadBack
import Intake.Proofs.Wire.RoundTrip

/-! # Documents and their JSON text

A printed document holds texts, lists and objects alone, and no object names a field twice, so it is a plain
value (`Document.plain_toValue`).  Its JSON text is therefore read as the very value that was written, and the
decoder that undoes the printer undoes the whole way out and back (`decode_undoes_print`).

The names of an object are those of its kind with some optional ones left out; `PlainFields` carries this list
of names along the fields.
-/
namespace Intake

/-! ## Plain fields -/

namespace Value

/-- Fields that hold plain values, with names from a list, in its order. -/
structure PlainFields (names : List String) (fields : List (Text × Value)) : Prop where
  sublist : (fields.map Prod.fst).Sublist (names.map Text.ofString)
  plain : ∀ f ∈ fields, f.2.Plain

variable {names : List String} {fields : List (Text × Value)}

theorem plainFields_nil : PlainFields [] [] := ⟨.slnil, nofun⟩

theorem PlainFields.required (h : PlainFields names fields) (name : String) {v : Value}
    (hv : v.Plain) : PlainFields (name :: names) ((Text.ofString name, v) :: fields) := by
  refine ⟨h.sublist.cons_cons (Text.ofString name), ?_⟩
  intro f hf
  rcases List.mem_cons.mp hf with rfl | hf
  · exact hv
  · exact h.plain f hf

theorem PlainFields.optional (h : PlainFields names fields) (name : String) {o : Option Value}
    (ho : ∀ v ∈ o, v.Plain) : PlainFields (name :: names) (optionalField name o ++ fields) := by
  cases o with
  | none => exact ⟨h.sublist.cons (Text.ofString name), h.plain⟩
  | some v => exact h.required name (ho v rfl)

theorem PlainFields.object (h : PlainFields names fields) (hn : names.Nodup) : (object fields).Plain :=
  .object (h.sublist.nodup (List.pairwise_map.mpr (hn.imp fun hne heq => hne (Text.ofString_inj.mp heq)))) h.plain

/-- A list is plain when what was printed into it is. -/
theorem plain_list_map {α : Type} {print : α → Value} (h : ∀ a, (print a).Plain) (ys : List α) :
    (Value.list (ys.map print)).Plain := by
  refine .list fun x hx => ?_
  obtain ⟨a, -, rfl⟩ := List.mem_map.mp hx
  exact h a

theorem plain_mem_map {α : Type} {print : α → Value} (h : ∀ a, (print a).Plain) {o : Option α} :
    ∀ v ∈ o.map print, v.Plain := by
  intro v hv
  obtain ⟨a, -, rfl⟩ := Option.map_eq_some_iff.mp hv
  exact h a

end Value

open Value

theorem plain_textsValue (ss : List Text) : (textsValue ss).Plain := plain_list_map Plain.text ss

theorem plain_rowsValue (rows : List (List Text)) : (rowsValue rows).Plain :=
  plain_list_map plain_textsValue rows

theorem plainFields_heading {names : List String} {rest : List (Text × Value)}
    (h : PlainFields names rest) (tags : Option (List Text)) (name : Text)
    (description : Option Text) : PlainFields ("tags" :: "name" :: "description" :: names)
      (headingFields tags name description ++ rest) := by
  have hdescription := h.optional "description" (plain_mem_map Plain.text (o := description))
  have hname := hdescription.required "name" (.text name)
  rw [headingFields_append]
  exact hname.optional "tags" (plain_mem_map plain_textsValue)

/-! ## The printers -/

theorem DataTable.plain_toValue (t : DataTable) : t.toValue.Plain := by
  have hrows := plainFields_nil.required "rows" (plain_rowsValue t.rows)
  have hheader := hrows.optional "header" (plain_mem_map plain_textsValue (o := t.header))
  exact hheader.object (by decide)

theorem StepArgument.plain_toValue (a : StepArgument) : a.toValue.Plain := by
  cases a with
  | docString s => exact .text s
  | table t => exact t.plain_toValue

theorem Step.plain_toValue (s : Step) : s.toValue.Plain := by
  have hargument := plainFields_nil.optional "argument"
    (plain_mem_map StepArgument.plain_toValue (o := s.argument))
  rw [List.append_nil] at hargument
  have htext := hargument.required "text" (.text s.text)
  exact htext.object (by decide)

theorem plain_stepsValue (steps : List Step) : (stepsValue steps).Plain :=
  plain_list_map Step.plain_toValue steps

theorem Examples.plain_toValue (e : Examples) : e.toValue.Plain := by
  have hrows := plainFields_nil.required "rows" (plain_rowsValue e.rows)
  have hheader := hrows.required "header" (plain_textsValue e.header)
  exact (plainFields_heading hheader e.tags e.name e.description).object (by decide)

theorem Background.plain_toValue (b : Background) : b.toValue.Plain := by
  have hgiven := plainFields_nil.required "given" (plain_stepsValue b.given)
  exact (plainFields_heading hgiven none b.name b.description).object (by decide)

theorem Scenario.plain_toValue (s : Scenario) : s.toValue.Plain := by
  have hexamples := plainFields_nil.optional "examples"
    (plain_mem_map Examples.plain_toValue (o := s.examples))
  rw [List.append_nil] at hexamples
  have hthen := hexamples.required "then" (plain_stepsValue s.then_)
  have hwhen := hthen.required "when" (plain_stepsValue s.when)
  have hgiven := hwhen.required "given" (plain_stepsValue s.given)
  rw [Scenario.toValue, List.append_assoc]
  exact (plainFields_heading hgiven s.tags s.name s.description).object (by decide)

/-- A rule or a feature is plain when its children are. -/
theorem plain_group {α : Type} {print : α → Value} (h : ∀ a, (print a).Plain)
    (tags : Option (List Text)) (name : Text) (description : Option Text)
    (background : Option Background) (children : List α) :
    (Value.object (headingFields tags name description ++
      optionalField "background" (background.map Background.toValue) ++
        [(Text.ofString "children", .list (children.map print))])).Plain := by
  have hchildren := plainFields_nil.required "children" (plain_list_map h children)
  have hbackground := hchildren.optional "background"
    (plain_mem_map Background.plain_toValue (o := background))
  rw [List.append_assoc]
  exact (plainFields_heading hbackground tags name description).object (by decide)

theorem Rule.plain_toValue (r : Rule) : r.toValue.Plain :=
  plain_group Scenario.plain_toValue r.tags r.name r.description r.background r.children

theorem FeatureChild.plain_toValue (c : FeatureChild) : c.toValue.Plain := by
  cases c with
  | rule r => exact r.plain_toValue
  | scenario s => exact s.plain_toValue

theorem Feature.plain_toValue (f : Feature) : f.toValue.Plain :=
  plain_group FeatureChild.plain_toValue f.tags f.name f.description f.background f.children

/-- Every printed part is a plain value. -/
theorem Document.plain_toValue (d : Document) : d.toValue.Plain := by
  cases d with
  | dataTable t => exact t.plain_toValue
  | step s => exact s.plain_toValue
  | examples e => exact e.plain_toValue
  | background b => exact b.plain_toValue
  | scenario s => exact s.plain_toValue
  | rule r => exact r.plain_toValue
  | feature f => exact f.plain_toValue

/-! ## Out and back -/

/-- What reads a plain value reads it from its JSON text. -/
theorem Part.decode_written (p : Part) {x y : Value} {path : Path} (hx : x.Plain)
    (h : p.decode x path = .ok y) :
    ∃ text, Wire.write x = .ok text ∧ (Wire.read text >>= fun x => p.decode x path) = .ok y := by
  obtain ⟨t, hwrite, hvalue⟩ := hx.exists_tree
  obtain ⟨text, htext, hread, -⟩ := Wire.exists_text_of_tree hwrite hvalue
  refine ⟨text, htext, ?_⟩
  rw [hread, Checked.bind_ok]
  exact h

/-- **Reading undoes printing.**  A printed document is read back as it was, at any path, from its object and
from the JSON text of that object; and a rule or a scenario is also read back, as what it is, where either may
stand. -/
theorem decode_undoes_print (path : Path) :
    (∀ d : Document, d.part.decode d.toValue path = .ok (.document d) ∧
      ∃ text, Wire.write d.toValue = .ok text ∧
        (Wire.read text >>= fun x => d.part.decode x path) = .ok (.document d)) ∧
    ∀ c : FeatureChild, Part.featureChild.decode c.toValue path = .ok (.document c.asDocument) ∧
      ∃ text, Wire.write c.toValue = .ok text ∧
        (Wire.read text >>= fun x => Part.featureChild.decode x path) = .ok (.document c.asDocument) := by
  constructor
  · intro d
    have h := d.decode_undoes path
    exact ⟨h, d.part.decode_written d.plain_toValue h⟩
  · intro c
    have h : Part.featureChild.decode c.toValue path = .ok (.document c.asDocument) :=
      congrArg (Except.map _) (FeatureChild.decode_undoes c path)
    exact ⟨h, Part.featureChild.decode_written c.plain_toValue h⟩

end Intake
