import Intake.Proofs.Document.Conformance
import Intake.Proofs.Document.Normal

/-! # Printing what was read

A document that was read is printed in normal form: `Validator.Prints v print s` says that printing any result
of `v` gives the normal form, by `s`, of the value that was read.  Like conformance this goes field by field;
a printer leaves out exactly the optional fields that the reader found null (`normalFields_optional`).

With the comparison of a value and its normal form (`Schema.answers_normal`) this decides when printing gives
the input back: iff the input was canonical (`printed_equal_iff_canonical`).
-/
namespace Intake

namespace Validator
variable {α : Type} {v : Validator Checked α} {print : α → Value} {s : Schema}

/-- What the validator returns is printed as the normal form of what it read. -/
def Prints (v : Validator Checked α) (print : α → Value) (s : Schema) : Prop :=
  ∀ ⦃x path a⦄, v x path = .ok a → print a = s.normal x

/-! ## Texts and arrays -/

theorem prints_anyText : anyText.Prints .text .text := by
  intro x path a h
  cases x with
  | text t =>
    cases h
    rfl
  | _ => cases h

theorem map_readItems (hv : v.Prints print s) {path : Path} {i : Nat} {xs : List Value}
    {ys : List α} (h : readItems v path i xs = .ok ys) :
    ys.map print = xs.map fun x => s.normal x := by
  have hread := results_of_readItems h
  clear h
  induction hread with
  | nil => rfl
  | cons hhead _ ih =>
    obtain ⟨path', hx⟩ := hhead
    rw [List.map_cons, List.map_cons, hv hx, ih]

theorem prints_array (hv : v.Prints print s) :
    (array v).Prints (fun ys => .list (ys.map print)) (.array s) := by
  intro x path ys h
  unfold array at h
  unfold Schema.normal
  cases hx : x.elements? with
  | none =>
    rw [hx] at h
    cases h
  | some xs =>
    rw [hx] at h
    exact congrArg Value.list (map_readItems hv h)

theorem prints_texts : texts.Prints textsValue .texts := prints_array prints_anyText

theorem prints_rows : rows.Prints rowsValue .rows := prints_array prints_texts

/-! ## Objects -/

section Fields
variable {entries : List (Value × Value)} {path : Path} {name : String}
  {fields : List (String × Need × Schema)}

theorem normalFields_required {a : α} (h : field name v entries path = .ok a) (hv : v.Prints print s) :
    Schema.normalFields ((name, .required, s) :: fields) entries =
      (.ofString name, print a) :: Schema.normalFields fields entries := by
  rw [Schema.normalFields, hv h]
  rfl

theorem normalFields_optional {o : Option α} (h : field name (optional v) entries path = .ok o)
    (hv : v.Prints print s) :
    Schema.normalFields ((name, .optional, s) :: fields) entries =
      optionalField name (o.map print) ++ Schema.normalFields fields entries := by
  rw [Schema.normalFields]
  replace h : optional v (Value.fieldOrNull name entries) (path.field name) = .ok o := h
  cases hx : Value.fieldOrNull name entries with
  | null =>
    rw [hx] at h
    cases h
    rfl
  | _ =>
    rw [hx] at h
    obtain ⟨a, ha, h⟩ := Checked.bind_eq_ok h
    cases h
    rw [← hv ha]
    rfl

end Fields

theorem prints_object {read : List (Value × Value) → Path → Checked α}
    {fs : List (String × Need × Schema)}
    (h : ∀ ⦃entries path a⦄, read entries path = .ok a →
      print a = .object (Schema.normalFields fs entries)) :
    Prints (fun x path => fields x path >>= fun entries => read entries path) print (.object fs) := by
  intro x path a ha
  cases x with
  | map entries => exact h ha
  | _ => cases ha

end Validator

/-! ## The decoders -/

open Validator

theorem DataTable.decode_prints : DataTable.decode.Prints DataTable.toValue .dataTable := by
  refine prints_object fun entries path _ h => ?_
  obtain ⟨header, hheader, h⟩ := Checked.bind_eq_ok h
  obtain ⟨rows, hrows, h⟩ := Checked.bind_eq_ok h
  cases h
  rw [normalFields_optional hheader prints_texts, normalFields_required hrows prints_rows]
  rfl

theorem StepArgument.decode_prints : StepArgument.decode.Prints StepArgument.toValue .stepArgument := by
  intro x path a h
  cases x with
  | text s =>
    cases h
    rfl
  | map entries =>
    obtain ⟨t, ht, rfl⟩ := Checked.map_eq_ok h
    exact DataTable.decode_prints ht
  | _ => cases h

theorem Step.decode_prints : Step.decode.Prints Step.toValue .step := by
  refine prints_object fun entries path _ h => ?_
  obtain ⟨text, htext, h⟩ := Checked.bind_eq_ok h
  obtain ⟨argument, hargument, h⟩ := Checked.bind_eq_ok h
  cases h
  rw [normalFields_required htext prints_anyText,
    normalFields_optional hargument StepArgument.decode_prints, Schema.normalFields, List.append_nil]
  rfl

theorem prints_steps : (array Step.decode).Prints stepsValue .steps := prints_array Step.decode_prints

theorem Examples.decode_prints : Examples.decode.Prints Examples.toValue .examples := by
  refine prints_object fun entries path _ h => ?_
  obtain ⟨tags, htags, h⟩ := Checked.bind_eq_ok h
  obtain ⟨name, hname, h⟩ := Checked.bind_eq_ok h
  obtain ⟨description, hdescription, h⟩ := Checked.bind_eq_ok h
  obtain ⟨header, hheader, h⟩ := Checked.bind_eq_ok h
  obtain ⟨rows, hrows, h⟩ := Checked.bind_eq_ok h
  cases h
  rw [normalFields_optional htags prints_texts, normalFields_required hname prints_anyText,
    normalFields_optional hdescription prints_anyText, normalFields_required hheader prints_texts,
    normalFields_required hrows prints_rows, Examples.toValue, headingFields]
  simp only [List.append_assoc, List.cons_append]
  rfl

theorem Background.decode_prints : Background.decode.Prints Background.toValue .background := by
  refine prints_object fun entries path _ h => ?_
  obtain ⟨name, hname, h⟩ := Checked.bind_eq_ok h
  obtain ⟨description, hdescription, h⟩ := Checked.bind_eq_ok h
  obtain ⟨given, hgiven, h⟩ := Checked.bind_eq_ok h
  cases h
  rw [normalFields_required hname prints_anyText, normalFields_optional hdescription prints_anyText,
    normalFields_required hgiven prints_steps]
  rfl

theorem Scenario.decode_prints : Scenario.decode.Prints Scenario.toValue .scenario := by
  refine prints_object fun entries path _ h => ?_
  obtain ⟨tags, htags, h⟩ := Checked.bind_eq_ok h
  obtain ⟨name, hname, h⟩ := Checked.bind_eq_ok h
  obtain ⟨description, hdescription, h⟩ := Checked.bind_eq_ok h
  obtain ⟨given, hgiven, h⟩ := Checked.bind_eq_ok h
  obtain ⟨when_, hwhen, h⟩ := Checked.bind_eq_ok h
  obtain ⟨then_, hthen, h⟩ := Checked.bind_eq_ok h
  obtain ⟨examples, hexamples, h⟩ := Checked.bind_eq_ok h
  cases h
  rw [normalFields_optional htags prints_texts, normalFields_required hname prints_anyText,
    normalFields_optional hdescription prints_anyText, normalFields_required hgiven prints_steps,
    normalFields_required hwhen prints_steps, normalFields_required hthen prints_steps,
    normalFields_optional hexamples Examples.decode_prints, Schema.normalFields, List.append_nil,
    Scenario.toValue, headingFields]
  simp only [List.append_assoc, List.cons_append]
  rfl

/-- What groups others is printed by its heading, its background and its children. -/
theorem normalFields_group {α : Type} {child : Validator Checked α} {print : α → Value} {s : Schema}
    (hchild : child.Prints print s) {entries : List (Value × Value)} {path : Path}
    {tags : Option (List Text)} {name : Text} {description : Option Text}
    {background : Option Background} {children : List α}
    (htags : field "tags" (optional texts) entries path = .ok tags)
    (hname : field "name" anyText entries path = .ok name)
    (hdescription : field "description" (optional anyText) entries path = .ok description)
    (hbackground : field "background" (optional Background.decode) entries path = .ok background)
    (hchildren : field "children" (array child) entries path = .ok children) :
    Value.object (headingFields tags name description ++
      optionalField "background" (background.map Background.toValue) ++
        [(Text.ofString "children", .list (children.map print))]) = (Schema.group s).normal (.map entries) := by
  show _ = Value.object (Schema.normalFields _ entries)
  rw [normalFields_optional htags prints_texts, normalFields_required hname prints_anyText,
    normalFields_optional hdescription prints_anyText,
    normalFields_optional hbackground Background.decode_prints,
    normalFields_required hchildren (prints_array hchild), headingFields]
  simp only [List.append_assoc, List.cons_append]
  rfl

theorem Rule.decode_prints : Rule.decode.Prints Rule.toValue .rule := by
  refine prints_object fun entries path _ h => ?_
  obtain ⟨tags, htags, h⟩ := Checked.bind_eq_ok h
  obtain ⟨name, hname, h⟩ := Checked.bind_eq_ok h
  obtain ⟨description, hdescription, h⟩ := Checked.bind_eq_ok h
  obtain ⟨background, hbackground, h⟩ := Checked.bind_eq_ok h
  obtain ⟨children, hchildren, h⟩ := Checked.bind_eq_ok h
  cases h
  exact normalFields_group Scenario.decode_prints htags hname hdescription hbackground hchildren

theorem FeatureChild.decode_prints : FeatureChild.decode.Prints FeatureChild.toValue .featureChild := by
  intro x path c h
  cases x with
  | map entries =>
    replace h : (if _ then _ else _) = Except.ok c := h
    show _ = if _ then _ else _
    by_cases hc : (Value.lookup "children" entries).isSome
    · rw [if_pos hc] at h ⊢
      obtain ⟨r, hr, rfl⟩ := Checked.map_eq_ok h
      exact Rule.decode_prints hr
    · rw [if_neg hc] at h ⊢
      obtain ⟨s, hs, rfl⟩ := Checked.map_eq_ok h
      exact Scenario.decode_prints hs
  | _ => cases h

theorem Feature.decode_prints : Feature.decode.Prints Feature.toValue .feature := by
  refine prints_object fun entries path _ h => ?_
  obtain ⟨tags, htags, h⟩ := Checked.bind_eq_ok h
  obtain ⟨name, hname, h⟩ := Checked.bind_eq_ok h
  obtain ⟨description, hdescription, h⟩ := Checked.bind_eq_ok h
  obtain ⟨background, hbackground, h⟩ := Checked.bind_eq_ok h
  obtain ⟨children, hchildren, h⟩ := Checked.bind_eq_ok h
  cases h
  exact normalFields_group FeatureChild.decode_prints htags hname hdescription hbackground hchildren

theorem Validator.Prints.map {α : Type} {v : Validator Checked α} {print : α → Value} {s : Schema}
    (hv : v.Prints print s) {f : α → Value} (hf : ∀ a, (f a).printed = print a) :
    Prints (fun x path => (v x path).map f) Value.printed s := by
  intro x path y h
  obtain ⟨a, ha, rfl⟩ := Checked.map_eq_ok h
  rw [hf, hv ha]

/-- Every part is printed in normal form. -/
theorem Part.decode_prints (p : Part) : p.decode.Prints Value.printed p.schema := by
  cases p with
  | dataTable => exact DataTable.decode_prints.map fun _ => rfl
  | stepArgument => exact StepArgument.decode_prints.map fun a => by cases a <;> rfl
  | step => exact Step.decode_prints.map fun _ => rfl
  | examples => exact Examples.decode_prints.map fun _ => rfl
  | background => exact Background.decode_prints.map fun _ => rfl
  | scenario => exact Scenario.decode_prints.map fun _ => rfl
  | rule => exact Rule.decode_prints.map fun _ => rfl
  | featureChild => exact FeatureChild.decode_prints.map fun c => by cases c <;> rfl
  | feature => exact Feature.decode_prints.map fun _ => rfl

/-! ## When printing gives the input back -/

theorem Part.distinctNames_schema (p : Part) : p.schema.DistinctNames := by
  have htable : Schema.dataTable.DistinctNames := by
    simp [Schema.dataTable, Schema.texts, Schema.rows, Schema.DistinctNames, Schema.DistinctNamesIn]
  have hstep : Schema.step.DistinctNames :=
    ⟨by simp, trivial, htable, trivial⟩
  have hexamples : Schema.examples.DistinctNames := by
    simp [Schema.examples, Schema.texts, Schema.rows, Schema.DistinctNames, Schema.DistinctNamesIn]
  have hbackground : Schema.background.DistinctNames :=
    ⟨by simp, trivial, trivial, hstep, trivial⟩
  have hscenario : Schema.scenario.DistinctNames :=
    ⟨by simp, trivial, trivial, trivial, hstep, hstep, hstep, hexamples, trivial⟩
  have hgroup : ∀ child : Schema, child.DistinctNames → (Schema.group child).DistinctNames :=
    fun _ h => ⟨by simp, trivial, trivial, trivial, hbackground, h, trivial⟩
  cases p with
  | dataTable => exact htable
  | stepArgument => exact htable
  | step => exact hstep
  | examples => exact hexamples
  | background => exact hbackground
  | scenario => exact hscenario
  | rule => exact hgroup _ hscenario
  | featureChild => exact ⟨hgroup _ hscenario, hscenario⟩
  | feature => exact hgroup .featureChild ⟨hgroup _ hscenario, hscenario⟩

/-- **Printing what was read gives the input back iff the input was canonical**, and comparing the two never
fails. -/
theorem printed_equal_iff_canonical (p : Part) (x : Value) (path : Path) (y : Value)
    (hk : x.DistinctKeys) (h : p.decode x path = .ok y) :
    (y.printed.equal? x = some true ↔ p.schema.Canonical x) ∧ y.printed.equal? x ≠ none := by
  have hv : p.schema.violations x path = [] := by
    have hm := p.decode_meets x path
    rw [h, Checked.verdict_ok] at hm
    exact (Schema.firstFault_eq_ok_iff _).mp hm.symm
  have ha := Schema.answers_normal p.distinctNames_schema hk hv
  rw [← p.decode_prints h] at ha
  exact ⟨ha.iff, ha.ne_none⟩

/-- A step whose keys stand in another order than they are printed in. -/
theorem printed_equal_iff_canonical_step :
    let x : Value := .map [(.text "argument", .map [(.text "rows", .list [.list [.text "a"]])]),
      (.text "text", .text "t")]
    let y : Value := .document (.step ⟨"t", some (.table ⟨none, [["a"]]⟩)⟩)
    x.DistinctKeys ∧ Part.step.decode x ⟨[]⟩ = .ok y ∧
      (y.printed.equal? x = some true ↔ Part.step.schema.Canonical x) ∧ y.printed.equal? x ≠ none := by
  intro x y
  have hk : x.DistinctKeys := by
    refine .map (by decide) fun e he => ?_
    rcases List.mem_pair.mp he with rfl | rfl
    · refine .map (by decide) fun e he => ?_
      rw [List.mem_singleton.mp he]
      refine .array rfl fun y hy => ?_
      rw [List.mem_singleton.mp hy]
      refine .array rfl fun y hy => ?_
      rw [List.mem_singleton.mp hy]
      exact Value.distinctKeys_text _
    · exact Value.distinctKeys_text _
  have h : Part.step.decode x ⟨[]⟩ = .ok y := by rfl
  exact ⟨hk, h, printed_equal_iff_canonical .step x ⟨[]⟩ y hk h⟩

end Intake
