import Intake.Proofs.Document.Schema
import Intake.Proofs.Validation.Outcome

/-! # Decoders conform to their schemas

A decoder stops at the first thing it does not like; a schema lists everything.  `Validator.Meets v s` says
that the two fit: `v` succeeds where `s` finds no violation, and otherwise fails with the first one.

Conformance is compositional.  A list of violations stands for a computation without result
(`Schema.firstFault`), and appending two lists is running one computation after the other
(`Checked.verdict_bind`).  So an array conforms if its elements do, an object if its fields do in the order of
the schema, and a decoder is met field by field, in the order of its own reading.
-/
namespace Intake

/-- The computation without its result: whether it succeeds, and the fault if not. -/
def Checked.verdict {α : Type} (a : Checked α) : Checked Unit := a.map fun _ => ()

/-- What a reading that stops at the first violation makes of a list of them. -/
def Schema.firstFault : List Rejection → Checked Unit
  | [] => .ok ()
  | r :: _ => .error (.rejected r)

open Schema (firstFault)

namespace Checked
variable {α β : Type}

@[simp] theorem verdict_ok (a : α) : verdict (.ok a) = .ok () := rfl

@[simp] theorem verdict_error (fault : Fault) : verdict (α := α) (.error fault) = .error fault := rfl

@[simp] theorem verdict_map (f : α → β) (a : Checked α) : verdict (a.map f) = a.verdict := by
  cases a <;> rfl

/-- Violations in sequence are computations in sequence. -/
theorem verdict_bind {a : Checked α} {f : α → Checked β} {l l' : List Rejection}
    (ha : a.verdict = firstFault l) (hf : ∀ y, (f y).verdict = firstFault l') :
    (a >>= f : Checked β).verdict = firstFault (l ++ l') := by
  cases a with
  | ok y =>
    cases l with
    | nil => exact hf y
    | cons r l => cases ha
  | error fault =>
    cases l with
    | nil => cases ha
    | cons r l => exact ha

theorem verdict_eq_ok_iff (a : Checked α) : a.verdict = .ok () ↔ ∃ y, a = .ok y := by
  cases a with
  | ok y => exact ⟨fun _ => ⟨y, rfl⟩, fun _ => rfl⟩
  | error fault => exact ⟨nofun, nofun⟩

theorem verdict_eq_error_iff (a : Checked α) (fault : Fault) :
    a.verdict = .error fault ↔ a = .error fault := by
  cases a with
  | ok y => exact ⟨nofun, nofun⟩
  | error fault' =>
    show Except.error fault' = Except.error fault ↔ _
    rw [Except.error.injEq, Except.error.injEq]

end Checked

namespace Schema

theorem firstFault_eq_ok_iff (l : List Rejection) : firstFault l = .ok () ↔ l = [] := by
  cases l with
  | nil => exact ⟨fun _ => rfl, fun _ => rfl⟩
  | cons r l => exact ⟨nofun, nofun⟩

theorem firstFault_eq_error_iff (l : List Rejection) (fault : Fault) :
    firstFault l = .error fault ↔ ∃ r, l.head? = some r ∧ fault = .rejected r := by
  cases l with
  | nil => exact ⟨nofun, nofun⟩
  | cons r l =>
    constructor
    · intro h
      exact ⟨r, rfl, (Except.error.inj h).symm⟩
    · rintro ⟨_, ⟨⟩, rfl⟩
      rfl

end Schema

namespace Validator
variable {α β : Type} {v : Validator Checked α} {s : Schema}

/-- The validator fails with the schema's first violation, and only then. -/
def Meets (v : Validator Checked α) (s : Schema) : Prop :=
  ∀ x path, (v x path).verdict = firstFault (s.violations x path)

theorem Meets.map (h : v.Meets s) (f : α → β) : Meets (fun x path => (v x path).map f) s :=
  fun x path => (Checked.verdict_map f _).trans (h x path)

/-! ## Texts and arrays -/

theorem meets_anyText : anyText.Meets .text := by
  intro x path
  cases x <;> rfl

theorem verdict_readItems (h : v.Meets s) (path : Path) (i : Nat) (xs : List Value) :
    (readItems v path i xs).verdict = firstFault
      ((xs.zipIdx i).flatMap fun (y, i) => s.violations y (path.index (toString i))) := by
  induction xs generalizing i with
  | nil => rfl
  | cons x xs ih =>
    rw [List.zipIdx_cons, List.flatMap_cons]
    refine Checked.verdict_bind (h x _) fun y => ?_
    rw [← List.append_nil (List.flatMap _ _)]
    exact Checked.verdict_bind (ih (i + 1)) fun _ => rfl

theorem meets_array (h : v.Meets s) : (array v).Meets (.array s) := by
  intro x path
  unfold array Schema.violations
  cases x.elements? with
  | none => rfl
  | some xs => exact verdict_readItems h path 0 xs

theorem meets_texts : texts.Meets .texts := meets_array meets_anyText

theorem meets_rows : rows.Meets .rows := meets_array meets_texts

/-! ## Objects -/

section Fields
variable {entries : List (Value × Value)} {path : Path} {name : String} {k : α → Checked β}
  {fields : List (String × Need × Schema)}

theorem verdict_required (h : v.Meets s)
    (hk : ∀ y, (k y).verdict = firstFault (Schema.fieldViolations fields entries path)) :
    (field name v entries path >>= k : Checked β).verdict =
      firstFault (Schema.fieldViolations ((name, .required, s) :: fields) entries path) := by
  rw [Schema.fieldViolations]
  exact Checked.verdict_bind (h _ _) hk

theorem verdict_optional {k : Option α → Checked β} (h : v.Meets s)
    (hk : ∀ y, (k y).verdict = firstFault (Schema.fieldViolations fields entries path)) :
    (field name (optional v) entries path >>= k : Checked β).verdict =
      firstFault (Schema.fieldViolations ((name, .optional, s) :: fields) entries path) := by
  rw [Schema.fieldViolations]
  refine Checked.verdict_bind ?_ hk
  show (optional v (Value.fieldOrNull name entries) (path.field name)).verdict = _
  cases Value.fieldOrNull name entries with
  | null => rfl
  | _ =>
    refine Eq.trans ?_ (h _ _)
    exact Checked.verdict_map some _

end Fields

/-- A decoder that reads fields one after the other meets the schema that lists them. -/
theorem meets_object {read : List (Value × Value) → Path → Checked α}
    {fs : List (String × Need × Schema)}
    (h : ∀ entries path, (read entries path).verdict =
      firstFault (Schema.fieldViolations fs entries path)) :
    Meets (fun x path => fields x path >>= fun entries => read entries path) (.object fs) := by
  intro x path
  unfold Schema.violations
  cases x with
  | map entries => exact h entries path
  | _ => rfl

end Validator

/-! ## The decoders -/

open Validator

theorem DataTable.decode_meets : DataTable.decode.Meets .dataTable :=
  meets_object fun _ _ => verdict_optional meets_texts fun _ => verdict_required meets_rows fun _ => rfl

theorem StepArgument.decode_meets : StepArgument.decode.Meets .stepArgument := by
  intro x path
  cases x with
  | map entries => exact DataTable.decode_meets.map _ (.map entries) path
  | _ => rfl

theorem Step.decode_meets : Step.decode.Meets .step :=
  meets_object fun _ _ => verdict_required meets_anyText fun _ =>
    verdict_optional StepArgument.decode_meets fun _ => rfl

theorem meets_steps : (array Step.decode).Meets .steps := meets_array Step.decode_meets

theorem Examples.decode_meets : Examples.decode.Meets .examples :=
  meets_object fun _ _ => verdict_optional meets_texts fun _ => verdict_required meets_anyText fun _ =>
    verdict_optional meets_anyText fun _ => verdict_required meets_texts fun _ =>
    verdict_required meets_rows fun _ => rfl

theorem Background.decode_meets : Background.decode.Meets .background :=
  meets_object fun _ _ => verdict_required meets_anyText fun _ => verdict_optional meets_anyText fun _ =>
    verdict_required meets_steps fun _ => rfl

theorem Scenario.decode_meets : Scenario.decode.Meets .scenario :=
  meets_object fun _ _ => verdict_optional meets_texts fun _ => verdict_required meets_anyText fun _ =>
    verdict_optional meets_anyText fun _ => verdict_required meets_steps fun _ =>
    verdict_required meets_steps fun _ => verdict_required meets_steps fun _ =>
    verdict_optional Examples.decode_meets fun _ => rfl

theorem Rule.decode_meets : Rule.decode.Meets .rule :=
  meets_object fun _ _ => verdict_optional meets_texts fun _ => verdict_required meets_anyText fun _ =>
    verdict_optional meets_anyText fun _ => verdict_optional Background.decode_meets fun _ =>
    verdict_required (meets_array Scenario.decode_meets) fun _ => rfl

theorem FeatureChild.decode_meets : FeatureChild.decode.Meets .featureChild := by
  intro x path
  cases x with
  | map entries =>
    unfold Schema.featureChild Schema.violations
    show Checked.verdict (if _ then _ else _) = firstFault (if _ then _ else _)
    by_cases hc : (Value.lookup "children" entries).isSome
    · rw [if_pos hc, if_pos hc]
      exact Rule.decode_meets.map _ (.map entries) path
    · rw [if_neg hc, if_neg hc]
      exact Scenario.decode_meets.map _ (.map entries) path
  | _ => rfl

theorem Feature.decode_meets : Feature.decode.Meets .feature :=
  meets_object fun _ _ => verdict_optional meets_texts fun _ => verdict_required meets_anyText fun _ =>
    verdict_optional meets_anyText fun _ => verdict_optional Background.decode_meets fun _ =>
    verdict_required (meets_array FeatureChild.decode_meets) fun _ => rfl

/-- Every decoder meets its part's schema. -/
theorem Part.decode_meets (p : Part) : p.decode.Meets p.schema := by
  cases p with
  | dataTable => exact DataTable.decode_meets.map _
  | stepArgument => exact StepArgument.decode_meets.map _
  | step => exact Step.decode_meets.map _
  | examples => exact Examples.decode_meets.map _
  | background => exact Background.decode_meets.map _
  | scenario => exact Scenario.decode_meets.map _
  | rule => exact Rule.decode_meets.map _
  | featureChild => exact FeatureChild.decode_meets.map _
  | feature => exact Feature.decode_meets.map _

/-- **A decoder accepts exactly what its schema describes, and reports the first violation.** -/
theorem decode_reports_first_violation (p : Part) (x : Value) (path : Path) :
    ((∃ y, p.decode x path = .ok y) ↔ p.schema.violations x path = []) ∧
      ∀ fault, p.decode x path = .error fault ↔
        ∃ r, (p.schema.violations x path).head? = some r ∧ fault = .rejected r := by
  have h := p.decode_meets x path
  constructor
  · rw [← Checked.verdict_eq_ok_iff, h]
    exact Schema.firstFault_eq_ok_iff _
  · intro fault
    rw [← Checked.verdict_eq_error_iff, h]
    exact Schema.firstFault_eq_error_iff _ fault

/-- Two things are wrong with this background, and the one about its name comes first. -/
example : (Part.background.schema.violations (.map [(.text "given", .text "g")]) ⟨["b"]⟩).map
    (fun r => (r.path.text, r.expected)) =
      [(Text.ofString "b.name", Text.ofString "a string"), (Text.ofString "b.given", Text.ofString "an array")] := by
  decide

end Intake
