import Intake.Proofs.Validation.Failure
import Intake.Proofs.Value.PathText

/-! # The context never decides

A validator is given a path only to say where it stands.  This module proves that it makes no other use of it: for each
value there is one outcome, the same at all paths, in which a rejection knows the location of the rejected value
instead of its path (`Uniform`).  At a path the outcome is read off by following the location from there
(`LocalFault.seenFrom`).

Uniformity is closed under everything a validator is built from.  A step to a part of the value extends the path, and
puts the same step in front of the location (`LocalFault.seenFrom_behind`); a sequence is uniform if its parts are.  So the
containers, the decoders and all specifications are uniform because the validators for single values are, which look at
the path in their rejections only.

Two runs on one value therefore come to the same, and what a rejection adds to the text of the path is one text for all
paths that have a label (`validate_alike`).
-/
namespace Intake

/-- A fault apart from the path that the validation started at. -/
inductive LocalFault where
  | rejected (l : Location) (expected : Text) (found : Value) (showKind : Bool)
  | other (fault : Fault) (notRejected : ∀ r, fault ≠ .rejected r)

namespace LocalFault

/-- The fault of a validation that started at a path. -/
def seenFrom (path : Path) : LocalFault → Fault
  | rejected l expected found showKind => .rejected ⟨path.along l, expected, found, showKind⟩
  | other fault _ => fault

/-- The fault as it is seen from one step further out. -/
def behind (segment : Segment) : LocalFault → LocalFault
  | rejected l expected found showKind => rejected (segment :: l) expected found showKind
  | other fault notRejected => other fault notRejected

theorem seenFrom_behind (f : LocalFault) (segment : Segment) (path : Path) :
    (f.behind segment).seenFrom path = f.seenFrom (path.step segment) := by
  cases f <;> rfl

end LocalFault

/-- The computation comes to the same at all paths. -/
def Uniform {α : Type} (a : Path → Checked α) : Prop :=
  ∃ o : Except LocalFault α, ∀ path, a path = o.mapError (LocalFault.seenFrom path)

namespace Uniform
variable {α β : Type} {a : Path → Checked α}

theorem ok (y : α) : Uniform fun _ => .ok y := ⟨.ok y, fun _ => rfl⟩

theorem unexpected (expected : Text) (x : Value) :
    Uniform fun path => (.error (Intake.unexpected expected x path) : Checked α) :=
  ⟨.error (.rejected [] expected x true), fun _ => rfl⟩

theorem unsuitable (expected : Text) (x : Value) :
    Uniform fun path => (.error (Intake.unsuitable expected x path) : Checked α) :=
  ⟨.error (.rejected [] expected x false), fun _ => rfl⟩

theorem fault {f : Fault} (h : ∀ r, f ≠ .rejected r) : Uniform fun _ => (.error f : Checked α) :=
  ⟨.error (.other f h), fun _ => rfl⟩

/-- A rejection whose words may be missing; what is said then is no rejection. -/
theorem worded {words : Checked Text} (h : ∀ r, words ≠ .error (.rejected r)) (f : Text → Text) (x : Value) :
    Uniform fun path =>
      match words with
      | .error f => (.error f : Checked α)
      | .ok t => .error (Intake.unsuitable (f t) x path) := by
  cases words with
  | error f => exact fault fun r hr => h r (congrArg Except.error hr)
  | ok t => exact unsuitable _ x

theorem congr {b : Path → Checked α} (h : ∀ path, a path = b path) (hb : Uniform b) : Uniform a := by
  obtain ⟨o, ho⟩ := hb
  exact ⟨o, fun path => (h path).trans (ho path)⟩

theorem bind (ha : Uniform a) {f : α → Path → Checked β} (hf : ∀ y, Uniform (f y)) :
    Uniform fun path => a path >>= fun y => f y path := by
  obtain ⟨o, ho⟩ := ha
  cases o with
  | error e =>
    refine ⟨.error e, fun path => ?_⟩
    show (a path >>= fun y => f y path) = _
    rw [ho path]
    rfl
  | ok y =>
    obtain ⟨o', ho'⟩ := hf y
    refine ⟨o', fun path => ?_⟩
    show (a path >>= fun y => f y path) = _
    rw [ho path]
    exact ho' path

theorem map (ha : Uniform a) (f : α → β) : Uniform fun path => (a path).map f := by
  obtain ⟨o, ho⟩ := ha
  refine ⟨o.map f, fun path => ?_⟩
  show (a path).map f = _
  rw [ho path]
  cases o <;> rfl

/-- A choice that is made without the path. -/
theorem ite {c : Prop} [Decidable c] {b : Path → Checked α} (ha : Uniform a) (hb : Uniform b) :
    Uniform fun path => if c then a path else b path := by
  by_cases h : c
  · simpa only [if_pos h] using ha
  · simpa only [if_neg h] using hb

/-- What is uniform further in is uniform here. -/
theorem step (ha : Uniform a) (segment : Segment) : Uniform fun path => a (path.step segment) := by
  obtain ⟨o, ho⟩ := ha
  refine ⟨o.mapError (LocalFault.behind segment), fun path => ?_⟩
  show a (path.step segment) = _
  rw [ho (path.step segment)]
  cases o with
  | error e => exact congrArg Except.error (e.seenFrom_behind segment path).symm
  | ok y => rfl

end Uniform

namespace Validator
variable {α : Type} {v : Validator Checked α}

/-- The validator makes nothing of the path. -/
def ContextFree (v : Validator Checked α) : Prop := ∀ x, Uniform (v x)

theorem ContextFree.map {β : Type} (hv : v.ContextFree) (f : α → β) :
    ContextFree fun x path => (v x path).map f := fun x => (hv x).map f

/-! ## Single values -/

theorem contextFree_orDefault (default : Option Bool) (expected : Text) :
    (orDefault default expected).ContextFree := by
  intro x
  cases x with
  | null =>
    cases default with
    | none => exact .unexpected expected .null
    | some b => exact .ok b
  | _ => exact .unexpected expected _

theorem contextFree_boolean (default : Option Bool) : (boolean default).ContextFree := by
  intro x
  have hdefault := contextFree_orDefault default "a boolean" x
  cases x with
  | bool b => exact .ok b
  | _ => exact hdefault

theorem contextFree_booleanText (yes no : String) (default : Option Bool) :
    (booleanText yes no default).ContextFree := by
  intro x
  have hdefault := contextFree_orDefault default s!"\"{yes}\" or \"{no}\"" x
  cases x with
  | text s =>
    exact .ite (.ok true) (.ite (.ok false) (.unexpected _ _))
  | _ => exact hdefault

theorem contextFree_number : number.ContextFree := by
  intro x
  cases x with
  | decimal d =>
    cases d with
    | finite d h => exact .ok _
    | _ => exact .unexpected _ _
  | _ => exact .unexpected _ _

theorem contextFree_numberText : numberText.ContextFree := by
  intro x
  cases x with
  | text s =>
    unfold numberText
    dsimp only
    cases numberOfText? s with
    | some d => exact .ok d
    | none => exact .unexpected _ _
  | _ => exact .unexpected _ _

theorem wholeOnly_eq_bind (expected : Text) (v : Validator Checked Decimal) (x : Value) (path : Path) :
    wholeOnly expected v x path = v x path >>= fun d =>
      if isWhole d then .ok d else .error (unexpected expected x path) := by
  unfold wholeOnly
  cases v x path <;> rfl

theorem contextFree_wholeOnly {v : Validator Checked Decimal} (hv : v.ContextFree) (expected : Text) :
    (wholeOnly expected v).ContextFree := fun x =>
  .congr (wholeOnly_eq_bind expected v x) ((hv x).bind fun d => .ite (.ok d) (.unexpected expected x))

theorem contextFree_string (min max : Option Int) (email : Bool) : (string min max email).ContextFree := by
  intro x
  cases x with
  | text s =>
    exact .ite (.worded (fun _ => describeLength_not_rejected min max) _ _) (.ite (.unsuitable _ _) (.ok s))
  | _ => exact .unexpected _ _

theorem contextFree_oneOf (values : List Value) : (oneOf values).ContextFree := by
  intro x
  unfold oneOf
  cases hone : isOneOf x values with
  | error fault =>
    -- Values are compared without a path, so this fault is no rejection.
    refine .fault fun r hr => ?_
    rw [hr] at hone
    exact isOneOf_not_rejected values hone
  | ok b =>
    cases b with
    | true => exact .ok x
    | false => exact .worded (fun _ => describeValues_not_rejected values) id x

theorem contextFree_object : object.ContextFree := by
  intro x
  cases x with
  | null | map _ | list _ | tuple _ => exact .ok true
  | _ => exact .unexpected _ _

theorem contextFree_ofKind (test : KindTest) : (ofKind test).ContextFree := fun x =>
  .ite (.ok x) (.unexpected test.name x)

/-! ## Instants -/

section LaidOut
variable {s : Text}

theorem uniform_instantOf (d : Date) (c : Clock) (micro : Nat) :
    Uniform fun path => instantOf s path d c micro := by
  unfold instantOf
  cases Instant.ofReading? d c micro with
  | some t => exact .ok t
  | none => exact .unsuitable _ _

theorem uniform_buildDate (numbers : List Nat) : Uniform fun path => buildDate s path numbers := by
  unfold buildDate
  split
  · exact uniform_instantOf _ _ _
  · exact .unsuitable _ _

theorem uniform_buildMillis (numbers : List Nat) : Uniform fun path => buildMillis s path numbers := by
  unfold buildMillis
  split
  · exact uniform_instantOf _ _ _
  · exact .unsuitable _ _

theorem uniform_buildEastern (numbers : List Nat) : Uniform fun path => buildEastern s path numbers := by
  unfold buildEastern
  split
  · rename_i year month day hour minute second
    refine .ite ?_ (.unsuitable _ _)
    cases Instant.ofSeconds? (Eastern.zone.resolve (wallSeconds ⟨year, month, day⟩ ⟨hour, minute, second⟩)) 0 with
    | some t => exact .ok t
    | none => exact .fault nofun
  · exact .unsuitable _ _

theorem laidOut_eq_bind (layout : TextLayout) (length : Int) (expected : Text)
    (build : Text → Path → List Nat → Checked Instant) (x : Value) (path : Path) :
    laidOut layout length expected build x path = string (some length) (some length) false x path >>= fun s =>
      match s.chars?.bind layout.numbers? with
      | some numbers => build s path numbers
      | none => .error (unsuitable expected (.text s) path) := by
  unfold laidOut
  cases string (some length) (some length) false x path <;> rfl

theorem contextFree_laidOut {layout : TextLayout} {length : Int} {expected : Text}
    {build : Text → Path → List Nat → Checked Instant}
    (hb : ∀ s numbers, Uniform fun path => build s path numbers) :
    (laidOut layout length expected build).ContextFree := by
  intro x
  refine .congr (laidOut_eq_bind layout length expected build x) ((contextFree_string _ _ _ x).bind fun s => ?_)
  cases s.chars?.bind layout.numbers? with
  | some numbers => exact hb s numbers
  | none => exact .unsuitable _ _

end LaidOut

/-! ## Containers -/

section Containers

theorem contextFree_optional (hv : v.ContextFree) : (optional v).ContextFree := by
  intro x
  cases x with
  | null => exact .ok none
  | _ => exact (hv _).bind fun y => .ok (some y)

theorem uniform_readItems (hv : v.ContextFree) (i : Nat) (xs : List Value) :
    Uniform fun path => readItems v path i xs := by
  -- The index goes up from one element to the next.
  induction xs generalizing i with
  | nil => exact .ok []
  | cons x xs ih => exact ((hv x).step (.element i)).bind fun y => (ih (i + 1)).bind fun ys => .ok (y :: ys)

theorem uniform_readEntries (hv : v.ContextFree) (entries : List (Value × Value)) :
    Uniform fun path => readEntries v path entries := by
  induction entries with
  | nil => exact .ok []
  | cons e entries ih => exact ((hv e.2).step (.key e.1)).bind fun y => ih.bind fun ys => .ok ((e.1, y) :: ys)

theorem contextFree_array (hv : v.ContextFree) : (array v).ContextFree := by
  intro x
  unfold array
  cases x.elements? with
  | some xs => exact uniform_readItems hv 0 xs
  | none => exact .unexpected _ _

theorem contextFree_paramArray (hv : v.ContextFree) : (paramArray v).ContextFree := by
  intro x
  unfold paramArray
  cases x.elements? with
  | some xs => exact uniform_readItems hv 0 xs
  | none => exact (hv x).bind fun y => .ok [y]

theorem contextFree_map (hv : v.ContextFree) : (map v).ContextFree := by
  intro x
  unfold map
  cases entries? x with
  | some entries => exact (uniform_readEntries hv entries).bind fun ys => .ok (Value.collect ys)
  | none => exact .unexpected _ _

end Containers

/-! ## Decoders -/

theorem uniform_fields (x : Value) : Uniform (fields x) := by
  cases x with
  | map entries => exact .ok entries
  | _ => exact .unexpected _ _

theorem uniform_field (name : String) (hv : v.ContextFree) (entries : List (Value × Value)) :
    Uniform (field name v entries) := (hv (Value.fieldOrNull name entries)).step (.field name)

theorem contextFree_anyText : anyText.ContextFree := contextFree_string none none false

theorem contextFree_texts : texts.ContextFree := contextFree_array contextFree_anyText

theorem contextFree_rows : rows.ContextFree := contextFree_array contextFree_texts

end Validator

open Validator

theorem DataTable.decode_contextFree : DataTable.decode.ContextFree := fun x =>
  (uniform_fields x).bind fun entries =>
    (uniform_field "header" (contextFree_optional contextFree_texts) entries).bind fun _ =>
    (uniform_field "rows" contextFree_rows entries).bind fun _ => .ok _

theorem StepArgument.decode_contextFree : StepArgument.decode.ContextFree := by
  intro x
  cases x with
  | text s => exact .ok (StepArgument.docString s)
  | map entries => exact (DataTable.decode_contextFree (.map entries)).map _
  | _ => exact .unexpected _ _

theorem Step.decode_contextFree : Step.decode.ContextFree := fun x =>
  (uniform_fields x).bind fun entries =>
    (uniform_field "text" contextFree_anyText entries).bind fun _ =>
    (uniform_field "argument" (contextFree_optional StepArgument.decode_contextFree) entries).bind fun _ => .ok _

theorem contextFree_steps : (array Step.decode).ContextFree := contextFree_array Step.decode_contextFree

theorem Examples.decode_contextFree : Examples.decode.ContextFree := fun x =>
  (uniform_fields x).bind fun entries =>
    (uniform_field "tags" (contextFree_optional contextFree_texts) entries).bind fun _ =>
    (uniform_field "name" contextFree_anyText entries).bind fun _ =>
    (uniform_field "description" (contextFree_optional contextFree_anyText) entries).bind fun _ =>
    (uniform_field "header" contextFree_texts entries).bind fun _ =>
    (uniform_field "rows" contextFree_rows entries).bind fun _ => .ok _

theorem Background.decode_contextFree : Background.decode.ContextFree := fun x =>
  (uniform_fields x).bind fun entries =>
    (uniform_field "name" contextFree_anyText entries).bind fun _ =>
    (uniform_field "description" (contextFree_optional contextFree_anyText) entries).bind fun _ =>
    (uniform_field "given" contextFree_steps entries).bind fun _ => .ok _

theorem Scenario.decode_contextFree : Scenario.decode.ContextFree := fun x =>
  (uniform_fields x).bind fun entries =>
    (uniform_field "tags" (contextFree_optional contextFree_texts) entries).bind fun _ =>
    (uniform_field "name" contextFree_anyText entries).bind fun _ =>
    (uniform_field "description" (contextFree_optional contextFree_anyText) entries).bind fun _ =>
    (uniform_field "given" contextFree_steps entries).bind fun _ =>
    (uniform_field "when" contextFree_steps entries).bind fun _ =>
    (uniform_field "then" contextFree_steps entries).bind fun _ =>
    (uniform_field "examples" (contextFree_optional Examples.decode_contextFree) entries).bind fun _ => .ok _

theorem Rule.decode_contextFree : Rule.decode.ContextFree := fun x =>
  (uniform_fields x).bind fun entries =>
    (uniform_field "tags" (contextFree_optional contextFree_texts) entries).bind fun _ =>
    (uniform_field "name" contextFree_anyText entries).bind fun _ =>
    (uniform_field "description" (contextFree_optional contextFree_anyText) entries).bind fun _ =>
    (uniform_field "background" (contextFree_optional Background.decode_contextFree) entries).bind fun _ =>
    (uniform_field "children" (contextFree_array Scenario.decode_contextFree) entries).bind fun _ => .ok _

/-- Which of the two a child is read as is seen from its fields alone. -/
theorem FeatureChild.decode_contextFree : FeatureChild.decode.ContextFree := fun x =>
  (uniform_fields x).bind fun entries =>
    .ite ((Rule.decode_contextFree (.map entries)).map _) ((Scenario.decode_contextFree (.map entries)).map _)

theorem Feature.decode_contextFree : Feature.decode.ContextFree := fun x =>
  (uniform_fields x).bind fun entries =>
    (uniform_field "tags" (contextFree_optional contextFree_texts) entries).bind fun _ =>
    (uniform_field "name" contextFree_anyText entries).bind fun _ =>
    (uniform_field "description" (contextFree_optional contextFree_anyText) entries).bind fun _ =>
    (uniform_field "background" (contextFree_optional Background.decode_contextFree) entries).bind fun _ =>
    (uniform_field "children" (contextFree_array FeatureChild.decode_contextFree) entries).bind fun _ => .ok _

theorem Part.decode_contextFree (p : Part) : p.decode.ContextFree := by
  cases p with
  | dataTable => exact DataTable.decode_contextFree.map _
  | stepArgument => exact StepArgument.decode_contextFree.map _
  | step => exact Step.decode_contextFree.map _
  | examples => exact Examples.decode_contextFree.map _
  | background => exact Background.decode_contextFree.map _
  | scenario => exact Scenario.decode_contextFree.map _
  | rule => exact Rule.decode_contextFree.map _
  | featureChild => exact FeatureChild.decode_contextFree.map _
  | feature => exact Feature.decode_contextFree.map _

/-! ## Specifications -/

namespace Spec

/-- **Every specification makes nothing of the path.** -/
theorem contextFree (s : Spec) : s.validate.ContextFree := by
  induction s with
  | boolean default => exact (contextFree_boolean default).map _
  | booleanWord default => exact (contextFree_booleanText "true" "false" default).map _
  | booleanLetter default => exact (contextFree_booleanText "Y" "N" default).map _
  | number => exact contextFree_number.map _
  | numberText => exact contextFree_numberText.map _
  | integer => exact (contextFree_wholeOnly contextFree_number _).map _
  | integerText => exact (contextFree_wholeOnly contextFree_numberText _).map _
  | string min max email => exact (contextFree_string min max email).map _
  | oneOf values => exact (contextFree_oneOf values).map _
  | midnight => exact (contextFree_laidOut fun _ => uniform_buildDate).map _
  | date => exact (contextFree_laidOut fun _ => uniform_buildDate).map _
  | easternTime => exact (contextFree_laidOut fun _ => uniform_buildEastern).map _
  | utcTime => exact (contextFree_laidOut fun _ => uniform_buildMillis).map _
  | object => exact contextFree_object.map _
  | ofKind test => exact (contextFree_ofKind test).map _
  | identity => exact fun x => .ok x
  | part p => exact p.decode_contextFree.map _
  -- A container is watched while it runs, and comes to what it comes to unwatched.
  | optional inner ih => exact fun x => .congr (validate_optional inner x) ((contextFree_optional ih).map _ x)
  | array inner ih => exact fun x => .congr (validate_array inner x) ((contextFree_array ih).map _ x)
  | paramArray inner ih => exact fun x => .congr (validate_paramArray inner x) ((contextFree_paramArray ih).map _ x)
  | map inner ih => exact fun x => .congr (validate_map inner x) ((contextFree_map ih).map _ x)

end Spec

/-- **The context never decides.** -/
theorem validate_alike (s : Spec) (x : Value) (p q : Path) :
    (∃ y, s.validate x p = .ok y ∧ s.validate x q = .ok y) ∨
    (∃ fault, (∀ r, fault ≠ .rejected r) ∧ s.validate x p = .error fault ∧ s.validate x q = .error fault) ∨
    ∃ r r' l, s.validate x p = .error (.rejected r) ∧ s.validate x q = .error (.rejected r') ∧
      r.expected = r'.expected ∧ r.found = r'.found ∧ r.showKind = r'.showKind ∧
      r.path.text = (if p.labels = [] then Location.text l else p.text ++ Location.suffix l) ∧
      r'.path.text = if q.labels = [] then Location.text l else q.text ++ Location.suffix l := by
  obtain ⟨o, ho⟩ := s.contextFree x
  cases o with
  | ok y => exact Or.inl ⟨y, ho p, ho q⟩
  | error f =>
    cases f with
    | other fault h => exact Or.inr (Or.inl ⟨fault, h, ho p, ho q⟩)
    | rejected l expected found showKind =>
      exact Or.inr (Or.inr ⟨_, _, l, ho p, ho q, rfl, rfl, rfl, p.text_along_eq l, q.text_along_eq l⟩)

/-- One element in three contexts. -/
example :
    let textAt : Path → Option Text := fun path =>
      match (Spec.array (.map .number)).validate (.list [.object [("k", .null)]]) path with
      | .error (.rejected r) => some r.path.text
      | _ => none
    [textAt ⟨["a"]⟩, textAt ⟨["b", "c"]⟩, textAt ⟨[]⟩] =
      ["a[0][k]", "b.c[0][k]", "0[k]"].map fun s => some (Text.ofString s) := by
  decide +kernel

end Intake
