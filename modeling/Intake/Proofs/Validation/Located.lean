import Intake.Proofs.Document.Conformance
import Intake.Proofs.Validation.EasternTime
import Intake.Proofs.Validation.Innermost

/-! # Rejections are located

A rejection names a path and carries a value.  This module proves that the two belong together: the value
stands somewhere in what was validated, and the path is the path of that place (`rejection_located`).

A validator for single values fails in place: with the value it was given, at the path it was given
(`FailsInPlace`).  Three of them may fail otherwise, too, and reject in place all the same (`RejectsInPlace`).  A
decoder fails with a violation of its schema, and violations are located.  What an innermost validator rejects at a
location is thereby located in the whole.
-/
namespace Intake

/-- The fault is a rejection of a value, at a path. -/
def Fault.RejectsAt (fault : Fault) (x : Value) (path : Path) : Prop :=
  ∃ r, fault = .rejected r ∧ r.found = x ∧ r.path = path

theorem Fault.RejectsAt.eq {r : Rejection} {x : Value} {path : Path}
    (h : (Fault.rejected r).RejectsAt x path) : r.found = x ∧ r.path = path := by
  obtain ⟨_, ⟨⟩, hr⟩ := h
  exact hr

namespace Validator
variable {α : Type} {r : Rejection} {x : Value} {path : Path} {fault : Fault}

/-! ## Single values -/

/-- The validator fails by rejecting the value it was given, at the path it was given. -/
def FailsInPlace (v : Validator Checked α) : Prop :=
  ∀ {x path fault}, v x path = .error fault → fault.RejectsAt x path

/-- What the validator rejects is the value it was given, at the path it was given. -/
def RejectsInPlace (v : Validator Checked α) : Prop :=
  ∀ {x path r}, v x path = .error (.rejected r) → r.found = x ∧ r.path = path

theorem rejectsAt_unexpected {expected : Text}
    (h : (.error (unexpected expected x path) : Checked α) = .error fault) : fault.RejectsAt x path := by
  cases h
  exact ⟨_, rfl, rfl, rfl⟩

theorem rejectsAt_unsuitable {expected : Text}
    (h : (.error (unsuitable expected x path) : Checked α) = .error fault) : fault.RejectsAt x path := by
  cases h
  exact ⟨_, rfl, rfl, rfl⟩

theorem inPlace_orDefault (default : Option Bool) (expected : Text) :
    (orDefault default expected).FailsInPlace := by
  intro x path fault h
  unfold orDefault at h
  split at h
  · cases h
  · exact rejectsAt_unexpected h

theorem inPlace_boolean (default : Option Bool) : (boolean default).FailsInPlace := by
  intro x path fault h
  unfold boolean at h
  split at h
  · cases h
  · exact inPlace_orDefault _ _ h

theorem inPlace_booleanText (yes no : String) (default : Option Bool) :
    (booleanText yes no default).FailsInPlace := by
  intro x path fault h
  unfold booleanText at h
  split at h
  · split at h
    · cases h
    · split at h
      · cases h
      · exact rejectsAt_unexpected h
  · exact inPlace_orDefault _ _ h

theorem inPlace_number : number.FailsInPlace := by
  intro x path fault h
  unfold number at h
  split at h
  · cases h
  · exact rejectsAt_unexpected h

theorem inPlace_numberText : numberText.FailsInPlace := by
  intro x path fault h
  unfold numberText at h
  split at h
  · split at h
    · cases h
    · exact rejectsAt_unexpected h
  · exact rejectsAt_unexpected h

theorem inPlace_wholeOnly {v : Validator Checked Decimal} (hv : v.FailsInPlace) (expected : Text) :
    (wholeOnly expected v).FailsInPlace := by
  intro x path fault h
  unfold wholeOnly at h
  split at h
  · rename_i fault hf
    exact hv (hf.trans h)
  · split at h
    · cases h
    · exact rejectsAt_unexpected h

/-- No bound is too long for a rejection. -/
theorem describeLength_not_rejected (min max : Option Int) : describeLength min max ≠ .error (.rejected r) := by
  have hbound : ∀ n, writtenBound n = .error .integerTooLong ∨ ∃ t, writtenBound n = .ok t := by
    intro n
    rw [writtenBound, Numeral.written]
    cases Numeral.ofInt? n with
    | none => exact Or.inl rfl
    | some cs => exact Or.inr ⟨_, rfl⟩
  intro h
  unfold describeLength at h
  split at h
  · cases h
  · rename_i high
    rcases hbound high with hhigh | ⟨t, hhigh⟩ <;> (rw [hhigh] at h; cases h)
  · rename_i low
    rcases hbound low with hlow | ⟨t, hlow⟩ <;> (rw [hlow] at h; cases h)
  · rename_i low high
    rcases hbound low with hlow | ⟨t, hlow⟩
    · rw [hlow] at h
      split at h <;> cases h
    · rcases hbound high with hhigh | ⟨u, hhigh⟩ <;> (rw [hlow, hhigh] at h; split at h <;> cases h)

theorem inPlace_string (min max : Option Int) (email : Bool) :
    (string min max email).RejectsInPlace := by
  intro x path r h
  unfold string at h
  split at h
  · split at h
    · split at h
      · rename_i fault hfault
        cases h
        exact absurd hfault (describeLength_not_rejected min max)
      · exact (rejectsAt_unsuitable h).eq
    · split at h
      · exact (rejectsAt_unsuitable h).eq
      · cases h
  · exact (rejectsAt_unexpected h).eq

/-- Texts pass as they are. -/
theorem string_eq_ok {min max : Option Int} {email : Bool} {s : Text}
    (h : string min max email x path = .ok s) : x = .text s := by
  unfold string at h
  split at h
  · split at h
    · split at h <;> cases h
    · split at h
      · cases h
      · rw [Except.ok.inj h]
  · cases h

theorem isOneOf_not_rejected : ∀ values : List Value, isOneOf x values ≠ .error (.rejected r)
  | [], h => by cases h
  | v :: vs, h => by
      unfold isOneOf at h
      split at h
      · split at h
        · cases h
        · cases h
        · exact isOneOf_not_rejected vs h
      · exact isOneOf_not_rejected vs h

theorem describeValues_not_rejected (values : List Value) : describeValues values ≠ .error (.rejected r) := by
  intro h
  unfold describeValues at h
  split at h <;> cases h

theorem inPlace_oneOf (values : List Value) : (oneOf values).RejectsInPlace := by
  intro x path r h
  unfold oneOf at h
  split at h
  · rename_i fault hf
    cases h
    exact absurd hf (isOneOf_not_rejected values)
  · cases h
  · split at h
    · rename_i fault hfault
      cases h
      exact absurd hfault (describeValues_not_rejected values)
    · exact (rejectsAt_unsuitable h).eq

theorem inPlace_object : object.FailsInPlace := by
  intro x path fault h
  unfold object at h
  split at h
  · cases h
  · cases h
  · cases h
  · cases h
  · exact rejectsAt_unexpected h

theorem inPlace_ofKind (test : KindTest) : (ofKind test).FailsInPlace := by
  intro x path fault h
  unfold ofKind at h
  split at h
  · cases h
  · exact rejectsAt_unexpected h

/-! ## Instants

A layout is read from the text itself, so what the calendar refuses is still the text that was given. -/

theorem rejectsAt_instantOf {s : Text} {d : Date} {c : Clock} {micro : Nat}
    (h : instantOf s path d c micro = .error fault) : fault.RejectsAt (.text s) path := by
  unfold instantOf at h
  split at h
  · cases h
  · exact rejectsAt_unsuitable h

theorem rejectsAt_buildDate {s : Text} {numbers : List Nat}
    (h : buildDate s path numbers = .error fault) : fault.RejectsAt (.text s) path := by
  unfold buildDate at h
  split at h
  · exact rejectsAt_instantOf h
  · exact rejectsAt_unsuitable h

theorem rejectsAt_buildMillis {s : Text} {numbers : List Nat}
    (h : buildMillis s path numbers = .error fault) : fault.RejectsAt (.text s) path := by
  unfold buildMillis at h
  split at h
  · exact rejectsAt_instantOf h
  · exact rejectsAt_unsuitable h

theorem rejectsAt_buildEastern {s : Text} {numbers : List Nat}
    (h : buildEastern s path numbers = .error (.rejected r)) :
    (Fault.rejected r).RejectsAt (.text s) path := by
  unfold buildEastern at h
  split at h
  · dsimp only at h
    split at h
    · split at h
      · cases h
      · cases h
    · exact rejectsAt_unsuitable h
  · exact rejectsAt_unsuitable h

section LaidOut
variable {layout : TextLayout} {length : Int} {expected : Text}
  {build : Text → Path → List Nat → Checked Instant}

/-- A text fails in place, or it is what its numbers are built into that fails. -/
theorem laidOut_error (h : laidOut layout length expected build x path = .error fault) :
    fault.RejectsAt x path ∨ ∃ s numbers, x = .text s ∧ build s path numbers = .error fault := by
  cases x with
  | text s =>
    rw [laidOut_text] at h
    split at h
    · rename_i numbers _
      exact Or.inr ⟨s, numbers, rfl, h⟩
    · exact Or.inl (rejectsAt_unsuitable h)
  | _ => exact Or.inl (rejectsAt_unexpected h)

theorem inPlace_laidOut
    (hb : ∀ {s path numbers fault}, build s path numbers = .error fault → fault.RejectsAt (.text s) path) :
    (laidOut layout length expected build).FailsInPlace := by
  intro x path fault h
  rcases laidOut_error h with hx | ⟨s, numbers, rfl, hbuild⟩
  · exact hx
  · exact hb hbuild

end LaidOut

theorem inPlace_easternTime : easternTime.RejectsInPlace := by
  intro x path r h
  rcases laidOut_error h with hx | ⟨s, numbers, rfl, hbuild⟩
  · exact hx.eq
  · exact (rejectsAt_buildEastern hbuild).eq

/-! ## Inside the whole -/

/-- What the validator rejects stands at a location in the value it was given, and the path says which. -/
def RejectsLocated (v : Validator Checked α) : Prop :=
  ∀ {x path r}, v x path = .error (.rejected r) → r.Locates x path

/-- The validator fails with nothing but located rejections. -/
def FailsLocated (v : Validator Checked α) : Prop :=
  ∀ {x path fault}, v x path = .error fault → ∃ r, fault = .rejected r ∧ r.Locates x path

theorem FailsLocated.rejects {v : Validator Checked α} (hv : v.FailsLocated) : v.RejectsLocated := by
  intro x path r h
  obtain ⟨_, ⟨⟩, hr⟩ := hv h
  exact hr

theorem RejectsInPlace.located {v : Validator Checked α} (hv : v.RejectsInPlace) :
    v.RejectsLocated := by
  intro x path r h
  obtain ⟨hf, hp⟩ := hv h
  exact .here hf hp

theorem FailsInPlace.located {v : Validator Checked α} (hv : v.FailsInPlace) : v.FailsLocated := by
  intro x path fault h
  obtain ⟨r, rfl, hf, hp⟩ := hv h
  exact ⟨r, rfl, .here hf hp⟩

theorem Meets.located {v : Validator Checked α} {s : Schema} (hv : v.Meets s) : v.FailsLocated := by
  intro x path fault h
  have hm := hv x path
  rw [h, Checked.verdict_error] at hm
  obtain ⟨r, hr, rfl⟩ := (Schema.firstFault_eq_error_iff _ _).mp hm.symm
  exact ⟨r, rfl, (s.located_of_mem_violations (List.mem_of_mem_head? hr)).locates⟩

/-- A rejection in a value at a location is one in the whole. -/
theorem located_of_at {y : Value} {l : Location} (hl : x.At l y) (h : r.Locates y (path.along l)) :
    r.Locates x path := by
  obtain ⟨m, hm, hp⟩ := h
  refine ⟨l ++ m, hl.trans hm, ?_⟩
  rw [hp, Path.along_append]

theorem FailsThrough.rejectsLocated {β : Type} {c : Validator Checked β} {v : Validator Checked α}
    (hc : c.FailsThrough v) (hv : v.RejectsLocated) : c.RejectsLocated := by
  intro x path r h
  obtain ⟨l, y, hl, ⟨expected, hown⟩ | hinner⟩ := hc x path _ h
  · cases hown
    exact ⟨l, hl, rfl⟩
  · exact located_of_at hl (hv hinner)

end Validator

/-! ## Specifications -/

namespace Spec

open Validator

theorem located_leaf {α : Type} {toValue : α → Value} {v : Validator Checked α}
    (hv : v.FailsInPlace) : FailsLocated fun x path => (leaf toValue v x path).outcome := by
  intro x path fault h
  replace h : (leaf toValue v x path).outcome = .error fault := h
  rw [validate_leaf] at h
  exact hv.located (Checked.map_eq_error h)

/-- A specification that is no container fails with located rejections, or it is one of three. -/
theorem innermost_cases : ∀ s : Spec, FailsLocated s.innermost.validate ∨
    s.innermost = .easternTime ∨ (∃ values, s.innermost = .oneOf values) ∨
      ∃ min max email, s.innermost = .string min max email
  | boolean _ => Or.inl (located_leaf (inPlace_boolean _))
  | booleanWord _ => Or.inl (located_leaf (inPlace_booleanText _ _ _))
  | booleanLetter _ => Or.inl (located_leaf (inPlace_booleanText _ _ _))
  | number => Or.inl (located_leaf inPlace_number)
  | numberText => Or.inl (located_leaf inPlace_numberText)
  | integer => Or.inl (located_leaf (inPlace_wholeOnly inPlace_number _))
  | integerText => Or.inl (located_leaf (inPlace_wholeOnly inPlace_numberText _))
  | string min max email => Or.inr (Or.inr (Or.inr ⟨min, max, email, rfl⟩))
  | oneOf values => Or.inr (Or.inr (Or.inl ⟨values, rfl⟩))
  | midnight => Or.inl (located_leaf (inPlace_laidOut rejectsAt_buildDate))
  | date => Or.inl (located_leaf (inPlace_laidOut rejectsAt_buildDate))
  | easternTime => Or.inr (Or.inl rfl)
  | utcTime => Or.inl (located_leaf (inPlace_laidOut rejectsAt_buildMillis))
  | object => Or.inl (located_leaf inPlace_object)
  | ofKind _ => Or.inl (located_leaf (inPlace_ofKind _))
  | identity => Or.inl fun h => by cases h
  | part p => Or.inl fun h => p.decode_meets.located (Checked.map_eq_error h)
  | optional inner => innermost_cases inner
  | array inner => innermost_cases inner
  | paramArray inner => innermost_cases inner
  | map inner => innermost_cases inner

theorem innermost_located (s : Spec) : RejectsLocated s.innermost.validate := by
  rcases s.innermost_cases with hlocated | heastern | ⟨values, hvalues⟩ | ⟨min, max, email, hstring⟩
  · exact hlocated.rejects
  · rw [heastern]
    exact fun h => RejectsInPlace.located inPlace_easternTime (Checked.map_eq_error h)
  · rw [hvalues]
    exact fun h => RejectsInPlace.located (inPlace_oneOf values) (Checked.map_eq_error h)
  · rw [hstring]
    exact fun h => RejectsInPlace.located (inPlace_string min max email) (Checked.map_eq_error h)

/-- Every specification's rejections are located. -/
theorem located (s : Spec) : RejectsLocated s.validate :=
  s.failsThrough_innermost.rejectsLocated s.innermost_located

end Spec

/-- **A rejection carries the value at a location, and the path of that location.** -/
theorem rejection_located (s : Spec) (x : Value) (path : Path) (r : Rejection)
    (h : s.validate x path = .error (.rejected r)) :
    ∃ l : Location, x.At l r.found ∧ r.path = path.along l ∧
      r.path.text = [Point.char '.'].intercalate (path.along l).labels := by
  obtain ⟨l, hl, hp⟩ := s.located h
  exact ⟨l, hl, hp, congrArg Path.text hp⟩

/-- The argument of a step, under a key that is no text: the single step adds nothing to the path. -/
theorem rejection_located_behind_key :
    let x : Value := .map [(.int 7, .map [(.text "text", .text "t"), (.text "argument", .list [])])]
    let r : Rejection := ⟨⟨["body[7]", "argument"]⟩, "a string or a data table", .list [], true⟩
    (Spec.map (.paramArray (.part .step))).validate x ⟨["body"]⟩ = .error (.rejected r) ∧
      ∃ l : Location, x.At l r.found ∧ r.path = Path.along ⟨["body"]⟩ l ∧
        r.path.text = [Point.char '.'].intercalate (Path.along ⟨["body"]⟩ l).labels := by
  intro x r
  have h : (Spec.map (.paramArray (.part .step))).validate x ⟨["body"]⟩ = .error (.rejected r) := by
    rfl
  exact ⟨h, rejection_located _ _ _ _ h⟩

end Intake
