import Intake.Proofs.Document.Printing
import Intake.Proofs.Document.ReadBack
import Mathlib.Data.List.Nodup
import Mathlib.Logic.Relation

/-! # A document is read only through its meaning

One document has many spellings.  `Schema.Respelling` is one change of spelling somewhere in a value: the keys of an
object change places, an entry is added that nobody reads, a missing field is written as null, a list becomes a
tuple.  `Schema.Respelled` allows any number of such changes and their opposites, at any places.  A change is made
where the schema leads: through elements and fields, and to a rule or a scenario only as long as the field that tells
them apart stays where it is or stays away.

No reader can tell (`decode_respelled`).  What a schema says of a value are its complaints and, if there are none, the
normal form; a change of spelling keeps both (`Respelling.sameReading`).  A reader reports the first complaint, and its
result is determined by the normal form, since printing gives the normal form and is undone by reading.
-/
namespace Intake
namespace Schema

/-! ## Spellings -/

/-- A value of the right kind; of any other kind it is refused as it stands, and nothing looks into it. -/
def Fits : Schema → Value → Prop
  | text, x => ∃ s, x = .text s
  | array _, x => ∃ xs, x.elements? = some xs
  | object _, x => ∃ entries, x = .map entries
  | textOr _ _, x => (∃ s, x = .text s) ∨ ∃ entries, x = .map entries
  | byField _ _ _, x => ∃ entries, x = .map entries

/-- One change of spelling. -/
inductive Respelling : Schema → Value → Value → Prop where
  /-- The keys of an object stand in another order. -/
  | order {fields : List (String × Need × Schema)} {entries entries' : List (Value × Value)}
      (hp : entries.Perm entries') (hk : entries.Pairwise fun a b => a.1.equal? b.1 ≠ some true) :
      Respelling (object fields) (.map entries) (.map entries')
  /-- There is one more entry, which is no field. -/
  | unread {fields : List (String × Need × Schema)} {before after : List (Value × Value)} {k y : Value}
      (hk : ∀ f ∈ fields, k ≠ .text f.1) :
      Respelling (object fields) (.map (before ++ after)) (.map (before ++ (k, y) :: after))
  /-- A missing field is null. -/
  | missing {fields : List (String × Need × Schema)} {before after : List (Value × Value)} {name : String}
      (hm : Value.lookup name (before ++ after) = none) :
      Respelling (object fields) (.map (before ++ after)) (.map (before ++ (.text name, .null) :: after))
  /-- A list is a tuple. -/
  | sequence {schema : Schema} {xs : List Value} : Respelling (array schema) (.list xs) (.tuple xs)
  /-- An element is spelled in another way; those of a tuple are reached through the list. -/
  | element {schema : Schema} {before after : List Value} {x y : Value} (h : Respelling schema x y) :
      Respelling (array schema) (.list (before ++ x :: after)) (.list (before ++ y :: after))
  /-- A field is spelled in another way. -/
  | field {fields : List (String × Need × Schema)} {before after : List (Value × Value)} {name : String}
      {need : Need} {schema : Schema} {x y : Value} (hf : (name, need, schema) ∈ fields)
      (h : Respelling schema x y) :
      Respelling (object fields) (.map (before ++ (.text name, x) :: after))
        (.map (before ++ (.text name, y) :: after))
  /-- So is an object that stands where a text could. -/
  | other {expected : String} {schema : Schema} {entries entries' : List (Value × Value)}
      (h : Respelling schema (.map entries) (.map entries')) :
      Respelling (textOr expected schema) (.map entries) (.map entries')
  /-- So is an object that has the deciding field and keeps it. -/
  | present {name : String} {present absent : Schema} {entries entries' : List (Value × Value)}
      (h : Respelling present (.map entries) (.map entries'))
      (hl : (Value.lookup name entries).isSome = true) (hl' : (Value.lookup name entries').isSome = true) :
      Respelling (byField name present absent) (.map entries) (.map entries')
  /-- So is an object that does not have it and does not get it. -/
  | absent {name : String} {present absent : Schema} {entries entries' : List (Value × Value)}
      (h : Respelling absent (.map entries) (.map entries')) (hl : Value.lookup name entries = none)
      (hl' : Value.lookup name entries' = none) :
      Respelling (byField name present absent) (.map entries) (.map entries')
  /-- A value that is refused as it stands is another such value.  Null is none of them, since an optional field
  may be null. -/
  | refused {schema : Schema} {x y : Value} (hx : ¬ schema.Fits x) (hy : ¬ schema.Fits y) (hnx : x ≠ .null)
      (hny : y ≠ .null) : Respelling schema x y

/-- Any number of changes and their opposites. -/
def Respelled (s : Schema) : Value → Value → Prop := Relation.EqvGen (Respelling s)

/-! ## What a schema says of a value -/

/-- Where something else was expected, and what. -/
def complaints (s : Schema) (x : Value) (path : Path) : List (Path × Text) :=
  (s.violations x path).map fun r => (r.path, r.expected)

/-- The schema says the same of two values: it complains about the same places, or they have one normal form. -/
structure SameReading (s : Schema) (x y : Value) : Prop where
  isNull : x.isNull = y.isNull
  complaints : ∀ path, s.complaints x path = s.complaints y path
  normal : ∀ path, s.violations x path = [] → s.normal x = s.normal y

section SameReading
variable {s : Schema} {x y z : Value}

theorem SameReading.refl (s : Schema) (x : Value) : SameReading s x x := ⟨rfl, fun _ => rfl, fun _ _ => rfl⟩

theorem SameReading.violations_eq_nil (h : SameReading s x y) {path : Path} (hx : s.violations x path = []) :
    s.violations y path = [] := by
  have hy : s.complaints y path = [] := by rw [← h.complaints path, Schema.complaints, hx, List.map_nil]
  exact List.map_eq_nil_iff.mp hy

theorem SameReading.symm (h : SameReading s x y) : SameReading s y x := by
  refine ⟨h.isNull.symm, fun path => (h.complaints path).symm, fun path hy => ?_⟩
  have hx : s.complaints x path = [] := by rw [h.complaints path, Schema.complaints, hy, List.map_nil]
  exact (h.normal path (List.map_eq_nil_iff.mp hx)).symm

theorem SameReading.trans (h : SameReading s x y) (h' : SameReading s y z) : SameReading s x z where
  isNull := h.isNull.trans h'.isNull
  complaints := fun path => (h.complaints path).trans (h'.complaints path)
  normal := fun path hx => (h.normal path hx).trans (h'.normal path (h.violations_eq_nil hx))

end SameReading

/-! ## Changes keep what is said -/

/-- What is expected of a value as it stands. -/
def expected : Schema → String
  | text => "a string"
  | array _ => "an array"
  | object _ => "an object"
  | textOr expected _ => expected
  | byField _ _ _ => "an object"

theorem violations_of_not_fits {s : Schema} {x : Value} (h : ¬ s.Fits x) (path : Path) :
    s.violations x path = [mismatch s.expected x path] := by
  cases s with
  | text =>
    cases x with
    | text t => exact absurd ⟨t, rfl⟩ h
    | _ => rfl
  | array element =>
    unfold violations
    cases hx : x.elements? with
    | some xs => exact absurd ⟨xs, hx⟩ h
    | none => rfl
  | object fields =>
    cases x with
    | map entries => exact absurd ⟨entries, rfl⟩ h
    | _ => rfl
  | textOr expected other =>
    cases x with
    | text t => exact absurd (Or.inl ⟨t, rfl⟩) h
    | map entries => exact absurd (Or.inr ⟨entries, rfl⟩) h
    | _ => rfl
  | byField name present absent =>
    cases x with
    | map entries => exact absurd ⟨entries, rfl⟩ h
    | _ => rfl

theorem sameReading_refused {s : Schema} {x y : Value} (hx : ¬ s.Fits x) (hy : ¬ s.Fits y) (hnx : x ≠ .null)
    (hny : y ≠ .null) : SameReading s x y := by
  refine ⟨?_, fun path => ?_, fun path hv => ?_⟩
  · have hx' : x.isNull = false := Bool.eq_false_iff.mpr fun h => hnx (eq_null_of_isNull h)
    have hy' : y.isNull = false := Bool.eq_false_iff.mpr fun h => hny (eq_null_of_isNull h)
    rw [hx', hy']
  · rw [complaints, complaints, violations_of_not_fits hx, violations_of_not_fits hy]
    rfl
  · rw [violations_of_not_fits hx] at hv
    cases hv

/-! ### Arrays -/

theorem sameReading_sequence (s : Schema) (xs : List Value) :
    SameReading (array s) (.list xs) (.tuple xs) := ⟨rfl, fun _ => rfl, fun _ _ => rfl⟩

theorem sameReading_element {s : Schema} {before after : List Value} {x y : Value} (h : SameReading s x y) :
    SameReading (array s) (.list (before ++ x :: after)) (.list (before ++ y :: after)) := by
  have hviolations : ∀ (z : Value) (path : Path), (array s).violations (.list (before ++ z :: after)) path =
      (before.zipIdx.flatMap fun p => s.violations p.1 (path.index (toString p.2))) ++
        (s.violations z (path.index (toString before.length)) ++
          (after.zipIdx (before.length + 1)).flatMap fun p => s.violations p.1 (path.index (toString p.2))) := by
    intro z path
    show List.flatMap _ _ = _
    rw [List.zipIdx_append, List.flatMap_append, Nat.zero_add, List.zipIdx_cons, List.flatMap_cons]
  refine ⟨rfl, fun path => ?_, fun path hv => ?_⟩
  · have hx := h.complaints (path.index (toString before.length))
    rw [complaints, complaints] at hx
    rw [complaints, complaints, hviolations, hviolations]
    simp only [List.map_append, hx]
  · rw [hviolations, List.append_eq_nil_iff, List.append_eq_nil_iff] at hv
    show Value.list (List.map _ _) = Value.list (List.map _ _)
    simp only [List.map_append, List.map_cons, h.normal _ hv.2.1]

/-! ### Objects -/

/-- Every field is read as the same. -/
def SameFields (fields : List (String × Need × Schema)) (entries entries' : List (Value × Value)) : Prop :=
  ∀ f ∈ fields, SameReading f.2.2 (Value.fieldOrNull f.1 entries) (Value.fieldOrNull f.1 entries')

section Fields
variable {entries entries' : List (Value × Value)}

theorem SameFields.complaints (path : Path) : ∀ {fields : List (String × Need × Schema)},
    SameFields fields entries entries' →
      (fieldViolations fields entries path).map (fun r => (r.path, r.expected)) =
        (fieldViolations fields entries' path).map fun r => (r.path, r.expected)
  | [], _ => rfl
  | (name, .required, schema) :: fields, h => by
      obtain ⟨hfield, hrest⟩ := List.forall_mem_cons.mp h
      rw [fieldViolations, fieldViolations, List.map_append, List.map_append, SameFields.complaints path hrest]
      exact congrArg (· ++ _) (hfield.complaints _)
  | (name, .optional, schema) :: fields, h => by
      obtain ⟨hfield, hrest⟩ := List.forall_mem_cons.mp h
      rw [fieldViolations, fieldViolations, List.map_append, List.map_append, SameFields.complaints path hrest,
        hfield.isNull]
      split
      · rfl
      · exact congrArg (· ++ _) (hfield.complaints _)

theorem SameFields.normal {path : Path} : ∀ {fields : List (String × Need × Schema)},
    SameFields fields entries entries' → fieldViolations fields entries path = [] →
      normalFields fields entries = normalFields fields entries'
  | [], _, _ => rfl
  | (name, .required, schema) :: fields, h, hv => by
      obtain ⟨hfield, hrest⟩ := List.forall_mem_cons.mp h
      rw [fieldViolations, List.append_eq_nil_iff] at hv
      rw [normalFields, normalFields, hfield.normal _ hv.1, SameFields.normal hrest hv.2]
  | (name, .optional, schema) :: fields, h, hv => by
      obtain ⟨hfield, hrest⟩ := List.forall_mem_cons.mp h
      rw [fieldViolations, List.append_eq_nil_iff] at hv
      rw [normalFields, normalFields, ← hfield.isNull, SameFields.normal hrest hv.2]
      split
      · rfl
      · rename_i hnull
        rw [if_neg hnull] at hv
        rw [hfield.normal _ hv.1]

theorem SameFields.object {fields : List (String × Need × Schema)} (h : SameFields fields entries entries') :
    SameReading (object fields) (.map entries) (.map entries') :=
  ⟨rfl, fun path => h.complaints path, fun _ hv => congrArg Value.object (h.normal hv)⟩

theorem sameFields_of_fieldOrNull {fields : List (String × Need × Schema)}
    (h : ∀ f ∈ fields, Value.fieldOrNull f.1 entries = Value.fieldOrNull f.1 entries') :
    SameFields fields entries entries' := by
  intro f hf
  rw [h f hf]
  exact .refl _ _

theorem sameFields_order (fields : List (String × Need × Schema)) (hp : entries.Perm entries')
    (hk : entries.Pairwise fun a b => a.1.equal? b.1 ≠ some true) : SameFields fields entries entries' := by
  refine sameFields_of_fieldOrNull fun f _ => ?_
  rw [Value.fieldOrNull, Value.fieldOrNull, Value.lookup_perm hp hk]

end Fields

section Entry
variable {fields : List (String × Need × Schema)} {before after : List (Value × Value)}

theorem sameFields_unread {k y : Value} (hk : ∀ f ∈ fields, k ≠ .text f.1) :
    SameFields fields (before ++ after) (before ++ (k, y) :: after) := by
  refine sameFields_of_fieldOrNull fun f hf => ?_
  rw [Value.fieldOrNull, Value.fieldOrNull, Value.lookup_insert_ne (hk f hf)]

theorem sameFields_missing {name : String} (hm : Value.lookup name (before ++ after) = none) :
    SameFields fields (before ++ after) (before ++ (.text name, .null) :: after) := by
  refine sameFields_of_fieldOrNull fun f _ => ?_
  rw [Value.fieldOrNull, Value.fieldOrNull]
  by_cases hname : name = f.1
  · subst hname
    rw [Value.lookup_append, Option.or_eq_none_iff] at hm
    rw [Value.lookup_append, Value.lookup_insert_self, hm.1, hm.2]
    rfl
  · rw [Value.lookup_insert_ne fun h => hname (Text.ofString_inj.mp (Value.text.inj h))]

/-- Only the field of this name may be read as another value, and it is listed once. -/
theorem sameFields_field {name : String} {need : Need} {schema : Schema} {x y : Value}
    (hd : (fields.map Prod.fst).Nodup) (hf : (name, need, schema) ∈ fields) (h : SameReading schema x y) :
    SameFields fields (before ++ (.text name, x) :: after) (before ++ (.text name, y) :: after) := by
  intro g hg
  by_cases hname : name = g.1
  · obtain rfl : g = (name, need, schema) := List.inj_on_of_nodup_map hd hg hf hname.symm
    rw [Value.fieldOrNull, Value.fieldOrNull, Value.lookup_insert_self, Value.lookup_insert_self]
    -- An entry of this name in front would hide both.
    cases Value.lookup name before with
    | none => exact h
    | some z => exact .refl _ _
  · have hne : Value.text name ≠ .text g.1 := fun h => hname (Text.ofString_inj.mp (Value.text.inj h))
    rw [Value.fieldOrNull, Value.fieldOrNull, Value.lookup_insert_ne hne, Value.lookup_insert_ne hne]
    exact .refl _ _

end Entry

/-! ### Alternatives -/

/-- One schema says of a value what another one says. -/
structure Defers (s s' : Schema) (x : Value) : Prop where
  violations : ∀ path, s.violations x path = s'.violations x path
  normal : s.normal x = s'.normal x

theorem SameReading.of_defers {s s' : Schema} {x y : Value} (h : SameReading s' x y) (hx : Defers s s' x)
    (hy : Defers s s' y) : SameReading s x y := by
  refine ⟨h.isNull, fun path => ?_, fun path hv => ?_⟩
  · rw [Schema.complaints, Schema.complaints, hx.violations, hy.violations]
    exact h.complaints path
  · rw [hx.violations] at hv
    rw [hx.normal, hy.normal, h.normal path hv]

section Alternatives
variable {name : String} {entries : List (Value × Value)}

theorem defers_other (expected : String) (other : Schema) (entries : List (Value × Value)) :
    Defers (textOr expected other) other (.map entries) := ⟨fun _ => rfl, rfl⟩

theorem defers_present (h : (Value.lookup name entries).isSome = true) (present absent : Schema) :
    Defers (byField name present absent) present (.map entries) := ⟨fun _ => if_pos h, if_pos h⟩

theorem defers_absent (h : Value.lookup name entries = none) (present absent : Schema) :
    Defers (byField name present absent) absent (.map entries) := by
  have hnone : ¬ (Value.lookup name entries).isSome = true := by simp [h]
  exact ⟨fun _ => if_neg hnone, if_neg hnone⟩

end Alternatives

/-! ### Any change -/

theorem distinctNames_of_mem : ∀ {fields : List (String × Need × Schema)}, DistinctNamesIn fields →
    ∀ f ∈ fields, f.2.2.DistinctNames
  | [], _, _, hf => nomatch hf
  | (_, _, _) :: _, hd, f, hf => by
      rcases List.mem_cons.mp hf with rfl | hf
      · exact hd.1
      · exact distinctNames_of_mem hd.2 f hf

/-- **A change of spelling keeps what the schema says.** -/
theorem Respelling.sameReading {s : Schema} {x y : Value} (h : Respelling s x y) :
    s.DistinctNames → SameReading s x y := by
  -- On the place of the change: where it is made the fields are read as before, and every schema on the way to it
  -- says of the whole what it says of the part.
  induction h with
  | order hp hk => exact fun _ => (sameFields_order _ hp hk).object
  | unread hk => exact fun _ => (sameFields_unread hk).object
  | missing hm => exact fun _ => (sameFields_missing hm).object
  | sequence => exact fun _ => sameReading_sequence _ _
  | element _ ih => exact fun hd => sameReading_element (ih hd)
  | field hf _ ih =>
    exact fun hd => (sameFields_field hd.1 hf (ih (distinctNames_of_mem hd.2 _ hf))).object
  | other _ ih => exact fun hd => (ih hd).of_defers (defers_other _ _ _) (defers_other _ _ _)
  | present _ hl hl' ih => exact fun hd => (ih hd.1).of_defers (defers_present hl _ _) (defers_present hl' _ _)
  | absent _ hl hl' ih => exact fun hd => (ih hd.2).of_defers (defers_absent hl _ _) (defers_absent hl' _ _)
  | refused hx hy hnx hny => exact fun _ => sameReading_refused hx hy hnx hny

theorem Respelled.sameReading {s : Schema} {x y : Value} (h : s.Respelled x y) (hd : s.DistinctNames) :
    SameReading s x y := by
  induction h with
  | rel x y h => exact h.sameReading hd
  | refl x => exact .refl s x
  | symm x y _ ih => exact ih.symm
  | trans x y z _ _ ih ih' => exact ih.trans ih'

end Schema

/-! ## Reading -/

namespace Validator
variable {α : Type} {v : Validator Checked α} {s : Schema} {print : α → Value} {x : Value} {path : Path}

theorem Meets.exists_ok_iff (h : v.Meets s) : (∃ a, v x path = .ok a) ↔ s.violations x path = [] := by
  rw [← Checked.verdict_eq_ok_iff, h x path, Schema.firstFault_eq_ok_iff]

theorem Meets.error_iff (h : v.Meets s) {fault : Fault} :
    v x path = .error fault ↔ ∃ r, (s.violations x path).head? = some r ∧ fault = .rejected r := by
  rw [← Checked.verdict_eq_error_iff, h x path, Schema.firstFault_eq_error_iff]

/-- What was read is read again from what it is printed as. -/
theorem Undoes.decode_printed (hu : v.Undoes print) {f : α → Value} (hf : ∀ a, (f a).printed = print a)
    {y : Value} (h : (v x path).map f = .ok y) (path' : Path) : (v y.printed path').map f = .ok y := by
  obtain ⟨a, -, rfl⟩ := Checked.map_eq_ok h
  rw [hf, hu]
  rfl

end Validator

namespace Part
variable {p : Part} {x y z : Value} {path : Path}

theorem decode_printed (p : Part) (h : p.decode x path = .ok y) (path' : Path) :
    p.decode y.printed path' = .ok y := by
  cases p with
  | dataTable => exact DataTable.decode_undoes.decode_printed (fun _ => rfl) h path'
  | stepArgument => exact StepArgument.decode_undoes.decode_printed (fun a => by cases a <;> rfl) h path'
  | step => exact Step.decode_undoes.decode_printed (fun _ => rfl) h path'
  | examples => exact Examples.decode_undoes.decode_printed (fun _ => rfl) h path'
  | background => exact Background.decode_undoes.decode_printed (fun _ => rfl) h path'
  | scenario => exact Scenario.decode_undoes.decode_printed (fun _ => rfl) h path'
  | rule => exact Rule.decode_undoes.decode_printed (fun _ => rfl) h path'
  | featureChild => exact FeatureChild.decode_undoes.decode_printed (fun c => by cases c <;> rfl) h path'
  | feature => exact Feature.decode_undoes.decode_printed (fun _ => rfl) h path'

/-- Values with one normal form are read as one document. -/
theorem decode_unique (hx : p.decode x path = .ok y) {x' : Value} {path' : Path} (hx' : p.decode x' path' = .ok z)
    (h : p.schema.normal x = p.schema.normal x') : y = z := by
  have hprinted : y.printed = z.printed := by rw [p.decode_prints hx, p.decode_prints hx', h]
  have hy := p.decode_printed hx path
  rw [hprinted, p.decode_printed hx' path] at hy
  exact (Except.ok.inj hy).symm

end Part

/-- **A document is read only through its meaning.**  Two spellings are read as the same document, or both are
rejected, for the value at one place and for one reason. -/
theorem decode_respelled (p : Part) {x y : Value} (h : p.schema.Respelled x y) (path : Path) :
    (∃ z, p.decode x path = .ok z ∧ p.decode y path = .ok z) ∨
      ∃ r r', p.decode x path = .error (.rejected r) ∧ p.decode y path = .error (.rejected r') ∧
        r.path = r'.path ∧ r.expected = r'.expected := by
  have hs : p.schema.SameReading x y := h.sameReading p.distinctNames_schema
  have hm := p.decode_meets
  cases hx : p.schema.violations x path with
  | nil =>
    obtain ⟨z, hz⟩ := hm.exists_ok_iff.mpr hx
    obtain ⟨z', hz'⟩ := hm.exists_ok_iff.mpr (hs.violations_eq_nil hx)
    obtain rfl : z = z' := Part.decode_unique hz hz' (hs.normal path hx)
    exact Or.inl ⟨z, hz, hz'⟩
  | cons r rest =>
    have hcomplaints := hs.complaints path
    rw [Schema.complaints, Schema.complaints, hx, List.map_cons] at hcomplaints
    obtain ⟨r', rest', hy, hr, -⟩ := List.map_eq_cons_iff.mp hcomplaints.symm
    refine Or.inr ⟨r, r', hm.error_iff.mpr ⟨r, ?_, rfl⟩, hm.error_iff.mpr ⟨r', ?_, rfl⟩, ?_⟩
    · rw [hx, List.head?_cons]
    · rw [hy, List.head?_cons]
    · exact ⟨(Prod.mk.inj hr).1.symm, (Prod.mk.inj hr).2.symm⟩

/-- A feature with all kinds of changes, one of them in a rule; and a step whose text is refused in either
spelling. -/
theorem decode_respelled_feature :
    let rule : List (Value × Value) := [(.text "children", .list []), (.text "name", .text "r")]
    let x : Value := .map [(.text "name", .text "f"), (.text "tags", .tuple [.text "a"]),
      (.text "children", .list [.map rule])]
    let y : Value := .map [(.text "description", .null), (.text "tags", .list [.text "a"]),
      (.text "name", .text "f"), (.text "children", .list [.map ((.text "note", .bool true) :: rule)])]
    let z : Value := .map [(.text "text", .list [])]
    let w : Value := .map [(.text "text", .tuple [])]
    Part.feature.schema.Respelled x y ∧ Part.step.schema.Respelled z w ∧
      ((∃ d, Part.feature.decode x ⟨[]⟩ = .ok d ∧ Part.feature.decode y ⟨[]⟩ = .ok d) ∨
        ∃ r r', Part.feature.decode x ⟨[]⟩ = .error (.rejected r) ∧
          Part.feature.decode y ⟨[]⟩ = .error (.rejected r') ∧ r.path = r'.path ∧ r.expected = r'.expected) ∧
      ((∃ d, Part.step.decode z ⟨[]⟩ = .ok d ∧ Part.step.decode w ⟨[]⟩ = .ok d) ∨
        ∃ r r', Part.step.decode z ⟨[]⟩ = .error (.rejected r) ∧
          Part.step.decode w ⟨[]⟩ = .error (.rejected r') ∧ r.path = r'.path ∧ r.expected = r'.expected) := by
  intro rule x y z w
  let name : Value × Value := (.text "name", .text "f")
  let tags : Value × Value := (.text "tags", .list [.text "a"])
  let note : Value × Value := (.text "note", .bool true)
  have htags : Part.feature.schema.Respelling (.map ([name] ++ tags :: [(.text "children", .list [.map rule])])) x :=
    .field (.head _) .sequence
  have hnote : Schema.rule.Respelling (.map ([] ++ rule)) (.map ([] ++ note :: rule)) := .unread (by simp)
  have hrules : (Schema.array .featureChild).Respelling (.list ([] ++ .map rule :: []))
      (.list ([] ++ .map (note :: rule) :: [])) := .element (.present hnote rfl rfl)
  have hchildren : Part.feature.schema.Respelling
      (.map ([name, tags] ++ (.text "children", .list [.map rule]) :: []))
      (.map ([name, tags] ++ (.text "children", .list [.map (note :: rule)]) :: [])) :=
    .field (.tail _ (.tail _ (.tail _ (.tail _ (.head _))))) hrules
  have hdescription : Part.feature.schema.Respelling
      (.map ([] ++ [name, tags, (.text "children", .list [.map (note :: rule)])]))
      (.map ([] ++ (.text "description", .null) ::
        [name, tags, (.text "children", .list [.map (note :: rule)])])) := .missing rfl
  have horder : Part.feature.schema.Respelling (.map ((.text "description", .null) ::
      [name, tags, (.text "children", .list [.map (note :: rule)])])) y :=
    .order (.cons _ (.swap _ _ _)) (by decide)
  have hfeature : Part.feature.schema.Respelled x y :=
    .trans _ _ _ (.symm _ _ (.rel _ _ htags)) (.trans _ _ _ (.rel _ _ hchildren)
      (.trans _ _ _ (.rel _ _ hdescription) (.rel _ _ horder)))
  have htext : Part.step.schema.Respelling (.map ([] ++ (.text "text", .list []) :: []))
      (.map ([] ++ (.text "text", .tuple []) :: [])) := .field (.head _) (.refused nofun nofun nofun nofun)
  have hstep : Part.step.schema.Respelled z w := .rel _ _ htext
  exact ⟨hfeature, hstep, decode_respelled .feature hfeature ⟨[]⟩, decode_respelled .step hstep ⟨[]⟩⟩

end Intake
