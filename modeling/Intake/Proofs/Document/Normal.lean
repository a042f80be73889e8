import Intake.Proofs.Document.Schema
import Intake.Proofs.Value.Keys
import Mathlib.Data.List.Perm.Subperm

/-! # Normal forms of documents

One document has many spellings: keys that nobody reads, optional fields that are null, tuples where lists
would do.  `Schema.normal` is the spelling without any of these, with the fields in the schema's order.
`Schema.Canonical` says that a value has none of them to begin with: every key is a field, no optional field
is null, every array is a list — at every object and array that the schema reaches.

The two meet in `answers_normal`: for a value without violations, comparing it with its normal form answers
whether it is canonical, and the comparison always has an answer.  The argument at an object is a count.  The
normal form has distinct keys, all of them keys of the object, so equality of the two sizes already says that
the object has no others (`length_normalFields_iff`); what is left is to compare field by field.
-/
namespace Intake
namespace Schema

/-! ## Normal and canonical values -/

mutual

/-- The value with everything dropped or unified that does not matter. -/
def normal : Schema → Value → Value
  | text, x => x
  | array element, x =>
    match x.elements? with
    | some xs => .list (xs.map fun y => element.normal y)
    | none => x
  | object fields, x =>
    match x with
    | .map entries => .object (normalFields fields entries)
    | x => x
  | textOr _ other, x =>
    match x with
    | .map entries => other.normal (.map entries)
    | x => x
  | byField name present absent, x =>
    match x with
    | .map entries =>
      if (Value.lookup name entries).isSome then present.normal (.map entries)
      else absent.normal (.map entries)
    | x => x

/-- The fields of a normal object: those that are required, and the optional ones that are there. -/
def normalFields : List (String × Need × Schema) → List (Value × Value) → List (Text × Value)
  | [], _ => []
  | (name, .required, schema) :: fields, entries =>
    (.ofString name, schema.normal (Value.fieldOrNull name entries)) :: normalFields fields entries
  | (name, .optional, schema) :: fields, entries =>
    if (Value.fieldOrNull name entries).isNull then normalFields fields entries
    else (.ofString name, schema.normal (Value.fieldOrNull name entries)) :: normalFields fields entries

end

/-- Every key is a field, and no optional field is null. -/
def Tidy (fields : List (String × Need × Schema)) (entries : List (Value × Value)) : Prop :=
  (∀ e ∈ entries, ∃ f ∈ fields, e.1 = .text f.1) ∧
    ∀ f ∈ fields, f.2.1 = .optional → Value.lookup f.1 entries ≠ some .null

mutual

/-- The value is spelled the one way in which it is printed, up to the order of keys. -/
def Canonical : Schema → Value → Prop
  | text, _ => True
  | array element, x =>
    match x with
    | .list xs => ∀ y ∈ xs, element.Canonical y
    | .tuple _ => False
    | _ => True
  | object fields, x =>
    match x with
    | .map entries => Tidy fields entries ∧ CanonicalFields fields entries
    | _ => True
  | textOr _ other, x =>
    match x with
    | .map entries => other.Canonical (.map entries)
    | _ => True
  | byField name present absent, x =>
    match x with
    | .map entries =>
      if (Value.lookup name entries).isSome then present.Canonical (.map entries)
      else absent.Canonical (.map entries)
    | _ => True

/-- The value of every field is canonical. -/
def CanonicalFields : List (String × Need × Schema) → List (Value × Value) → Prop
  | [], _ => True
  | (name, _, schema) :: fields, entries =>
    schema.Canonical (Value.fieldOrNull name entries) ∧ CanonicalFields fields entries

end

mutual

/-- No object lists a field twice. -/
def DistinctNames : Schema → Prop
  | text => True
  | array element => element.DistinctNames
  | object fields => (fields.map Prod.fst).Nodup ∧ DistinctNamesIn fields
  | textOr _ other => other.DistinctNames
  | byField _ present absent => present.DistinctNames ∧ absent.DistinctNames

/-- Nor does any object in the fields. -/
def DistinctNamesIn : List (String × Need × Schema) → Prop
  | [] => True
  | (_, _, schema) :: fields => schema.DistinctNames ∧ DistinctNamesIn fields

end

/-! ## Null -/

theorem violations_null_ne_nil (s : Schema) (path : Path) : s.violations .null path ≠ [] := by
  cases s <;> (unfold violations; exact List.cons_ne_nil _ _)

theorem canonical_null (s : Schema) : s.Canonical .null := by
  cases s <;> (unfold Canonical; trivial)

theorem isNull_eq_false {s : Schema} {x : Value} {path : Path} (h : s.violations x path = []) :
    x.isNull = false := by
  cases x with
  | null => exact absurd h (s.violations_null_ne_nil path)
  | _ => rfl

theorem eq_null_of_isNull {x : Value} (h : x.isNull = true) : x = .null := by
  cases x with
  | null => rfl
  | _ => cases h

/-! ## The keys of a normal object -/

section Fields
variable {entries : List (Value × Value)} {path : Path}

/-- The printed names are in the schema's order. -/
theorem names_normalFields_sublist : ∀ fields : List (String × Need × Schema),
    ((normalFields fields entries).map Prod.fst).Sublist ((fields.map Prod.fst).map Text.ofString)
  | [] => List.Sublist.refl _
  | (name, .required, _) :: fields => (names_normalFields_sublist fields).cons_cons (Text.ofString name)
  | (name, .optional, _) :: fields => by
      rw [normalFields]
      split
      · exact (names_normalFields_sublist fields).cons (Text.ofString name)
      · exact (names_normalFields_sublist fields).cons_cons (Text.ofString name)

/-- A field is printed iff it is there. -/
theorem mem_names_normalFields : ∀ {fields : List (String × Need × Schema)},
    fieldViolations fields entries path = [] → ∀ name : Text,
      name ∈ (normalFields fields entries).map Prod.fst ↔
        name ∈ (fields.map Prod.fst).map Text.ofString ∧ (Value.fieldOrNull name entries).isNull = false
  | [], _, name => ⟨nofun, fun h => nomatch h.1⟩
  | (field, .required, schema) :: fields, h, name => by
      rw [fieldViolations, List.append_eq_nil_iff] at h
      rw [normalFields, List.map_cons, List.map_cons, List.map_cons, List.mem_cons, List.mem_cons,
        mem_names_normalFields h.2 name]
      constructor
      · rintro (rfl | ⟨hm, hn⟩)
        · exact ⟨Or.inl rfl, isNull_eq_false h.1⟩
        · exact ⟨Or.inr hm, hn⟩
      · rintro ⟨rfl | hm, hn⟩
        · exact Or.inl rfl
        · exact Or.inr ⟨hm, hn⟩
  | (field, .optional, schema) :: fields, h, name => by
      rw [fieldViolations, List.append_eq_nil_iff] at h
      have ih := mem_names_normalFields h.2 name
      rw [normalFields, List.map_cons, List.map_cons, List.mem_cons]
      cases hf : (Value.fieldOrNull field entries).isNull with
      | true =>
        rw [if_pos rfl, ih]
        constructor
        · rintro ⟨hm, hn⟩
          exact ⟨Or.inr hm, hn⟩
        · rintro ⟨rfl | hm, hn⟩
          · exact absurd (hf.symm.trans hn) (by decide)
          · exact ⟨hm, hn⟩
      | false =>
        rw [if_neg (by decide), List.map_cons, List.mem_cons, ih]
        constructor
        · rintro (rfl | ⟨hm, hn⟩)
          · exact ⟨Or.inl rfl, hf⟩
          · exact ⟨Or.inr hm, hn⟩
        · rintro ⟨rfl | hm, hn⟩
          · exact Or.inl rfl
          · exact Or.inr ⟨hm, hn⟩

theorem fieldOrNull_of_mem : ∀ {fields : List (String × Need × Schema)},
    fieldViolations fields entries path = [] → ∀ f ∈ fields, f.2.1 = .required →
      (Value.fieldOrNull f.1 entries).isNull = false
  | (_, .required, _) :: _, h, f, hf, hr => by
      rw [fieldViolations, List.append_eq_nil_iff] at h
      rcases List.mem_cons.mp hf with rfl | hf
      · exact isNull_eq_false h.1
      · exact fieldOrNull_of_mem h.2 f hf hr
  | (_, .optional, _) :: _, h, f, hf, hr => by
      rw [fieldViolations, List.append_eq_nil_iff] at h
      rcases List.mem_cons.mp hf with rfl | hf
      · cases hr
      · exact fieldOrNull_of_mem h.2 f hf hr

/-- A field whose key is there is not null, if it is required, or else if it does not hold null. -/
theorem fieldOrNull_of_key {fields : List (String × Need × Schema)} {f : String × Need × Schema}
    {y : Value} (h : fieldViolations fields entries path = []) (hf : f ∈ fields)
    (hnull : f.2.1 = .optional → Value.lookup f.1 entries ≠ some .null)
    (hy : (.text f.1, y) ∈ entries) : (Value.fieldOrNull f.1 entries).isNull = false := by
  cases hneed : f.2.1 with
  | required => exact fieldOrNull_of_mem h f hf hneed
  | optional =>
    obtain ⟨z, hz⟩ := Value.exists_lookup_of_mem hy
    rw [Value.fieldOrNull_of_lookup hz]
    cases z with
    | null => exact absurd hz (hnull hneed)
    | _ => rfl

/-- The keys of a normal object, as values. -/
theorem mem_keys_normalFields {fields : List (String × Need × Schema)}
    (h : fieldViolations fields entries path = []) (k : Value) :
    k ∈ ((normalFields fields entries).map Prod.fst).map Value.text ↔
      ∃ f ∈ fields, k = .text f.1 ∧ (Value.fieldOrNull f.1 entries).isNull = false := by
  constructor
  · intro hk
    obtain ⟨name, hname, rfl⟩ := List.mem_map.mp hk
    obtain ⟨hf, hn⟩ := (mem_names_normalFields h name).mp hname
    rw [List.map_map] at hf
    obtain ⟨f, hmem, rfl⟩ := List.mem_map.mp hf
    exact ⟨f, hmem, rfl, hn⟩
  · rintro ⟨f, hf, rfl, hn⟩
    exact List.mem_map_of_mem ((mem_names_normalFields h f.1).mpr
      ⟨List.mem_map_of_mem (List.mem_map_of_mem hf), hn⟩)

/-- Every key of the normal object is a key of the object. -/
theorem keys_normalFields_subset {fields : List (String × Need × Schema)}
    (h : fieldViolations fields entries path = []) :
    ((normalFields fields entries).map Prod.fst).map Value.text ⊆ entries.map Prod.fst := by
  intro k hk
  obtain ⟨f, -, rfl, hn⟩ := (mem_keys_normalFields h k).mp hk
  exact List.mem_map_of_mem (Value.mem_of_lookup (Value.lookup_of_fieldOrNull hn))

theorem nodup_keys_normalFields {fields : List (String × Need × Schema)}
    (hd : (fields.map Prod.fst).Nodup) :
    (((normalFields fields entries).map Prod.fst).map Value.text).Nodup := by
  have hs : ((normalFields fields entries).map Prod.fst).Sublist ((fields.map Prod.fst).map Text.ofString) :=
    names_normalFields_sublist fields
  have hn := hs.nodup (List.pairwise_map.mpr (hd.imp fun hab h => hab (Text.ofString_inj.mp h)))
  exact List.pairwise_map.mpr (hn.imp fun hab h => hab (Value.text.inj h))

/-- **An object is as large as its normal form iff it is tidy.**  The keys of the normal form are distinct
keys of the object, so equal sizes leave no room for another one. -/
theorem length_normalFields_iff {fields : List (String × Need × Schema)}
    (hd : (fields.map Prod.fst).Nodup) (hk : Value.DistinctKeys (.map entries))
    (h : fieldViolations fields entries path = []) :
    (normalFields fields entries).length = entries.length ↔ Tidy fields entries := by
  have hsub := keys_normalFields_subset h
  have hnodup : (((normalFields fields entries).map Prod.fst).map Value.text).Nodup :=
    nodup_keys_normalFields hd
  have hlen : (((normalFields fields entries).map Prod.fst).map Value.text).length =
      (normalFields fields entries).length := by rw [List.length_map, List.length_map]
  constructor
  · intro hl
    -- Distinct keys inside a list of the same size exhaust it: the object has no other key.
    have hperm := (hnodup.subperm hsub).perm_of_length_le
      (Nat.le_of_eq (by rw [hlen, hl, List.length_map]))
    constructor
    · intro e he
      obtain ⟨f, hf, hfe, -⟩ :=
        (mem_keys_normalFields h e.1).mp (hperm.mem_iff.mpr (List.mem_map_of_mem he))
      exact ⟨f, hf, hfe⟩
    · intro f _ _ hnull
      have he : Value.text f.1 ∈ entries.map Prod.fst :=
        List.mem_map_of_mem (Value.mem_of_lookup hnull)
      obtain ⟨g, -, hg, hn⟩ := (mem_keys_normalFields h _).mp (hperm.mem_iff.mpr he)
      rw [← Value.text.inj hg, Value.fieldOrNull_of_lookup hnull] at hn
      cases hn
  · rintro ⟨hkeys, hnull⟩
    have hnodup' : (entries.map Prod.fst).Nodup := by
      refine hk.nodup_keys fun e he => ?_
      obtain ⟨f, -, hf⟩ := hkeys e he
      exact ⟨f.1, hf⟩
    have hsub' : entries.map Prod.fst ⊆
        ((normalFields fields entries).map Prod.fst).map Value.text := by
      intro k hk
      obtain ⟨⟨k, y⟩, he, rfl⟩ := List.mem_map.mp hk
      obtain ⟨f, hf, rfl⟩ := hkeys _ he
      refine (mem_keys_normalFields h _).mpr ⟨f, hf, rfl, ?_⟩
      exact fieldOrNull_of_key h hf (hnull f hf) he
    have hperm := (List.perm_ext_iff_of_nodup hnodup hnodup').mpr fun k =>
      ⟨fun hk => hsub hk, fun hk => hsub' hk⟩
    rw [← hlen, hperm.length_eq, List.length_map]

end Fields

/-! ## Comparing a value with its normal form -/

/-- The comparison has an answer, and it is whether the property holds. -/
def Answers (o : Option Bool) (p : Prop) : Prop := (o = some true ∧ p) ∨ (o = some false ∧ ¬ p)

theorem answers_true {p : Prop} (hp : p) : Answers (some true) p := Or.inl ⟨rfl, hp⟩

theorem answers_false {p : Prop} (hp : ¬ p) : Answers (some false) p := Or.inr ⟨rfl, hp⟩

theorem Answers.iff {o : Option Bool} {p : Prop} (h : Answers o p) : o = some true ↔ p := by
  rcases h with ⟨rfl, hp⟩ | ⟨rfl, hp⟩
  · exact ⟨fun _ => hp, fun _ => rfl⟩
  · exact ⟨nofun, fun h => absurd h hp⟩

theorem Answers.ne_none {o : Option Bool} {p : Prop} (h : Answers o p) : o ≠ none := by
  rcases h with ⟨rfl, -⟩ | ⟨rfl, -⟩ <;> exact nofun

theorem Answers.andThen {o o' : Option Bool} {p p' : Prop} (h : Answers o p) (h' : Answers o' p') :
    Answers (Value.andThen? o o') (p ∧ p') := by
  rcases h with ⟨rfl, hp⟩ | ⟨rfl, hp⟩
  · rcases h' with ⟨rfl, hp'⟩ | ⟨rfl, hp'⟩
    · exact answers_true ⟨hp, hp'⟩
    · exact answers_false fun h => hp' h.2
  · exact answers_false fun h => hp h.1

/-- A comparison that is made only under a condition, and is false otherwise. -/
theorem Answers.guard {o : Option Bool} {c p q : Prop} [Decidable c] (hc : c ↔ p)
    (h : c → Answers o q) : Answers (if c then o else some false) (p ∧ q) := by
  by_cases hcond : c
  · rw [if_pos hcond]
    rcases h hcond with ⟨rfl, hq⟩ | ⟨rfl, hq⟩
    · exact answers_true ⟨hc.mp hcond, hq⟩
    · exact answers_false fun h => hq h.2
  · rw [if_neg hcond]
    exact answers_false fun h => hcond (hc.mpr h.1)

theorem answers_allEqual {n : Value → Value} {C : Value → Prop} : ∀ {xs : List Value},
    (∀ y ∈ xs, Answers (Value.equal? (n y) y) (C y)) →
      Answers (Value.allEqual? (xs.map n) xs) (∀ y ∈ xs, C y)
  | [], _ => answers_true nofun
  | x :: xs, h => by
      rw [List.map_cons, Value.allEqual?]
      have ha := (h x List.mem_cons_self).andThen
        (answers_allEqual fun y hy => h y (List.mem_cons_of_mem _ hy))
      rwa [← List.forall_mem_cons] at ha

/-- Two lists of one length are compared item by item. -/
theorem equal?_list {xs ys : List Value} (h : xs.length = ys.length) :
    Value.equal? (.list xs) (.list ys) = Value.allEqual? xs ys := by
  rw [Value.equal?, if_pos h]

theorem equal?_list_tuple (xs ys : List Value) :
    Value.equal? (.list xs) (.tuple ys) = some false := by
  simp [Value.equal?, Value.number?]

mutual

theorem answers_normal : ∀ {s : Schema} {x : Value} {path : Path}, s.DistinctNames → x.DistinctKeys →
    s.violations x path = [] → Answers (Value.equal? (s.normal x) x) (s.Canonical x)
  | text, x, path, _, _, h => by
      unfold violations at h
      split at h
      · exact Or.inl ⟨(Value.equal?_text_iff _ _).mpr rfl, trivial⟩
      · cases h
  | array element, x, path, hd, hk, h => by
      unfold violations at h
      split at h
      · rename_i xs hx
        have hxs : ∀ y ∈ xs, Answers (Value.equal? (element.normal y) y) (element.Canonical y) := by
          intro y hy
          obtain ⟨i, hi⟩ := List.mem_iff_getElem?.mp hy
          have hv := List.flatMap_eq_nil_iff.mp h (y, i) (List.mem_zipIdx_iff_getElem?.mpr hi)
          exact answers_normal hd (hk.of_mem_elements hx hy) hv
        unfold normal Canonical
        rw [hx]
        cases x with
        | list ys =>
          cases hx
          rw [equal?_list (List.length_map _)]
          exact answers_allEqual hxs
        | tuple ys =>
          rw [equal?_list_tuple]
          exact answers_false id
        | _ => cases hx
      · cases h
  | object fields, x, path, hd, hk, h => by
      unfold violations at h
      split at h
      · rename_i entries
        have hf := answers_normalFields hd.2 hk h
        have hl := length_normalFields_iff hd.1 hk h
        show Answers (Value.equal? (.object _) _) (Tidy fields entries ∧ CanonicalFields fields entries)
        rw [Value.object, Value.equal?, List.length_map]
        exact Answers.guard hl fun _ => hf
      · cases h
  | textOr expected other, x, path, hd, hk, h => by
      unfold violations at h
      split at h
      · exact Or.inl ⟨(Value.equal?_text_iff _ _).mpr rfl, trivial⟩
      · exact answers_normal (s := other) hd hk h
      · cases h
  | byField name present absent, x, path, hd, hk, h => by
      unfold violations at h
      split at h
      · rename_i entries
        show Answers (Value.equal? (if _ then _ else _) _) (if _ then _ else _)
        split at h
        · rename_i hc
          rw [if_pos hc, if_pos hc]
          exact answers_normal hd.1 hk h
        · rename_i hc
          rw [if_neg hc, if_neg hc]
          exact answers_normal hd.2 hk h
      · cases h

theorem answers_normalFields : ∀ {fields : List (String × Need × Schema)}
    {entries : List (Value × Value)} {path : Path}, DistinctNamesIn fields →
      Value.DistinctKeys (.map entries) → fieldViolations fields entries path = [] →
        Answers (Value.entriesIn? ((normalFields fields entries).map fun (k, v) => (.text k, v)) entries)
          (CanonicalFields fields entries)
  | [], _, _, _, _, _ => answers_true trivial
  | (name, .required, schema) :: fields, entries, path, hd, hk, h => by
      rw [fieldViolations, List.append_eq_nil_iff] at h
      have hl := Value.lookup_of_fieldOrNull (isNull_eq_false h.1)
      rw [normalFields, List.map_cons, Value.entriesIn?, Value.lookupBy_text, hl]
      exact (answers_normal hd.1 (hk.fieldOrNull name) h.1).andThen (answers_normalFields hd.2 hk h.2)
  | (name, .optional, schema) :: fields, entries, path, hd, hk, h => by
      rw [fieldViolations, List.append_eq_nil_iff] at h
      have ih := answers_normalFields hd.2 hk h.2
      rw [normalFields]
      cases hn : (Value.fieldOrNull name entries).isNull with
      | true =>
        rw [if_pos rfl, CanonicalFields, eq_null_of_isNull hn]
        rcases ih with ⟨ho, hp⟩ | ⟨ho, hp⟩
        · exact Or.inl ⟨ho, schema.canonical_null, hp⟩
        · exact Or.inr ⟨ho, fun h => hp h.2⟩
      | false =>
        rw [hn, if_neg (by decide)] at h
        rw [if_neg (by decide), List.map_cons, Value.entriesIn?, Value.lookupBy_text,
          Value.lookup_of_fieldOrNull hn]
        exact (answers_normal hd.1 (hk.fieldOrNull name) h.1).andThen ih

end

end Schema

end Intake
