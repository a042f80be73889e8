import Intake.Document.Part
import Intake.Proofs.Value.Location

/-! # Schemas of documents

What each part of a document has to look like, as data: a `Schema` is a text, an array, or an object with
named fields, some of which may be missing.  Two parts are decided by the shape of the data.  A step's
argument is a text or else a table (`textOr`), and a feature's child is a rule or a scenario by the presence
of one field (`byField`).

`violations` checks a value against a schema and collects everything that is wrong, in reading order: the
fields of an object as the schema lists them, the elements of an array from left to right.  It never stops
early and knows nothing of the decoders; a decoder stops at the first violation (`Proofs.Document.Conformance`).

Every violation is about a place in the value that the schema reaches (`located_of_mem_violations`): it carries the
value that stands at some location, and the path of that location.
-/
namespace Intake

/-- Whether a field has to be there.  A field that holds null counts as missing. -/
inductive Need where
  | required
  | optional
deriving DecidableEq

/-- What a part of a document has to look like. -/
inductive Schema where
  | text
  | array (element : Schema)
  /-- An object with these fields, read in this order.  Other fields are not looked at. -/
  | object (fields : List (String × Need × Schema))
  /-- A text, or an object by another schema.  The text names both. -/
  | textOr (expected : String) (other : Schema)
  /-- An object by one of two schemas, the first if it has a field of this name. -/
  | byField (name : String) (present absent : Schema)

/-- The rejection of a value that is not as expected. -/
def mismatch (expected : String) (found : Value) (path : Path) : Rejection :=
  ⟨path, expected, found, true⟩

namespace Schema

/-! ## Violations -/

mutual

/-- Everything in the value at a path that is not as the schema has it, in reading order. -/
def violations : Schema → Value → Path → List Rejection
  | text, x, path =>
    match x with
    | .text _ => []
    | x => [mismatch "a string" x path]
  | array element, x, path =>
    match x.elements? with
    | some xs => xs.zipIdx.flatMap fun (y, i) => element.violations y (path.index (toString i))
    | none => [mismatch "an array" x path]
  | object fields, x, path =>
    match x with
    | .map entries => fieldViolations fields entries path
    | x => [mismatch "an object" x path]
  | textOr expected other, x, path =>
    match x with
    | .text _ => []
    | .map entries => other.violations (.map entries) path
    | x => [mismatch expected x path]
  | byField name present absent, x, path =>
    match x with
    | .map entries =>
      if (Value.lookup name entries).isSome then present.violations (.map entries) path
      else absent.violations (.map entries) path
    | x => [mismatch "an object" x path]

/-- The violations of an object's fields, field by field. -/
def fieldViolations : List (String × Need × Schema) → List (Value × Value) → Path → List Rejection
  | [], _, _ => []
  | (name, .required, schema) :: fields, entries, path =>
    schema.violations (Value.fieldOrNull name entries) (path.field name) ++
      fieldViolations fields entries path
  | (name, .optional, schema) :: fields, entries, path =>
    (if (Value.fieldOrNull name entries).isNull then []
      else schema.violations (Value.fieldOrNull name entries) (path.field name)) ++
      fieldViolations fields entries path

end

/-! ## The parts of a document -/

/-- A sequence of texts. -/
def texts : Schema := array text

/-- The rows of a table. -/
def rows : Schema := array texts

/-- A table, header first. -/
def dataTable : Schema := object [("header", .optional, texts), ("rows", .required, rows)]

/-- What a step carries besides its text. -/
def stepArgument : Schema := textOr "a string or a data table" dataTable

/-- A step. -/
def step : Schema := object [("text", .required, text), ("argument", .optional, stepArgument)]

/-- A sequence of steps. -/
def steps : Schema := array step

/-- A table of examples. -/
def examples : Schema :=
  object [("tags", .optional, texts), ("name", .required, text), ("description", .optional, text),
    ("header", .required, texts), ("rows", .required, rows)]

/-- A background. -/
def background : Schema :=
  object [("name", .required, text), ("description", .optional, text), ("given", .required, steps)]

/-- A scenario; its examples come last. -/
def scenario : Schema :=
  object [("tags", .optional, texts), ("name", .required, text), ("description", .optional, text),
    ("given", .required, steps), ("when", .required, steps), ("then", .required, steps),
    ("examples", .optional, examples)]

/-- The fields of what groups others under a background. -/
def group (child : Schema) : Schema :=
  object [("tags", .optional, texts), ("name", .required, text), ("description", .optional, text),
    ("background", .optional, background), ("children", .required, array child)]

/-- A rule groups scenarios. -/
def rule : Schema := group scenario

/-- A feature's child is a rule as soon as it has children. -/
def featureChild : Schema := byField "children" rule scenario

/-- A feature groups rules and scenarios. -/
def feature : Schema := group featureChild

end Schema

/-- The schema of a part. -/
def Part.schema : Part → Schema
  | dataTable => .dataTable
  | stepArgument => .stepArgument
  | step => .step
  | examples => .examples
  | background => .background
  | scenario => .scenario
  | rule => .rule
  | featureChild => .featureChild
  | feature => .feature

/-! ## Violations are located -/

/-- The locations that a schema speaks of: its own place, the fields that it lists and the elements of its
arrays. -/
inductive Schema.Reaches : Schema → Location → Prop where
  | here (s : Schema) : Reaches s []
  | element {s : Schema} {l : Location} (i : Nat) (h : Reaches s l) : Reaches (.array s) (.element i :: l)
  | field {fields : List (String × Need × Schema)} {name : String} {need : Need} {s : Schema} {l : Location}
      (hf : (name, need, s) ∈ fields) (h : Reaches s l) : Reaches (.object fields) (.field name :: l)
  | other {expected : String} {s : Schema} {l : Location} (h : Reaches s l) : Reaches (.textOr expected s) l
  | present {name : String} {p a : Schema} {l : Location} (h : Reaches p l) : Reaches (.byField name p a) l
  | absent {name : String} {p a : Schema} {l : Location} (h : Reaches a l) : Reaches (.byField name p a) l

/-- More fields reach more. -/
theorem Schema.Reaches.cons {fields : List (String × Need × Schema)} {l : Location}
    (h : (object fields).Reaches l) (f : String × Need × Schema) : (object (f :: fields)).Reaches l := by
  cases h with
  | here => exact .here _
  | field hf h => exact .field (List.mem_cons_of_mem f hf) h

/-- The rejection is about the value at some location, and has the path of that location. -/
def Rejection.Locates (r : Rejection) (x : Value) (path : Path) : Prop :=
  ∃ l : Location, x.At l r.found ∧ r.path = path.along l

/-- The rejection is about the value at some location that the schema reaches, and has its path. -/
def Rejection.LocatesBy (r : Rejection) (s : Schema) (x : Value) (path : Path) : Prop :=
  ∃ l : Location, s.Reaches l ∧ x.At l r.found ∧ r.path = path.along l

namespace Rejection
variable {r : Rejection} {path : Path} {s : Schema}

theorem Locates.here {x : Value} (hf : r.found = x) (hp : r.path = path) : r.Locates x path :=
  ⟨[], hf ▸ .here x, hp⟩

theorem locatesBy_mismatch (s : Schema) (expected : String) (x : Value) :
    (mismatch expected x path).LocatesBy s x path := ⟨[], .here s, .here x, rfl⟩

theorem LocatesBy.locates {x : Value} (h : r.LocatesBy s x path) : r.Locates x path := by
  obtain ⟨l, -, hl, hp⟩ := h
  exact ⟨l, hl, hp⟩

theorem LocatesBy.imp {s' : Schema} {x : Value} (hs : ∀ l, s.Reaches l → s'.Reaches l)
    (h : r.LocatesBy s x path) : r.LocatesBy s' x path := by
  obtain ⟨l, hr, hl, hp⟩ := h
  exact ⟨l, hs l hr, hl, hp⟩

theorem LocatesBy.field {fields : List (String × Need × Schema)} {entries : List (Value × Value)}
    {name : String} {need : Need} (hf : (name, need, s) ∈ fields)
    (h : r.LocatesBy s (Value.fieldOrNull name entries) (path.field name)) :
    r.LocatesBy (.object fields) (.map entries) path := by
  obtain ⟨l, hr, hl, hp⟩ := h
  exact ⟨.field name :: l, .field hf hr, .field hl, hp⟩

theorem LocatesBy.element {x y : Value} {xs : List Value} {i : Nat} (hx : x.elements? = some xs)
    (hi : xs[i]? = some y) (h : r.LocatesBy s y (path.index (toString i))) :
    r.LocatesBy (.array s) x path := by
  obtain ⟨l, hr, hl, hp⟩ := h
  exact ⟨.element i :: l, .element i hr, .element hx hi hl, hp⟩

end Rejection

namespace Schema

mutual

/-- A violation is about a place that the schema reaches. -/
theorem located_of_mem_violations : ∀ (s : Schema) {x : Value} {path : Path} {r : Rejection},
    r ∈ s.violations x path → r.LocatesBy s x path
  | text, x, path, r, h => by
      unfold violations at h
      split at h
      · cases h
      · rw [List.mem_singleton.mp h]
        exact Rejection.locatesBy_mismatch _ _ _
  | array element, x, path, r, h => by
      unfold violations at h
      split at h
      · rename_i xs hx
        obtain ⟨⟨y, i⟩, hy, hr⟩ := List.mem_flatMap.mp h
        exact .element hx (List.mem_zipIdx_iff_getElem?.mp hy) (located_of_mem_violations element hr)
      · rw [List.mem_singleton.mp h]
        exact Rejection.locatesBy_mismatch _ _ _
  | object fields, x, path, r, h => by
      unfold violations at h
      split at h
      · exact located_of_mem_fieldViolations fields h
      · rw [List.mem_singleton.mp h]
        exact Rejection.locatesBy_mismatch _ _ _
  | textOr expected other, x, path, r, h => by
      unfold violations at h
      split at h
      · cases h
      · exact (located_of_mem_violations other h).imp fun _ => .other
      · rw [List.mem_singleton.mp h]
        exact Rejection.locatesBy_mismatch _ _ _
  | byField name present absent, x, path, r, h => by
      unfold violations at h
      split at h
      · split at h
        · exact (located_of_mem_violations present h).imp fun _ => .present
        · exact (located_of_mem_violations absent h).imp fun _ => .absent
      · rw [List.mem_singleton.mp h]
        exact Rejection.locatesBy_mismatch _ _ _

theorem located_of_mem_fieldViolations :
    ∀ (fields : List (String × Need × Schema)) {entries : List (Value × Value)} {path : Path}
      {r : Rejection}, r ∈ fieldViolations fields entries path →
        r.LocatesBy (.object fields) (.map entries) path
  | [], _, _, _, h => by cases h
  | (name, .required, schema) :: fields, entries, path, r, h => by
      rw [fieldViolations] at h
      rcases List.mem_append.mp h with h | h
      · exact .field List.mem_cons_self (located_of_mem_violations schema h)
      · exact (located_of_mem_fieldViolations fields h).imp fun _ hl => hl.cons _
  | (name, .optional, schema) :: fields, entries, path, r, h => by
      rw [fieldViolations] at h
      rcases List.mem_append.mp h with h | h
      · split at h
        · cases h
        · exact .field List.mem_cons_self (located_of_mem_violations schema h)
      · exact (located_of_mem_fieldViolations fields h).imp fun _ hl => hl.cons _

end

end Schema

end Intake
