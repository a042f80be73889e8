import Intake.Proofs.Value.Location
import Intake.Value.Equality

/-! # Keys of maps

A map holds its entries in a list, and what makes it a map is that no two keys are equal.
`Value.DistinctKeys` says so of every map in a value.  Objects are looked up by text keys; since a text equals
no value of another kind, equality of values and `Value.lookup` find the same entry (`lookupBy_text`).
-/
namespace Intake
namespace Value

/-- In every map, no two keys are equal. -/
inductive DistinctKeys : Value → Prop where
  | array {x : Value} {xs : List Value} (hx : x.elements? = some xs)
      (h : ∀ y ∈ xs, DistinctKeys y) : DistinctKeys x
  | map {entries : List (Value × Value)}
      (hk : entries.Pairwise fun a b => a.1.equal? b.1 ≠ some true)
      (h : ∀ e ∈ entries, DistinctKeys e.2) : DistinctKeys (.map entries)
  | single {x : Value} (hx : x.elements? = none) (hm : ∀ entries, x ≠ .map entries) : DistinctKeys x

theorem distinctKeys_text (s : Text) : DistinctKeys (.text s) := .single rfl nofun

theorem distinctKeys_null : DistinctKeys .null := .single rfl nofun

theorem DistinctKeys.of_mem_elements {x y : Value} {xs : List Value} (h : x.DistinctKeys)
    (hx : x.elements? = some xs) (hy : y ∈ xs) : y.DistinctKeys := by
  cases h with
  | array hx' h' =>
    rw [hx'] at hx
    cases hx
    exact h' y hy
  | map => cases hx
  | single hn =>
    rw [hn] at hx
    cases hx

variable {entries : List (Value × Value)}

theorem DistinctKeys.pairwise (h : DistinctKeys (.map entries)) :
    entries.Pairwise fun a b => a.1.equal? b.1 ≠ some true := by
  cases h with
  | array hx => cases hx
  | map hk => exact hk
  | single _ hm => exact absurd rfl (hm _)

theorem DistinctKeys.of_mem (h : DistinctKeys (.map entries)) {k y : Value} (hy : (k, y) ∈ entries) :
    y.DistinctKeys := by
  cases h with
  | array hx => cases hx
  | map _ h => exact h _ hy
  | single _ hm => exact absurd rfl (hm _)

/-! ## Text keys -/

theorem equal?_text_text (s t : Text) : equal? (.text s) (.text t) = some (s == t) := by
  unfold equal?
  rfl

/-- A text equals itself and nothing else. -/
theorem equal?_text_iff (s : Text) (x : Value) : equal? (.text s) x = some true ↔ x = .text s := by
  cases x with
  | text t =>
    rw [equal?_text_text, Option.some.injEq, beq_iff_eq]
    exact ⟨fun h => h ▸ rfl, fun h => by cases h; rfl⟩
  | _ => exact ⟨fun h => by simp [equal?, number?] at h, nofun⟩

theorem lookup_cons_self (name : Text) (y : Value) (entries : List (Value × Value)) :
    lookup name ((.text name, y) :: entries) = some y := by
  rw [lookup, if_pos rfl]

theorem lookup_cons_ne {name : Text} {k : Value} (hk : k ≠ .text name) (y : Value)
    (entries : List (Value × Value)) : lookup name ((k, y) :: entries) = lookup name entries := by
  cases k with
  | text key => rw [lookup, if_neg (fun h => hk (congrArg _ h))]
  | _ => rfl

/-- Equality finds the entry that a look-up finds. -/
theorem lookupBy_text (name : Text) (entries : List (Value × Value)) :
    lookupBy (fun other => equal? (.text name) other) entries = lookup name entries := by
  induction entries with
  | nil => rfl
  | cons e entries ih =>
    obtain ⟨k, y⟩ := e
    rw [lookupBy]
    by_cases hk : k = .text name
    · rw [if_pos ((equal?_text_iff name k).mpr hk), hk, lookup_cons_self]
    · rw [if_neg (fun h => hk ((equal?_text_iff name k).mp h)), lookup_cons_ne hk]
      exact ih

theorem mem_of_lookup {name : Text} {y : Value} (h : lookup name entries = some y) :
    (.text name, y) ∈ entries := by
  induction entries with
  | nil => cases h
  | cons e entries ih =>
    obtain ⟨k, z⟩ := e
    by_cases hk : k = .text name
    · subst hk
      rw [lookup_cons_self] at h
      cases h
      exact List.mem_cons_self
    · rw [lookup_cons_ne hk] at h
      exact List.mem_cons_of_mem _ (ih h)

theorem exists_lookup_of_mem {name : Text} {y : Value} (h : (.text name, y) ∈ entries) :
    ∃ z, lookup name entries = some z := by
  induction entries with
  | nil => cases h
  | cons e entries ih =>
    obtain ⟨k, z⟩ := e
    by_cases hk : k = .text name
    · subst hk
      exact ⟨z, lookup_cons_self name z entries⟩
    · rw [lookup_cons_ne hk]
      rcases List.mem_cons.mp h with h | h
      · exact absurd (Prod.mk.inj h).1.symm hk
      · exact ih h

/-- The entries in front are looked at first. -/
theorem lookup_append (name : Text) (before after : List (Value × Value)) :
    lookup name (before ++ after) = (lookup name before).or (lookup name after) := by
  induction before with
  | nil => rfl
  | cons e before ih =>
    obtain ⟨k, y⟩ := e
    rw [List.cons_append]
    by_cases hk : k = .text name
    · rw [hk, lookup_cons_self, lookup_cons_self, Option.some_or]
    · rw [lookup_cons_ne hk, lookup_cons_ne hk, ih]

/-- An entry under another key is passed over. -/
theorem lookup_insert_ne {name : Text} {k : Value} (hk : k ≠ .text name) (before : List (Value × Value))
    (y : Value) (after : List (Value × Value)) :
    lookup name (before ++ (k, y) :: after) = lookup name (before ++ after) := by
  rw [lookup_append, lookup_append, lookup_cons_ne hk]

theorem lookup_insert_self (name : Text) (before : List (Value × Value)) (y : Value)
    (after : List (Value × Value)) :
    lookup name (before ++ (.text name, y) :: after) = (lookup name before).or (some y) := by
  rw [lookup_append, lookup_cons_self]

/-- A text key has one value. -/
theorem eq_of_mem_of_mem (hk : entries.Pairwise fun a b => a.1.equal? b.1 ≠ some true) {name : Text}
    {y z : Value} (hy : (.text name, y) ∈ entries) (hz : (.text name, z) ∈ entries) : y = z := by
  induction entries with
  | nil => cases hy
  | cons e entries ih =>
    obtain ⟨hhead, htail⟩ := List.pairwise_cons.mp hk
    have hequal : equal? (.text name) (.text name) = some true := (equal?_text_iff name _).mpr rfl
    rcases List.mem_cons.mp hy with hy' | hy' <;> rcases List.mem_cons.mp hz with hz' | hz'
    · exact (Prod.mk.inj (hy'.trans hz'.symm)).2
    · exact absurd hequal (by simpa [← hy'] using hhead _ hz')
    · exact absurd hequal (by simpa [← hz'] using hhead _ hy')
    · exact ih htail hy' hz'

/-- The order of the entries does not matter to a look-up. -/
theorem lookup_perm {entries' : List (Value × Value)} (hp : entries.Perm entries')
    (hk : entries.Pairwise fun a b => a.1.equal? b.1 ≠ some true) (name : Text) :
    lookup name entries = lookup name entries' := by
  cases h : lookup name entries with
  | none =>
    cases h' : lookup name entries' with
    | none => rfl
    | some z =>
      obtain ⟨y, hy⟩ := exists_lookup_of_mem (hp.mem_iff.mpr (mem_of_lookup h'))
      rw [h] at hy
      cases hy
  | some y =>
    obtain ⟨z, hz⟩ := exists_lookup_of_mem (hp.mem_iff.mp (mem_of_lookup h))
    rw [hz, eq_of_mem_of_mem hk (mem_of_lookup h) (hp.mem_iff.mpr (mem_of_lookup hz))]

theorem fieldOrNull_of_lookup {name : Text} {y : Value} (h : lookup name entries = some y) :
    fieldOrNull name entries = y := by
  rw [fieldOrNull, h, Option.getD_some]

/-- A field that is not null is there. -/
theorem lookup_of_fieldOrNull {name : Text} (h : (fieldOrNull name entries).isNull = false) :
    lookup name entries = some (fieldOrNull name entries) := by
  cases hl : lookup name entries with
  | none =>
    rw [fieldOrNull, hl] at h
    cases h
  | some y => rw [fieldOrNull_of_lookup hl]

theorem DistinctKeys.fieldOrNull (h : DistinctKeys (.map entries)) (name : Text) :
    (fieldOrNull name entries).DistinctKeys := by
  cases hl : lookup name entries with
  | none =>
    rw [Value.fieldOrNull, hl]
    exact distinctKeys_null
  | some y =>
    rw [fieldOrNull_of_lookup hl]
    exact h.of_mem (mem_of_lookup hl)

/-- No text key stands twice. -/
theorem DistinctKeys.nodup_keys (h : DistinctKeys (.map entries))
    (ht : ∀ e ∈ entries, ∃ name : Text, e.1 = .text name) : (entries.map Prod.fst).Nodup := by
  refine List.pairwise_map.mpr (h.pairwise.imp_of_mem ?_)
  intro a b ha _ hab heq
  obtain ⟨name, hname⟩ := ht a ha
  rw [← heq, hname] at hab
  exact hab ((equal?_text_iff name _).mpr rfl)

end Value

end Intake
