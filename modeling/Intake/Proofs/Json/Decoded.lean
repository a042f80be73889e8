import Intake.Proofs.Json.Plain
import Intake.Proofs.Value.Location

/-! # What is read is plain

Whatever text the reader takes, the value that it returns is plain (`plain_of_read`).  A number has gone through the
bounds of decimal numbers, so it is a finite one.  A member whose name is already there takes its place and any other
goes to the end, so a name never stands twice (`Value.Plain.setMember`).  All else is put together from values that
were read before, on less fuel.

What stands inside a plain value is plain again, wherever it stands (`Value.Plain.at`), so every number in it is a
finite decimal number.
-/
namespace Intake
namespace Value

/-- A map is plain when its keys are texts, no text stands twice, and its values are plain. -/
theorem plain_map_iff {entries : List (Value × Value)} : (Value.map entries).Plain ↔
    ∃ fields : List (Text × Value), entries = fields.map (fun f => (.text f.1, f.2)) ∧
      (fields.map Prod.fst).Nodup ∧ ∀ f ∈ fields, f.2.Plain := by
  constructor
  · intro h
    generalize hx : Value.map entries = x at h
    cases h with
    | object hn h => exact ⟨_, Value.map.inj hx, hn, h⟩
    | _ => cases hx
  · rintro ⟨fields, rfl, hn, h⟩
    exact .object hn h

/-- Putting a value under a name replaces the value of this name or adds the name. -/
theorem exists_setEntry (name : Text) (v : Value) (fields : List (Text × Value)) :
    ∃ fields' : List (Text × Value),
      setEntry (.text name) v (fields.map fun f => (.text f.1, f.2)) = fields'.map (fun f => (.text f.1, f.2)) ∧
      (∀ n, n ∈ fields'.map Prod.fst ↔ n ∈ fields.map Prod.fst ∨ n = name) ∧
      ((fields.map Prod.fst).Nodup → (fields'.map Prod.fst).Nodup) ∧ ∀ f ∈ fields', f ∈ fields ∨ f.2 = v := by
  induction fields with
  | nil => exact ⟨[(name, v)], by simp [setEntry]⟩
  | cons f fields ih =>
    obtain ⟨key, w⟩ := f
    rw [List.map_cons, setEntry]
    by_cases hkey : key = name
    · subst hkey
      rw [if_pos ((equal?_text_iff key _).mpr rfl)]
      refine ⟨(key, v) :: fields, rfl, by simp, id, fun f hf => ?_⟩
      rcases List.mem_cons.mp hf with rfl | hf
      · exact Or.inr rfl
      · exact Or.inl (List.mem_cons_of_mem _ hf)
    · rw [if_neg fun h => hkey (Value.text.inj ((equal?_text_iff key _).mp h)).symm]
      obtain ⟨fields', hset, hnames, hnodup, hvalues⟩ := ih
      refine ⟨(key, w) :: fields', by rw [hset, List.map_cons], fun n => ?_, fun hn => ?_, fun f hf => ?_⟩
      · simp only [List.map_cons, List.mem_cons, hnames n, or_assoc]
      · obtain ⟨hnew, hn⟩ := List.nodup_cons.mp hn
        refine List.nodup_cons.mpr ⟨fun hmem => ?_, hnodup hn⟩
        rcases (hnames key).mp hmem with hold | heq
        · exact hnew hold
        · exact hkey heq
      · rcases List.mem_cons.mp hf with rfl | hf
        · exact Or.inl List.mem_cons_self
        · rcases hvalues f hf with hold | heq
          · exact Or.inl (List.mem_cons_of_mem _ hold)
          · exact Or.inr heq

/-- A plain object stays plain when a plain value is put under a name. -/
theorem Plain.setMember {members : List (Value × Value)} {v : Value} (h : (Value.map members).Plain)
    (hv : v.Plain) (name : Text) : (Value.map (Json.setMember name v members)).Plain := by
  obtain ⟨fields, rfl, hn, hplain⟩ := plain_map_iff.mp h
  obtain ⟨fields', hset, -, hnodup, hvalues⟩ := exists_setEntry name v fields
  refine plain_map_iff.mpr ⟨fields', hset, hnodup hn, fun f hf => ?_⟩
  rcases hvalues f hf with hold | heq
  · exact hplain f hold
  · rw [heq]
    exact hv

end Value

/-! ## The reader -/

namespace Json

theorem plain_takeBare {cs rest : Text} {v : Value} (h : takeBare cs = .ok (v, rest)) : v.Plain := by
  unfold takeBare at h
  split at h
  · cases h
    exact .null
  · cases h
    exact .bool true
  · cases h
    exact .bool false
  · split at h
    · cases h
    · split at h
      · cases h
      · rename_i d hd
        cases h
        unfold Decimal.ofNumeral? Decimal.ofScientific? at hd
        split at hd
        · cases hd
          exact .decimal _ _
        · cases hd

theorem plain_empty : (Value.map []).Plain :=
  Value.plain_map_iff.mpr ⟨[], rfl, List.nodup_nil, List.forall_mem_nil _⟩

mutual

/-- **A value that is read is plain.** -/
theorem plain_takeValue : ∀ (fuel : Nat) {cs rest : Text} {v : Value},
    takeValue fuel cs = .ok (v, rest) → v.Plain
  | 0, _, _, _, h => by cases h
  | fuel + 1, cs, rest, v, h => by
      rw [takeValue.eq_def] at h
      dsimp only at h
      split at h
      · obtain ⟨_, -, ⟨⟩⟩ := map_eq_ok h
        exact .text _
      · split at h
        · cases h
        · cases h
          exact .list (List.forall_mem_nil _)
        · obtain ⟨_, hitems, ⟨⟩⟩ := map_eq_ok h
          exact .list (plain_takeItems fuel hitems)
      · split at h
        · cases h
          exact plain_empty
        · obtain ⟨_, hmembers, ⟨⟩⟩ := map_eq_ok h
          exact plain_takeMembers fuel plain_empty hmembers
        · cases h
      · exact plain_takeBare h

theorem plain_takeItems : ∀ (fuel : Nat) {cs rest : Text} {vs : List Value},
    takeItems fuel cs = .ok (vs, rest) → ∀ v ∈ vs, v.Plain
  | 0, _, _, _, h => by cases h
  | fuel + 1, cs, rest, vs, h => by
      rw [takeItems] at h
      split at h
      · cases h
      · rename_i item rest hitem
        have hfirst : item.Plain := plain_takeValue fuel hitem
        split at h
        · cases h
          exact List.forall_mem_singleton.mpr hfirst
        · split at h
          · cases h
          · obtain ⟨_, hitems, ⟨⟩⟩ := map_eq_ok h
            exact List.forall_mem_cons.mpr ⟨hfirst, plain_takeItems fuel hitems⟩
        · cases h

/-- Members are put among those read before them. -/
theorem plain_takeMembers : ∀ (fuel : Nat) {done entries : List (Value × Value)} {cs rest : Text},
    (Value.map done).Plain → takeMembers fuel done cs = .ok (entries, rest) → (Value.map entries).Plain
  | 0, _, _, _, _, _, h => by cases h
  | fuel + 1, done, entries, cs, rest, hdone, h => by
      rw [takeMembers.eq_def] at h
      dsimp only at h
      split at h
      · split at h
        · cases h
        · rename_i name _ _
          split at h
          · split at h
            · cases h
            · rename_i value _ hvalue
              have hset := hdone.setMember (plain_takeValue fuel hvalue) name
              split at h
              · cases h
                exact hset
              · split at h
                · cases h
                · exact plain_takeMembers fuel hset h
              · cases h
          · cases h
      · cases h

end

/-- **Whatever is read from a text is plain.** -/
theorem plain_of_read {t : Text} {v : Value} (h : read t = .ok v) : v.Plain := by
  unfold read at h
  dsimp only at h
  split at h
  · cases h
  · rename_i value rest hvalue
    split at h
    · cases h
      exact plain_takeValue _ hvalue
    · cases h

end Json

/-! ## Inside a plain value -/

/-- What stands inside a plain value is plain; a missing field counts as null. -/
theorem Value.Plain.at {v y : Value} {l : Location} (h : v.Plain) (hl : v.At l y) : y.Plain := by
  induction hl with
  | here => exact h
  | @field entries name rest y hl ih =>
    refine ih ?_
    obtain ⟨fields, rfl, -, hplain⟩ := plain_map_iff.mp h
    cases hlookup : lookup name (fields.map fun f => (.text f.1, f.2)) with
    | none =>
      rw [fieldOrNull, hlookup]
      exact .null
    | some z =>
      rw [fieldOrNull_of_lookup hlookup]
      obtain ⟨f, hf, heq⟩ := List.mem_map.mp (mem_of_lookup hlookup)
      obtain ⟨-, rfl⟩ := Prod.mk.inj heq
      exact hplain f hf
  | @element x z y xs i rest hx hi hl ih =>
    refine ih ?_
    cases h with
    | list h =>
      cases hx
      exact h z (List.mem_of_getElem? hi)
    | _ => cases hx
  | key hk hl ih =>
    refine ih ?_
    obtain ⟨fields, rfl, -, hplain⟩ := plain_map_iff.mp h
    obtain ⟨f, hf, heq⟩ := List.mem_map.mp hk
    cases heq
    exact hplain f hf

end Intake
