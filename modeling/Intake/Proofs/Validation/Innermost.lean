import Intake.Proofs.Validation.Outcome
import Intake.Proofs.Value.Location

/-! # Where a validation fails

A container validator fails by itself, on a value of the wrong kind, or with the fault of the validator for what it
contains (`Validator.FailsThrough`).  The latter reads a value at some location, at the path of that location, and
its fault is passed on unchanged.  Since containers may be nested, a specification has one innermost validator that
is no container, and all other faults than rejections for the kind of a container are its own
(`Spec.failsThrough_innermost`).
-/
namespace Intake

/-! ## Locations one behind the other -/

theorem Value.At.trans {x y z : Value} {l m : Location} (h : x.At l y) (hz : y.At m z) : x.At (l ++ m) z := by
  induction h with
  | here => exact hz
  | field _ ih => exact .field (ih hz)
  | element hx hi _ ih => exact .element hx hi (ih hz)
  | key hk _ ih => exact .key hk (ih hz)

theorem Path.along_append (p : Path) (l m : Location) : p.along (l ++ m) = (p.along l).along m :=
  List.foldl_append

namespace Validator
variable {α β γ : Type}

/-- The fault of one validator is a rejection for the kind of a value, or the fault of another validator.  Either is
about a value at a location, and comes with the path of that location. -/
def FailsThrough (c : Validator Checked β) (v : Validator Checked α) : Prop :=
  ∀ x path fault, c x path = .error fault → ∃ l y, x.At l y ∧
    ((∃ expected, fault = unexpected expected y (path.along l)) ∨ v y (path.along l) = .error fault)

theorem FailsThrough.refl (v : Validator Checked α) : v.FailsThrough v :=
  fun x _ _ h => ⟨[], x, .here x, Or.inr h⟩

theorem FailsThrough.trans {c : Validator Checked β} {v : Validator Checked α} {w : Validator Checked γ}
    (hc : c.FailsThrough v) (hv : v.FailsThrough w) : c.FailsThrough w := by
  intro x path fault h
  obtain ⟨l, y, hl, hown | hinner⟩ := hc x path fault h
  · exact ⟨l, y, hl, Or.inl hown⟩
  · obtain ⟨m, z, hm, hz⟩ := hv y _ fault hinner
    refine ⟨l ++ m, z, hl.trans hm, ?_⟩
    rw [Path.along_append]
    exact hz

variable (v : Validator Checked α)

theorem failsThrough_optional : (optional v).FailsThrough v := by
  intro x path fault h
  unfold optional at h
  split at h
  · cases h
  · rcases Checked.bind_eq_error h with hx | ⟨y, -, h⟩
    · exact ⟨[], _, .here _, Or.inr hx⟩
    · cases h

/-- An element's fault comes with the path of its index. -/
theorem readItems_fails {x : Value} {path : Path} {fault : Fault} {xs : List Value}
    (hx : x.elements? = some xs) (h : readItems v path 0 xs = .error fault) :
    ∃ l y, x.At l y ∧ v y (path.along l) = .error fault := by
  obtain ⟨j, y, hy, hj⟩ := readItems_error h
  rw [Nat.zero_add] at hj
  exact ⟨[.element j], y, .element hx hy (.here _), hj⟩

theorem failsThrough_array : (array v).FailsThrough v := by
  intro x path fault h
  unfold array at h
  split at h
  · rename_i xs hx
    obtain ⟨l, y, hl, hy⟩ := readItems_fails v hx h
    exact ⟨l, y, hl, Or.inr hy⟩
  · exact ⟨[], x, .here x, Or.inl ⟨_, (Except.error.inj h).symm⟩⟩

theorem failsThrough_paramArray : (paramArray v).FailsThrough v := by
  intro x path fault h
  unfold paramArray at h
  split at h
  · rename_i xs hx
    obtain ⟨l, y, hl, hy⟩ := readItems_fails v hx h
    exact ⟨l, y, hl, Or.inr hy⟩
  · -- A single value is read under the array's own path: no step is added.
    rcases Checked.bind_eq_error h with hx | ⟨y, -, h⟩
    · exact ⟨[], x, .here x, Or.inr hx⟩
    · cases h

/-- The entry of a map is behind its key; that of an array read as a map is the element of its index. -/
theorem exists_at_entry {x k y : Value} {entries : List (Value × Value)} (hx : entries? x = some entries)
    (hk : (k, y) ∈ entries) (path : Path) : ∃ l, x.At l y ∧ path.along l = path.index k.display := by
  unfold entries? at hx
  split at hx
  · cases hx
    exact ⟨[.key k], .key hk (.here y), rfl⟩
  · obtain ⟨xs, hxs, rfl⟩ := Option.map_eq_some_iff.mp hx
    obtain ⟨j, hj, rfl⟩ := mem_numbered hk
    refine ⟨[.element j], .element hxs hj (.here y), ?_⟩
    rw [Nat.zero_add]
    rfl

theorem failsThrough_map : (map v).FailsThrough v := by
  intro x path fault h
  unfold map at h
  split at h
  · rename_i entries hx
    rcases Checked.bind_eq_error h with he | ⟨ys, -, h⟩
    · obtain ⟨k, y, hk, hy⟩ := readEntries_error he
      obtain ⟨l, hl, hpath⟩ := exists_at_entry hx hk path
      rw [← hpath] at hy
      exact ⟨l, y, hl, Or.inr hy⟩
    · cases h
  · exact ⟨[], x, .here x, Or.inl ⟨_, (Except.error.inj h).symm⟩⟩

end Validator

namespace Spec

open Validator

/-- The specification inside all containers. -/
def innermost : Spec → Spec
  | optional inner => inner.innermost
  | array inner => inner.innermost
  | paramArray inner => inner.innermost
  | map inner => inner.innermost
  | s => s

/-- **A specification fails through its innermost one.** -/
theorem failsThrough_innermost (s : Spec) : s.validate.FailsThrough s.innermost.validate := by
  induction s with
  | optional inner ih =>
    intro x path fault h
    rw [validate_optional] at h
    exact (failsThrough_optional inner.validate).trans ih x path fault (Checked.map_eq_error h)
  | array inner ih =>
    intro x path fault h
    rw [validate_array] at h
    exact (failsThrough_array inner.validate).trans ih x path fault (Checked.map_eq_error h)
  | paramArray inner ih =>
    intro x path fault h
    rw [validate_paramArray] at h
    exact (failsThrough_paramArray inner.validate).trans ih x path fault (Checked.map_eq_error h)
  | map inner ih =>
    intro x path fault h
    rw [validate_map] at h
    exact (failsThrough_map inner.validate).trans ih x path fault (Checked.map_eq_error h)
  | _ => exact .refl _

end Spec

end Intake
