import Intake.Proofs.Number.Scan
import Intake.Proofs.Validation.Outcome
import Intake.Proofs.Value.Collected
import Intake.Proofs.Value.Keys
import Intake.Validation.Scalars

/-! # Containers agree

An array can be read as an array, as a parameter, or as a map of its indices.  The three read the same elements at the
same paths in the same order, so they make the same calls and fail alike, and their results differ in shape only: the
map has the array's results under `0`, `1` and so on (`map_eq_array`).  A value that is no array is a parameter with
this one element, read where it stands (`paramArray_single`).

All this is proved in every lawful monad, hence for whatever a validator does besides returning a result.  Watched
validations are one, and there the equations speak of calls and outcomes (`containers_agree`).  A map of indices has as
many entries as the array has elements, because different indices have different texts (`Value.keysApart_byIndex`).
-/
namespace Intake

/-! ## Items under their indices -/

namespace Value
variable {α : Type}

/-- Items, each under the text of its index. -/
def byIndex (xs : List α) : List (Value × α) := xs.mapIdx fun i x => (.text (toString i), x)

theorem keys_byIndex (xs : List α) :
    (byIndex xs).map Prod.fst = (List.range xs.length).map fun i => .text (toString i) := by
  apply List.ext_getElem <;> simp [byIndex]

theorem values_byIndex (xs : List α) : (byIndex xs).map Prod.snd = xs := by
  apply List.ext_getElem <;> simp [byIndex]

theorem keysApart_byIndex (xs : List α) : KeysApart (byIndex xs) := by
  rw [KeysApart, keys_byIndex, List.pairwise_map]
  refine List.pairwise_lt_range.imp ?_
  intro i j hij hequal
  have htext : toString j = toString i := Text.ofString_inj.mp (Value.text.inj ((equal?_text_iff _ _).mp hequal))
  have hji := Numeral.eq_of_toString_eq htext
  omega

end Value

/-! ## In any monad -/

namespace Validator

theorem numbered_eq (i : Nat) (xs : List Value) :
    numbered i xs = xs.mapIdx fun j x => (.text (toString (i + j)), x) := by
  induction xs generalizing i with
  | nil => rfl
  | cons x xs ih =>
    rw [numbered, ih, List.mapIdx_cons]
    simp only [Nat.add_zero, Nat.add_right_comm, Nat.add_assoc]

theorem numbered_zero (xs : List Value) : numbered 0 xs = Value.byIndex xs := by
  simp only [numbered_eq, Nat.zero_add, Value.byIndex]

theorem entries?_of_elements? {x : Value} {xs : List Value} (h : x.elements? = some xs) :
    entries? x = some (Value.byIndex xs) := by
  rw [← numbered_zero]
  cases x with
  | list | tuple =>
    cases h
    rfl
  | _ => cases h

section Monadic
variable {m : Type → Type} [Monad m] {α : Type} (v : Validator m α) (path : Path)

/-- Entries under indices are read as the elements are. -/
theorem readEntries_numbered [LawfulMonad m] (i : Nat) (xs : List Value) : readEntries v path (numbered i xs) =
    (fun ys => ys.mapIdx fun j y => (.text (toString (i + j)), y)) <$> readItems v path i xs := by
  induction xs generalizing i with
  | nil => simp [numbered, readEntries, readItems]
  | cons x xs ih =>
    rw [numbered, readEntries, ih, readItems]
    simp [Value.display, Nat.add_right_comm, Nat.add_assoc]

theorem readEntries_byIndex [LawfulMonad m] (xs : List Value) :
    readEntries v path (Value.byIndex xs) = Value.byIndex <$> readItems v path 0 xs := by
  rw [← numbered_zero, readEntries_numbered]
  simp only [Nat.zero_add]
  rfl

variable {x : Value} {xs : List Value}

theorem paramArray_single [LawfulMonad m] (h : x.elements? = none) :
    paramArray v x path = (fun y => [y]) <$> v x path := by
  unfold paramArray
  rw [h]
  exact bind_pure_comp _ _

variable [MonadExceptOf Fault m]

theorem paramArray_eq_array (h : x.elements? = some xs) : paramArray v x path = array v x path := by
  unfold paramArray array
  rw [h]

/-- An array is read as the map of its indices. -/
theorem map_eq_map_byIndex (h : x.elements? = some xs) : map v x path = map v (.map (Value.byIndex xs)) path := by
  have hmap : entries? (.map (Value.byIndex xs)) = some (Value.byIndex xs) := rfl
  unfold map
  rw [entries?_of_elements? h, hmap]

/-- **The map of an array's indices has the array's results, under the same indices.** -/
theorem map_eq_array [LawfulMonad m] (h : x.elements? = some xs) : map v x path = Value.byIndex <$> array v x path := by
  -- No index is there twice, so collecting the entries drops none.
  have hcollect : ∀ ys : List α, Value.collect (Value.byIndex ys) = Value.byIndex ys :=
    fun ys => (Value.keysApart_byIndex ys).collect_eq
  unfold map array
  rw [entries?_of_elements? h, h]
  dsimp only
  rw [readEntries_byIndex, bind_map_left]
  simp only [hcollect]
  exact bind_pure_comp _ _

end Monadic

end Validator

/-! ## Watched validations -/

namespace Watched
variable {α β : Type}

instance : LawfulMonad Watched := by
  refine LawfulMonad.mk' Watched ?_ (fun _ _ => rfl) ?_
  · rintro α ⟨calls, _ | a⟩
    · rfl
    · exact congrArg (Watched.mk · (.ok a)) (List.append_nil calls)
  · rintro α β γ ⟨calls, _ | a⟩ f g
    · rfl
    · show Watched.bind (Watched.bind ⟨calls, .ok a⟩ f) g = Watched.bind ⟨calls, .ok a⟩ fun a => Watched.bind (f a) g
      unfold Watched.bind
      dsimp only
      cases (f a).outcome with
      | error fault => rfl
      | ok b => simp only [List.append_assoc]

@[simp] theorem calls_functorMap (f : α → β) (w : Watched α) : (f <$> w).calls = w.calls := by
  obtain ⟨calls, _ | a⟩ := w
  · rfl
  · exact List.append_nil calls

@[simp] theorem outcome_functorMap (f : α → β) (w : Watched α) : (f <$> w).outcome = w.outcome.map f := by
  obtain ⟨calls, _ | a⟩ := w <;> rfl

end Watched

namespace Validator
variable {α : Type}

/-- An array has a result for each element. -/
theorem length_of_array {v : Validator Checked α} {x : Value} {xs : List Value} {path : Path} {ys : List α}
    (hx : x.elements? = some xs) (h : array v x path = .ok ys) : ys.length = xs.length := by
  unfold array at h
  rw [hx] at h
  exact (results_of_readItems h).length_eq.symm

open Watched

/-- **Containers agree.**  An array read as a map makes the calls of the map of its indices and has its outcome, and
both are those of the array: the same calls, the same fault, and the same results in order, none lost and each under its
index.  Read as a parameter, an array is an array, and any other value is its one element. -/
theorem containers_agree (v : Validator Watched α) (x : Value) (path : Path) :
    (∀ xs, x.elements? = some xs →
      map (called v) x path = map (called v) (.map (Value.byIndex xs)) path ∧
      (map (called v) x path).calls = (array (called v) x path).calls ∧
      (map (called v) x path).outcome.map (List.map Prod.snd) = (array (called v) x path).outcome ∧
      (∀ results, (map (called v) x path).outcome = .ok results →
        results.map Prod.fst = (Value.byIndex xs).map Prod.fst) ∧
      paramArray (called v) x path = array (called v) x path) ∧
    (x.elements? = none →
      (paramArray (called v) x path).calls = (x, path) :: (v x path).calls ∧
      (∀ y, (paramArray (called v) x path).outcome = .ok [y] ↔ (v x path).outcome = .ok y) ∧
      ∀ fault, (paramArray (called v) x path).outcome = .error fault ↔ (v x path).outcome = .error fault) := by
  constructor
  · intro xs hx
    have hmap := map_eq_array (called v) path hx
    refine ⟨map_eq_map_byIndex _ path hx, ?_, ?_, ?_, paramArray_eq_array _ path hx⟩
    · rw [hmap, calls_functorMap]
    · rw [hmap, outcome_functorMap]
      cases (array (called v) x path).outcome with
      | error fault => rfl
      | ok ys => exact congrArg Except.ok (Value.values_byIndex ys)
    · intro results hresults
      rw [hmap, outcome_functorMap] at hresults
      obtain ⟨ys, hys, rfl⟩ := Checked.map_eq_ok hresults
      rw [outcome_array] at hys
      rw [Value.keys_byIndex, Value.keys_byIndex, length_of_array hx hys]
  · intro hx
    have hparam := paramArray_single (called v) path hx
    have houtcome : (called v x path).outcome = (v x path).outcome := rfl
    refine ⟨?_, fun y => ?_, fun fault => ?_⟩
    · rw [hparam, calls_functorMap]
      rfl
    · rw [hparam, outcome_functorMap, houtcome]
      cases (v x path).outcome <;> simp [Except.map]
    · rw [hparam, outcome_functorMap, houtcome, Checked.map_eq_error_iff]

/-- The second element fails, so the third one is not read; a number is the one element of a parameter. -/
theorem containers_agree_tuple :
    let v : Validator Watched Decimal := Watched.leaf number
    let one : Decimal := .finite ⟨false, 1, 0⟩ (by decide)
    let xs : List Value := [.decimal one, .text "a", .null]
    let path : Path := ⟨["q"]⟩
    (Value.tuple xs).elements? = some xs ∧ (Value.decimal one).elements? = none ∧
      (array (called v) (.tuple xs) path).calls = [(.decimal one, ⟨["q[0]"]⟩), (.text "a", ⟨["q[1]"]⟩)] ∧
      (map (called v) (.tuple xs) path).calls = (array (called v) (.tuple xs) path).calls ∧
      map (called v) (.tuple xs) path =
        map (called v) (.map [(.text "0", .decimal one), (.text "1", .text "a"), (.text "2", .null)]) path ∧
      (paramArray (called v) (.decimal one) path).outcome = .ok [one] := by
  intro v one xs path
  obtain ⟨hentries, hcalls, -⟩ := (containers_agree v (.tuple xs) path).1 xs rfl
  obtain ⟨-, hone, -⟩ := (containers_agree v (.decimal one) path).2 rfl
  rw [← numbered_zero] at hentries
  exact ⟨rfl, rfl, rfl, hcalls, hentries, (hone one).mpr rfl⟩

end Validator

end Intake
