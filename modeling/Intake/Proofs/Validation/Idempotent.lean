import Intake.Proofs.Validation.Context
import Intake.Proofs.Validation.WholeNumber

/-! # Validating twice

A validator that parses nothing returns what it is given, or fills in what is missing; a container may change its shape,
from a tuple to a list, from an array to a map, from a single value to a list.  What comes out has its final shape, and
validating it again changes nothing (`validate_idempotent`).

A value that a validator returns unchanged at every path is kept by it (`Validator.Keeps`), and a validator settles when
it keeps all its results (`Validator.Settles`).  Containers of a settling validator settle: their results are lists and
maps of results, which the second run reads as such and finds kept element by element.  Keys are no matter, since a map
that was collected is collected as it is.
-/
namespace Intake

namespace Validator
variable {v : Validator Checked Value} {x y : Value} {path : Path}

/-- The value is returned as it is, wherever it is read. -/
def Keeps (v : Validator Checked Value) (y : Value) : Prop := ∀ path, v y path = .ok y

/-- Every result is kept. -/
def Settles (v : Validator Checked Value) : Prop := ∀ x path y, v x path = .ok y → v.Keeps y

theorem ContextFree.keeps (hv : v.ContextFree) (h : v y path = .ok y) : v.Keeps y := by
  intro path'
  obtain ⟨o, ho⟩ := hv y
  rw [ho path] at h
  cases o with
  | error f => cases h
  | ok z => exact (ho path').trans h

/-! ## Elements and entries -/

theorem readItems_keeps {ys : List Value} (h : ∀ y ∈ ys, v.Keeps y) (path : Path) (i : Nat) :
    readItems v path i ys = .ok ys :=
  readItems_of_results (List.forall₂_same.mpr h) path i

theorem readEntries_keeps {entries : List (Value × Value)} (h : ∀ e ∈ entries, v.Keeps e.2) (path : Path) :
    readEntries v path entries = .ok entries := by
  rw [readEntries_eq_ok_iff, List.forall₂_same]
  exact fun e he => ⟨rfl, h e he _⟩

/-- Every element of the result is a result. -/
theorem Settles.keeps_of_readItems (hv : v.Settles) {i : Nat} {xs ys : List Value}
    (h : readItems v path i xs = .ok ys) : ∀ y ∈ ys, v.Keeps y := by
  have hread := results_of_readItems h
  clear h
  induction hread with
  | nil => exact nofun
  | cons hhead _ ih =>
    obtain ⟨path', hx⟩ := hhead
    exact List.forall_mem_cons.mpr ⟨hv _ _ _ hx, ih⟩

theorem Settles.keeps_of_readEntries (hv : v.Settles) {entries results : List (Value × Value)}
    (h : readEntries v path entries = .ok results) : ∀ e ∈ results, v.Keeps e.2 := by
  have hread := readEntries_eq_ok_iff.mp h
  clear h
  induction hread with
  | nil => exact nofun
  | cons hhead _ ih => exact List.forall_mem_cons.mpr ⟨hv _ _ _ hhead.2, ih⟩

/-! ## Containers -/

theorem array_list (ys : List Value) (path : Path) : array v (.list ys) path = readItems v path 0 ys := rfl

theorem paramArray_list (ys : List Value) (path : Path) : paramArray v (.list ys) path = readItems v path 0 ys := rfl

theorem Settles.keeps_of_array (hv : v.Settles) {ys : List Value} (h : array v x path = .ok ys) :
    ∀ y ∈ ys, v.Keeps y := by
  unfold array at h
  split at h
  · exact hv.keeps_of_readItems h
  · cases h

theorem Settles.keeps_of_paramArray (hv : v.Settles) {ys : List Value} (h : paramArray v x path = .ok ys) :
    ∀ y ∈ ys, v.Keeps y := by
  unfold paramArray at h
  split at h
  · exact hv.keeps_of_readItems h
  · -- A single value is the one element of the result.
    obtain ⟨y, hy, h⟩ := Checked.bind_eq_ok h
    cases h
    intro z hz
    rw [List.mem_singleton.mp hz]
    exact hv x path y hy

/-- The result of a map is a map again: its values are kept, and no key equals one before it. -/
theorem Settles.keeps_of_map (hv : v.Settles) {results : List (Value × Value)} (h : map v x path = .ok results) :
    (∀ e ∈ results, v.Keeps e.2) ∧ Value.KeysApart results := by
  unfold map at h
  split at h
  · obtain ⟨entries, hentries, h⟩ := Checked.bind_eq_ok h
    cases h
    refine ⟨fun e he => ?_, Value.keysApart_collect entries⟩
    obtain ⟨f, hf, hvalue⟩ := Value.mem_collect he
    rw [← hvalue]
    exact hv.keeps_of_readEntries hentries f hf
  · cases h

theorem map_keeps {entries : List (Value × Value)} (h : ∀ e ∈ entries, v.Keeps e.2)
    (hapart : Value.KeysApart entries) (path : Path) : map v (.map entries) path = .ok entries :=
  (map_eq_ok_iff rfl hapart).mpr (readEntries_keeps h path)

theorem Settles.keeps_of_optional (hv : v.Settles) {result : Option Value} (h : optional v x path = .ok result)
    (path' : Path) : (optional v (result.getD .null) path').map (·.getD .null) = .ok (result.getD .null) := by
  unfold optional at h
  split at h
  · cases h
    rfl
  · obtain ⟨y, hy, h⟩ := Checked.bind_eq_ok h
    cases h
    -- Null may be a result of the validator itself; then the second run does not ask it again.
    cases y with
    | null => rfl
    | _ =>
      unfold optional
      dsimp only [Option.getD_some]
      rw [hv _ _ _ hy path']
      rfl

/-! ## Single values -/

theorem oneOf_eq_ok {values : List Value} (h : oneOf values x path = .ok y) : y = x := by
  unfold oneOf at h
  split at h
  · cases h
  · exact (Except.ok.inj h).symm
  · split at h <;> cases h

theorem ofKind_eq_ok {test : KindTest} (h : ofKind test x path = .ok y) : y = x := by
  unfold ofKind at h
  split at h
  · exact (Except.ok.inj h).symm
  · cases h

end Validator

namespace Spec

open Validator

variable {x y : Value} {path : Path}

/-- Nothing is parsed: truth values, numbers, texts, listed values and values of a kind, in any containers. -/
inductive ParseFree : Spec → Prop where
  | boolean (default : Option Bool) : ParseFree (.boolean default)
  | number : ParseFree .number
  | integer : ParseFree .integer
  | string (min max : Option Int) (email : Bool) : ParseFree (.string min max email)
  | oneOf (values : List Value) : ParseFree (.oneOf values)
  | ofKind (test : KindTest) : ParseFree (.ofKind test)
  | identity : ParseFree .identity
  | optional {inner : Spec} (h : ParseFree inner) : ParseFree (.optional inner)
  | array {inner : Spec} (h : ParseFree inner) : ParseFree (.array inner)
  | paramArray {inner : Spec} (h : ParseFree inner) : ParseFree (.paramArray inner)
  | map {inner : Spec} (h : ParseFree inner) : ParseFree (.map inner)

/-- A validator that returns nothing but what it was given settles. -/
theorem settles_of_unchanged {s : Spec} (h : ∀ x path y, s.validate x path = .ok y → y = x) : s.validate.Settles := by
  intro x path y hy
  have hyx := h x path y hy
  subst hyx
  exact s.contextFree.keeps hy

/-- **What parses nothing settles.** -/
theorem ParseFree.settles {s : Spec} (hs : s.ParseFree) : s.validate.Settles := by
  induction hs with
  | boolean default =>
    intro x path y h path'
    obtain ⟨b, -, rfl⟩ := Checked.map_eq_ok h
    rfl
  | number =>
    refine settles_of_unchanged fun x path y h => ?_
    obtain ⟨d, hd, rfl⟩ := Checked.map_eq_ok h
    exact (number_eq_ok_iff.mp hd).1.symm
  | integer =>
    refine settles_of_unchanged fun x path y h => ?_
    obtain ⟨d, hd, rfl⟩ := Checked.map_eq_ok h
    obtain ⟨z, hz, hx, -, rfl⟩ := integer_eq_ok_iff.mp hd
    exact hx.symm
  | string min max email =>
    refine settles_of_unchanged fun x path y h => ?_
    obtain ⟨s, hs, rfl⟩ := Checked.map_eq_ok h
    exact (string_eq_ok hs).symm
  | oneOf values =>
    refine settles_of_unchanged fun x path y h => ?_
    obtain ⟨z, hz, rfl⟩ := Checked.map_eq_ok h
    exact oneOf_eq_ok hz
  | ofKind test =>
    refine settles_of_unchanged fun x path y h => ?_
    obtain ⟨z, hz, rfl⟩ := Checked.map_eq_ok h
    exact ofKind_eq_ok hz
  | identity => exact settles_of_unchanged fun x path y h => (Except.ok.inj h).symm
  | optional _ ih =>
    intro x path y h path'
    rw [validate_optional] at h ⊢
    obtain ⟨result, hresult, rfl⟩ := Checked.map_eq_ok h
    exact ih.keeps_of_optional hresult path'
  | array _ ih =>
    intro x path y h path'
    rw [validate_array] at h ⊢
    obtain ⟨ys, hys, rfl⟩ := Checked.map_eq_ok h
    rw [array_list, readItems_keeps (ih.keeps_of_array hys)]
    rfl
  | paramArray _ ih =>
    intro x path y h path'
    rw [validate_paramArray] at h ⊢
    obtain ⟨ys, hys, rfl⟩ := Checked.map_eq_ok h
    rw [paramArray_list, readItems_keeps (ih.keeps_of_paramArray hys)]
    rfl
  | map _ ih =>
    intro x path y h path'
    rw [validate_map] at h ⊢
    obtain ⟨results, hresults, rfl⟩ := Checked.map_eq_ok h
    obtain ⟨hkept, hapart⟩ := ih.keeps_of_map hresults
    rw [map_keeps hkept hapart]
    rfl

/-- **Validating a result returns it.**  Whatever a specification that parses nothing returns for a value, it returns for
this result again, in every context. -/
theorem validate_idempotent {s : Spec} (hs : s.ParseFree) {x y : Value} {path : Path}
    (h : s.validate x path = .ok y) (path' : Path) : s.validate y path' = .ok y :=
  hs.settles x path y h path'

/-- A tuple becomes a map, its elements become lists, and null becomes the default. -/
theorem validate_idempotent_tuple :
    let s : Spec := .map (.paramArray (.boolean (some true)))
    let x : Value := .tuple [.null, .tuple [.bool false, .null]]
    let y : Value := .map [(.text "0", .list [.bool true]), (.text "1", .list [.bool false, .bool true])]
    s.ParseFree ∧ s.validate x ⟨["flags"]⟩ = .ok y ∧ s.validate y ⟨[]⟩ = .ok y := by
  intro s x y
  have hs : s.ParseFree := .map (.paramArray (.boolean (some true)))
  have h : s.validate x ⟨["flags"]⟩ = .ok y := by rfl
  exact ⟨hs, h, validate_idempotent hs h ⟨[]⟩⟩

end Spec

end Intake
