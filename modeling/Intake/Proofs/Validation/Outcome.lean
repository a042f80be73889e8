import Intake.Proofs.Value.Collected
import Intake.Validation.Spec
import Mathlib.Data.List.Forall2

/-! # The outcome of a watched validation

`Spec.run` watches the calls that a validation makes; `Spec.validate` keeps the outcome alone.  Taking the
outcome commutes with everything a container validator does — a binding, an element after the other, a call
that is noted — so `Spec.validate` obeys the equations of `Validator.optional`, `array`, `paramArray` and
`map` over the plain `Checked` monad (`Spec.validate_array` and its siblings).  What is proved of a validator
without calls therefore holds of every specification, and only a statement about calls has to look at them.

The second half inverts the two loops.  The fault of a whole is the fault of one element or of one entry, read at
the path that names it.  The results of a whole are those of the elements or entries, one by one and in order
(`Validator.results_of_readItems`, `Validator.readEntries_eq_ok_iff`), and a map keeps all of them
(`Validator.map_eq_ok_iff`).
-/
namespace Intake

/-! ## Results and faults in sequence -/

namespace Checked
variable {α β : Type}

theorem bind_ok (a : α) (f : α → Checked β) : (Except.ok a >>= f : Checked β) = f a := rfl

/-- A sequence fails in its first part, or in its second one on the first part's result. -/
theorem bind_eq_error {a : Checked α} {f : α → Checked β} {fault : Fault}
    (h : a >>= f = .error fault) : a = .error fault ∨ ∃ y, a = .ok y ∧ f y = .error fault := by
  cases a with
  | error fault' =>
    have hf : fault' = fault := Except.error.inj (show (Except.error fault' : Checked β) = _ from h)
    exact Or.inl (congrArg Except.error hf)
  | ok y => exact Or.inr ⟨y, rfl, h⟩

/-- A sequence succeeds by its second part on the first part's result. -/
theorem bind_eq_ok {a : Checked α} {f : α → Checked β} {b : β} (h : a >>= f = .ok b) :
    ∃ y, a = .ok y ∧ f y = .ok b := by
  cases a with
  | error fault => cases h
  | ok y => exact ⟨y, rfl, h⟩

theorem map_eq_error {a : Checked α} {f : α → β} {fault : Fault} (h : a.map f = .error fault) :
    a = .error fault := by
  cases a with
  | error fault' =>
    have hf : fault' = fault := Except.error.inj (show (Except.error fault' : Checked β) = _ from h)
    exact congrArg Except.error hf
  | ok y => cases h

theorem map_eq_error_iff {a : Checked α} {f : α → β} {fault : Fault} :
    a.map f = .error fault ↔ a = .error fault :=
  ⟨map_eq_error, fun h => h ▸ rfl⟩

theorem map_eq_ok {a : Checked α} {f : α → β} {b : β} (h : a.map f = .ok b) :
    ∃ y, a = .ok y ∧ f y = b := by
  cases a with
  | error fault => cases h
  | ok y => exact ⟨y, rfl, Except.ok.inj h⟩

end Checked

/-! ## Outcomes -/

namespace Watched
variable {α β : Type}

@[simp] theorem outcome_bind (w : Watched α) (f : α → Watched β) :
    (w >>= f).outcome = w.outcome >>= fun a => (f a).outcome := by
  show (Watched.bind w f).outcome = _
  unfold Watched.bind
  cases w.outcome <;> rfl

/-- A watched validator without its calls. -/
def forget (v : Validator Watched α) : Validator Checked α := fun x path => (v x path).outcome

@[simp] theorem forget_called (v : Validator Watched α) : forget (called v) = forget v := rfl

theorem outcome_optional (v : Validator Watched α) (x : Value) (path : Path) :
    (Validator.optional v x path).outcome = Validator.optional (forget v) x path := by
  cases x with
  | null => rfl
  | _ => exact outcome_bind _ _

theorem outcome_readItems (v : Validator Watched α) (path : Path) (i : Nat) (xs : List Value) :
    (Validator.readItems v path i xs).outcome = Validator.readItems (forget v) path i xs := by
  induction xs generalizing i with
  | nil => rfl
  | cons x xs ih =>
    rw [Validator.readItems, Validator.readItems, outcome_bind]
    refine congrArg _ (funext fun y => ?_)
    rw [outcome_bind, ih]
    rfl

theorem outcome_readEntries (v : Validator Watched α) (path : Path) (entries : List (Value × Value)) :
    (Validator.readEntries v path entries).outcome = Validator.readEntries (forget v) path entries := by
  induction entries with
  | nil => rfl
  | cons e entries ih =>
    rw [Validator.readEntries, Validator.readEntries, outcome_bind]
    refine congrArg _ (funext fun y => ?_)
    rw [outcome_bind, ih]
    rfl

theorem outcome_array (v : Validator Watched α) (x : Value) (path : Path) :
    (Validator.array v x path).outcome = Validator.array (forget v) x path := by
  unfold Validator.array
  cases x.elements? with
  | none => rfl
  | some xs => exact outcome_readItems v path 0 xs

theorem outcome_paramArray (v : Validator Watched α) (x : Value) (path : Path) :
    (Validator.paramArray v x path).outcome = Validator.paramArray (forget v) x path := by
  unfold Validator.paramArray
  cases x.elements? with
  | none => exact outcome_bind _ _
  | some xs => exact outcome_readItems v path 0 xs

theorem outcome_map (v : Validator Watched α) (x : Value) (path : Path) :
    (Validator.map v x path).outcome = Validator.map (forget v) x path := by
  unfold Validator.map
  cases Validator.entries? x with
  | none => rfl
  | some entries =>
    show (Validator.readEntries v path entries >>= _).outcome = _
    rw [outcome_bind, outcome_readEntries v path entries]
    rfl

end Watched

/-! ## Specifications without their calls -/

namespace Spec
variable (inner : Spec) (x : Value) (path : Path)

theorem validate_leaf {α : Type} (toValue : α → Value) (v : Validator Checked α) :
    (leaf toValue v x path).outcome = (v x path).map toValue := rfl

theorem validate_optional : (optional inner).validate x path =
    (Validator.optional inner.validate x path).map (·.getD .null) := by
  show (Validator.optional (Watched.called inner.run) x path >>= _).outcome = _
  rw [Watched.outcome_bind, Watched.outcome_optional, Watched.forget_called]
  rfl

theorem validate_array :
    (array inner).validate x path = (Validator.array inner.validate x path).map .list := by
  show (Validator.array (Watched.called inner.run) x path >>= _).outcome = _
  rw [Watched.outcome_bind, Watched.outcome_array, Watched.forget_called]
  rfl

theorem validate_paramArray :
    (paramArray inner).validate x path = (Validator.paramArray inner.validate x path).map .list := by
  show (Validator.paramArray (Watched.called inner.run) x path >>= _).outcome = _
  rw [Watched.outcome_bind, Watched.outcome_paramArray, Watched.forget_called]
  rfl

theorem validate_map :
    (map inner).validate x path = (Validator.map inner.validate x path).map .map := by
  show (Validator.map (Watched.called inner.run) x path >>= _).outcome = _
  rw [Watched.outcome_bind, Watched.outcome_map, Watched.forget_called]
  rfl

end Spec

/-! ## Failures of the two loops -/

namespace Validator
variable {α : Type} {v : Validator Checked α} {path : Path} {fault : Fault}

/-- The fault of a sequence of elements is that of one of them, at the path of its index. -/
theorem readItems_error {i : Nat} {xs : List Value} (h : readItems v path i xs = .error fault) :
    ∃ j x, xs[j]? = some x ∧ v x (path.index (toString (i + j))) = .error fault := by
  induction xs generalizing i with
  | nil => cases h
  | cons x xs ih =>
    rcases Checked.bind_eq_error h with hx | ⟨y, -, h⟩
    · exact ⟨0, x, rfl, hx⟩
    · rcases Checked.bind_eq_error h with hxs | ⟨ys, -, h⟩
      · obtain ⟨j, z, hz, hv⟩ := ih hxs
        refine ⟨j + 1, z, hz, ?_⟩
        rwa [show i + (j + 1) = i + 1 + j by omega]
      · cases h

/-- The fault of a map's entries is that of one of them, at the path of its key. -/
theorem readEntries_error {entries : List (Value × Value)}
    (h : readEntries v path entries = .error fault) :
    ∃ k x, (k, x) ∈ entries ∧ v x (path.index k.display) = .error fault := by
  induction entries with
  | nil => cases h
  | cons e entries ih =>
    rcases Checked.bind_eq_error h with hx | ⟨y, -, h⟩
    · exact ⟨e.1, e.2, List.mem_cons_self, hx⟩
    · rcases Checked.bind_eq_error h with hentries | ⟨ys, -, h⟩
      · obtain ⟨k, z, hz, hv⟩ := ih hentries
        exact ⟨k, z, List.mem_cons_of_mem _ hz, hv⟩
      · cases h

/-- The entries that an array is read as are its elements, each under the text of its index. -/
theorem mem_numbered {i : Nat} {xs : List Value} {k x : Value} (h : (k, x) ∈ numbered i xs) :
    ∃ j, xs[j]? = some x ∧ k = .text (toString (i + j)) := by
  induction xs generalizing i with
  | nil => cases h
  | cons y xs ih =>
    rcases List.mem_cons.mp h with h | h
    · obtain ⟨rfl, rfl⟩ := Prod.mk.inj h
      exact ⟨0, rfl, rfl⟩
    · obtain ⟨j, hx, rfl⟩ := ih h
      refine ⟨j + 1, hx, ?_⟩
      rw [show i + (j + 1) = i + 1 + j by omega]

/-! ## Results of the two loops -/

/-- Each result is that of its element, wherever this one was read. -/
theorem results_of_readItems {i : Nat} {xs : List Value} {ys : List α} (h : readItems v path i xs = .ok ys) :
    List.Forall₂ (fun x y => ∃ path', v x path' = .ok y) xs ys := by
  induction xs generalizing i ys with
  | nil =>
    cases h
    exact .nil
  | cons x xs ih =>
    obtain ⟨y, hy, h⟩ := Checked.bind_eq_ok h
    obtain ⟨rest, hrest, h⟩ := Checked.bind_eq_ok h
    cases h
    exact .cons ⟨_, hy⟩ (ih hrest)

/-- Elements that are read at every path are read in sequence. -/
theorem readItems_of_results {xs : List Value} {ys : List α}
    (h : List.Forall₂ (fun x y => ∀ path', v x path' = .ok y) xs ys) (path : Path) (i : Nat) :
    readItems v path i xs = .ok ys := by
  induction h generalizing i with
  | nil => rfl
  | cons hhead _ ih =>
    rw [readItems, hhead, Checked.bind_ok, ih]
    rfl

variable {entries : List (Value × Value)} {results : List (Value × α)}

/-- The entry's value is read as the result's, under the same key. -/
def ReadsEntry (v : Validator Checked α) (path : Path) (e : Value × Value) (r : Value × α) : Prop :=
  e.1 = r.1 ∧ v e.2 (path.index e.1.display) = .ok r.2

theorem readEntries_eq_ok_iff :
    readEntries v path entries = .ok results ↔ List.Forall₂ (ReadsEntry v path) entries results := by
  induction entries generalizing results with
  | nil =>
    rw [List.forall₂_nil_left_iff]
    exact ⟨fun h => (Except.ok.inj h).symm, fun h => congrArg Except.ok h.symm⟩
  | cons e entries ih =>
    obtain ⟨k, x⟩ := e
    rw [List.forall₂_cons_left_iff]
    constructor
    · intro h
      obtain ⟨y, hy, h⟩ := Checked.bind_eq_ok h
      obtain ⟨rest, hrest, h⟩ := Checked.bind_eq_ok h
      exact ⟨(k, y), rest, ⟨rfl, hy⟩, ih.mp hrest, (Except.ok.inj h).symm⟩
    · rintro ⟨⟨_, y⟩, rest, ⟨rfl, hy⟩, hrest, rfl⟩
      rw [readEntries, hy, Checked.bind_ok, ih.mpr hrest]
      rfl

theorem keys_of_readEntries (h : readEntries v path entries = .ok results) :
    results.map Prod.fst = entries.map Prod.fst := by
  have hread := readEntries_eq_ok_iff.mp h
  clear h
  induction hread with
  | nil => rfl
  | cons hhead _ ih => rw [List.map_cons, List.map_cons, hhead.1, ih]

/-- A map's entries are read, and all results are kept. -/
theorem map_eq_ok_iff {x : Value} (hx : entries? x = some entries) (hapart : Value.KeysApart entries) :
    map v x path = .ok results ↔ readEntries v path entries = .ok results := by
  have hcollect : ∀ rs, readEntries v path entries = .ok rs → Value.collect rs = rs := by
    intro rs hrs
    have hkeys : Value.KeysApart rs := by
      rwa [Value.KeysApart, keys_of_readEntries hrs]
    exact hkeys.collect_eq
  unfold map
  rw [hx]
  dsimp only
  cases hread : readEntries v path entries with
  | error fault => constructor <;> (intro h; cases h)
  | ok rs =>
    rw [Checked.bind_ok, hcollect rs hread]
    rfl

end Validator

end Intake
