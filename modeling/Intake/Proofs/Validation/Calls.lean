import Intake.Proofs.Validation.Containers

/-! # The calls of a nested validation

A specification selects places in a value: a container hands on some values to the validator inside it, each with its
path (`Spec.handsOn`), this one may be a container again, and so on.  Listed in document order, each call in front of
the calls inside it, these are all the calls there could be (`Spec.preorder`).  The list is made without running
anything.

A validation makes these calls one after the other until one fails by itself.  What a validator finds by itself, without
calling another one, is little for a container: that the value has the wrong kind.  For any other validator it is all
that it finds (`Spec.ownCheck`).  So a validation without its result is nothing but a walk through the list, a check
at each call (`Spec.runsThrough`), and the walk ends behind the first check that fails (`Call.walk_cases`).
Hence `calls_in_document_order`: fail-fast on all levels at once.

No call is made twice.  Two calls may well be alike, on one value at one path, as where one optional value is inside
another; but each call has a trail of its own, the numbers of the calls it is inside, and along the list the trails
grow.
-/
namespace Intake

/-- A call of a validator. -/
structure Call where
  /-- The way to the call: on each level, the number of the call there that it is inside or that it is. -/
  trail : List Nat
  /-- The validator that is called. -/
  spec : Spec
  value : Value
  path : Path

namespace Call

/-- What a watched validation notes of a call. -/
def argument (c : Call) : Value × Path := (c.value, c.path)

/-- The call as it is seen from the call of a container that it is inside. -/
def within (i : Nat) (c : Call) : Call := { c with trail := i :: c.trail }

/-- Calls of one validator, numbered from some number on, each in front of the calls inside it. -/
def inOrder (s : Spec) (inside : Value → Path → List Call) (i : Nat) : List (Value × Path) → List Call
  | [] => []
  | (x, path) :: rest => (⟨[], s, x, path⟩ :: inside x path).map (within i) ++ inOrder s inside (i + 1) rest

end Call

/-- The elements of an array, each at the path of its index. -/
def elementsAt (path : Path) (xs : List Value) : List (Value × Path) :=
  xs.mapIdx fun i x => (x, path.index (toString i))

/-- The values of a map's entries, each at the path of its key. -/
def entriesAt (path : Path) (entries : List (Value × Value)) : List (Value × Path) :=
  entries.map fun (k, x) => (x, path.index k.display)

namespace Spec

/-- What a container hands on to the validator inside it: values with their paths, in order. -/
def handsOn : Spec → Value → Path → List (Value × Path)
  | optional _, x, path => if x.isNull then [] else [(x, path)]
  | array _, x, path => elementsAt path (x.elements?.getD [])
  | paramArray _, x, path =>
    match x.elements? with
    | some xs => elementsAt path xs
    | none => [(x, path)]
  | map _, x, path => entriesAt path ((Validator.entries? x).getD [])
  | _, _, _ => []

/-- The calls inside a call of the validator, in document order. -/
def selected : Spec → Value → Path → List Call
  | optional inner, x, path => Call.inOrder inner inner.selected 0 ((optional inner).handsOn x path)
  | array inner, x, path => Call.inOrder inner inner.selected 0 ((array inner).handsOn x path)
  | paramArray inner, x, path => Call.inOrder inner inner.selected 0 ((paramArray inner).handsOn x path)
  | map inner, x, path => Call.inOrder inner inner.selected 0 ((map inner).handsOn x path)
  | _, _, _ => []

/-- A call of the validator, and the calls inside it. -/
def preorder (s : Spec) (x : Value) (path : Path) : List Call := ⟨[], s, x, path⟩ :: s.selected x path

/-- What a validator checks by itself, calling no other: of a container the kind of the value, otherwise everything. -/
def ownCheck : Spec → Value → Path → Checked Unit
  | optional _, _, _ => .ok ()
  | array _, x, path => if x.elements?.isSome then .ok () else .error (unexpected "an array" x path)
  | paramArray _, _, _ => .ok ()
  | map _, x, path => if (Validator.entries? x).isSome then .ok () else .error (unexpected "a map" x path)
  | s, x, path => (s.validate x path).map fun _ => ()

end Spec

/-- What is checked at a call itself. -/
def Call.ownCheck (c : Call) : Checked Unit := c.spec.ownCheck c.value c.path

/-! ## Trails -/

namespace Call
variable {s : Spec} {inside : Value → Path → List Call}

/-- The calls are inside calls with these numbers or higher ones. -/
theorem trail_of_mem_inOrder {i : Nat} {args : List (Value × Path)} {c : Call} (h : c ∈ inOrder s inside i args) :
    ∃ j t, i ≤ j ∧ c.trail = j :: t := by
  induction args generalizing i with
  | nil => cases h
  | cons a args ih =>
    rcases List.mem_append.mp h with h | h
    · obtain ⟨d, -, rfl⟩ := List.mem_map.mp h
      exact ⟨i, d.trail, Nat.le_refl i, rfl⟩
    · obtain ⟨j, t, hj, ht⟩ := ih h
      exact ⟨j, t, Nat.le_of_succ_le hj, ht⟩

theorem pairwise_root {s : Spec} {x : Value} {path : Path} {cs : List Call} (hne : ∀ c ∈ cs, c.trail ≠ [])
    (h : cs.Pairwise fun c d => c.trail < d.trail) :
    (⟨[], s, x, path⟩ :: cs).Pairwise fun c d => c.trail < d.trail := by
  refine List.pairwise_cons.mpr ⟨fun c hc => ?_, h⟩
  obtain ⟨i, t, ht⟩ := List.exists_cons_of_ne_nil (hne c hc)
  rw [ht]
  exact List.nil_lt_cons i t

theorem pairwise_inOrder (hne : ∀ x path, ∀ c ∈ inside x path, c.trail ≠ [])
    (h : ∀ x path, (inside x path).Pairwise fun c d => c.trail < d.trail) (i : Nat) (args : List (Value × Path)) :
    (inOrder s inside i args).Pairwise fun c d => c.trail < d.trail := by
  induction args generalizing i with
  | nil => exact .nil
  | cons a args ih =>
    obtain ⟨x, path⟩ := a
    refine List.pairwise_append.mpr ⟨?_, ih (i + 1), ?_⟩
    · refine List.pairwise_map.mpr ((pairwise_root (hne x path) (h x path)).imp fun hcd => ?_)
      exact List.cons_lt_cons_iff.mpr (Or.inr ⟨rfl, hcd⟩)
    · -- What comes later is inside a call with a higher number.
      intro c hc d hd
      obtain ⟨c', -, rfl⟩ := List.mem_map.mp hc
      obtain ⟨j, t, hj, ht⟩ := trail_of_mem_inOrder hd
      rw [ht]
      exact List.cons_lt_cons_iff.mpr (Or.inl hj)

end Call

namespace Spec

theorem trail_of_mem_selected {s : Spec} {x : Value} {path : Path} : ∀ c ∈ s.selected x path, c.trail ≠ [] := by
  intro c hc
  cases s with
  | optional | array | paramArray | map =>
    obtain ⟨j, t, -, ht⟩ := Call.trail_of_mem_inOrder hc
    rw [ht]
    exact List.cons_ne_nil j t
  | _ => cases hc

/-- Along the list, trails grow: a call comes before those inside it, and before those with a higher number. -/
theorem pairwise_preorder (s : Spec) (x : Value) (path : Path) :
    (s.preorder x path).Pairwise fun c d => c.trail < d.trail := by
  refine Call.pairwise_root trail_of_mem_selected ?_
  induction s generalizing x path with
  | optional _ ih | array _ ih | paramArray _ ih | map _ ih =>
    exact Call.pairwise_inOrder (fun x path => trail_of_mem_selected) ih _ _
  | _ => exact .nil

end Spec

/-! ## Without results -/

/-- A computation without its result. -/
def silent {m : Type → Type} [Functor m] {α : Type} (a : m α) : m Unit := (fun _ => ()) <$> a

section Monadic
variable {m : Type → Type} [Monad m] [LawfulMonad m] {α β γ : Type}

theorem silent_functorMap (f : α → β) (a : m α) : silent (f <$> a) = silent a := by
  simp only [silent, Functor.map_map]

/-- Two computations whose results are put together. -/
theorem silent_seq (a : m α) (b : m β) (f : α → β → γ) :
    silent (a >>= fun y => b >>= fun z => pure (f y z)) = silent a >>= fun _ => silent b := by
  simp only [silent, map_bind, bind_map_left, bind_pure_comp, Functor.map_map]

namespace Validator
variable (v : Validator m α) (path : Path)

/-- Reading elements is reading one after the other. -/
theorem silent_readItems (i : Nat) (xs : List Value) : silent (readItems v path i xs) =
    forM (xs.mapIdx fun j x => (x, path.index (toString (i + j)))) fun a => silent (v a.1 a.2) := by
  induction xs generalizing i with
  | nil => exact map_pure _ _
  | cons x xs ih =>
    rw [readItems, silent_seq, ih, List.mapIdx_cons, List.forM_cons]
    simp only [Nat.add_zero, Nat.add_right_comm, Nat.add_assoc]

theorem silent_readEntries (entries : List (Value × Value)) : silent (readEntries v path entries) =
    forM (entriesAt path entries) fun a => silent (v a.1 a.2) := by
  induction entries with
  | nil => exact map_pure _ _
  | cons e entries ih =>
    obtain ⟨k, x⟩ := e
    have hcons : entriesAt path ((k, x) :: entries) = (x, path.index k.display) :: entriesAt path entries := rfl
    rw [readEntries, silent_seq, ih, hcons, List.forM_cons]

theorem silent_optional (x : Value) : silent (optional v x path) =
    forM (if x.isNull then [] else [(x, path)]) fun a => silent (v a.1 a.2) := by
  cases x with
  | null => exact map_pure _ _
  | _ => simp [optional, Value.isNull, silent]

variable [MonadExceptOf Fault m] {x : Value}

theorem silent_array {xs : List Value} (h : x.elements? = some xs) : silent (array v x path) =
    forM (elementsAt path xs) fun a => silent (v a.1 a.2) := by
  unfold array
  rw [h]
  dsimp only
  rw [silent_readItems, elementsAt]
  simp only [Nat.zero_add]

theorem silent_map {entries : List (Value × Value)} (h : entries? x = some entries) : silent (map v x path) =
    forM (entriesAt path entries) fun a => silent (v a.1 a.2) := by
  unfold map
  rw [h]
  dsimp only
  rw [bind_pure_comp, silent_functorMap, silent_readEntries]

end Validator

end Monadic

/-! ## A validation walks through its calls -/

namespace Watched
variable {α : Type}

/-- Notes a call and does nothing. -/
def note (a : Value × Path) : Watched Unit := ⟨[a], .ok ()⟩

theorem called_eq_bind (v : Validator Watched α) (x : Value) (path : Path) :
    called v x path = note (x, path) >>= fun _ => v x path := rfl

end Watched

namespace Call

/-- The check at a call, with the call noted. -/
def check (c : Call) : Watched Unit := Watched.note c.argument >>= fun _ => Watched.ofChecked c.ownCheck

theorem check_eq (c : Call) : c.check = ⟨[c.argument], c.ownCheck⟩ := rfl

theorem forM_inOrder (s : Spec) (inside : Value → Path → List Call) (i : Nat) (args : List (Value × Path)) :
    forM (inOrder s inside i args) check = forM args fun a => forM (⟨[], s, a.1, a.2⟩ :: inside a.1 a.2) check := by
  induction args generalizing i with
  | nil => rfl
  | cons a args ih =>
    obtain ⟨x, path⟩ := a
    rw [inOrder, List.forM_append, List.forM_map, ih, List.forM_cons]
    rfl

/-- **A walk ends behind the first check that fails**, or at the end of the list. -/
theorem walk_cases (cs : List Call) :
    (forM cs check = ⟨cs.map argument, .ok ()⟩ ∧ ∀ c ∈ cs, c.ownCheck = .ok ()) ∨
    ∃ before c after fault, cs = before ++ c :: after ∧
      forM cs check = ⟨(before ++ [c]).map argument, .error fault⟩ ∧
      c.ownCheck = .error fault ∧ ∀ b ∈ before, b.ownCheck = .ok () := by
  induction cs with
  | nil => exact Or.inl ⟨rfl, nofun⟩
  | cons c cs ih =>
    rw [List.forM_cons, check_eq]
    cases hc : c.ownCheck with
    | error fault => exact Or.inr ⟨[], c, cs, fault, rfl, rfl, hc, nofun⟩
    | ok =>
      rcases ih with ⟨hwalk, hall⟩ | ⟨before, d, after, fault, rfl, hwalk, hd, hbefore⟩
      · rw [hwalk]
        exact Or.inl ⟨rfl, List.forall_mem_cons.mpr ⟨hc, hall⟩⟩
      · rw [hwalk]
        exact Or.inr ⟨c :: before, d, after, fault, rfl, rfl, hd, List.forall_mem_cons.mpr ⟨hc, hbefore⟩⟩

end Call

namespace Spec

open Watched

theorem forM_preorder (s : Spec) (x : Value) (path : Path) : forM (s.preorder x path) Call.check =
    note (x, path) >>= fun _ => ofChecked (s.ownCheck x path) >>= fun _ => forM (s.selected x path) Call.check := by
  rw [preorder, List.forM_cons, Call.check, bind_assoc]
  rfl

/-- What a validator comes to without its result: its own check, and a walk through the calls inside it. -/
def RunsThrough (s : Spec) : Prop := ∀ x path,
  silent (s.run x path) = ofChecked (s.ownCheck x path) >>= fun _ => forM (s.selected x path) Call.check

theorem RunsThrough.called {s : Spec} (h : s.RunsThrough) (x : Value) (path : Path) :
    silent (called s.run x path) = forM (s.preorder x path) Call.check := by
  rw [forM_preorder, called_eq_bind, silent, map_bind]
  exact congrArg _ (funext fun _ => h x path)

/-- Calls of a validator one after the other are walks one after the other. -/
theorem RunsThrough.forM_inOrder {s : Spec} (h : s.RunsThrough) (args : List (Value × Path)) :
    forM (Call.inOrder s s.selected 0 args) Call.check = forM args fun a => silent (Watched.called s.run a.1 a.2) := by
  rw [Call.forM_inOrder]
  exact congrArg _ (funext fun a => (h.called a.1 a.2).symm)

theorem silent_ofChecked {α : Type} (o : Checked α) :
    silent (ofChecked o) = ofChecked (o.map fun _ => ()) >>= fun _ => pure () := by
  cases o <;> rfl

theorem runsThrough (s : Spec) : s.RunsThrough := by
  induction s with
  | optional inner ih =>
    intro x path
    have hrun : (optional inner).run x path =
        (fun y => y.getD .null) <$> Validator.optional (Watched.called inner.run) x path := rfl
    rw [hrun, silent_functorMap, Validator.silent_optional, selected, ih.forM_inOrder]
    exact (pure_bind ..).symm
  | array inner ih =>
    intro x path
    have hrun : (array inner).run x path = Value.list <$> Validator.array (Watched.called inner.run) x path := rfl
    rw [hrun, silent_functorMap, selected, ih.forM_inOrder, ownCheck, handsOn]
    cases hx : x.elements? with
    | none =>
      unfold Validator.array
      rw [hx]
      rfl
    | some xs =>
      rw [Validator.silent_array _ path hx]
      exact (pure_bind ..).symm
  | paramArray inner ih =>
    intro x path
    have hrun : (paramArray inner).run x path =
        Value.list <$> Validator.paramArray (Watched.called inner.run) x path := rfl
    rw [hrun, silent_functorMap, selected, ih.forM_inOrder, ownCheck, handsOn]
    cases hx : x.elements? with
    | none =>
      -- A single value is read where it stands.
      rw [Validator.paramArray_single _ path hx, silent_functorMap, List.forM_cons, List.forM_nil, bind_pure_unit]
      exact (pure_bind ..).symm
    | some xs =>
      rw [Validator.paramArray_eq_array _ path hx, Validator.silent_array _ path hx]
      exact (pure_bind ..).symm
  | map inner ih =>
    intro x path
    have hrun : (map inner).run x path = Value.map <$> Validator.map (Watched.called inner.run) x path := rfl
    rw [hrun, silent_functorMap, selected, ih.forM_inOrder, ownCheck, handsOn]
    cases hx : Validator.entries? x with
    | none =>
      unfold Validator.map
      rw [hx]
      rfl
    | some entries =>
      rw [Validator.silent_map _ path hx]
      exact (pure_bind ..).symm
  | _ => exact fun x path => silent_ofChecked _

end Spec

/-- **A nested validation makes its calls in document order and stops at the first failure.**  The calls inside the
outermost one are a prefix of those there could be, each at a trail of its own.  They are all of them on success.  On
failure, the last call made, which may be the outermost one, is the first that fails by itself, and its fault is that of
the whole. -/
theorem calls_in_document_order (s : Spec) (x : Value) (path : Path) :
    ((s.preorder x path).map Call.trail).Pairwise (· < ·) ∧
    (s.run x path).calls <+: (s.selected x path).map Call.argument ∧
    ((∃ y, (s.run x path).outcome = .ok y ∧ (s.run x path).calls = (s.selected x path).map Call.argument ∧
        ∀ c ∈ s.preorder x path, c.ownCheck = .ok ()) ∨
      ∃ before c after fault, s.preorder x path = before ++ c :: after ∧
        (x, path) :: (s.run x path).calls = (before ++ [c]).map Call.argument ∧
        (s.run x path).outcome = .error fault ∧ c.ownCheck = .error fault ∧
        ∀ b ∈ before, b.ownCheck = .ok ()) := by
  have hrun := s.runsThrough.called x path
  have houter : (x, path) :: (s.run x path).calls = (silent (Watched.called s.run x path)).calls :=
    (Watched.calls_functorMap (fun _ => ()) (Watched.called s.run x path)).symm
  have houtcome : (s.run x path).outcome.map (fun _ => ()) = (silent (Watched.called s.run x path)).outcome :=
    (Watched.outcome_functorMap (fun _ => ()) (Watched.called s.run x path)).symm
  rw [hrun] at houter houtcome
  refine ⟨List.pairwise_map.mpr (s.pairwise_preorder x path), ?_⟩
  rcases Call.walk_cases (s.preorder x path) with
    ⟨hwalk, hall⟩ | ⟨before, c, after, fault, hlist, hwalk, hc, hbefore⟩
  · rw [hwalk] at houter houtcome
    have hcalls : (s.run x path).calls = (s.selected x path).map Call.argument := (List.cons.inj houter).2
    obtain ⟨y, hy, -⟩ := Checked.map_eq_ok houtcome
    exact ⟨hcalls ▸ List.prefix_rfl, Or.inl ⟨y, hy, hcalls, hall⟩⟩
  · rw [hwalk] at houter houtcome
    refine ⟨?_, Or.inr ⟨before, c, after, fault, hlist, houter, Checked.map_eq_error houtcome, hc, hbefore⟩⟩
    have hlisted : (s.preorder x path).map Call.argument =
        (before ++ [c]).map Call.argument ++ after.map Call.argument := by
      rw [hlist, List.append_cons, List.map_append]
    have hpre : (x, path) :: (s.run x path).calls <+: (s.preorder x path).map Call.argument := by
      rw [houter, hlisted]
      exact List.prefix_append _ _
    exact (List.cons_prefix_cons.mp hpre).2

/-- A parameter under each of two keys: the second is no number, and the third one is not looked at. -/
example :
    let s : Spec := .map (.paramArray .number)
    let one : Value := .decimal (.finite ⟨false, 1, 0⟩ (by decide))
    let x : Value := .object [("a", one), ("b", .list [one, .null, one])]
    (s.selected x ⟨["q"]⟩).map (fun c => (c.trail, c.path.text)) =
        [([0], Text.ofString "q[a]"), ([0, 0], Text.ofString "q[a]"), ([1], Text.ofString "q[b]"),
          ([1, 0], Text.ofString "q[b][0]"), ([1, 1], Text.ofString "q[b][1]"), ([1, 2], Text.ofString "q[b][2]")] ∧
      (s.run x ⟨["q"]⟩).calls.map (fun a => a.2.text) =
        ["q[a]", "q[a]", "q[b]", "q[b][0]", "q[b][1]"].map Text.ofString := by
  decide +kernel

end Intake
