import Intake.Json.Encoder
import Intake.Proofs.Json.ReadBack
import Intake.Proofs.Value.Collected
import Intake.Proofs.Value.Keys

/-! # Plain values

The values that JSON can say as they are (`Value.Plain`): null, truth values, texts, finite decimal numbers,
lists, and objects in which no name stands twice.  The encoder turns such a value into a tree that has this
value again (`Value.Plain.exists_tree`): a decimal number has a token that is read back digit for digit, and
members whose names are new go to the end, so the entries keep their order.
-/
namespace Intake
namespace Value

/-- Null, truth values, texts, finite decimal numbers, lists and objects. -/
inductive Plain : Value → Prop where
  | null : Plain .null
  | bool (b : Bool) : Plain (.bool b)
  | text (t : Text) : Plain (.text t)
  | decimal (x : Scientific) (hx : x.InRange) : Plain (.decimal (.finite x hx))
  | list {xs : List Value} (h : ∀ x ∈ xs, Plain x) : Plain (.list xs)
  | object {fields : List (Text × Value)} (hn : (fields.map Prod.fst).Nodup)
      (h : ∀ f ∈ fields, Plain f.2) : Plain (.object fields)

end Value

namespace Json

/-- The tree stands for the value, on the way out and on the way in. -/
def Mirrors (t : Json) (v : Value) : Prop := ofValue v = .ok t ∧ t.value? = some v

theorem exists_mirrors_decimal (x : Scientific) (hx : x.InRange) :
    ∃ t : Json, t.Mirrors (.decimal (.finite x hx)) := by
  obtain ⟨n, hn, hvalue⟩ := x.scan?_text
  refine ⟨.number x.text, rfl, ?_⟩
  rw [value?]
  exact numberValue?_of_scan? hn (hx.ofNumeral? hvalue)

theorem exists_mirrors_items {xs : List Value} (h : ∀ x ∈ xs, ∃ t : Json, t.Mirrors x) :
    ∃ items, ofValues xs = .ok items ∧ values? items = some xs := by
  induction xs with
  | nil => exact ⟨[], rfl, rfl⟩
  | cons x xs ih =>
    obtain ⟨t, ht, hv⟩ := h x List.mem_cons_self
    obtain ⟨items, hitems, hvs⟩ := ih fun y hy => h y (List.mem_cons_of_mem _ hy)
    refine ⟨t :: items, ?_, ?_⟩
    · rw [ofValues, ht]
      dsimp only
      rw [hitems]
      rfl
    · rw [values?, hv, hvs]
      rfl

/-- Members with new names are put behind those before them, in order. -/
theorem exists_mirrors_members {fields : List (Text × Value)}
    (h : ∀ f ∈ fields, ∃ t : Json, t.Mirrors f.2) (done : List (Text × Value))
    (hn : ((done ++ fields).map Prod.fst).Nodup) :
    ∃ members, ofEntries (fields.map fun f => (.text f.1, f.2)) = .ok members ∧
      membersAfter? (done.map fun f => (.text f.1, f.2)) members =
        some ((done ++ fields).map fun f => (.text f.1, f.2)) := by
  -- The members that are already read vary: each one read is one more of them.
  induction fields generalizing done with
  | nil =>
    refine ⟨[], rfl, ?_⟩
    rw [List.append_nil]
    rfl
  | cons f fields ih =>
    obtain ⟨name, v⟩ := f
    obtain ⟨t, ht, hv⟩ := h _ List.mem_cons_self
    have hsplit : done ++ (name, v) :: fields = (done ++ [(name, v)]) ++ fields := by
      rw [List.append_assoc, List.singleton_append]
    rw [hsplit] at hn ⊢
    obtain ⟨members, hmembers, hentries⟩ := ih (fun f hf => h f (List.mem_cons_of_mem _ hf)) _ hn
    refine ⟨(name, t) :: members, ?_, ?_⟩
    · rw [List.map_cons, ofEntries, nameOfKey]
      dsimp only
      rw [ht]
      dsimp only
      rw [hmembers]
      rfl
    · have hnew : ∀ e ∈ done.map fun f => ((.text f.1, f.2) : Value × Value),
          e.1.equal? (.text name) ≠ some true := by
        intro e he heq
        obtain ⟨f, hf, rfl⟩ := List.mem_map.mp he
        have hname : name = f.1 := Value.text.inj ((Value.equal?_text_iff f.1 _).mp heq)
        rw [List.append_assoc, List.map_append, List.nodup_append] at hn
        exact hn.2.2 f.1 (List.mem_map_of_mem hf) name List.mem_cons_self hname.symm
      rw [membersAfter?, hv, Option.bind_some, setMember, Value.setEntry_of_forall_ne hnew, ← hentries,
        List.map_append]
      rfl

end Json

/-- **A plain value has a tree that stands for it.** -/
theorem Value.Plain.exists_tree {v : Value} (h : v.Plain) : ∃ t : Json, t.Mirrors v := by
  induction h with
  | null => exact ⟨.null, rfl, rfl⟩
  | bool b => exact ⟨.bool b, rfl, rfl⟩
  | text t => exact ⟨.text t, rfl, rfl⟩
  | decimal x hx => exact Json.exists_mirrors_decimal x hx
  | list _ ih =>
    obtain ⟨items, hitems, hvs⟩ := Json.exists_mirrors_items ih
    refine ⟨.array items, ?_, ?_⟩
    · rw [Json.ofValue, hitems]
      rfl
    · rw [Json.value?, hvs]
      rfl
  | object hn _ ih =>
    obtain ⟨members, hmembers, hentries⟩ := Json.exists_mirrors_members ih [] hn
    refine ⟨.object members, ?_, ?_⟩
    · rw [Value.object, Json.ofValue, hmembers]
      rfl
    · rw [Json.value?]
      exact congrArg (Option.map Value.map) hentries

end Intake
