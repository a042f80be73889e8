import Intake.Value.Equality

/-! # Collected entries

A map is collected from entries that are put one after the other.  An entry whose key is new goes to the end, and any
other one takes the place of the entry with an equal key.  So no key of the result equals one before it
(`keysApart_collect`), and entries of which this is true already are collected as they are (`KeysApart.collect_eq`).
Together: collecting what was collected changes nothing.
-/
namespace Intake
namespace Value

variable {α : Type} {key : Value} {a : α} {entries : List (Value × α)}

/-- No key equals one before it. -/
def KeysApart (entries : List (Value × α)) : Prop := (entries.map Prod.fst).Pairwise fun j k => j.equal? k ≠ some true

theorem keysApart_append_cons {done : List (Value × α)} {e : Value × α} (h : KeysApart (done ++ e :: entries)) :
    ∀ f ∈ done, f.1.equal? e.1 ≠ some true := by
  rw [KeysApart, List.map_append] at h
  intro f hf
  exact (List.pairwise_append.mp h).2.2 f.1 (List.mem_map_of_mem hf) e.1 List.mem_cons_self

theorem keysApart_concat (h : KeysApart entries) (hnew : ∀ e ∈ entries, e.1.equal? key ≠ some true) :
    KeysApart (entries ++ [(key, a)]) := by
  rw [KeysApart, List.map_append]
  refine List.pairwise_append.mpr ⟨h, List.pairwise_singleton _ _, ?_⟩
  intro k hk j hj
  obtain ⟨e, he, rfl⟩ := List.mem_map.mp hk
  rw [List.mem_singleton.mp hj]
  exact hnew e he

/-- An entry whose key is new goes to the end. -/
theorem setEntry_of_forall_ne {α : Type} {key : Value} {a : α} {entries : List (Value × α)}
    (h : ∀ e ∈ entries, e.1.equal? key ≠ some true) : setEntry key a entries = entries ++ [(key, a)] := by
  induction entries with
  | nil => rfl
  | cons e entries ih =>
    obtain ⟨k, b⟩ := e
    have hrest := ih fun e he => h e (List.mem_cons_of_mem _ he)
    rw [setEntry, if_neg (h _ List.mem_cons_self), hrest, List.cons_append]

/-- An entry whose key is there leaves the keys as they are. -/
theorem keys_setEntry_of_mem (h : ∃ e ∈ entries, e.1.equal? key = some true) :
    (setEntry key a entries).map Prod.fst = entries.map Prod.fst := by
  induction entries with
  | nil =>
    obtain ⟨e, he, -⟩ := h
    cases he
  | cons e entries ih =>
    obtain ⟨k, b⟩ := e
    rw [setEntry]
    split
    · rfl
    · rename_i hk
      have hrest : ∃ e ∈ entries, e.1.equal? key = some true := by
        obtain ⟨f, hf, hequal⟩ := h
        rcases List.mem_cons.mp hf with rfl | hf
        · exact absurd hequal hk
        · exact ⟨f, hf, hequal⟩
      rw [List.map_cons, List.map_cons, ih hrest]

theorem mem_setEntry {e : Value × α} (h : e ∈ setEntry key a entries) : e ∈ entries ∨ e.2 = a := by
  induction entries with
  | nil => exact Or.inr (by rw [List.mem_singleton.mp h])
  | cons f entries ih =>
    obtain ⟨k, b⟩ := f
    rw [setEntry] at h
    split at h
    · rcases List.mem_cons.mp h with rfl | h
      · exact Or.inr rfl
      · exact Or.inl (List.mem_cons_of_mem _ h)
    · rcases List.mem_cons.mp h with rfl | h
      · exact Or.inl List.mem_cons_self
      · exact (ih h).imp_left (List.mem_cons_of_mem _)

theorem KeysApart.setEntry (h : KeysApart entries) (key : Value) (a : α) : KeysApart (setEntry key a entries) := by
  by_cases hkey : ∃ e ∈ entries, e.1.equal? key = some true
  · rwa [KeysApart, keys_setEntry_of_mem hkey]
  · have hnew : ∀ e ∈ entries, e.1.equal? key ≠ some true := fun e he hequal => hkey ⟨e, he, hequal⟩
    rw [setEntry_of_forall_ne hnew]
    exact keysApart_concat h hnew

theorem keysApart_collect (entries : List (Value × α)) : KeysApart (collect entries) := by
  suffices h : ∀ done : List (Value × α), KeysApart done →
      KeysApart (entries.foldl (fun done e => Value.setEntry e.1 e.2 done) done) from h [] .nil
  induction entries with
  | nil => exact fun done hdone => hdone
  | cons e entries ih => exact fun done hdone => ih _ (hdone.setEntry e.1 e.2)

/-- Every value was put by an entry. -/
theorem mem_collect {e : Value × α} (h : e ∈ collect entries) : ∃ f ∈ entries, f.2 = e.2 := by
  suffices hfold : ∀ done : List (Value × α),
      e ∈ entries.foldl (fun done e => Value.setEntry e.1 e.2 done) done → e ∈ done ∨ ∃ f ∈ entries, f.2 = e.2 from
    (hfold [] h).resolve_left nofun
  clear h
  induction entries with
  | nil => exact fun done he => Or.inl he
  | cons f entries ih =>
    intro done he
    rcases ih _ he with he | ⟨g, hg, hvalue⟩
    · rcases mem_setEntry he with he | hvalue
      · exact Or.inl he
      · exact Or.inr ⟨f, List.mem_cons_self, hvalue.symm⟩
    · exact Or.inr ⟨g, List.mem_cons_of_mem _ hg, hvalue⟩

/-- **Entries with keys apart are collected as they are.** -/
theorem KeysApart.collect_eq (h : KeysApart entries) : collect entries = entries := by
  suffices hfold : ∀ done : List (Value × α), KeysApart (done ++ entries) →
      entries.foldl (fun done e => Value.setEntry e.1 e.2 done) done = done ++ entries from hfold [] h
  clear h
  induction entries with
  | nil => exact fun done _ => (List.append_nil done).symm
  | cons e entries ih =>
    intro done hdone
    have hsnoc : done ++ e :: entries = (done ++ [e]) ++ entries := List.append_cons done e entries
    rw [List.foldl_cons, setEntry_of_forall_ne (keysApart_append_cons hdone), hsnoc]
    exact ih _ (hsnoc ▸ hdone)

end Value

end Intake
