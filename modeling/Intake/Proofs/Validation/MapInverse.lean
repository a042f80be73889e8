import Intake.Proofs.Validation.Containers
import Intake.Proofs.Validation.Located

/-! # Printing and validating maps

`printMap` writes every value of a validated map under its own key, and the validator for maps reads every value under
its own key.  So the two undo each other whenever the functions for the values do, in either direction
(`printMap_inverse`).  No entry is renamed, merged or moved: reading entries relates them one by one to the results, at
the path of the key and under the same key (`readEntries_eq_ok_iff`), and since no two keys of a map are equal, all of
them are kept.
-/
namespace Intake
namespace Validator
variable {α : Type} {v : Validator Checked α} {print : α → Value} {path : Path} {entries : List (Value × Value)}
  {results : List (Value × α)}

/-- If printing undoes the validator for values, a printed result is the map that was read. -/
theorem printMap_of_map (hprint : ∀ x path y, v x path = .ok y → print y = x) {x : Value}
    (hx : entries? x = some entries) (hapart : Value.KeysApart entries) (h : map v x path = .ok results) :
    printMap print results = entries := by
  have hread := readEntries_eq_ok_iff.mp ((map_eq_ok_iff hx hapart).mp h)
  clear h hx hapart
  induction hread with
  | nil => rfl
  | @cons e r _ _ hhead _ ih =>
    have he : (r.1, print r.2) = e := Prod.ext hhead.1.symm (hprint _ _ _ hhead.2)
    exact congrArg₂ List.cons he ih

/-- If the validator for values undoes printing, so does the validator for maps. -/
theorem map_printMap (hread : ∀ y path, v (print y) path = .ok y) (hapart : Value.KeysApart results) :
    map v (.map (printMap print results)) path = .ok results := by
  have hkeys : Value.KeysApart (printMap print results) := by
    rwa [Value.KeysApart, printMap, List.map_map]
  rw [map_eq_ok_iff rfl hkeys, readEntries_eq_ok_iff, printMap, List.forall₂_map_left_iff, List.forall₂_same]
  exact fun r _ => ⟨rfl, hread r.2 _⟩

/-- **Printing and validating maps are mutually inverse whenever the functions for the values are.**  Either way the
entries come back under the same keys and in the same order.  An array comes back as the map of its indices. -/
theorem printMap_inverse (v : Validator Checked α) (print : α → Value) :
    ((∀ x path y, v x path = .ok y → print y = x) → ∀ path,
      (∀ entries results, Value.KeysApart entries → map v (.map entries) path = .ok results →
        printMap print results = entries) ∧
      ∀ x xs results, x.elements? = some xs → map v x path = .ok results →
        printMap print results = Value.byIndex xs) ∧
    ((∀ y path, v (print y) path = .ok y) → ∀ path (results : List (Value × α)), Value.KeysApart results →
      map v (.map (printMap print results)) path = .ok results) := by
  refine ⟨fun hprint path => ⟨?_, ?_⟩, fun hread path results hapart => map_printMap hread hapart⟩
  · intro entries results hapart h
    exact printMap_of_map hprint rfl hapart h
  · intro x xs results hx h
    exact printMap_of_map hprint (entries?_of_elements? hx) (Value.keysApart_byIndex xs) h

/-- Texts under keys of several kinds, and an array of texts. -/
theorem printMap_inverse_texts :
    let v : Validator Checked Text := string none none false
    let entries : List (Value × Value) := [(.null, .text "a"), (.int 7, .text ""), (.text "7", .text "a")]
    let results : List (Value × Text) := [(.null, "a"), (.int 7, ""), (.text "7", "a")]
    let path : Path := ⟨["tags"]⟩
    (∀ x path y, v x path = .ok y → Value.text y = x) ∧ (∀ y path, v (.text y) path = .ok y) ∧
      Value.KeysApart entries ∧ Value.KeysApart results ∧
      map v (.map entries) path = .ok results ∧ printMap .text results = entries ∧
      map v (.map (printMap .text results)) path = .ok results ∧
      map v (.list [.text "x", .text "y"]) path = .ok [(.text "0", "x"), (.text "1", "y")] ∧
      printMap Value.text [(.text "0", "x"), (.text "1", "y")] = Value.byIndex [Value.text "x", .text "y"] := by
  intro v entries results path
  have hprint : ∀ x path y, v x path = .ok y → Value.text y = x := fun x path y h => (string_eq_ok h).symm
  have hread : ∀ y path, v (.text y) path = .ok y := fun y path => rfl
  have hkeys : (entries.map Prod.fst).Pairwise fun j k => j.equal? k ≠ some true := by decide
  have hmap : map v (.map entries) path = .ok results := by rfl
  obtain ⟨hback, hforth⟩ := printMap_inverse v .text
  obtain ⟨hentries, harray⟩ := hback hprint path
  have hlist : map v (.list [.text "x", .text "y"]) path = .ok [(.text "0", "x"), (.text "1", "y")] := by rfl
  exact ⟨hprint, hread, hkeys, hkeys, hmap, hentries _ _ hkeys hmap, hforth hread path results hkeys, hlist,
    harray _ _ _ rfl hlist⟩

end Validator

end Intake
