import Intake.Proofs.Document.Places

/-! # Indices one behind another

An element of an array within an array is named by two indices, and so on inwards.  Each index goes into brackets
behind what the last label says, so the labels in front stay what they are and none is added
(`Path.indexEach_concat`).  Only a path without labels gains one, by the first index (`Path.indexEach_nil_cons`).

The indices can be told from the path even though a label may be any text, one with brackets of its own included.
Two sequences behind one path share the label that they follow, and what stands behind it is read off index by
index.  So different sequences lead to paths with different texts (`Path.text_indexEach_injective`).
-/
namespace Intake

theorem Location.plain_elements (is : List Nat) : Location.Plain (is.map .element) := by
  intro s hs
  obtain ⟨i, -, rfl⟩ := List.mem_map.mp hs
  trivial

namespace Path

/-- The path of indices taken one after another, each behind the path made by the one before. -/
def indexEach (p : Path) (is : List Nat) : Path := is.foldl (fun q i => q.index (toString i)) p

@[simp] theorem indexEach_nil (p : Path) : p.indexEach [] = p := rfl

theorem indexEach_cons (p : Path) (i : Nat) (is : List Nat) :
    p.indexEach (i :: is) = (p.index (toString i)).indexEach is := rfl

/-- It is the path of a location in arrays within arrays. -/
theorem indexEach_eq_along (p : Path) (is : List Nat) : p.indexEach is = p.along (is.map .element) := by
  rw [along, List.foldl_map]
  rfl

/-- An index changes the last label and nothing in front of it. -/
theorem indexLabels_concat (i last : Text) (init : List Text) :
    indexLabels i (init ++ [last]) = init ++ [last ++ "[" ++ i ++ "]"] := by
  induction init with
  | nil => rfl
  | cons label init ih =>
    -- `indexLabels` recurses past a label only when it sees that another one follows.
    have hrest : init ++ [last] ≠ [] := List.append_ne_nil_of_right_ne_nil init (List.cons_ne_nil last [])
    rw [List.cons_append, indexLabels, ih, List.cons_append]
    exact hrest

/-- **All indices go into the last label**, each in brackets, in the order in which they were taken. -/
theorem indexEach_concat (init : List Text) (last : Text) (is : List Nat) :
    indexEach ⟨init ++ [last]⟩ is = ⟨init ++ [last ++ Location.suffix (is.map .element)]⟩ := by
  induction is generalizing last with
  | nil => rw [indexEach_nil, List.map_nil, Location.suffix, List.append_nil]
  | cons i is ih =>
    calc indexEach ⟨init ++ [last]⟩ (i :: is)
        = indexEach ⟨init ++ [last ++ "[" ++ toString i ++ "]"]⟩ is := by
          rw [indexEach_cons, index, indexLabels_concat]
      _ = ⟨init ++ [last ++ "[" ++ toString i ++ "]" ++ Location.suffix (is.map .element)]⟩ := ih _
      _ = ⟨init ++ [last ++ Location.suffix ((i :: is).map .element)]⟩ := by
          simp only [List.map_cons, Location.suffix, Segment.suffix, List.append_assoc]

/-- A label with brackets of its own goes on as any other. -/
example : indexEach ⟨["rows", "cell[1]"]⟩ [0, 12] = ⟨["rows", "cell[1][0][12]"]⟩ := rfl

/-- Without labels the first index is one, and the others go into it. -/
theorem indexEach_nil_cons (i : Nat) (is : List Nat) :
    indexEach ⟨[]⟩ (i :: is) = ⟨[toString i ++ Location.suffix (is.map .element)]⟩ :=
  indexEach_concat [] (toString i) is

/-- **Different indices behind one path give different texts.** -/
theorem text_indexEach_injective (p : Path) : Function.Injective fun is => (p.indexEach is).text := by
  intro is js h
  simp only [indexEach_eq_along] at h
  have hlocations : is.map Segment.element = js.map Segment.element :=
    p.text_along_injOn (Location.plain_elements is) (Location.plain_elements js) h
  exact List.map_injective_iff.mpr (fun _ _ => Segment.element.inj) hlocations

/-- **Indices stay in the last label.**  However many are taken, the labels keep their number, but for the one that
the first index makes where there is none; those in front of the last are what they were; and no two sequences of
indices lead from one path to the same. -/
theorem indices_stay_in_last_label (p : Path) :
    (∀ is, (p.indexEach is).labels.length = (if p.labels = [] ∧ is ≠ [] then 1 else p.labels.length) ∧
        (p.indexEach is).labels.dropLast = p.labels.dropLast) ∧
      Function.Injective p.indexEach := by
  refine ⟨fun is => ?_, fun is js h => p.text_indexEach_injective (congrArg text h)⟩
  obtain ⟨labels⟩ := p
  rcases List.eq_nil_or_concat' labels with rfl | ⟨init, last, rfl⟩
  · cases is with
    | nil => exact ⟨rfl, rfl⟩
    | cons i is =>
      rw [indexEach_nil_cons]
      exact ⟨by simp, rfl⟩
  · rw [indexEach_concat]
    exact ⟨by simp, by rw [List.dropLast_concat, List.dropLast_concat]⟩

end Path

end Intake
