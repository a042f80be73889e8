import Intake.Logging.Setup

/-! # What a setup leaves behind

A setup should be all or nothing (`DoneOrNot`): the root logger has one handler more and the level that the name stands
for, or the setup fails and the root logger is what it was.  It is so for all names but two.  A name is looked up among
everything that logging has a name for, and two of these things are no levels (`notLevels`).  They are refused, but only after
the handler was added, and nobody takes it back: the caller, who would have to, does not get it (`setUp_cases`).
-/
namespace Intake.Logging

/-- The names of what is no level. -/
def notLevels : List Text := ["BASIC_FORMAT", "_STYLES"]

/-- The level that a name stands for, in letters of either case: the one of this name, and the middle one where nothing
has this name. -/
inductive StandsFor (name : Text) : Int → Prop where
  | level {n : Int} (h : (upper name, n) ∈ levels ++ otherLevels) : StandsFor name n
  | nothing (h : upper name ∉ (levels ++ otherLevels).map Prod.fst) (hother : upper name ∉ notLevels) :
      StandsFor name 20

/-- The handler for a format. -/
def handlerFor (format : Text) : Handler := ⟨formatOfName format, 0⟩

/-- Everything is done, or nothing is. -/
inductive DoneOrNot (level format : Text) (root : Root) : Root × Except SetupError Handler → Prop where
  | done {n : Int} (h : StandsFor level n) :
      DoneOrNot level format root (⟨root.handlers ++ [handlerFor format], n⟩, .ok (handlerFor format))
  | refused (e : SetupError) : DoneOrNot level format root (root, .error e)

theorem levelOfName_cases (name : Text) :
    (∃ n, StandsFor name n ∧ levelOfName name = .ok n) ∨
    (upper name = "BASIC_FORMAT" ∧ levelOfName name = .error (.unknownLevel basicLayout)) ∨
    (upper name = "_STYLES" ∧ levelOfName name = .error (.noLevel stylesLiteral)) := by
  unfold levelOfName
  dsimp only
  split
  · rename_i hlayout
    exact Or.inr (Or.inl ⟨hlayout, rfl⟩)
  · rename_i hlayout
    split
    · rename_i hstyles
      exact Or.inr (Or.inr ⟨hstyles, rfl⟩)
    · rename_i hstyles
      split
      · rename_i known n hfind
        have hknown : known = upper name := by simpa using List.find?_some hfind
        subst hknown
        exact Or.inl ⟨n, .level (List.mem_of_find?_eq_some hfind), rfl⟩
      · rename_i hfind
        refine Or.inl ⟨20, .nothing (fun hmem => ?_) ?_, rfl⟩
        · obtain ⟨entry, hentry, hname⟩ := List.mem_map.mp hmem
          exact List.find?_eq_none.mp hfind entry hentry (decide_eq_true hname)
        · simp [notLevels, hlayout, hstyles]

/-- A setup adds the handler in any case, and sets the level or fails. -/
theorem setUp_cases (level format : Text) (root : Root) :
    (∃ n, StandsFor level n ∧
      setUp level format root = (⟨root.handlers ++ [handlerFor format], n⟩, .ok (handlerFor format))) ∨
    (upper level ∈ notLevels ∧
      ∃ e, setUp level format root = (⟨root.handlers ++ [handlerFor format], root.level⟩, .error e)) := by
  unfold setUp
  rcases levelOfName_cases level with ⟨n, hn, hlevel⟩ | ⟨hname, hlevel⟩ | ⟨hname, hlevel⟩
  · rw [hlevel]
    exact Or.inl ⟨n, hn, rfl⟩
  · rw [hlevel]
    exact Or.inr ⟨by rw [hname]; decide, _, rfl⟩
  · rw [hlevel]
    exact Or.inr ⟨by rw [hname]; decide, _, rfl⟩

/-- No level has the name of what is none. -/
theorem StandsFor.not_mem {name : Text} {n : Int} (h : StandsFor name n) : upper name ∉ notLevels := by
  cases h with
  | level h =>
    intro hmem
    have hapart : ∀ entry ∈ levels ++ otherLevels, entry.1 ∉ notLevels := by decide
    exact hapart _ h hmem
  | nothing _ hother => exact hother

/-- **A setup is all or nothing, unless the name is that of what is no level.**  Then it fails, and leaves the handler
behind. -/
theorem setUp_done_or_not_iff (level format : Text) (root : Root) :
    (DoneOrNot level format root (setUp level format root) ↔ upper level ∉ notLevels) ∧
    ((∃ e, (setUp level format root).2 = .error e) ↔ upper level ∈ notLevels) ∧
    ∀ e, (setUp level format root).2 = .error e →
      (setUp level format root).1 = ⟨root.handlers ++ [handlerFor format], root.level⟩ := by
  rcases setUp_cases level format root with ⟨n, hn, hsetup⟩ | ⟨hmem, e, hsetup⟩
  · rw [hsetup]
    exact ⟨⟨fun _ => hn.not_mem, fun _ => .done hn⟩, ⟨nofun, fun hmem => absurd hmem hn.not_mem⟩, nofun⟩
  · rw [hsetup]
    refine ⟨⟨fun h => ?_, fun hnot => absurd hmem hnot⟩, ⟨fun _ => hmem, fun _ => ⟨e, rfl⟩⟩, fun _ _ => rfl⟩
    -- One handler more is not what there was before.
    generalize hafter : (⟨root.handlers ++ [handlerFor format], root.level⟩ : Root) = after at h
    cases h with
    | refused =>
      have hlength := congrArg (fun r : Root => r.handlers.length) hafter
      simp at hlength

/-- The layout of plain messages has a name too, and is no level. -/
theorem setUp_leaves_handler :
    setUp "basic_format" "json" .initial = (⟨[⟨.json, 0⟩], 30⟩, .error (.unknownLevel basicLayout)) ∧
      ¬ ∀ level format root, DoneOrNot level format root (setUp level format root) := by
  have hname : upper "basic_format" = "BASIC_FORMAT" := by decide +kernel
  have hlevel : levelOfName "basic_format" = .error (.unknownLevel basicLayout) := by
    unfold levelOfName
    dsimp only
    rw [if_pos hname]
  refine ⟨?_, fun h => ?_⟩
  · rw [setUp, hlevel]
    rfl
  · obtain ⟨hiff, -, -⟩ := setUp_done_or_not_iff "basic_format" "json" .initial
    exact hiff.mp (h _ _ _) (by rw [hname]; decide)

end Intake.Logging
