import Intake.Calendar.Eastern
import Intake.Proofs.Calendar.Date
import Intake.Proofs.Calendar.Zone
import Mathlib.Data.List.Chain
import Mathlib.Data.List.Range

/-! # The changes of Eastern time

The changes of Eastern time are spaced (`Eastern.zone_spaced`), so what is known of spaced zones holds of it: a
local reading means one instant.  After local mean time the zone is a sequence of summers.  A summer that ends on
a later day than it begins, and before the next one begins, has its changes apart (`spaced_summers`), since a
change moves the clock by an hour and a day has more.  The listed summers are such by inspection.  Under the
present rule a summer lies between March and November of its year, whatever weekdays the year begins with
(`ruleSummer_within`).

The second half bounds the offsets, which tells how near the ends of the calendar a reading can mean an instant
outside of it (`resolve_lt_secondsOfCalendar_iff`).
-/
namespace Intake

/-! ## Days of a year -/

/-- A day in March. -/
theorem toDays_march (year day : Nat) : Date.toDays ⟨year, 3, day⟩ =
    daysBeforeYear year + (59 + if isLeapYear year then 1 else 0) + (day - 1) := by
  unfold Date.toDays monthLengths
  cases isLeapYear year <;> rfl

/-- A day in November. -/
theorem toDays_november (year day : Nat) : Date.toDays ⟨year, 11, day⟩ =
    daysBeforeYear year + (304 + if isLeapYear year then 1 else 0) + (day - 1) := by
  unfold Date.toDays monthLengths
  cases isLeapYear year <;> rfl

namespace Eastern

/-! ## Summers in order -/

/-- The summer begins and ends on different days. -/
def Summer.Proper (s : Summer) : Prop := s.first.toDays < s.last.toDays

/-- One summer ends before another begins. -/
def Summer.Precedes (s u : Summer) : Prop := s.last.toDays < u.first.toDays

instance (s : Summer) : Decidable s.Proper := by
  unfold Summer.Proper
  infer_instance

instance (s u : Summer) : Decidable (s.Precedes u) := by
  unfold Summer.Precedes
  infer_instance

/-- All summers of the calendar. -/
def summers : List Summer :=
  listedSummers ++ (List.range' ruleStart (lastYear + 1 - ruleStart)).map ruleSummer

theorem changes_eq_summers : changes = railwayNoon :: summers.flatMap Summer.changes := by
  rw [changes, summers, List.flatMap_append, List.flatMap_map]

/-- Two in the morning. -/
theorem wallSeconds_two (d : Date) : (wallSeconds d ⟨2, 0, 0⟩ : Int) = d.toDays * 86400 + 7200 := by
  simp [wallSeconds, secondsPerDay, Clock.toSeconds]

/-- Summers in order have their changes apart. -/
theorem spaced_summers {summers : List Summer} (hproper : ∀ s ∈ summers, s.Proper)
    (hchain : summers.IsChain Summer.Precedes) :
    Zone.SpacedAfter standardOffset (summers.flatMap Summer.changes) := by
  induction summers with
  | nil => trivial
  | cons s rest ih =>
    have hs : s.first.toDays < s.last.toDays := hproper s List.mem_cons_self
    have hrest := ih (fun u hu => hproper u (List.mem_cons_of_mem _ hu)) hchain.tail
    refine ⟨?_, ?_, hrest⟩
    · -- Forward in spring, back in autumn.
      intro c hc
      cases hc
      simp only [wallSeconds_two, standardOffset, summerOffset]
      omega
    · -- Back in autumn, forward in the next spring.
      intro c hc
      cases rest with
      | nil => cases hc
      | cons u rest =>
        have hsu : s.last.toDays < u.first.toDays := (List.isChain_cons_cons.mp hchain).1
        cases hc
        simp only [wallSeconds_two, standardOffset, summerOffset]
        omega

theorem listedSummers_proper : ∀ s ∈ listedSummers, s.Proper := by decide +kernel

theorem listedSummers_chain : listedSummers.IsChain Summer.Precedes := by decide +kernel

/-- A rule's summer lies well inside its year. -/
theorem ruleSummer_within (year : Nat) :
    daysBeforeYear year ≤ (ruleSummer year).first.toDays ∧ (ruleSummer year).Proper ∧
      (ruleSummer year).last.toDays + 50 < daysBeforeYear year + 365 := by
  have hfirst : (ruleSummer year).first.toDays = _ := toDays_march year _
  have hlast : (ruleSummer year).last.toDays = _ := toDays_november year _
  rw [Summer.Proper, hfirst, hlast]
  -- The first Sunday of a month is one of its first seven days.
  have hmarch := Nat.mod_lt (7 - Date.weekday ⟨year, 3, 1⟩) (show 7 > 0 by decide)
  have hnovember := Nat.mod_lt (7 - Date.weekday ⟨year, 11, 1⟩) (show 7 > 0 by decide)
  cases isLeapYear year with
  | false =>
    rw [if_neg Bool.false_ne_true]
    omega
  | true =>
    rw [if_pos rfl]
    omega

theorem ruleSummer_precedes {year : Nat} (h : 1 ≤ year) :
    (ruleSummer year).Precedes (ruleSummer (year + 1)) := by
  have hyear := daysBeforeYear_succ h
  have hthis := (ruleSummer_within year).2.2
  have hnext := (ruleSummer_within (year + 1)).1
  rw [Summer.Precedes]
  omega

theorem ruleSummers_chain (start count : Nat) (h : 1 ≤ start) :
    ((List.range' start count).map ruleSummer).IsChain Summer.Precedes := by
  induction count generalizing start with
  | zero => exact .nil
  | succ count ih =>
    rw [List.range'_succ, List.map_cons, List.isChain_cons]
    refine ⟨fun u hu => ?_, ih (start + 1) (by omega)⟩
    cases count with
    | zero => cases hu
    | succ count =>
      cases hu
      exact ruleSummer_precedes h

/-- Every summer is a listed one or a rule's. -/
theorem mem_summers {s : Summer} (hs : s ∈ summers) :
    s ∈ listedSummers ∨ ∃ year, 1 ≤ year ∧ year ≤ lastYear ∧ s = ruleSummer year := by
  rcases List.mem_append.mp hs with hs | hs
  · exact Or.inl hs
  · obtain ⟨year, hyear, rfl⟩ := List.mem_map.mp hs
    obtain ⟨hlow, hhigh⟩ := List.mem_range'_1.mp hyear
    refine Or.inr ⟨year, ?_, ?_, rfl⟩
    · exact Nat.le_trans (show 1 ≤ ruleStart by decide) hlow
    · unfold ruleStart lastYear at *
      omega

theorem summers_proper : ∀ s ∈ summers, s.Proper := by
  intro s hs
  rcases mem_summers hs with hs | ⟨year, -, -, rfl⟩
  · exact listedSummers_proper s hs
  · exact (ruleSummer_within year).2.1

theorem summers_chain : summers.IsChain Summer.Precedes := by
  refine List.isChain_append.mpr ⟨listedSummers_chain, ruleSummers_chain _ _ (by decide), ?_⟩
  intro s hs u hu
  cases hs
  cases hu
  decide +kernel

/-- **The changes of Eastern time are spaced.** -/
theorem zone_spaced : zone.Spaced := by
  show Zone.SpacedAfter meanOffset changes
  rw [changes_eq_summers]
  refine ⟨fun c hc => ?_, spaced_summers summers_proper summers_chain⟩
  cases hc
  decide +kernel

/-! ## How far readings are from their instants -/

theorem offset_of_mem_summers {c : OffsetChange} {summers : List Summer}
    (hc : c ∈ summers.flatMap Summer.changes) : c.offset = standardOffset ∨ c.offset = summerOffset := by
  obtain ⟨s, -, hc⟩ := List.mem_flatMap.mp hc
  rcases List.mem_cons.mp hc with rfl | hc
  · exact Or.inr rfl
  · rw [List.mem_singleton.mp hc]
    exact Or.inl rfl

/-- Eastern time is four to five hours behind. -/
theorem resolve_bounds (wall : Int) :
    wall - summerOffset ≤ zone.resolve wall ∧ zone.resolve wall ≤ wall - standardOffset := by
  obtain ⟨offset, hoffset, hresolve⟩ := zone.resolve_eq_sub wall
  rw [hresolve]
  have hcases : offset = meanOffset ∨ offset = standardOffset ∨ offset = summerOffset := by
    rcases hoffset with rfl | ⟨c, hc, rfl⟩
    · exact Or.inl rfl
    · replace hc : c ∈ changes := hc
      rw [changes_eq_summers] at hc
      rcases List.mem_cons.mp hc with rfl | hc
      · exact Or.inr (Or.inl rfl)
      · exact Or.inr (offset_of_mem_summers hc)
  unfold meanOffset standardOffset summerOffset at *
  omega

/-- After some summers, their changes no longer count. -/
theorem resolve_after_summers {summers : List Summer} {wall : Int} (hproper : ∀ s ∈ summers, s.Proper)
    (h : ∀ s ∈ summers, (wallSeconds s.last ⟨2, 0, 0⟩ : Int) ≤ wall) :
    Zone.resolve ⟨standardOffset, summers.flatMap Summer.changes⟩ wall = wall - standardOffset := by
  induction summers with
  | nil => rfl
  | cons s rest ih =>
    have hs : s.first.toDays < s.last.toDays := hproper s List.mem_cons_self
    have hlast := h s List.mem_cons_self
    have hrest := ih (fun u hu => hproper u (List.mem_cons_of_mem _ hu))
      (fun u hu => h u (List.mem_cons_of_mem _ hu))
    rw [wallSeconds_two] at hlast
    rw [List.flatMap_cons, Summer.changes, List.cons_append, List.cons_append, List.nil_append,
      Zone.resolve_cons_of_le, Zone.resolve_cons_of_le, hrest]
    · simp only [wallSeconds_two, standardOffset, summerOffset]
      omega
    · simp only [wallSeconds_two, standardOffset, summerOffset]
      omega

/-- All summers are over a day before the end of the calendar. -/
theorem last_lt_of_mem_summers {s : Summer} (hs : s ∈ summers) :
    s.last.toDays + 2 ≤ daysBeforeYear (lastYear + 1) := by
  rcases mem_summers hs with hs | ⟨year, hyear, hlast, rfl⟩
  · have hlisted : ∀ s ∈ listedSummers, s.last.toDays + 2 ≤ daysBeforeYear (lastYear + 1) := by
      decide +kernel
    exact hlisted s hs
  · have hwithin := (ruleSummer_within year).2.2
    have hsucc := daysBeforeYear_succ hyear
    have hmono : daysBeforeYear (year + 1) ≤ daysBeforeYear (lastYear + 1) :=
      daysBeforeYear_mono (Nat.add_le_add_right hlast 1)
    omega

/-- The calendar's last hours are standard time. -/
theorem resolve_late {wall : Int} (h : (secondsOfCalendar : Int) ≤ wall - standardOffset) :
    zone.resolve wall = wall - standardOffset := by
  have hafter : ∀ s ∈ summers, (wallSeconds s.last ⟨2, 0, 0⟩ : Int) ≤ wall := by
    intro s hs
    have hlast := last_lt_of_mem_summers hs
    rw [wallSeconds_two]
    unfold secondsOfCalendar secondsPerDay standardOffset at h
    omega
  have hnoon : railwayNoon.utc + max meanOffset railwayNoon.offset ≤ wall := by
    have hcalendar : railwayNoon.utc + max meanOffset railwayNoon.offset ≤
        secondsOfCalendar + standardOffset := by decide +kernel
    omega
  rw [zone, changes_eq_summers, Zone.resolve_cons_of_le hnoon]
  exact resolve_after_summers summers_proper hafter

/-- **Which readings mean an instant before the end of the calendar**: those that do so in standard time. -/
theorem resolve_lt_secondsOfCalendar_iff (wall : Int) :
    zone.resolve wall < secondsOfCalendar ↔ wall - standardOffset < secondsOfCalendar := by
  constructor
  · intro h
    refine Int.not_le.mp fun hlate => ?_
    rw [resolve_late hlate] at h
    omega
  · intro h
    exact Int.lt_of_le_of_lt (resolve_bounds wall).2 h

end Eastern

end Intake
