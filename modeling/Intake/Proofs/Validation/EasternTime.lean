import Intake.Proofs.Calendar.Eastern
import Intake.Proofs.Calendar.Instant
import Intake.Proofs.Validation.Layout
import Intake.Validation.Scalars

/-! # Readings in Eastern time

The validator for Eastern time reads a date and a clock from a text in one layout.  A text that writes a day of
the calendar and a time of the day is read as the instant that this reading means in Eastern time, provided that
the calendar still has it (`easternTime_reading`); every other text is rejected (`easternTime_cases`).  Both
together say which instants are returned, and for which texts (`easternTime_eq_ok_iff_means`).
-/
namespace Intake

/-! ## The text of a reading -/

/-- The text of a reading, without a zone. -/
def readingText (d : Date) (c : Clock) : List Char := Instant.dateText d ++ 'T' :: Instant.clockText c

/-- A day of the calendar has a year, a month and a day that fit their groups of digits. -/
theorem Date.Valid.lt {d : Date} (h : d.Valid) : d.year < 10 ^ 4 ∧ d.month < 10 ^ 2 ∧ d.day < 10 ^ 2 := by
  obtain ⟨-, hyear, hday, hlength⟩ := h
  have hmonths : ∀ n ∈ monthLengths d.year, n ≤ 31 := by
    unfold monthLengths
    cases isLeapYear d.year <;> decide
  unfold monthLength at hlength
  split at hlength
  · omega
  · rw [List.getD_eq_getElem?_getD] at hlength
    cases hmonth : (monthLengths d.year)[d.month - 1]? with
    | none =>
      rw [hmonth, Option.getD_none] at hlength
      omega
    | some n =>
      rw [hmonth, Option.getD_some] at hlength
      have hn := hmonths n (List.mem_of_getElem? hmonth)
      obtain ⟨hlt, -⟩ := List.getElem?_eq_some_iff.mp hmonth
      have hcount : (monthLengths d.year).length = 12 := rfl
      unfold lastYear at hyear
      omega

namespace TextLayout

theorem noEmptyGroup_dateTime : dateTime.NoEmptyGroup := by decide

theorem fill_dateTime (d : Date) (c : Clock) :
    dateTime.fill [d.year, d.month, d.day, c.hour, c.minute, c.second] = readingText d c := by
  simp [dateTime, date, fill, readingText, Instant.dateText, Instant.clockText]

theorem fits_dateTime {d : Date} {c : Clock} (hd : d.Valid) (hc : c.Valid) :
    dateTime.Fits [d.year, d.month, d.day, c.hour, c.minute, c.second] := by
  obtain ⟨hyear, hmonth, hday⟩ := hd.lt
  obtain ⟨hhour, hminute, hsecond⟩ := hc
  exact ⟨_, _, rfl, hyear, _, _, rfl, hmonth, _, _, rfl, hday, _, _, rfl, by omega, _, _, rfl, by omega,
    _, _, rfl, by omega, rfl⟩

/-- A text in the layout is read as a date and a clock, whether the calendar has them or not. -/
theorem exists_reading {s : Text} {numbers : List Nat} (h : s.chars?.bind dateTime.numbers? = some numbers) :
    ∃ d : Date, ∃ c : Clock, numbers = [d.year, d.month, d.day, c.hour, c.minute, c.second] ∧
      s = .ofChars (readingText d c) := by
  obtain ⟨cs, hcs, hnumbers⟩ := Option.bind_eq_some_iff.mp h
  obtain ⟨hfits, htext⟩ := (numbers?_eq_some_iff noEmptyGroup_dateTime).mp hnumbers
  obtain ⟨year, _, rfl, -, month, _, rfl, -, day, _, rfl, -, hour, _, rfl, -, minute, _, rfl, -, second, _,
    rfl, -, rfl⟩ := hfits
  refine ⟨⟨year, month, day⟩, ⟨hour, minute, second⟩, rfl, ?_⟩
  rw [Text.chars?_eq_some_iff.mp hcs, htext]
  exact congrArg Text.ofChars (fill_dateTime ⟨year, month, day⟩ ⟨hour, minute, second⟩)

end TextLayout

/-- There is no instant outside of the calendar. -/
theorem Instant.ofSeconds?_eq_none_iff {second : Int} (h : 0 ≤ second) :
    Instant.ofSeconds? second 0 = none ↔ (secondsOfCalendar : Int) ≤ second := by
  unfold Instant.ofSeconds?
  constructor
  · intro hnone
    refine Int.not_lt.mp fun hlt => ?_
    rw [dif_pos ⟨h, by omega, by decide⟩] at hnone
    cases hnone
  · intro hle
    exact dif_neg fun hrange => by omega

namespace Validator
variable {s : Text} {path : Path}

/-! ## Reading -/

/-- Bounds that agree never refuse a text. -/
theorem string_exact (n : Int) (s : Text) (path : Path) :
    string (some n) (some n) false (.text s) path = .ok s := by
  have hbounds : lengthRefused (some n) (some n) s.length = false := by
    simp only [lengthRefused, Bool.and_eq_false_iff, decide_eq_false_iff_not]
    omega
  rw [string, hbounds]
  rfl

/-- A text is laid out or rejected. -/
theorem laidOut_text (layout : TextLayout) (length : Int) (expected : Text)
    (build : Text → Path → List Nat → Checked Instant) (s : Text) (path : Path) :
    laidOut layout length expected build (.text s) path =
      match s.chars?.bind layout.numbers? with
      | some numbers => build s path numbers
      | none => .error (unsuitable expected (.text s) path) := by
  rewrite [laidOut, string_exact]
  rfl

/-- A reading is resolved; it fails only where the calendar has no such instant. -/
theorem easternTime_reading {d : Date} {c : Clock} (hd : d.Valid) (hc : c.Valid)
    (hs : s = .ofChars (readingText d c)) : easternTime (.text s) path =
      match Instant.ofSeconds? (Eastern.zone.resolve (wallSeconds d c)) 0 with
      | some t => .ok t
      | none => .error .instantOutOfCalendar := by
  have hnumbers : s.chars?.bind TextLayout.dateTime.numbers? =
      some [d.year, d.month, d.day, c.hour, c.minute, c.second] := by
    rw [hs, Text.chars?_ofChars, Option.bind_some]
    refine (TextLayout.numbers?_eq_some_iff TextLayout.noEmptyGroup_dateTime).mpr ⟨?_, ?_⟩
    · exact TextLayout.fits_dateTime hd hc
    · rw [TextLayout.fill_dateTime]
  rw [easternTime, laidOut_text, hnumbers]
  dsimp only
  rewrite [buildEastern, if_pos ⟨hd, hc⟩]
  cases Instant.ofSeconds? (Eastern.zone.resolve (wallSeconds d c)) 0 with
  | none => rfl
  | some t => rfl

/-- A text is a reading, or it is rejected. -/
theorem easternTime_cases (s : Text) (path : Path) :
    (∃ d : Date, ∃ c : Clock, d.Valid ∧ c.Valid ∧ s = .ofChars (readingText d c)) ∨
      ∃ r, easternTime (.text s) path = .error (.rejected r) := by
  rw [easternTime, laidOut_text]
  cases hnumbers : s.chars?.bind TextLayout.dateTime.numbers? with
  | none => exact Or.inr ⟨_, rfl⟩
  | some numbers =>
    obtain ⟨d, c, rfl, hs⟩ := TextLayout.exists_reading hnumbers
    by_cases hvalid : d.Valid ∧ c.Valid
    · exact Or.inl ⟨d, c, hvalid.1, hvalid.2, hs⟩
    · dsimp only
      rw [buildEastern, if_neg hvalid]
      exact Or.inr ⟨_, rfl⟩

/-- What is returned is a resolved reading. -/
theorem easternTime_eq_ok_iff {u : Instant} : easternTime (.text s) path = .ok u ↔
    ∃ d : Date, ∃ c : Clock, d.Valid ∧ c.Valid ∧ s = .ofChars (readingText d c) ∧
      (u.second : Int) = Eastern.zone.resolve (wallSeconds d c) ∧ u.micro = 0 := by
  constructor
  · intro h
    rcases easternTime_cases s path with ⟨d, c, hd, hc, hs⟩ | ⟨r, hr⟩
    · rw [easternTime_reading hd hc hs] at h
      split at h
      · rename_i t ht
        cases h
        exact ⟨d, c, hd, hc, hs, Instant.ofSeconds?_eq_some_iff.mp ht⟩
      · cases h
    · rw [hr] at h
      cases h
  · rintro ⟨d, c, hd, hc, hs, hu⟩
    rw [easternTime_reading hd hc hs, Instant.ofSeconds?_eq_some_iff.mpr hu]

/-- The calendar lacks the instant of a reading exactly when it does so in standard time. -/
theorem easternTime_eq_outOfCalendar_iff : easternTime (.text s) path = .error .instantOutOfCalendar ↔
    ∃ d : Date, ∃ c : Clock, d.Valid ∧ c.Valid ∧ s = .ofChars (readingText d c) ∧
      (secondsOfCalendar : Int) ≤ wallSeconds d c - Eastern.standardOffset := by
  have hnone : ∀ wall : Nat, Instant.ofSeconds? (Eastern.zone.resolve wall) 0 = none ↔
      (secondsOfCalendar : Int) ≤ wall - Eastern.standardOffset := by
    intro wall
    have hbound := (Eastern.resolve_bounds wall).1
    have hlt := Eastern.resolve_lt_secondsOfCalendar_iff wall
    rw [Instant.ofSeconds?_eq_none_iff (by unfold Eastern.summerOffset at hbound; omega)]
    omega
  constructor
  · intro h
    rcases easternTime_cases s path with ⟨d, c, hd, hc, hs⟩ | ⟨r, hr⟩
    · rw [easternTime_reading hd hc hs] at h
      split at h
      · cases h
      · rename_i ht
        exact ⟨d, c, hd, hc, hs, (hnone _).mp ht⟩
    · rw [hr] at h
      cases h
  · rintro ⟨d, c, hd, hc, hs, hlate⟩
    rw [easternTime_reading hd hc hs, (hnone _).mpr hlate]

/-- **A text is read as the instant that its reading means in Eastern time.**  The returned instant is the
earliest one at which the clock of Eastern time shows the reading; when no instant shows it, the reading lies in
a gap, and the offset in force immediately before the gap gives the instant.  A day of the calendar with a time
of the day is refused only when it means an instant that the calendar does not have. -/
theorem easternTime_eq_ok_iff_means (s : Text) (path : Path) (u : Instant) :
    easternTime (.text s) path = .ok u ↔
      ∃ d : Date, ∃ c : Clock, d.Valid ∧ c.Valid ∧ s = .ofChars (readingText d c) ∧ u.micro = 0 ∧
        Eastern.zone.Means (wallSeconds d c) u.second := by
  rw [easternTime_eq_ok_iff]
  constructor
  · rintro ⟨d, c, hd, hc, hs, hsecond, hmicro⟩
    have hmeans := Zone.resolve_means Eastern.zone_spaced (wallSeconds d c)
    rw [← hsecond] at hmeans
    exact ⟨d, c, hd, hc, hs, hmicro, hmeans⟩
  · rintro ⟨d, c, hd, hc, hs, hmicro, hmeans⟩
    have hresolve := Zone.resolve_means Eastern.zone_spaced (wallSeconds d c)
    exact ⟨d, c, hd, hc, hs, hmeans.unique Eastern.zone_spaced hresolve, hmicro⟩

-- A gap, and one of the minutes that were repeated when local mean time ended.
example : (easternTime (.text "2021-03-14T02:30:00") ⟨[]⟩).toOption.map (fun t => (t.date, t.clock)) =
    some (⟨2021, 3, 14⟩, ⟨7, 30, 0⟩) := by decide +kernel
example : (easternTime (.text "1883-11-18T12:03:57") ⟨[]⟩).toOption.map (fun t => (t.date, t.clock)) =
    some (⟨1883, 11, 18⟩, ⟨16, 59, 59⟩) := by decide +kernel

end Validator

end Intake
