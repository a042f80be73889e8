import Intake.Calendar.Date
import Mathlib.Algebra.Ring.Nat
import Mathlib.Order.Monotone.Basic

/-! # Dates and day numbers

Day numbers count the dates of the calendar in their order: first by the year, then by the month, then by the day of the
month (`Date.toDays_lt_toDays_iff`).  A date lies behind its year's beginning and before its end, and the same holds of
its month within the year, so that the earlier of two years, or else of two months, decides.

Every day before the end of the calendar has a date (`Date.toDays_ofDays`), which is the only one with this number
(`Date.ofDays_toDays`).  Splitting a day into centuries, fours of years and years follows the calendar's longest period
down; the last part of a period takes the day that the others do not have, which is why a leap day stands at the end of
all periods that it belongs to.
-/
namespace Intake

/-! ## Years -/

/-- The number of a year's days. -/
def yearLength (year : Nat) : Nat := 365 + if isLeapYear year then 1 else 0

theorem isLeapYear_iff {year : Nat} :
    isLeapYear year = true ↔ year % 4 = 0 ∧ (year % 100 ≠ 0 ∨ year % 400 = 0) := by
  simp [isLeapYear]

theorem daysBeforeYear_add_one {year : Nat} (h : 1 ≤ year) :
    daysBeforeYear (year + 1) = daysBeforeYear year + yearLength year := by
  obtain ⟨n, rfl⟩ := Nat.exists_eq_add_of_le' h
  -- A quotient grows by one where the divisor divides the next year.
  have hfour : (n + 1) / 4 = n / 4 + if (n + 1) % 4 = 0 then 1 else 0 := by split <;> omega
  have hcentury : (n + 1) / 100 = n / 100 + if (n + 1) % 100 = 0 then 1 else 0 := by split <;> omega
  have hcycle : (n + 1) / 400 = n / 400 + if (n + 1) % 400 = 0 then 1 else 0 := by split <;> omega
  have hle : n / 100 ≤ n / 4 := by omega
  simp only [daysBeforeYear, yearLength, Nat.add_sub_cancel, hfour, hcentury, hcycle, isLeapYear_iff]
  clear hfour hcentury hcycle
  by_cases hfour : (n + 1) % 4 = 0
  · by_cases hcentury : (n + 1) % 100 = 0
    · by_cases hcycle : (n + 1) % 400 = 0
      · rw [if_pos hfour, if_pos hcentury, if_pos hcycle, if_pos ⟨hfour, Or.inr hcycle⟩]
        omega
      · rw [if_pos hfour, if_pos hcentury, if_neg hcycle, if_neg fun h => h.2.elim (· hcentury) hcycle]
        omega
    · rw [if_pos hfour, if_neg hcentury, if_neg (by omega), if_pos ⟨hfour, Or.inl hcentury⟩]
      omega
  · rw [if_neg hfour, if_neg (by omega), if_neg (by omega), if_neg fun h => hfour h.1]
    omega

/-- A year has at least 365 days. -/
theorem daysBeforeYear_succ {year : Nat} (h : 1 ≤ year) :
    daysBeforeYear year + 365 ≤ daysBeforeYear (year + 1) := by
  rw [daysBeforeYear_add_one h, yearLength]
  omega

theorem daysBeforeYear_mono : Monotone daysBeforeYear := by
  refine monotone_nat_of_le_succ fun year => ?_
  unfold daysBeforeYear
  omega

/-! ## Months -/

/-- The days of a year before a month, the months being counted from zero. -/
def daysBeforeMonth (year month : Nat) : Nat := ((monthLengths year).take month).sum

theorem daysBeforeMonth_succ (year month : Nat) :
    daysBeforeMonth year (month + 1) = daysBeforeMonth year month + (monthLengths year).getD month 0 := by
  rw [daysBeforeMonth, daysBeforeMonth, List.take_add_one, List.sum_append, List.getD_eq_getElem?_getD]
  cases (monthLengths year)[month]? <;> rfl

theorem daysBeforeMonth_mono (year : Nat) : Monotone (daysBeforeMonth year) := by
  refine monotone_nat_of_le_succ fun month => ?_
  rw [daysBeforeMonth_succ]
  omega

theorem sum_monthLengths (year : Nat) : (monthLengths year).sum = yearLength year := by
  unfold monthLengths yearLength
  cases isLeapYear year <;> rfl

theorem daysBeforeMonth_le (year month : Nat) : daysBeforeMonth year month ≤ yearLength year := by
  have htwelve : daysBeforeMonth year 12 = yearLength year := sum_monthLengths year
  rcases Nat.le_total month 12 with h | h
  · rw [← htwelve]
    exact daysBeforeMonth_mono year h
  · rw [daysBeforeMonth, List.take_of_length_le h, sum_monthLengths]

namespace Date

variable {d e : Date}

/-! ## The order of dates -/

theorem toDays_eq (d : Date) :
    d.toDays = daysBeforeYear d.year + daysBeforeMonth d.year (d.month - 1) + (d.day - 1) := rfl

/-- A day belongs to its month. -/
theorem Valid.day_le (h : d.Valid) :
    1 ≤ d.month ∧ 1 ≤ d.day ∧ daysBeforeMonth d.year (d.month - 1) + d.day ≤ daysBeforeMonth d.year d.month := by
  obtain ⟨-, -, hday, hlength⟩ := h
  unfold monthLength at hlength
  split at hlength
  · omega
  · rename_i hmonth
    have hsucc := daysBeforeMonth_succ d.year (d.month - 1)
    rw [show d.month - 1 + 1 = d.month by omega] at hsucc
    omega

/-- A date belongs to its year. -/
theorem Valid.toDays_bounds (h : d.Valid) :
    daysBeforeYear d.year ≤ d.toDays ∧ d.toDays < daysBeforeYear (d.year + 1) := by
  obtain ⟨-, hday, hmonth⟩ := h.day_le
  have hyear := daysBeforeMonth_le d.year d.month
  rw [toDays_eq, daysBeforeYear_add_one h.1]
  omega

theorem toDays_lt_of_year_lt (hd : d.Valid) (he : e.Valid) (h : d.year < e.year) : d.toDays < e.toDays := by
  have hmono : daysBeforeYear (d.year + 1) ≤ daysBeforeYear e.year := daysBeforeYear_mono h
  have hlt := hd.toDays_bounds.2
  have hle := he.toDays_bounds.1
  omega

theorem toDays_lt_of_month_lt (hd : d.Valid) (hyear : d.year = e.year) (h : d.month < e.month) :
    d.toDays < e.toDays := by
  obtain ⟨-, hday, hmonth⟩ := hd.day_le
  have hmono : daysBeforeMonth d.year d.month ≤ daysBeforeMonth d.year (e.month - 1) :=
    daysBeforeMonth_mono d.year (by omega)
  rw [toDays_eq, toDays_eq, ← hyear]
  omega

/-- **Days are counted by year, month and day.** -/
theorem toDays_lt_toDays_iff (hd : d.Valid) (he : e.Valid) : d.toDays < e.toDays ↔
    d.year < e.year ∨ d.year = e.year ∧ (d.month < e.month ∨ d.month = e.month ∧ d.day < e.day) := by
  have hdday := hd.day_le.2.1
  have heday := he.day_le.2.1
  rcases Nat.lt_trichotomy d.year e.year with hyear | hyear | hyear
  · exact iff_of_true (toDays_lt_of_year_lt hd he hyear) (Or.inl hyear)
  · rcases Nat.lt_trichotomy d.month e.month with hmonth | hmonth | hmonth
    · exact iff_of_true (toDays_lt_of_month_lt hd hyear hmonth) (Or.inr ⟨hyear, Or.inl hmonth⟩)
    · rw [toDays_eq, toDays_eq, hyear, hmonth]
      omega
    · have hlt := toDays_lt_of_month_lt he hyear.symm hmonth
      omega
  · have hlt := toDays_lt_of_year_lt he hd hyear
    omega

theorem eq_of_toDays_eq (hd : d.Valid) (he : e.Valid) (h : d.toDays = e.toDays) : d = e := by
  have hlt := toDays_lt_toDays_iff hd he
  have hgt := toDays_lt_toDays_iff he hd
  obtain ⟨year, month, day⟩ := d
  obtain ⟨year', month', day'⟩ := e
  simp only [mk.injEq]
  dsimp only at hlt hgt
  omega

/-! ## The date of a day -/

/-- A day of the year is split at the month that it belongs to. -/
theorem splitMonths_eq {lengths : List Nat} {days : Nat} (first : Nat) (h : days < lengths.sum) :
    ∃ month, splitMonths first lengths days = (first + month, days - (lengths.take month).sum + 1) ∧
      (lengths.take month).sum ≤ days ∧ days < (lengths.take month).sum + lengths.getD month 0 := by
  induction lengths generalizing first days with
  | nil => cases h
  | cons length rest ih =>
    rw [splitMonths]
    by_cases hlength : days < length
    · rw [if_pos hlength]
      refine ⟨0, rfl, Nat.zero_le _, ?_⟩
      simpa using hlength
    · rw [if_neg hlength]
      rw [List.sum_cons] at h
      obtain ⟨month, hsplit, hle, hlt⟩ := ih (first + 1) (show days - length < rest.sum by omega)
      refine ⟨month + 1, ?_, ?_⟩
      · rw [hsplit, List.take_succ_cons, List.sum_cons]
        exact Prod.ext (by dsimp only; omega) (by dsimp only; omega)
      · rw [List.take_succ_cons, List.sum_cons, List.getD_cons_succ]
        omega

/-- The date of a day of a year. -/
theorem valid_splitMonths {year days month day : Nat} (hyear : 1 ≤ year ∧ year ≤ lastYear)
    (h : days < yearLength year) (hsplit : splitMonths 1 (monthLengths year) days = (month, day)) :
    Valid ⟨year, month, day⟩ ∧ toDays ⟨year, month, day⟩ = daysBeforeYear year + days := by
  rw [← sum_monthLengths] at h
  obtain ⟨index, hindex, hle, hlt⟩ := splitMonths_eq 1 h
  rw [hsplit] at hindex
  obtain ⟨rfl, rfl⟩ := Prod.mk.inj hindex
  have hmonth : 1 + index - 1 = index := by omega
  refine ⟨⟨hyear.1, hyear.2, Nat.le_add_left 1 _, ?_⟩, ?_⟩
  · rw [monthLength]
    dsimp only
    rw [if_neg (by omega), hmonth]
    omega
  · rw [toDays_eq]
    dsimp only
    rw [hmonth, daysBeforeMonth]
    omega

theorem daysBeforeYear_parts (a : Nat) {b c d : Nat} (hb : b ≤ 3) (hc : c ≤ 24) (hd : d ≤ 3) :
    daysBeforeYear (a * 400 + b * 100 + c * 4 + d + 1) = a * 146097 + b * 36524 + c * 1461 + d * 365 := by
  unfold daysBeforeYear
  omega

theorem isLeapYear_parts (a : Nat) {b c d : Nat} (hb : b ≤ 3) (hc : c ≤ 24) (hd : d ≤ 3) :
    isLeapYear (a * 400 + b * 100 + c * 4 + d + 1) = true ↔ d = 3 ∧ (c ≠ 24 ∨ b = 3) := by
  rw [isLeapYear_iff]
  omega

/-- A day is split into periods, the longest first. -/
theorem ofDays_eq {days cycles centuries inCentury fours years inYear month day : Nat}
    (hcycles : days / daysOf400Years = cycles) (hcenturies : min (days % daysOf400Years / daysOf100Years) 3 = centuries)
    (hinCentury : days % daysOf400Years - centuries * daysOf100Years = inCentury)
    (hfours : inCentury / daysOf4Years = fours) (hyears : min (inCentury % daysOf4Years / 365) 3 = years)
    (hinYear : inCentury % daysOf4Years - years * 365 = inYear)
    (hsplit : splitMonths 1 (monthLengths (cycles * 400 + centuries * 100 + fours * 4 + years + 1)) inYear = (month, day)) :
    ofDays days = ⟨cycles * 400 + centuries * 100 + fours * 4 + years + 1, month, day⟩ := by
  subst hcycles hcenturies hinCentury hfours hyears hinYear
  rw [ofDays, hsplit]

/-- The last century of a cycle is a day longer than the others. -/
theorem century_bounds {days centuries inCentury : Nat}
    (hcenturies : min (days % daysOf400Years / daysOf100Years) 3 = centuries)
    (hinCentury : days % daysOf400Years - centuries * daysOf100Years = inCentury) :
    centuries ≤ 3 ∧ (inCentury < 36524 ∨ inCentury = 36524 ∧ centuries = 3) ∧
      days = days / daysOf400Years * 146097 + centuries * 36524 + inCentury := by
  unfold daysOf400Years daysOf100Years at *
  omega

/-- The last of four years is a day longer than the others, unless it is the last of a short century. -/
theorem year_bounds {centuries inCentury years inYear : Nat}
    (hlong : inCentury < 36524 ∨ inCentury = 36524 ∧ centuries = 3)
    (hyears : min (inCentury % daysOf4Years / 365) 3 = years)
    (hinYear : inCentury % daysOf4Years - years * 365 = inYear) :
    inCentury / daysOf4Years ≤ 24 ∧ years ≤ 3 ∧
      inCentury = inCentury / daysOf4Years * 1461 + years * 365 + inYear ∧
      (inYear < 365 ∨ inYear = 365 ∧ years = 3 ∧ (inCentury / daysOf4Years ≠ 24 ∨ centuries = 3)) := by
  unfold daysOf4Years at *
  omega

/-- Every day of the calendar has a date. -/
theorem ofDays_spec {days : Nat} (h : days < daysBeforeYear (lastYear + 1)) :
    (ofDays days).Valid ∧ (ofDays days).toDays = days := by
  obtain ⟨centuries, hcenturies⟩ : ∃ n, min (days % daysOf400Years / daysOf100Years) 3 = n := ⟨_, rfl⟩
  obtain ⟨inCentury, hinCentury⟩ : ∃ n, days % daysOf400Years - centuries * daysOf100Years = n := ⟨_, rfl⟩
  obtain ⟨years, hyears⟩ : ∃ n, min (inCentury % daysOf4Years / 365) 3 = n := ⟨_, rfl⟩
  obtain ⟨inYear, hinYear⟩ : ∃ n, inCentury % daysOf4Years - years * 365 = n := ⟨_, rfl⟩
  obtain ⟨hb, hlong, hdays⟩ := century_bounds hcenturies hinCentury
  obtain ⟨hc, hd, hcentury, hshort⟩ := year_bounds hlong hyears hinYear
  have hbefore := daysBeforeYear_parts (days / daysOf400Years) hb hc hd
  have hleap := isLeapYear_parts (days / daysOf400Years) hb hc hd
  obtain ⟨year, hyear⟩ :
    ∃ n, days / daysOf400Years * 400 + centuries * 100 + inCentury / daysOf4Years * 4 + years + 1 = n := ⟨_, rfl⟩
  rw [hyear] at hbefore hleap
  have hlength : inYear < yearLength year := by
    rw [yearLength]
    rcases hshort with hshort | ⟨hlast, hshort⟩
    · exact Nat.lt_add_right _ hshort
    · rw [if_pos (hleap.mpr hshort), hlast]
      decide
  have hnumber : daysBeforeYear year + inYear = days := by omega
  have hlast : year ≤ lastYear := by
    refine Nat.le_of_not_lt fun hlate => ?_
    have hmono : daysBeforeYear (lastYear + 1) ≤ daysBeforeYear year := daysBeforeYear_mono hlate
    omega
  obtain ⟨month, day, hsplit⟩ : ∃ month day, splitMonths 1 (monthLengths year) inYear = (month, day) := ⟨_, _, rfl⟩
  rw [ofDays_eq rfl hcenturies hinCentury rfl hyears hinYear (hyear ▸ hsplit), hyear]
  have hdate := valid_splitMonths ⟨show 1 ≤ year by omega, hlast⟩ hlength hsplit
  rwa [hnumber] at hdate

theorem valid_ofDays {days : Nat} (h : days < daysBeforeYear (lastYear + 1)) : (ofDays days).Valid := (ofDays_spec h).1

theorem toDays_ofDays {days : Nat} (h : days < daysBeforeYear (lastYear + 1)) : (ofDays days).toDays = days :=
  (ofDays_spec h).2

/-- A date lies before the end of the calendar. -/
theorem Valid.toDays_lt (h : d.Valid) : d.toDays < daysBeforeYear (lastYear + 1) := by
  have hmono : daysBeforeYear (d.year + 1) ≤ daysBeforeYear (lastYear + 1) :=
    daysBeforeYear_mono (Nat.add_le_add_right h.2.1 1)
  exact Nat.lt_of_lt_of_le h.toDays_bounds.2 hmono

/-- **A date is the date of its day.** -/
theorem ofDays_toDays (h : d.Valid) : ofDays d.toDays = d :=
  eq_of_toDays_eq (valid_ofDays h.toDays_lt) h (toDays_ofDays h.toDays_lt)

end Date

end Intake
