/-!
# Calendar dates

Dates of the proleptic Gregorian calendar, years 1 to 9999, and their numbering by days: day 0 is
1 January of year 1. A date and its day number determine each other.
-/

namespace Intake

/-- Whether a year has a 29 February. -/
def isLeapYear (year : Nat) : Bool := year % 4 == 0 && (year % 100 != 0 || year % 400 == 0)

/-- The lengths of a year's months. -/
def monthLengths (year : Nat) : List Nat :=
  [31, if isLeapYear year then 29 else 28, 31, 30, 31, 30, 31, 31, 30, 31, 30, 31]

/-- The days of the years before a year. -/
def daysBeforeYear (year : Nat) : Nat :=
  (year - 1) * 365 + (year - 1) / 4 - (year - 1) / 100 + (year - 1) / 400

/-- The last year of the calendar. -/
def lastYear : Nat := 9999

/-- Year, month and day as they are written; not every triple is a day of the calendar. -/
structure Date where
  year : Nat
  month : Nat
  day : Nat
deriving DecidableEq

namespace Date

/-- The length of the date's month; zero if there is no such month. -/
def monthLength (d : Date) : Nat := if d.month = 0 then 0 else (monthLengths d.year).getD (d.month - 1) 0

/-- The date is a day of the calendar. -/
def Valid (d : Date) : Prop :=
  1 ≤ d.year ∧ d.year ≤ lastYear ∧ 1 ≤ d.day ∧ d.day ≤ d.monthLength

instance (d : Date) : Decidable d.Valid := by unfold Valid; infer_instance

/-- The number of the date's day. -/
def toDays (d : Date) : Nat :=
  daysBeforeYear d.year + ((monthLengths d.year).take (d.month - 1)).foldr (· + ·) 0 + (d.day - 1)

/-- Splits a day of the year, counted from zero, into month and day, both counted from one. -/
def splitMonths (month : Nat) : List Nat → Nat → Nat × Nat
  | [], days => (month, days + 1)
  | length :: rest, days =>
    if days < length then (month, days + 1) else splitMonths (month + 1) rest (days - length)

/-- Days of four centuries, of a century without a leap day at its end, and of four years. -/
def daysOf400Years : Nat := 146097

@[inherit_doc daysOf400Years] def daysOf100Years : Nat := 36524

@[inherit_doc daysOf400Years] def daysOf4Years : Nat := 1461

/-- The date of a day. The last day of a long period belongs to its last part, hence the bounds. -/
def ofDays (days : Nat) : Date :=
  let centuries := min (days % daysOf400Years / daysOf100Years) 3
  let inCentury := days % daysOf400Years - centuries * daysOf100Years
  let years := min (inCentury % daysOf4Years / 365) 3
  let inYear := inCentury % daysOf4Years - years * 365
  let year := days / daysOf400Years * 400 + centuries * 100 + inCentury / daysOf4Years * 4 + years + 1
  let (month, day) := splitMonths 1 (monthLengths year) inYear
  ⟨year, month, day⟩

/-- The day of the week, Sunday being 0. Day 0 was a Monday. -/
def weekday (d : Date) : Nat := (d.toDays + 1) % 7

/-- The `n`-th Sunday of a month. -/
def nthSunday (year month n : Nat) : Date :=
  let first : Date := ⟨year, month, 1⟩
  ⟨year, month, 1 + (7 - first.weekday) % 7 + 7 * (n - 1)⟩

example : ofDays (toDays ⟨2000, 2, 29⟩) = ⟨2000, 2, 29⟩ := by decide
example : ofDays (toDays ⟨1900, 12, 31⟩) = ⟨1900, 12, 31⟩ := by decide
example : nthSunday 2020 3 2 = ⟨2020, 3, 8⟩ := by decide

end Date

end Intake
