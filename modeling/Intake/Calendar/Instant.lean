import Intake.Calendar.Date

/-!
# Instants

A point in time in Coordinated Universal Time, to the microsecond, within the calendar's years. It is
stored as seconds since the calendar began, so that the order of instants is the order of time; dates
and clock readings are views of it.
-/

namespace Intake

/-- Seconds of a day. -/
def secondsPerDay : Nat := 86400

/-- Seconds of the whole calendar. -/
def secondsOfCalendar : Nat := daysBeforeYear (lastYear + 1) * secondsPerDay

/-- Hours, minutes and seconds of a clock. -/
structure Clock where
  hour : Nat
  minute : Nat
  second : Nat
deriving DecidableEq

namespace Clock

/-- The reading occurs in a day. -/
def Valid (c : Clock) : Prop := c.hour < 24 ∧ c.minute < 60 ∧ c.second < 60

instance (c : Clock) : Decidable c.Valid := by unfold Valid; infer_instance

/-- Seconds since midnight. -/
def toSeconds (c : Clock) : Nat := c.hour * 3600 + c.minute * 60 + c.second

/-- The reading so many seconds after midnight. -/
def ofSeconds (s : Nat) : Clock := ⟨s / 3600, s % 3600 / 60, s % 60⟩

/-- Midnight. -/
def midnight : Clock := ⟨0, 0, 0⟩

end Clock

/-- Seconds since the calendar began, as a date and a clock show them. -/
def wallSeconds (d : Date) (c : Clock) : Nat := d.toDays * secondsPerDay + c.toSeconds

/-- A point in time. -/
structure Instant where
  /-- Whole seconds since the calendar began. -/
  second : Nat
  /-- Microseconds of the current second. -/
  micro : Nat
  /-- The second belongs to the calendar. -/
  second_lt : second < secondsOfCalendar
  /-- A second has a million microseconds. -/
  micro_lt : micro < 1000000
deriving DecidableEq

namespace Instant

/-- The instant so many seconds and microseconds after the calendar began, if it lies within it. -/
def ofSeconds? (second : Int) (micro : Nat) : Option Instant :=
  if h : 0 ≤ second ∧ second.toNat < secondsOfCalendar ∧ micro < 1000000 then
    some ⟨second.toNat, micro, h.2.1, h.2.2⟩
  else none

/-- The instant at which a clock in Coordinated Universal Time shows a reading on a date. -/
def ofReading? (d : Date) (c : Clock) (micro : Nat) : Option Instant :=
  if d.Valid ∧ c.Valid then ofSeconds? (wallSeconds d c) micro else none

/-- The date in Coordinated Universal Time. -/
def date (t : Instant) : Date := Date.ofDays (t.second / secondsPerDay)

/-- The clock in Coordinated Universal Time. -/
def clock (t : Instant) : Clock := Clock.ofSeconds (t.second % secondsPerDay)

/-- The digits of a number, filled with zeros on the left to a width. -/
def padded (width n : Nat) : List Char :=
  let ds := Nat.toDigits 10 n
  List.replicate (width - ds.length) '0' ++ ds

/-- Year, month and day in the extended format. -/
def dateText (d : Date) : List Char := padded 4 d.year ++ '-' :: padded 2 d.month ++ '-' :: padded 2 d.day

/-- Hours, minutes and seconds in the extended format. -/
def clockText (c : Clock) : List Char :=
  padded 2 c.hour ++ ':' :: padded 2 c.minute ++ ':' :: padded 2 c.second

/-- The instant's text with a separator between date and clock. Microseconds show only when there are
any. -/
def text (separator : Char) (t : Instant) : List Char :=
  dateText t.date ++ separator :: clockText t.clock ++
    (if t.micro = 0 then [] else '.' :: padded 6 t.micro) ++ "+00:00".toList

/-- The fields that the constructor's notation lists: seconds and microseconds only as far as the last
of them that is not zero. -/
def shownFields (t : Instant) : List Nat :=
  let d := t.date
  let c := t.clock
  [d.year, d.month, d.day, c.hour, c.minute] ++
    (if t.micro ≠ 0 then [c.second, t.micro] else if c.second ≠ 0 then [c.second] else [])

end Instant

end Intake
