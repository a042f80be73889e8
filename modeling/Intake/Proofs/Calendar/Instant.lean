import Intake.Calendar.Instant
import Intake.Proofs.Calendar.Date

/-! # Instants and their readings

An instant is shown by a date, a clock and microseconds, and every day of the calendar with a time of the day is shown by
an instant (`Instant.ofReading?_eq_some_iff`).  Since the seconds of a day are counted by hours, minutes and seconds, and
days by year, month and day, the earlier of two instants is the one whose reading comes first
(`Instant.before_iff_fields`).
-/
namespace Intake

/-! ## Clocks -/

namespace Clock

variable {c c' : Clock} {s : Nat}

theorem Valid.toSeconds_lt (h : c.Valid) : c.toSeconds < secondsPerDay := by
  obtain ⟨hhour, hminute, hsecond⟩ := h
  unfold toSeconds secondsPerDay
  omega

theorem toSeconds_ofSeconds (s : Nat) : (ofSeconds s).toSeconds = s := by
  unfold toSeconds ofSeconds
  dsimp only
  omega

theorem valid_ofSeconds (h : s < secondsPerDay) : (ofSeconds s).Valid := by
  unfold secondsPerDay at h
  unfold Valid ofSeconds
  dsimp only
  omega

theorem ofSeconds_toSeconds (h : c.Valid) : ofSeconds c.toSeconds = c := by
  obtain ⟨hour, minute, second⟩ := c
  obtain ⟨hhour, hminute, hsecond⟩ := h
  dsimp only at hhour hminute hsecond
  simp only [ofSeconds, toSeconds, mk.injEq]
  omega

/-- Seconds are counted by hours, minutes and seconds. -/
theorem toSeconds_lt_toSeconds_iff (hc : c.Valid) (hc' : c'.Valid) : c.toSeconds < c'.toSeconds ↔
    c.hour < c'.hour ∨ c.hour = c'.hour ∧ (c.minute < c'.minute ∨ c.minute = c'.minute ∧ c.second < c'.second) := by
  obtain ⟨-, hminute, hsecond⟩ := hc
  obtain ⟨-, hminute', hsecond'⟩ := hc'
  unfold toSeconds
  omega

end Clock

/-! ## Readings of instants -/

section Wall

variable {d e : Date} {c c' : Clock}

theorem wallSeconds_div (d : Date) (hc : c.Valid) : wallSeconds d c / secondsPerDay = d.toDays := by
  have hlt := hc.toSeconds_lt
  unfold wallSeconds secondsPerDay at *
  omega

theorem wallSeconds_mod (d : Date) (hc : c.Valid) : wallSeconds d c % secondsPerDay = c.toSeconds := by
  have hlt := hc.toSeconds_lt
  unfold wallSeconds secondsPerDay at *
  omega

theorem wallSeconds_lt (hd : d.Valid) (hc : c.Valid) : wallSeconds d c < secondsOfCalendar := by
  have hday := hd.toDays_lt
  have hsecond := hc.toSeconds_lt
  unfold wallSeconds secondsOfCalendar secondsPerDay at *
  omega

end Wall

namespace Instant

variable {t u : Instant} {d : Date} {c : Clock} {micro : Nat}

/-- An instant lies so many seconds after the beginning of the calendar. -/
theorem ofSeconds?_eq_some_iff {second : Int} :
    ofSeconds? second micro = some t ↔ (t.second : Int) = second ∧ t.micro = micro := by
  unfold ofSeconds?
  constructor
  · intro h
    split at h
    · rename_i hrange
      cases h
      exact ⟨Int.toNat_of_nonneg hrange.1, rfl⟩
    · cases h
  · rintro ⟨rfl, rfl⟩
    rw [dif_pos ⟨Int.natCast_nonneg _, by rw [Int.toNat_natCast]; exact t.second_lt, t.micro_lt⟩]
    rfl

theorem valid_date (t : Instant) : t.date.Valid := by
  refine Date.valid_ofDays ?_
  have hlt := t.second_lt
  unfold secondsOfCalendar secondsPerDay at *
  omega

theorem valid_clock (t : Instant) : t.clock.Valid :=
  Clock.valid_ofSeconds (Nat.mod_lt _ (by decide))

theorem toDays_date (t : Instant) : t.date.toDays = t.second / secondsPerDay := by
  refine Date.toDays_ofDays ?_
  have hlt := t.second_lt
  unfold secondsOfCalendar secondsPerDay at *
  omega

theorem toSeconds_clock (t : Instant) : t.clock.toSeconds = t.second % secondsPerDay :=
  Clock.toSeconds_ofSeconds _

/-- **An instant is shown by one date and one clock.** -/
theorem second_eq_wallSeconds_iff (hd : d.Valid) (hc : c.Valid) :
    t.second = wallSeconds d c ↔ t.date = d ∧ t.clock = c := by
  constructor
  · intro h
    rw [date, clock, h, wallSeconds_div d hc, wallSeconds_mod d hc]
    exact ⟨Date.ofDays_toDays hd, Clock.ofSeconds_toSeconds hc⟩
  · rintro ⟨rfl, rfl⟩
    rw [wallSeconds, toDays_date, toSeconds_clock, Nat.div_add_mod']

/-- **A day of the calendar and a time of the day are shown by an instant.** -/
theorem ofReading?_eq_some_iff : ofReading? d c micro = some t ↔
    d.Valid ∧ c.Valid ∧ t.date = d ∧ t.clock = c ∧ t.micro = micro := by
  unfold ofReading?
  split
  · rename_i hvalid
    rw [ofSeconds?_eq_some_iff, Int.natCast_inj, second_eq_wallSeconds_iff hvalid.1 hvalid.2]
    exact ⟨fun ⟨⟨hd, hc⟩, hm⟩ => ⟨hvalid.1, hvalid.2, hd, hc, hm⟩, fun ⟨_, _, hd, hc, hm⟩ => ⟨⟨hd, hc⟩, hm⟩⟩
  · rename_i hvalid
    refine ⟨nofun, ?_⟩
    rintro ⟨hd, hc, -⟩
    exact absurd ⟨hd, hc⟩ hvalid

theorem ofReading?_eq_none_iff (hmicro : micro < 1000000) :
    ofReading? d c micro = none ↔ ¬(d.Valid ∧ c.Valid) := by
  unfold ofReading?
  split
  · rename_i hvalid
    refine ⟨fun h => ?_, fun h => absurd hvalid h⟩
    have hlt := wallSeconds_lt hvalid.1 hvalid.2
    rw [ofSeconds?, dif_pos ⟨Int.natCast_nonneg _, by rwa [Int.toNat_natCast], hmicro⟩] at h
    cases h
  · rename_i hvalid
    exact iff_of_true rfl hvalid

/-! ## The order of time -/

/-- One instant is earlier than another. -/
def Before (t u : Instant) : Prop := t.second < u.second ∨ t.second = u.second ∧ t.micro < u.micro

instance (t u : Instant) : Decidable (t.Before u) := by
  unfold Before
  infer_instance

/-- The date decides first, then the clock, then the microseconds. -/
theorem before_iff : t.Before u ↔ t.date.toDays < u.date.toDays ∨ t.date.toDays = u.date.toDays ∧
    (t.clock.toSeconds < u.clock.toSeconds ∨ t.clock.toSeconds = u.clock.toSeconds ∧ t.micro < u.micro) := by
  rw [toDays_date, toDays_date, toSeconds_clock, toSeconds_clock]
  unfold Before secondsPerDay
  omega

/-- The numbers that show an instant, from the year to the microsecond. -/
def fields (t : Instant) : List Nat :=
  [t.date.year, t.date.month, t.date.day, t.clock.hour, t.clock.minute, t.clock.second, t.micro]

/-- **The earlier of two instants is the one whose first different number is less.** -/
theorem before_iff_fields : t.Before u ↔ t.fields < u.fields := by
  have hdate : t.date.toDays = u.date.toDays ↔
      t.date.year = u.date.year ∧ t.date.month = u.date.month ∧ t.date.day = u.date.day := by
    constructor
    · intro h
      rw [Date.eq_of_toDays_eq t.valid_date u.valid_date h]
      exact ⟨rfl, rfl, rfl⟩
    · rintro ⟨hyear, hmonth, hday⟩
      rw [Date.toDays_eq, Date.toDays_eq, hyear, hmonth, hday]
  have hclock : t.clock.toSeconds = u.clock.toSeconds ↔
      t.clock.hour = u.clock.hour ∧ t.clock.minute = u.clock.minute ∧ t.clock.second = u.clock.second := by
    have hlt := Clock.toSeconds_lt_toSeconds_iff t.valid_clock u.valid_clock
    have hgt := Clock.toSeconds_lt_toSeconds_iff u.valid_clock t.valid_clock
    omega
  rw [before_iff, Date.toDays_lt_toDays_iff t.valid_date u.valid_date, hdate,
    Clock.toSeconds_lt_toSeconds_iff t.valid_clock u.valid_clock, hclock]
  simp only [fields, List.cons_lt_cons_iff, List.not_lt_nil, and_false, or_false]
  clear hdate hclock
  omega

end Instant

end Intake
