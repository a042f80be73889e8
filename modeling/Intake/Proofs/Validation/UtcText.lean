import Intake.Proofs.Validation.EasternTime

/-! # Texts for instants in Coordinated Universal Time

Three validators read an instant in Coordinated Universal Time: from a date, from a date with its midnight, and from a date
with a clock and milliseconds.  A text that one of them reads writes a date, a clock and milliseconds (a `Reading`), of
which the two notations for dates have only midnight.

The texts of a notation are its layout filled with the numbers of a reading, so a reading has one text and a text one
reading.  A reading belongs to an instant exactly when the calendar has its date and the day its time, and then the
instant belongs to no other reading.  Therefore a notation's accepted texts are one for each instant that the notation
reaches (`UtcNotation.validator_eq_ok_iff`).  All groups of digits have a fixed width and go from the year down to the
millisecond, which is the order of time, so the texts stand in the order of the instants
(`UtcNotation.write_lt_write_iff`).
-/
namespace Intake

/-! ## The order of texts -/

/-- Points stand in the order of their numbers, and texts in the order of their first points that differ. -/
instance : LT Point := ⟨fun p q => p.code < q.code⟩

theorem Text.ofChars_lt_ofChars_iff {cs ds : List Char} : ofChars cs < ofChars ds ↔ cs < ds := by
  induction cs generalizing ds with
  | nil => cases ds <;> simp
  | cons c cs ih =>
    cases ds with
    | nil => simp
    | cons d ds =>
      have hfirst : Point.char c < Point.char d ↔ c < d := Iff.rfl
      rw [ofChars_cons, ofChars_cons, List.cons_lt_cons_iff, List.cons_lt_cons_iff, ih, hfirst, Point.char.injEq]

/-! ## Readings -/

/-- A date, a clock and milliseconds, whether or not the calendar and the clock have them. -/
structure Reading where
  date : Date
  clock : Clock
  milli : Nat

namespace Reading

/-- Every number fits its group of digits. -/
def Fits (r : Reading) : Prop :=
  (r.date.year < 10 ^ 4 ∧ r.date.month < 10 ^ 2 ∧ r.date.day < 10 ^ 2) ∧
    (r.clock.hour < 10 ^ 2 ∧ r.clock.minute < 10 ^ 2 ∧ r.clock.second < 10 ^ 2) ∧ r.milli < 10 ^ 3

/-- The calendar has the date, and a day has the time. -/
def Occurs (r : Reading) : Prop := r.date.Valid ∧ r.clock.Valid

end Reading

/-- What an instant is written as, to the millisecond. -/
def Instant.reading (t : Instant) : Reading := ⟨t.date, t.clock, t.micro / 1000⟩

theorem Instant.fits_reading (t : Instant) : t.reading.Fits := by
  obtain ⟨hhour, hminute, hsecond⟩ := t.valid_clock
  have hmicro := t.micro_lt
  refine ⟨t.valid_date.lt, ⟨?_, ?_, ?_⟩, ?_⟩ <;> (unfold reading; dsimp only; omega)

/-! ## Instants of readings -/

namespace Validator

variable {s : Text} {path : Path} {d : Date} {c : Clock} {micro : Nat} {t : Instant} {fault : Fault}

theorem toOption_instantOf (s : Text) (path : Path) (d : Date) (c : Clock) (micro : Nat) :
    (instantOf s path d c micro).toOption = Instant.ofReading? d c micro := by
  unfold instantOf
  cases Instant.ofReading? d c micro <;> rfl

theorem instantOf_eq_ok_iff : instantOf s path d c micro = .ok t ↔
    d.Valid ∧ c.Valid ∧ t.date = d ∧ t.clock = c ∧ t.micro = micro := by
  rw [← Instant.ofReading?_eq_some_iff]
  unfold instantOf
  cases Instant.ofReading? d c micro <;> simp

theorem instantOf_eq_error_iff (hmicro : micro < 1000000) :
    instantOf s path d c micro = .error fault ↔
      ¬(d.Valid ∧ c.Valid) ∧ fault = unsuitable "a valid calendar date" (.text s) path := by
  rw [← Instant.ofReading?_eq_none_iff hmicro]
  unfold instantOf
  cases Instant.ofReading? d c micro <;> simp [eq_comm]

end Validator

/-! ## Notations -/

/-- The notations for instants in Coordinated Universal Time. -/
inductive UtcNotation where
  /-- A date, which means its midnight. -/
  | date
  /-- A date with its midnight. -/
  | midnight
  /-- A date and a clock with milliseconds. -/
  | millis

namespace UtcNotation

/-- The validator that reads the notation. -/
def validator : UtcNotation → Validator Checked Instant
  | date => Validator.date
  | midnight => Validator.midnight
  | millis => Validator.utcTime

/-- What the validator asks for. -/
def expected : UtcNotation → Text
  | date | midnight => "a date string with no time component"
  | millis => "a date-time string"

/-- The notation shows all of the reading. -/
def Shows : UtcNotation → Reading → Prop
  | date, r | midnight, r => r.clock = .midnight ∧ r.milli = 0
  | millis, _ => True

/-- The reading's text. -/
def text : UtcNotation → Reading → List Char
  | date, r => Instant.dateText r.date
  | midnight, r => Instant.dateText r.date ++ "T00:00:00".toList
  | millis, r => readingText r.date r.clock ++ '.' :: Instant.padded 3 r.milli ++ ['Z']

/-- The text writes the reading. -/
structure Writes (f : UtcNotation) (s : Text) (r : Reading) : Prop where
  fits : r.Fits
  shown : f.Shows r
  eq : s = .ofChars (f.text r)

/-- The notation has a text for the instant. -/
def Reaches : UtcNotation → Instant → Prop
  | date, t | midnight, t => t.clock = .midnight ∧ t.micro = 0
  | millis, t => t.micro % 1000 = 0

/-- The text of the instant. -/
def write (f : UtcNotation) (t : Instant) : Text := .ofChars (f.text t.reading)

variable {f : UtcNotation} {s : Text} {path : Path} {r : Reading} {t u : Instant}

/-! ## Layouts -/

/-- The layout of the notation's texts. -/
def layout : UtcNotation → TextLayout
  | date => .date
  | midnight => .midnight
  | millis => .dateTimeMillis

/-- The numbers of the reading that the layout has groups for. -/
def numbers : UtcNotation → Reading → List Nat
  | date, r | midnight, r => [r.date.year, r.date.month, r.date.day]
  | millis, r =>
    [r.date.year, r.date.month, r.date.day, r.clock.hour, r.clock.minute, r.clock.second, r.milli]

theorem noEmptyGroup_layout (f : UtcNotation) : f.layout.NoEmptyGroup := by
  cases f <;> decide

theorem fill_numbers (f : UtcNotation) (r : Reading) : f.layout.fill (f.numbers r) = f.text r := by
  cases f with
  | date => simp [layout, numbers, text, TextLayout.date, TextLayout.fill, Instant.dateText]
  | midnight =>
    simp [layout, numbers, text, TextLayout.midnight, TextLayout.date, TextLayout.fixed, TextLayout.fill,
      Instant.dateText]
  | millis =>
    simp [layout, numbers, text, TextLayout.dateTimeMillis, TextLayout.dateTime, TextLayout.date, TextLayout.fill,
      readingText, Instant.dateText, Instant.clockText]

theorem fits_numbers (f : UtcNotation) (h : r.Fits) : f.layout.Fits (f.numbers r) := by
  obtain ⟨⟨hyear, hmonth, hday⟩, ⟨hhour, hminute, hsecond⟩, hmilli⟩ := h
  cases f with
  | date | midnight => exact ⟨_, _, rfl, hyear, _, _, rfl, hmonth, _, _, rfl, hday, rfl⟩
  | millis =>
    exact ⟨_, _, rfl, hyear, _, _, rfl, hmonth, _, _, rfl, hday, _, _, rfl, hhour, _, _, rfl, hminute, _, _, rfl,
      hsecond, _, _, rfl, hmilli, rfl⟩

/-- Numbers that fit the layout are those of a reading. -/
theorem exists_reading {ns : List Nat} (h : f.layout.Fits ns) : ∃ r, r.Fits ∧ f.Shows r ∧ ns = f.numbers r := by
  cases f with
  | date | midnight =>
    obtain ⟨year, _, rfl, hyear, month, _, rfl, hmonth, day, _, rfl, hday, rfl⟩ := h
    have hclock : (0 < 10 ^ 2 ∧ 0 < 10 ^ 2 ∧ 0 < 10 ^ 2) ∧ 0 < 10 ^ 3 := by decide
    exact ⟨⟨⟨year, month, day⟩, .midnight, 0⟩, ⟨⟨hyear, hmonth, hday⟩, hclock⟩, ⟨rfl, rfl⟩, rfl⟩
  | millis =>
    obtain ⟨year, _, rfl, hyear, month, _, rfl, hmonth, day, _, rfl, hday, hour, _, rfl, hhour, minute, _, rfl, hminute,
      second, _, rfl, hsecond, milli, _, rfl, hmilli, rfl⟩ := h
    exact ⟨⟨⟨year, month, day⟩, ⟨hour, minute, second⟩, milli⟩,
      ⟨⟨hyear, hmonth, hday⟩, ⟨hhour, hminute, hsecond⟩, hmilli⟩, trivial, rfl⟩

/-- A text writes a reading exactly when its groups have the reading's numbers. -/
theorem writes_iff : f.Writes s r ↔
    r.Fits ∧ f.Shows r ∧ s.chars?.bind f.layout.numbers? = some (f.numbers r) := by
  constructor
  · rintro ⟨hfits, hshown, rfl⟩
    refine ⟨hfits, hshown, ?_⟩
    rw [Text.chars?_ofChars, Option.bind_some, TextLayout.numbers?_eq_some_iff f.noEmptyGroup_layout, fill_numbers]
    exact ⟨f.fits_numbers hfits, rfl⟩
  · rintro ⟨hfits, hshown, hnumbers⟩
    obtain ⟨cs, hcs, hnumbers⟩ := Option.bind_eq_some_iff.mp hnumbers
    rw [TextLayout.numbers?_eq_some_iff f.noEmptyGroup_layout, fill_numbers] at hnumbers
    exact ⟨hfits, hshown, by rw [Text.chars?_eq_some_iff.mp hcs, hnumbers.2]⟩

/-- A reading has no other numbers than those that the notation shows. -/
theorem numbers_injective {r' : Reading} (hr : f.Shows r) (hr' : f.Shows r') (h : f.numbers r = f.numbers r') :
    r = r' := by
  obtain ⟨⟨year, month, day⟩, ⟨hour, minute, second⟩, milli⟩ := r
  obtain ⟨⟨year', month', day'⟩, ⟨hour', minute', second'⟩, milli'⟩ := r'
  cases f with
  | date | midnight =>
    obtain ⟨hclock, hmilli⟩ := hr
    obtain ⟨hclock', hmilli'⟩ := hr'
    simp_all [numbers]
  | millis => simp_all [numbers]

/-- A text writes one reading. -/
theorem Writes.unique {r' : Reading} (h : f.Writes s r) (h' : f.Writes s r') : r = r' := by
  obtain ⟨-, hr, hnumbers⟩ := writes_iff.mp h
  obtain ⟨-, hr', hnumbers'⟩ := writes_iff.mp h'
  exact numbers_injective hr hr' (Option.some.inj (hnumbers.symm.trans hnumbers'))

/-! ## Reading a text -/

/-- What becomes of the numbers of a text. -/
def build : UtcNotation → Text → Path → List Nat → Checked Instant
  | date | midnight => Validator.buildDate
  | millis => Validator.buildMillis

theorem validator_text (f : UtcNotation) (s : Text) (path : Path) : f.validator (.text s) path =
    match s.chars?.bind f.layout.numbers? with
    | some ns => f.build s path ns
    | none => .error (unsuitable f.expected (.text s) path) := by
  cases f <;> exact Validator.laidOut_text _ _ _ _ _ _

/-- A text that writes a reading is read as the instant of this reading. -/
theorem validator_of_writes (h : f.Writes s r) (path : Path) :
    f.validator (.text s) path = Validator.instantOf s path r.date r.clock (r.milli * 1000) := by
  obtain ⟨-, hshown, hnumbers⟩ := writes_iff.mp h
  rw [validator_text, hnumbers]
  cases f with
  | date | midnight =>
    obtain ⟨hclock, hmilli⟩ := hshown
    rw [hclock, hmilli]
    rfl
  | millis => rfl

/-- A text that writes no reading does not have the layout. -/
theorem validator_of_not_writes (h : ∀ r, ¬ f.Writes s r) (path : Path) :
    f.validator (.text s) path = .error (unsuitable f.expected (.text s) path) := by
  rw [validator_text]
  cases hnumbers : s.chars?.bind f.layout.numbers? with
  | none => rfl
  | some ns =>
    obtain ⟨cs, -, hcs⟩ := Option.bind_eq_some_iff.mp hnumbers
    obtain ⟨hfits, -⟩ := (TextLayout.numbers?_eq_some_iff f.noEmptyGroup_layout).mp hcs
    obtain ⟨r, hr, hshown, rfl⟩ := exists_reading hfits
    exact absurd (writes_iff.mpr ⟨hr, hshown, hnumbers⟩) (h r)

/-! ## Accepted texts -/

/-- The reading of an instant that the notation reaches. -/
theorem writes_write (h : f.Reaches t) : f.Writes (f.write t) t.reading := by
  refine ⟨t.fits_reading, ?_, rfl⟩
  cases f with
  | date | midnight => exact ⟨h.1, by rw [Instant.reading, h.2]⟩
  | millis => trivial

/-- **The accepted texts are those of the instants that the notation reaches.** -/
theorem validator_eq_ok_iff (f : UtcNotation) (s : Text) (path : Path) (t : Instant) :
    f.validator (.text s) path = .ok t ↔ f.Reaches t ∧ s = f.write t := by
  constructor
  · intro h
    rcases exists_or_forall_not (f.Writes s) with ⟨r, hr⟩ | hnone
    · rw [validator_of_writes hr, Validator.instantOf_eq_ok_iff] at h
      obtain ⟨-, -, hdate, hclock, hmicro⟩ := h
      have hreading : t.reading = r := by
        rw [Instant.reading, hdate, hclock, hmicro, Nat.mul_div_cancel _ (by decide)]
      refine ⟨?_, ?_⟩
      · cases f with
        | date | midnight => exact ⟨hclock.trans hr.shown.1, by rw [hmicro, hr.shown.2]⟩
        | millis =>
          rw [Reaches, hmicro]
          exact Nat.mul_mod_left _ _
      · rw [write, hreading, hr.eq]
    · rw [validator_of_not_writes hnone] at h
      cases h
  · rintro ⟨hreaches, rfl⟩
    rw [validator_of_writes (writes_write hreaches), Validator.instantOf_eq_ok_iff]
    refine ⟨t.valid_date, t.valid_clock, rfl, rfl, ?_⟩
    have hmilli : t.micro % 1000 = 0 := by
      cases f with
      | date | midnight => rw [hreaches.2]
      | millis => exact hreaches
    exact (Nat.div_mul_cancel (Nat.dvd_of_mod_eq_zero hmilli)).symm

/-- A refused text writes a reading that does not occur, or none. -/
theorem validator_eq_error_iff (f : UtcNotation) (s : Text) (path : Path) (fault : Fault) :
    f.validator (.text s) path = .error fault ↔
      (∃ r, f.Writes s r ∧ ¬ r.Occurs) ∧ fault = unsuitable "a valid calendar date" (.text s) path ∨
        (∀ r, ¬ f.Writes s r) ∧ fault = unsuitable f.expected (.text s) path := by
  rcases exists_or_forall_not (f.Writes s) with ⟨r, hr⟩ | hnone
  · have hmilli := hr.fits.2.2
    rw [validator_of_writes hr, Validator.instantOf_eq_error_iff (by omega)]
    constructor
    · rintro ⟨hoccurs, hfault⟩
      exact Or.inl ⟨⟨r, hr, hoccurs⟩, hfault⟩
    · rintro (⟨⟨r', hr', hoccurs⟩, hfault⟩ | ⟨hnone, -⟩)
      · rw [hr.unique hr']
        exact ⟨hoccurs, hfault⟩
      · exact absurd hr (hnone r)
  · rw [validator_of_not_writes hnone, Except.error.injEq, eq_comm]
    constructor
    · exact fun hfault => Or.inr ⟨hnone, hfault⟩
    · rintro (⟨⟨r, hr, -⟩, -⟩ | ⟨-, hfault⟩)
      · exact absurd hr (hnone r)
      · exact hfault

/-! ## The order of time -/

theorem numbers_lt_numbers_iff (h : f.Reaches t) (h' : f.Reaches u) :
    f.numbers t.reading < f.numbers u.reading ↔ t.fields < u.fields := by
  cases f with
  | date | midnight =>
    simp only [numbers, Instant.reading, Instant.fields, h.1, h'.1, h.2, h'.2, List.cons_lt_cons_iff, List.not_lt_nil,
      and_false, or_false, Nat.lt_irrefl]
  | millis =>
    have hmilli : t.micro % 1000 = 0 := h
    have hmilli' : u.micro % 1000 = 0 := h'
    have hlt : t.micro / 1000 < u.micro / 1000 ↔ t.micro < u.micro := by omega
    simp only [numbers, Instant.reading, Instant.fields, List.cons_lt_cons_iff, List.not_lt_nil, and_false, or_false, hlt]

/-- **Texts stand in the order of time.** -/
theorem write_lt_write_iff (h : f.Reaches t) (h' : f.Reaches u) : f.write t < f.write u ↔ t.Before u := by
  calc f.write t < f.write u
      ↔ f.layout.fill (f.numbers t.reading) < f.layout.fill (f.numbers u.reading) := by
        rw [write, write, Text.ofChars_lt_ofChars_iff, fill_numbers, fill_numbers]
    _ ↔ f.numbers t.reading < f.numbers u.reading :=
        TextLayout.fill_lt_fill_iff f.noEmptyGroup_layout (f.fits_numbers t.fits_reading) (f.fits_numbers u.fits_reading)
    _ ↔ t.Before u := by rw [numbers_lt_numbers_iff h h', Instant.before_iff_fields]

/-! ## One date in three notations -/

/-- The layout of what follows the date in the longest notation. -/
def timeLayout : TextLayout :=
  [.mark 'T', .digits 2, .mark ':', .digits 2, .mark ':', .digits 2, .mark '.', .digits 3, .mark 'Z']

theorem text_millis (r : Reading) : text millis r =
    text date r ++ timeLayout.fill [r.clock.hour, r.clock.minute, r.clock.second, r.milli] := by
  simp [text, timeLayout, TextLayout.fill, readingText, Instant.clockText]

theorem writes_midnight_append_iff : midnight.Writes (s ++ "T00:00:00") r ↔ date.Writes s r := by
  have htext : s ++ Text.ofString "T00:00:00" = .ofChars (midnight.text r) ↔ s = .ofChars (date.text r) := by
    rw [text, text, Text.ofChars_append, Text.ofString, List.append_left_inj]
  constructor
  · rintro ⟨hfits, hshown, h⟩
    exact ⟨hfits, hshown, htext.mp h⟩
  · rintro ⟨hfits, hshown, h⟩
    exact ⟨hfits, hshown, htext.mpr h⟩

theorem writes_millis_append_iff : millis.Writes (s ++ "T00:00:00.000Z") r ↔ date.Writes s r := by
  have hlayout : timeLayout.NoEmptyGroup := by decide
  have hzero : timeLayout.Fits [0, 0, 0, 0] := ⟨_, _, rfl, by decide, _, _, rfl, by decide, _, _, rfl, by decide, _, _,
    rfl, by decide, rfl⟩
  have hmidnight : "T00:00:00.000Z".toList = timeLayout.fill [0, 0, 0, 0] := by decide
  constructor
  · rintro ⟨hfits, -, htext⟩
    have htime : timeLayout.Fits [r.clock.hour, r.clock.minute, r.clock.second, r.milli] := by
      obtain ⟨-, ⟨hhour, hminute, hsecond⟩, hmilli⟩ := hfits
      exact ⟨_, _, rfl, hhour, _, _, rfl, hminute, _, _, rfl, hsecond, _, _, rfl, hmilli, rfl⟩
    rw [text_millis, Text.ofChars_append, Text.ofString, hmidnight] at htext
    -- The date is what stands before the fourteen characters of the time.
    have hlength : (Text.ofChars (timeLayout.fill [0, 0, 0, 0])).length = (Text.ofChars (timeLayout.fill
        [r.clock.hour, r.clock.minute, r.clock.second, r.milli])).length := by
      rw [Text.length_ofChars, Text.length_ofChars, TextLayout.length_fill_eq hlayout hzero htime]
    obtain ⟨hdate, hrest⟩ := List.append_inj' htext hlength
    have hnumbers := TextLayout.fill_injective hlayout hzero htime (Text.ofChars_inj.mp hrest)
    simp only [List.cons.injEq, and_true] at hnumbers
    obtain ⟨hhour, hminute, hsecond, hmilli⟩ := hnumbers
    have hclock : r.clock = .midnight := by
      rw [Clock.midnight, Clock.mk.injEq]
      exact ⟨hhour.symm, hminute.symm, hsecond.symm⟩
    exact ⟨hfits, ⟨hclock, hmilli.symm⟩, hdate⟩
  · rintro ⟨hfits, ⟨hclock, hmilli⟩, htext⟩
    refine ⟨hfits, trivial, ?_⟩
    rw [text_millis, htext, Text.ofChars_append, Text.ofString, hmidnight, hclock, hmilli]
    rfl

/-- Texts that write the same readings are read alike. -/
theorem toOption_validator_eq (f g : UtcNotation) {s s' : Text} (h : ∀ r, f.Writes s r ↔ g.Writes s' r)
    (path path' : Path) : (f.validator (.text s) path).toOption = (g.validator (.text s') path').toOption := by
  rcases exists_or_forall_not (f.Writes s) with ⟨r, hr⟩ | hnone
  · rw [validator_of_writes hr, validator_of_writes ((h r).mp hr), Validator.toOption_instantOf, Validator.toOption_instantOf]
  · rw [validator_of_not_writes hnone, validator_of_not_writes fun r hr => hnone r ((h r).mpr hr)]
    rfl

/-- **Texts in the three notations are ordered as the instants that they are read as.**  The texts that a notation's
validator accepts are those of the instants that the notation reaches, one for each, and they stand in the order of time.
A date, the date with its midnight, and the date with its midnight to the millisecond are read as one instant or are all
refused.  A refused text either writes a date or a time that does not occur, or it does not have the layout. -/
theorem utc_texts_are_ordered_as_instants :
    (∀ (f : UtcNotation) (s : Text) (path : Path) (t : Instant),
      f.validator (.text s) path = .ok t ↔ f.Reaches t ∧ s = f.write t) ∧
    (∀ (f : UtcNotation) (s s' : Text) (path path' : Path) (t t' : Instant),
      f.validator (.text s) path = .ok t → f.validator (.text s') path' = .ok t' → (s < s' ↔ t.Before t')) ∧
    (∀ (d : Text) (path path' path'' : Path),
      (Validator.date (.text d) path).toOption = (Validator.midnight (.text (d ++ "T00:00:00")) path').toOption ∧
      (Validator.date (.text d) path).toOption = (Validator.utcTime (.text (d ++ "T00:00:00.000Z")) path'').toOption) ∧
    ∀ (f : UtcNotation) (s : Text) (path : Path) (fault : Fault), f.validator (.text s) path = .error fault ↔
      (∃ r, f.Writes s r ∧ ¬ r.Occurs) ∧ fault = .rejected ⟨path, "a valid calendar date", .text s, false⟩ ∨
      (∀ r, ¬ f.Writes s r) ∧ fault = .rejected ⟨path, f.expected, .text s, false⟩ := by
  refine ⟨validator_eq_ok_iff, ?_, ?_, validator_eq_error_iff⟩
  · intro f s s' path path' t t' ht ht'
    obtain ⟨hreaches, rfl⟩ := (f.validator_eq_ok_iff s path t).mp ht
    obtain ⟨hreaches', rfl⟩ := (f.validator_eq_ok_iff s' path' t').mp ht'
    exact write_lt_write_iff hreaches hreaches'
  · intro d path path' path''
    exact ⟨toOption_validator_eq date midnight (fun _ => writes_midnight_append_iff.symm) path path',
      toOption_validator_eq date millis (fun _ => writes_millis_append_iff.symm) path path''⟩

end UtcNotation

end Intake
