import Intake.Proofs.Json.Form
import Intake.Proofs.Validation.Located
import Intake.Proofs.Value.Signaling

/-! # What a validation fails with

A validation returns a value or rejects one, with three exceptions.  A reading in Eastern time may mean an instant
behind the end of the calendar (`LateReading`); this happens in the last five hours of the last day.  A value may have
to be compared with a signaling not-a-number, or be one (`SignalsAmong`).  And a rejection may have to name a whole
number that is too long to be written down, among the values that are listed (`ListUnsaid`) or as a bound of a length
(`LengthUnsaid`).  Each exception belongs to one validator for single values, which fails so on exactly these values
(`Spec.escapes_iff`); a container passes the fault on (`validation_failures`).
-/
namespace Intake

namespace Validator
variable {x : Value} {path : Path} {fault : Fault}

/-! ## Late readings -/

/-- The text of a reading that in Eastern standard time lies behind the end of the calendar. -/
def LateReading (x : Value) : Prop :=
  ∃ d : Date, ∃ c : Clock, x = .text (.ofChars (readingText d c)) ∧ d.Valid ∧ c.Valid ∧
    (secondsOfCalendar : Int) ≤ wallSeconds d c - Eastern.standardOffset

/-- A reading fails only where the calendar ends. -/
theorem easternTime_error_cases (h : easternTime x path = .error fault) :
    (∃ r, fault = .rejected r) ∨ fault = .instantOutOfCalendar := by
  rcases laidOut_error h with ⟨r, hr, -⟩ | ⟨s, numbers, -, hbuild⟩
  · exact Or.inl ⟨r, hr⟩
  · unfold buildEastern at hbuild
    split at hbuild
    · dsimp only at hbuild
      split at hbuild
      · split at hbuild
        · cases hbuild
        · exact Or.inr (Except.error.inj hbuild).symm
      · exact Or.inl ⟨_, (Except.error.inj hbuild).symm⟩
    · exact Or.inl ⟨_, (Except.error.inj hbuild).symm⟩

theorem easternTime_outOfCalendar_iff :
    easternTime x path = .error .instantOutOfCalendar ↔ LateReading x := by
  constructor
  · intro h
    rcases laidOut_error h with ⟨r, ⟨⟩, -⟩ | ⟨s, numbers, rfl, -⟩
    obtain ⟨d, c, hd, hc, rfl, hlate⟩ := easternTime_eq_outOfCalendar_iff.mp h
    exact ⟨d, c, rfl, hd, hc, hlate⟩
  · rintro ⟨d, c, rfl, hd, hc, hlate⟩
    exact easternTime_eq_outOfCalendar_iff.mpr ⟨d, c, hd, hc, rfl, hlate⟩

/-! ## Comparisons that signal -/

/-- Of the values of one kind with another, the first that is not unequal cannot be compared with it. -/
inductive SignalsAmong (x : Value) : List Value → Prop where
  | here {v : Value} {values : List Value} (hkind : x.kind = v.kind) (hnone : x.equal? v = none) :
      SignalsAmong x (v :: values)
  | later {v : Value} {values : List Value} (hpassed : x.kind = v.kind → x.equal? v = some false)
      (h : SignalsAmong x values) : SignalsAmong x (v :: values)

/-- A signaling not-a-number is, or stands in, the one or the other. -/
theorem SignalsAmong.hasSignaling {values : List Value} (h : SignalsAmong x values) :
    x.HasSignaling ∨ ∃ v ∈ values, v.HasSignaling := by
  induction h with
  | here _ hnone =>
    rcases Value.hasSignaling_of_equal?_eq_none _ _ hnone with hx | hv
    · exact Or.inl hx
    · exact Or.inr ⟨_, List.mem_cons_self, hv⟩
  | later _ _ ih =>
    rcases ih with hx | ⟨v, hv, hs⟩
    · exact Or.inl hx
    · exact Or.inr ⟨v, List.mem_cons_of_mem _ hv, hs⟩

theorem signalsAmong_cons_iff {v : Value} {values : List Value} : SignalsAmong x (v :: values) ↔
    (x.kind = v.kind ∧ x.equal? v = none) ∨
      (x.kind = v.kind → x.equal? v = some false) ∧ SignalsAmong x values := by
  constructor
  · intro h
    cases h with
    | here hkind hnone => exact Or.inl ⟨hkind, hnone⟩
    | later hpassed h => exact Or.inr ⟨hpassed, h⟩
  · rintro (⟨hkind, hnone⟩ | ⟨hpassed, h⟩)
    · exact .here hkind hnone
    · exact .later hpassed h

theorem isOneOf_signals_iff {values : List Value} :
    isOneOf x values = .error fault ↔ fault = .signalingComparison ∧ SignalsAmong x values := by
  induction values with
  | nil => exact ⟨nofun, fun h => nomatch h.2⟩
  | cons v values ih =>
    rw [isOneOf, signalsAmong_cons_iff]
    by_cases hkind : x.kind = v.kind
    · rw [if_pos hkind]
      cases hequal : x.equal? v with
      | none => simp [hkind, eq_comm]
      | some b =>
        cases b with
        | true => simp [hkind]
        | false => simp [hkind, ih]
    · rw [if_neg hkind]
      simp [hkind, ih]

/-! ## What cannot be said -/

/-- The value is none of those listed, and one of these is too long to be written down. -/
def ListUnsaid (values : List Value) (x : Value) : Prop :=
  (∀ v ∈ values, x.kind = v.kind → x.equal? v = some false) ∧ ∃ v ∈ values, v.hasText = false

/-- The length of a text is refused by bounds of which one is too long to be written down. -/
def LengthUnsaid (min max : Option Int) (x : Value) : Prop :=
  ∃ t low high, x = .text t ∧ min = some low ∧ max = some high ∧ (t.length : Int) < low ∧ high < (t.length : Int) ∧
    ¬(low.natAbs < 10 ^ Numeral.maxDigits ∧ high.natAbs < 10 ^ Numeral.maxDigits)

theorem isOneOf_eq_false_iff {values : List Value} :
    isOneOf x values = .ok false ↔ ∀ v ∈ values, x.kind = v.kind → x.equal? v = some false := by
  induction values with
  | nil => exact ⟨fun _ => List.forall_mem_nil _, fun _ => rfl⟩
  | cons v values ih =>
    rw [isOneOf, List.forall_mem_cons, ← ih]
    by_cases hkind : x.kind = v.kind
    · rw [if_pos hkind]
      cases hequal : x.equal? v with
      | none => simp [hkind]
      | some b =>
        cases b with
        | true => simp [hkind]
        | false => simp [hkind]
    · rw [if_neg hkind]
      simp [hkind]

theorem allHaveText_eq_false_iff {values : List Value} :
    Value.allHaveText values = false ↔ ∃ v ∈ values, v.hasText = false := by
  induction values with
  | nil => simp [Value.allHaveText]
  | cons v values ih => rw [Value.allHaveText, Bool.and_eq_false_iff, ih, List.exists_mem_cons_iff]

/-- Besides by rejecting, a list fails where a comparison signals, or where it cannot be named. -/
theorem oneOf_escapes_iff {values : List Value} :
    (oneOf values x path = .error fault ∧ ∀ r, fault ≠ .rejected r) ↔
      fault = .signalingComparison ∧ SignalsAmong x values ∨ fault = .integerTooLong ∧ ListUnsaid values x := by
  rw [ListUnsaid, ← isOneOf_eq_false_iff, ← allHaveText_eq_false_iff, oneOf, describeValues]
  cases hone : isOneOf x values with
  | error fault' =>
    obtain ⟨rfl, hsignals⟩ := isOneOf_signals_iff.mp hone
    constructor
    · rintro ⟨⟨⟩, -⟩
      exact Or.inl ⟨rfl, hsignals⟩
    · rintro (⟨rfl, -⟩ | ⟨-, ⟨⟩, -⟩)
      exact ⟨rfl, nofun⟩
  | ok b =>
    have hquiet : ¬SignalsAmong x values := fun hsignals => by
      rw [isOneOf_signals_iff.mpr ⟨rfl, hsignals⟩] at hone
      cases hone
    cases b with
    | true => simp [hquiet]
    | false =>
      cases htext : Value.allHaveText values with
      | true =>
        refine ⟨fun h => absurd (Except.error.inj h.1).symm (h.2 _), ?_⟩
        rintro (⟨-, hsignals⟩ | ⟨-, -, ⟨⟩⟩)
        exact absurd hsignals hquiet
      | false =>
        constructor
        · rintro ⟨⟨⟩, -⟩
          exact Or.inr ⟨rfl, rfl, rfl⟩
        · rintro (⟨-, hsignals⟩ | ⟨rfl, -⟩)
          · exact absurd hsignals hquiet
          · exact ⟨rfl, nofun⟩

theorem writtenBound_cases (n : Int) :
    (n.natAbs < 10 ^ Numeral.maxDigits ∧ ∃ t, writtenBound n = .ok t) ∨
      (¬n.natAbs < 10 ^ Numeral.maxDigits ∧ writtenBound n = .error .integerTooLong) := by
  by_cases hn : n.natAbs < 10 ^ Numeral.maxDigits
  · have htoken : Numeral.written Fault.integerTooLong n = .ok (Scientific.ofInt n).text :=
      Json.written_eq_ok_iff.mpr ⟨hn, rfl⟩
    exact Or.inl ⟨hn, _, congrArg (Except.map Text.ofChars) htoken⟩
  · refine Or.inr ⟨hn, ?_⟩
    rw [writtenBound, Numeral.written]
    cases htoken : Numeral.ofInt? n with
    | none => rfl
    | some token => exact absurd (Json.ofInt?_eq_some_iff.mp htoken).1 hn

/-- Bounds that refuse a length differ, and are named both. -/
theorem describeLength_between {low high : Int} (h : high < low) :
    describeLength (some low) (some high) = .error .integerTooLong ∧
        ¬(low.natAbs < 10 ^ Numeral.maxDigits ∧ high.natAbs < 10 ^ Numeral.maxDigits) ∨
      (∃ t, describeLength (some low) (some high) = .ok t) ∧
        low.natAbs < 10 ^ Numeral.maxDigits ∧ high.natAbs < 10 ^ Numeral.maxDigits := by
  rw [describeLength, if_neg (by omega)]
  rcases writtenBound_cases low with ⟨hlow, t, ht⟩ | ⟨hlow, ht⟩
  · rcases writtenBound_cases high with ⟨hhigh, u, hu⟩ | ⟨hhigh, hu⟩
    · rw [ht, hu]
      exact Or.inr ⟨⟨_, rfl⟩, hlow, hhigh⟩
    · rw [ht, hu]
      exact Or.inl ⟨rfl, fun h => hhigh h.2⟩
  · rw [ht]
    exact Or.inl ⟨rfl, fun h => hlow h.1⟩

theorem lengthRefused_iff {min max : Option Int} {n : Nat} : lengthRefused min max n = true ↔
    ∃ low high, min = some low ∧ max = some high ∧ (n : Int) < low ∧ high < (n : Int) := by
  unfold lengthRefused
  split
  · rename_i low high
    simp
  · rename_i hnone
    refine ⟨nofun, ?_⟩
    rintro ⟨low, high, hmin, hmax, -⟩
    exact absurd hmax (hnone low high hmin)

/-- A length that is refused is told, unless one of the bounds cannot be named. -/
theorem string_of_refused {low high : Int} {t : Text} {email : Bool} (hlow : (t.length : Int) < low)
    (hhigh : high < (t.length : Int)) :
    (string (some low) (some high) email (.text t) path = .error fault ∧ ∀ r, fault ≠ .rejected r) ↔
      fault = .integerTooLong ∧ ¬(low.natAbs < 10 ^ Numeral.maxDigits ∧ high.natAbs < 10 ^ Numeral.maxDigits) := by
  rw [string, if_pos (lengthRefused_iff.mpr ⟨low, high, rfl, rfl, hlow, hhigh⟩)]
  have hbetween : high < low := by omega
  rcases describeLength_between hbetween with ⟨herror, hlong⟩ | ⟨⟨bounds, hok⟩, hshort⟩
  · rw [herror]
    constructor
    · rintro ⟨⟨⟩, -⟩
      exact ⟨rfl, hlong⟩
    · rintro ⟨rfl, -⟩
      refine ⟨rfl, ?_⟩
      rintro _ ⟨⟩
  · rw [hok]
    refine ⟨fun h => absurd (Except.error.inj h.1).symm (h.2 _), fun h => absurd hshort h.2⟩

/-- A text of any other length is taken or rejected. -/
theorem string_of_not_refused {min max : Option Int} {t : Text} {email : Bool}
    (hrefused : ¬lengthRefused min max t.length = true) :
    ¬(string min max email (.text t) path = .error fault ∧ ∀ r, fault ≠ .rejected r) := by
  rw [string, if_neg hrefused]
  rintro ⟨h, hreject⟩
  split at h
  · exact hreject _ (Except.error.inj h).symm
  · cases h

/-- Besides by rejecting, a text fails only where its length is refused by bounds that cannot be named. -/
theorem string_escapes_iff {min max : Option Int} {email : Bool} :
    (string min max email x path = .error fault ∧ ∀ r, fault ≠ .rejected r) ↔
      fault = .integerTooLong ∧ LengthUnsaid min max x := by
  cases x with
  | text t =>
    by_cases hrefused : lengthRefused min max t.length = true
    · obtain ⟨low, high, rfl, rfl, hlow, hhigh⟩ := lengthRefused_iff.mp hrefused
      rw [string_of_refused hlow hhigh]
      constructor
      · rintro ⟨rfl, hlong⟩
        exact ⟨rfl, t, low, high, rfl, rfl, rfl, hlow, hhigh, hlong⟩
      · rintro ⟨rfl, _, _, _, -, ⟨⟩, ⟨⟩, -, -, hlong⟩
        exact ⟨rfl, hlong⟩
    · refine ⟨fun h => absurd h (string_of_not_refused hrefused), ?_⟩
      rintro ⟨-, _, low, high, ⟨⟩, hmin, hmax, hlow, hhigh, -⟩
      exact absurd (lengthRefused_iff.mpr ⟨low, high, hmin, hmax, hlow, hhigh⟩) hrefused
  | _ =>
    refine ⟨fun h => absurd (Except.error.inj h.1).symm (h.2 _), ?_⟩
    rintro ⟨-, _, _, _, ⟨⟩, -⟩

/-- Besides by rejecting, a reading fails only where the calendar ends. -/
theorem easternTime_escapes_iff : (easternTime x path = .error fault ∧ ∀ r, fault ≠ .rejected r) ↔
    fault = .instantOutOfCalendar ∧ LateReading x := by
  constructor
  · rintro ⟨h, hreject⟩
    rcases easternTime_error_cases h with ⟨r, rfl⟩ | rfl
    · exact absurd rfl (hreject r)
    · exact ⟨rfl, easternTime_outOfCalendar_iff.mp h⟩
  · rintro ⟨rfl, hlate⟩
    exact ⟨easternTime_outOfCalendar_iff.mpr hlate, nofun⟩

end Validator

/-! ## Specifications -/

namespace Spec

open Validator

/-- A validator for single values lets out a fault that is no rejection. -/
inductive Escapes : Spec → Value → Fault → Prop where
  | late {y : Value} (h : LateReading y) : Escapes .easternTime y .instantOutOfCalendar
  | signals {values : List Value} {y : Value} (h : SignalsAmong y values) :
      Escapes (.oneOf values) y .signalingComparison
  | list {values : List Value} {y : Value} (h : ListUnsaid values y) : Escapes (.oneOf values) y .integerTooLong
  | length {min max : Option Int} {email : Bool} {y : Value} (h : LengthUnsaid min max y) :
      Escapes (.string min max email) y .integerTooLong

theorem Escapes.fails {s : Spec} {y : Value} {fault : Fault} (h : s.Escapes y fault) (path : Path) :
    s.validate y path = .error fault ∧ ∀ r, fault ≠ .rejected r := by
  cases h with
  | late h =>
    have hfails := (@easternTime_escapes_iff _ path _).mpr ⟨rfl, h⟩
    exact ⟨Checked.map_eq_error_iff.mpr hfails.1, hfails.2⟩
  | signals h =>
    have hfails := (@oneOf_escapes_iff _ path _ _).mpr (Or.inl ⟨rfl, h⟩)
    exact ⟨Checked.map_eq_error_iff.mpr hfails.1, hfails.2⟩
  | list h =>
    have hfails := (@oneOf_escapes_iff _ path _ _).mpr (Or.inr ⟨rfl, h⟩)
    exact ⟨Checked.map_eq_error_iff.mpr hfails.1, hfails.2⟩
  | @length _ _ email _ h =>
    have hfails := (@string_escapes_iff _ path _ _ _ email).mpr ⟨rfl, h⟩
    exact ⟨Checked.map_eq_error_iff.mpr hfails.1, hfails.2⟩

/-- **What escapes from the innermost validator**, at any path. -/
theorem escapes_iff (s : Spec) (y : Value) (path : Path) (fault : Fault) : s.innermost.Escapes y fault ↔
    s.innermost.validate y path = .error fault ∧ ∀ r, fault ≠ .rejected r := by
  refine ⟨fun h => h.fails path, ?_⟩
  rintro ⟨h, hreject⟩
  rcases s.innermost_cases with hlocated | heastern | ⟨values, hvalues⟩ | ⟨min, max, email, hstring⟩
  · obtain ⟨r, hr, -⟩ := hlocated h
    exact absurd hr (hreject r)
  · rw [heastern] at h ⊢
    obtain ⟨rfl, hlate⟩ := easternTime_escapes_iff.mp ⟨Checked.map_eq_error h, hreject⟩
    exact .late hlate
  · rw [hvalues] at h ⊢
    rcases oneOf_escapes_iff.mp ⟨Checked.map_eq_error h, hreject⟩ with ⟨rfl, hsignals⟩ | ⟨rfl, hunsaid⟩
    · exact .signals hsignals
    · exact .list hunsaid
  · rw [hstring] at h ⊢
    obtain ⟨rfl, hunsaid⟩ := string_escapes_iff.mp ⟨Checked.map_eq_error h, hreject⟩
    exact .length hunsaid

end Spec

/-- **What a validation fails with.**  It returns a value or rejects one, unless a fault escapes from its innermost
validator somewhere in the whole: the value there is a reading in Eastern time that lies behind the end of the calendar,
or its comparison with the listed values is stopped by a signaling not-a-number, or its rejection would have to name a
whole number of the specification that is too long to be written down.  From the innermost validator itself, these
faults escape on exactly such values. -/
theorem validation_failures (s : Spec) (x : Value) (path : Path) :
    ((∃ y, s.validate x path = .ok y) ∨ (∃ r, s.validate x path = .error (.rejected r)) ∨
      ∃ fault l y, s.validate x path = .error fault ∧ x.At l y ∧ s.innermost.Escapes y fault) ∧
    (∀ y path fault, s.innermost.Escapes y fault ↔
      s.innermost.validate y path = .error fault ∧ ∀ r, fault ≠ .rejected r) ∧
    ∀ y values, Validator.SignalsAmong y values → y.HasSignaling ∨ ∃ v ∈ values, v.HasSignaling := by
  refine ⟨?_, s.escapes_iff, fun y values h => h.hasSignaling⟩
  cases hs : s.validate x path with
  | ok y => exact Or.inl ⟨y, rfl⟩
  | error fault =>
    by_cases hreject : ∃ r, fault = .rejected r
    · obtain ⟨r, rfl⟩ := hreject
      exact Or.inr (Or.inl ⟨r, rfl⟩)
    · obtain ⟨l, y, hl, ⟨expected, hown⟩ | hinner⟩ := s.failsThrough_innermost x path fault hs
      · exact absurd ⟨_, hown⟩ hreject
      · have hescapes := (s.escapes_iff y _ fault).mpr ⟨hinner, fun r hr => hreject ⟨r, hr⟩⟩
        exact Or.inr (Or.inr ⟨fault, l, y, rfl, hl, hescapes⟩)

/-- The last reading of the calendar, and a signaling not-a-number among numbers: not every failure is a
rejection. -/
theorem failures_besides_rejections :
    Spec.easternTime.validate (.text "9999-12-31T23:59:59") ⟨["at"]⟩ = .error .instantOutOfCalendar ∧
      (Spec.oneOf [.decimal (.finite ⟨false, 1, 0⟩ (by decide))]).validate (.decimal (.nan false true 0)) ⟨["n"]⟩ =
        .error .signalingComparison ∧
      ¬ ∀ (s : Spec) (x : Value) (path : Path),
        (∃ y, s.validate x path = .ok y) ∨ ∃ r, s.validate x path = .error (.rejected r) := by
  have hlate : Validator.LateReading (.text "9999-12-31T23:59:59") :=
    ⟨⟨9999, 12, 31⟩, ⟨23, 59, 59⟩, congrArg Value.text (by decide +kernel), by decide, by decide, by decide +kernel⟩
  have hfault := ((Spec.Escapes.late hlate).fails ⟨["at"]⟩).1
  have hsignals : Validator.SignalsAmong (.decimal (.nan false true 0))
      [.decimal (.finite ⟨false, 1, 0⟩ (by decide))] := .here rfl (by decide +kernel)
  refine ⟨hfault, ((Spec.Escapes.signals hsignals).fails _).1, fun h => ?_⟩
  rcases h .easternTime (.text "9999-12-31T23:59:59") ⟨["at"]⟩ with ⟨y, hy⟩ | ⟨r, hr⟩
  · rw [hfault] at hy
    cases hy
  · rw [hfault] at hr
    cases hr

end Intake
