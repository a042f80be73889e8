import Intake.Proofs.Number.Whole
import Intake.Proofs.Validation.NumberText
import Intake.Value.Literal

/-! # Decimal numbers and their texts

The validators for decimal numbers take them as they stand.  The one for whole numbers asks first for a finite number
and then for an integer value; what it accepts keeps its sign, its digits and its exponent, and what it refuses is told
apart by which of the two is missing (`integer_decides_wholeness`).  The value is exact, whatever the number of digits
and however far the exponent.

Every decimal number has a text, and the validators for texts answer for it as the ones for numbers do for the number
itself (`decimal_text_validates_alike`).  The text of a finite number is a numeral that writes the number; the texts of
infinities and of what is not a number start with letters, as no numeral does.
-/
namespace Intake
namespace Validator

variable {v : Value} {d e : Decimal} {path : Path} {fault : Fault}

/-! ## Whole numbers -/

theorem isWhole_finite_iff {x : Scientific} {h : x.InRange} : isWhole (.finite x h) = true ↔ x.Whole :=
  Scientific.sameNumber_nearestWhole_iff

theorem number_eq_ok_iff : number v path = .ok d ↔ v = .decimal d ∧ d.isFinite = true := by
  constructor
  · intro h
    unfold number at h
    split at h
    · cases h
      exact ⟨rfl, rfl⟩
    · cases h
  · rintro ⟨rfl, hd⟩
    cases d with
    | finite x h => rfl
    | infinity => cases hd
    | nan => cases hd

theorem wholeOnly_eq_ok_iff {w : Validator Checked Decimal} {expected : Text} :
    wholeOnly expected w v path = .ok d ↔ w v path = .ok d ∧ isWhole d = true := by
  cases hw : w v path with
  | error fault =>
    rw [wholeOnly_of_error hw]
    exact ⟨nofun, nofun⟩
  | ok d' =>
    rw [wholeOnly_of_ok hw, Except.ok.injEq]
    constructor
    · rintro ⟨hwhole, rfl⟩
      exact ⟨rfl, hwhole⟩
    · rintro ⟨rfl, hwhole⟩
      exact ⟨hwhole, rfl⟩

theorem number_of_finite (x : Scientific) (h : x.InRange) (path : Path) :
    number (.decimal (.finite x h)) path = .ok (.finite x h) := rfl

/-- There is one way to fail. -/
theorem number_of_not_finite (h : ¬∃ x hx, v = .decimal (.finite x hx)) (path : Path) :
    number v path = .error (unexpected "a number" v path) := by
  unfold number
  split
  · exact absurd ⟨_, _, rfl⟩ h
  · rfl

theorem integer_of_whole {x : Scientific} (h : x.InRange) (hx : x.Whole) (path : Path) :
    integer (.decimal (.finite x h)) path = .ok (.finite x h) :=
  (wholeOnly_of_ok (number_of_finite x h path)).mpr ⟨isWhole_finite_iff.mpr hx, rfl⟩

theorem integer_of_not_whole {x : Scientific} (h : x.InRange) (hx : ¬x.Whole) (path : Path) :
    integer (.decimal (.finite x h)) path = .error (unexpected "an integer" (.decimal (.finite x h)) path) := by
  have hwhole : ¬isWhole (.finite x h) = true := fun hw => hx (isWhole_finite_iff.mp hw)
  unfold integer wholeOnly
  rw [number_of_finite]
  exact if_neg hwhole

theorem integer_of_not_finite (h : ¬∃ x hx, v = .decimal (.finite x hx)) (path : Path) :
    integer v path = .error (unexpected "a number" v path) :=
  wholeOnly_of_error (number_of_not_finite h path)

theorem integer_eq_ok_iff :
    integer v path = .ok d ↔ ∃ x h, v = .decimal (.finite x h) ∧ x.Whole ∧ d = .finite x h := by
  constructor
  · intro hok
    by_cases hfinite : ∃ x hx, v = .decimal (.finite x hx)
    · obtain ⟨x, h, rfl⟩ := hfinite
      by_cases hx : x.Whole
      · rw [integer_of_whole h hx] at hok
        exact ⟨x, h, rfl, hx, (Except.ok.inj hok).symm⟩
      · rw [integer_of_not_whole h hx] at hok
        cases hok
    · rw [integer_of_not_finite hfinite] at hok
      cases hok
  · rintro ⟨x, h, rfl, hx, rfl⟩
    exact integer_of_whole h hx path

/-- **Wholeness is decided exactly, and nothing is changed.**  The validator returns a finite decimal number whose
value is an integer, as it stands.  It asks for a number where there is no finite decimal one, and for an integer
where there is one with another value. -/
theorem integer_decides_wholeness (v : Value) (path : Path) :
    (∀ d, integer v path = .ok d ↔ ∃ x h, v = .decimal (.finite x h) ∧ x.Whole ∧ d = .finite x h) ∧
    ∀ fault, integer v path = .error fault ↔
      ((¬∃ x h, v = .decimal (.finite x h)) ∧ fault = .rejected ⟨path, "a number", v, true⟩) ∨
        ((∃ x h, v = .decimal (.finite x h) ∧ ¬x.Whole) ∧ fault = .rejected ⟨path, "an integer", v, true⟩) := by
  refine ⟨fun d => integer_eq_ok_iff, fun fault => ?_⟩
  by_cases hfinite : ∃ x hx, v = .decimal (.finite x hx)
  · obtain ⟨x, h, rfl⟩ := hfinite
    by_cases hx : x.Whole
    · rw [integer_of_whole h hx]
      refine ⟨nofun, ?_⟩
      rintro (⟨hnone, -⟩ | ⟨⟨y, hy, heq, hnot⟩, -⟩)
      · exact absurd ⟨x, h, rfl⟩ hnone
      · cases heq
        exact absurd hx hnot
    · rw [integer_of_not_whole h hx]
      constructor
      · intro hfault
        exact Or.inr ⟨⟨x, h, rfl, hx⟩, (Except.error.inj hfault).symm⟩
      · rintro (⟨hnone, -⟩ | ⟨-, rfl⟩)
        · exact absurd ⟨x, h, rfl⟩ hnone
        · rfl
  · rw [integer_of_not_finite hfinite]
    constructor
    · intro hfault
      exact Or.inl ⟨hfinite, (Except.error.inj hfault).symm⟩
    · rintro (⟨-, rfl⟩ | ⟨⟨x, h, rfl, -⟩, -⟩)
      · rfl
      · exact absurd ⟨x, h, rfl⟩ hfinite

-- A half behind sixty digits, and a zero with the smallest exponent.
example : isWhole (.finite ⟨false, 10 ^ 60 + 5, -1⟩ (by decide +kernel)) = false := by decide +kernel
example : isWhole (.finite ⟨true, 0, -1999999999999999997⟩ (by decide)) = true := by decide +kernel

/-! ## Texts of numbers -/

/-- The text of a finite number is read as the number. -/
theorem numberText_of_finite (x : Scientific) (h : x.InRange) (path : Path) :
    numberText (.text (Value.decimal (.finite x h)).display) path = .ok (.finite x h) := by
  obtain ⟨n, hn, hx⟩ := x.exists_strictForm_text
  exact numberText_eq_ok_iff.mpr ⟨x.text, n, x, h, rfl, hn.plain, hx, rfl⟩

/-- The texts of all other decimals are no numerals. -/
theorem ofPlain?_text_eq_none (h : d.isFinite = false) : Numeral.ofPlain? d.text = none := by
  cases d with
  | finite => cases h
  | infinity negative =>
    cases negative with
    | false => rfl
    | true => rfl
  | nan negative signaling payload =>
    have htext : (Decimal.nan negative signaling payload).text = Numeral.signText negative ++
        ((if signaling then ['s'] else []) ++ "NaN".toList ++
          if payload = 0 then [] else Nat.toDigits 10 payload) := by
      simp [Decimal.text, Numeral.signText]
    rw [htext]
    cases signaling with
    | false => exact Numeral.ofPlain?_eq_none negative rfl (by decide) (by decide) _
    | true => exact Numeral.ofPlain?_eq_none negative rfl (by decide) (by decide) _

theorem numberText_display_eq_ok_iff :
    numberText (.text (Value.decimal d).display) path = .ok e ↔ d.isFinite = true ∧ e = d := by
  cases hd : d.isFinite with
  | true =>
    cases d with
    | finite x h =>
      rw [numberText_of_finite, Except.ok.injEq]
      simp [eq_comm]
    | infinity => cases hd
    | nan => cases hd
  | false =>
    constructor
    · intro hok
      obtain ⟨cs, n, y, h, hcs, hn, -⟩ := numberText_eq_ok_iff.mp hok
      have htext : cs = d.text := (Text.ofChars_inj.mp (Value.text.inj hcs)).symm
      rw [htext, ← Numeral.ofPlain?_eq_some_iff, ofPlain?_text_eq_none hd] at hn
      cases hn
    · rintro ⟨⟨⟩, -⟩

/-- **A decimal number and its text validate alike.**  The text of a finite number is read as this number, with its sign,
its digits and its exponent, and no other text of a decimal is read at all.  It is taken for a whole number exactly when
the number itself is, and that is the number it is taken for. -/
theorem decimal_text_validates_alike (d : Decimal) (path : Path) :
    (∀ e, numberText (.text (Value.decimal d).display) path = .ok e ↔ d.isFinite = true ∧ e = d) ∧
    (∀ e, integerText (.text (Value.decimal d).display) path = .ok e ↔ integer (.decimal d) path = .ok e) ∧
    ∀ e, integer (.decimal d) path = .ok e ↔ e = d ∧ ∃ x h, d = .finite x h ∧ x.Whole := by
  refine ⟨fun e => numberText_display_eq_ok_iff, fun e => ?_, fun e => ?_⟩
  · rw [integerText, integer, wholeOnly_eq_ok_iff, wholeOnly_eq_ok_iff, numberText_display_eq_ok_iff,
      number_eq_ok_iff]
    constructor
    · rintro ⟨⟨hfinite, rfl⟩, hwhole⟩
      exact ⟨⟨rfl, hfinite⟩, hwhole⟩
    · rintro ⟨⟨⟨⟩, hfinite⟩, hwhole⟩
      exact ⟨⟨hfinite, rfl⟩, hwhole⟩
  · rw [integer_eq_ok_iff]
    constructor
    · rintro ⟨x, h, ⟨⟩, hx, rfl⟩
      exact ⟨rfl, x, h, rfl, hx⟩
    · rintro ⟨rfl, x, h, rfl, hx⟩
      exact ⟨x, h, rfl, hx, rfl⟩

end Validator

end Intake
