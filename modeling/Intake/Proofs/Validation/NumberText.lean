import Intake.Proofs.Json.ReadBack
import Intake.Proofs.Number.Notation
import Intake.Validation.Scalars
import Intake.Wire

/-! # Numbers in texts

A number may come as a text of its own or inside a JSON body, and the two are read by different readers.  The
validator for texts takes plain notation, exactly and without rounding (`plain_notation_read_exactly`): the number that
the text writes, if it lies within the bounds, and a rejection of the text in every other case.

A number token of JSON is plain notation, too.  So a token has one meaning: both readers return the number that it
writes, or both fail because it is out of bounds; and after either of them, the same numbers are whole
(`number_token_has_one_meaning`).
-/
namespace Intake
namespace Validator

open Numeral

variable {s : Text} {d : Decimal} {path : Path}

/-- The text is in plain notation and writes a number within bounds. -/
theorem numberOfText?_eq_some_iff :
    numberOfText? s = some d ↔ ∃ cs n x h, s = .ofChars cs ∧ PlainForm cs n ∧ n.Writes x ∧ d = .finite x h := by
  simp only [numberOfText?, Option.bind_eq_some_iff, Text.chars?_eq_some_iff, ofPlain?_eq_some_iff,
    Decimal.ofNumeral?_eq_some_iff]
  constructor
  · rintro ⟨cs, hcs, n, hn, x, h, hx, rfl⟩
    exact ⟨cs, n, x, h, hcs, hn, hx, rfl⟩
  · rintro ⟨cs, n, x, h, hcs, hn, hx, rfl⟩
    exact ⟨cs, hcs, n, hn, x, h, hx, rfl⟩

theorem numberText_eq_ok_iff {x : Value} : numberText x path = .ok d ↔
    ∃ cs n y h, x = .text (.ofChars cs) ∧ PlainForm cs n ∧ n.Writes y ∧ d = .finite y h := by
  cases x with
  | text s =>
    unfold numberText
    dsimp only
    cases hs : numberOfText? s with
    | none =>
      refine ⟨nofun, ?_⟩
      rintro ⟨cs, n, y, h, hx, hread⟩
      rw [numberOfText?_eq_some_iff.mpr ⟨cs, n, y, h, Value.text.inj hx, hread⟩] at hs
      cases hs
    | some d' =>
      rw [Except.ok.injEq, ← Option.some.injEq, ← hs, numberOfText?_eq_some_iff]
      constructor
      · rintro ⟨cs, n, y, h, rfl, hread⟩
        exact ⟨cs, n, y, h, rfl, hread⟩
      · rintro ⟨cs, n, y, h, hx, hread⟩
        exact ⟨cs, n, y, h, Value.text.inj hx, hread⟩
  | _ =>
    refine ⟨nofun, ?_⟩
    rintro ⟨cs, n, y, h, hx, -⟩
    cases hx

/-- There is one way to fail. -/
theorem numberText_cases (x : Value) (path : Path) : (∃ d, numberText x path = .ok d) ∨
    numberText x path = .error (unexpected "a number string" x path) := by
  unfold numberText
  split
  · split
    · exact Or.inl ⟨_, rfl⟩
    · exact Or.inr rfl
  · exact Or.inr rfl

/-- **Plain notation is read exactly.**  A text is accepted if it is a plain numeral that writes a number within bounds,
and the result is this number: its sign, all its digits and its exponent.  Everything else is rejected as it is. -/
theorem plain_notation_read_exactly (x : Value) (path : Path) :
    (∀ d, numberText x path = .ok d ↔
      ∃ cs n y h, x = .text (.ofChars cs) ∧ PlainForm cs n ∧ n.Writes y ∧ d = .finite y h) ∧
    ∀ fault, numberText x path = .error fault ↔
      (¬∃ cs n y, x = .text (.ofChars cs) ∧ PlainForm cs n ∧ n.Writes y ∧ y.InRange) ∧
        fault = .rejected ⟨path, "a number string", x, true⟩ := by
  refine ⟨fun d => numberText_eq_ok_iff, fun fault => ⟨?_, ?_⟩⟩
  · intro h
    constructor
    · rintro ⟨cs, n, y, hx, hn, hy, hrange⟩
      have hok : numberText x path = .ok (.finite y hrange) :=
        numberText_eq_ok_iff.mpr ⟨cs, n, y, hrange, hx, hn, hy, rfl⟩
      rw [h] at hok
      cases hok
    · rcases numberText_cases x path with ⟨d, hok⟩ | herror
      · rw [h] at hok
        cases hok
      · rw [h] at herror
        exact Except.error.inj herror
  · rintro ⟨hnone, rfl⟩
    rcases numberText_cases x path with ⟨d, hok⟩ | herror
    · obtain ⟨cs, n, y, h, hx, hn, hy, -⟩ := numberText_eq_ok_iff.mp hok
      exact absurd ⟨cs, n, y, hx, hn, hy, h⟩ hnone
    · exact herror

/-! ## Number tokens of JSON -/

variable {cs : List Char} {n : Numeral} {x : Scientific}

/-- A numeral in plain notation is accepted if its number is within bounds. -/
theorem numberText_of_plainForm (hn : PlainForm cs n) (path : Path) : numberText (.text (.ofChars cs)) path =
    match Decimal.ofNumeral? n with
    | none => .error (unexpected "a number string" (.text (.ofChars cs)) path)
    | some d => .ok d := by
  have hnumber : numberOfText? (.ofChars cs) = Decimal.ofNumeral? n := by
    rw [numberOfText?, Text.chars?_ofChars, Option.bind_some, ofPlain?_eq_some_iff.mpr hn, Option.bind_some]
  unfold numberText
  dsimp only
  rw [hnumber]
  cases Decimal.ofNumeral? n <;> rfl

/-- Of an accepted number, the whole ones are taken. -/
theorem wholeOnly_of_ok {v : Validator Checked Decimal} {expected : Text} {y : Value} {d e : Decimal}
    (hv : v y path = .ok d) : wholeOnly expected v y path = .ok e ↔ isWhole d = true ∧ d = e := by
  unfold wholeOnly
  rw [hv]
  dsimp only
  split
  · rename_i hw
    simp [hw]
  · rename_i hw
    simp [hw]

theorem wholeOnly_of_error {v : Validator Checked Decimal} {expected : Text} {y : Value} {fault : Fault}
    (hv : v y path = .error fault) : wholeOnly expected v y path = .error fault := by
  unfold wholeOnly
  rw [hv]

/-- **A number token has one meaning.**  Within bounds, the reader of JSON and the validator for texts return the number
that the token writes.  Out of bounds, the one stops at the number and the other rejects the text.  Either way, the
token is taken for a whole number in a body exactly when it is in a text of its own. -/
theorem number_token_has_one_meaning (ht : StrictForm cs n) (hx : n.Writes x) (path : Path) :
    ((∃ h : x.InRange, Wire.read (.ofChars cs) = .ok (.decimal (.finite x h)) ∧
        numberText (.text (.ofChars cs)) path = .ok (.finite x h)) ∨
      (¬x.InRange ∧ Wire.read (.ofChars cs) = .error .numberOutOfBounds ∧
        numberText (.text (.ofChars cs)) path =
          .error (.rejected ⟨path, "a number string", .text (.ofChars cs), true⟩))) ∧
    ∀ d, (Wire.read (.ofChars cs) >>= fun v => integer v path) = .ok d ↔
      integerText (.text (.ofChars cs)) path = .ok d := by
  have hread : Wire.read (.ofChars cs) = match Decimal.ofNumeral? n with
      | none => .error .numberOutOfBounds
      | some d => .ok (.decimal d) := Json.read_of_scan? ht.scan?
  have htext := numberText_of_plainForm ht.plain path
  by_cases hrange : x.InRange
  · have hd : Decimal.ofNumeral? n = some (.finite x hrange) :=
      Decimal.ofNumeral?_eq_some_iff.mpr ⟨x, hrange, hx, rfl⟩
    rw [hd] at hread htext
    refine ⟨Or.inl ⟨hrange, hread, htext⟩, fun d => ?_⟩
    rw [hread]
    show integer (.decimal (.finite x hrange)) path = .ok d ↔ _
    rw [integer, integerText, wholeOnly_of_ok (v := number) rfl, wholeOnly_of_ok htext]
  · have hd : Decimal.ofNumeral? n = none := by
      rw [← writes_iff.mp hx] at hrange
      exact dif_neg hrange
    rw [hd] at hread htext
    refine ⟨Or.inr ⟨hrange, hread, htext⟩, fun d => ?_⟩
    rw [hread, integerText, wholeOnly_of_error htext]
    exact ⟨nofun, nofun⟩

/-- A power that is out of bounds by one. -/
theorem number_token_has_one_meaning_far :
    let cs : List Char := "-12.50e+999999999999999999".toList
    let n : Numeral := ⟨true, ['1', '2'], ['5', '0'], 999999999999999999⟩
    let x : Scientific := ⟨true, 1250, 999999999999999997⟩
    let path : Path := ⟨["amount"]⟩
    StrictForm cs n ∧ n.Writes x ∧ ¬x.InRange ∧ Wire.read (.ofChars cs) = .error .numberOutOfBounds ∧
      numberText (.text (.ofChars cs)) path =
        .error (.rejected ⟨path, "a number string", .text (.ofChars cs), true⟩) := by
  intro cs n x path
  have hpower : (placeValue (List.replicate 18 '9') : Int) = 999999999999999999 := by decide
  have hmark : PowerForm ('e' :: '+' :: List.replicate 18 '9') 999999999999999999 := by
    rw [← hpower]
    exact .plus (Or.inl rfl) (by decide) (by decide)
  have hwhole : StrictWhole ['1', '2'] := Or.inr ⟨'1', ['2'], rfl, by decide, by decide⟩
  have hfraction : Digits ['5', '0'] := by decide
  have ht : StrictForm cs n := by
    have htext : cs = signText true ++ (['1', '2'] ++ (pointText ['5', '0'] ++
        'e' :: '+' :: List.replicate 18 '9')) := by decide
    rw [htext]
    exact .mk true hwhole hfraction hmark
  have hx : n.Writes x := ⟨rfl, by decide, rfl⟩
  have hrange : ¬x.InRange := by decide
  refine ⟨ht, hx, hrange, ?_⟩
  rcases (number_token_has_one_meaning ht hx path).1 with ⟨h, -⟩ | ⟨-, hread, htext⟩
  · exact absurd h hrange
  · exact ⟨hread, htext⟩

end Validator

end Intake
