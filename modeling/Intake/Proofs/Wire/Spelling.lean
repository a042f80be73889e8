import Intake.Proofs.Json.ReadBack
import Intake.Proofs.Number.Notation
import Intake.Proofs.Validation.Layout
import Intake.Wire

/-! # Numbers keep their spelling

A JSON number without a power is written back as it was read, as long as its first digit stands at most six places after
the point.  The number itself is all that is kept between reading and writing, so its text must be found again from the
coefficient and the exponent.  A strict numeral allows that: its whole part has no zeros in front, so it is the text of
its number (`StrictWhole.toDigits_natOf`), and where the whole part is a lone zero, the number of places says how many
zeros follow the point (`pointed_toDigits`).

Where the first digit stands further back, the text has a power, which the numeral did not have; it is another spelling
of the same number (`plain_number_keeps_spelling`).
-/
namespace Intake

/-! ## Digits and their number -/

namespace Numeral
variable {cs whole fraction : List Char} {n : Numeral}

/-- Digits without a zero in front are the digits of the number that they write. -/
theorem StrictWhole.toDigits_natOf (h : StrictWhole whole) : Nat.toDigits 10 (natOf whole) = whole := by
  rcases h with rfl | ⟨c, cs, rfl, hc, hd⟩
  · rfl
  · have hpadded : List.replicate ((c :: cs).length - (Nat.toDigits 10 (natOf (c :: cs))).length) '0' ++
        Nat.toDigits 10 (natOf (c :: cs)) = c :: cs := Instant.padded_natOf hd (Nat.succ_pos _)
    cases hk : (c :: cs).length - (Nat.toDigits 10 (natOf (c :: cs))).length with
    | zero =>
      rw [hk] at hpadded
      exact hpadded
    | succ k =>
      rw [hk] at hpadded
      exact absurd (List.cons.inj hpadded).1.symm hc

theorem StrictWhole.append (hc : whole ≠ ['0']) (hw : StrictWhole whole) (hf : Digits fraction) :
    StrictWhole (whole ++ fraction) := by
  rcases hw with rfl | ⟨c, cs, rfl, hzero, hd⟩
  · exact absurd rfl hc
  · exact Or.inr ⟨c, cs ++ fraction, rfl, hzero, List.forall_mem_append.mpr ⟨hd, hf⟩⟩

/-- **The digits of a number with a point, put back around the point.** -/
theorem pointed_toDigits (hw : StrictWhole whole) (hf : Digits fraction) (hne : fraction ≠ []) :
    Scientific.pointed (Nat.toDigits 10 (natOf (whole ++ fraction))) fraction.length = whole ++ '.' :: fraction := by
  have hpos : 0 < fraction.length := List.length_pos_iff.mpr hne
  by_cases hzero : whole = ['0']
  · -- The zero in front is no digit of the number; the digits are filled up to the places.
    subst hzero
    have hnat : natOf (['0'] ++ fraction) = natOf fraction := rfl
    have hlength := (Nat.length_toDigits_le_iff (by decide) hpos).mpr (natOf_lt hf)
    rw [hnat, Scientific.pointed, if_neg (by omega)]
    exact congrArg (fun ds => '0' :: '.' :: ds) (Instant.padded_natOf hf hpos)
  · have hwhole : 0 < whole.length := List.length_pos_iff.mpr hw.ne_nil
    have hlength : (whole ++ fraction).length - fraction.length = whole.length := by
      rw [List.length_append]
      omega
    rw [(hw.append hzero hf).toDigits_natOf, Scientific.pointed, if_pos (by rw [List.length_append]; omega), hlength,
      List.take_left, List.drop_left]

/-- A strict numeral without a power is a sign, a whole part and a fraction. -/
theorem StrictForm.parts_of_no_power (h : StrictForm cs n) (hp : ∀ c ∈ cs, c ≠ 'e' ∧ c ≠ 'E') :
    cs = signText n.negative ++ (n.whole ++ pointText n.fraction) ∧ StrictWhole n.whole ∧ Digits n.fraction ∧
      n.power = 0 := by
  obtain ⟨negative, hw, hf, hm⟩ := h
  rename_i mark whole fraction power
  -- Every other power starts with its letter.
  have hmark : mark = [] := by
    cases mark with
    | nil => rfl
    | cons c mark =>
      have hc := hp c (by simp)
      exact absurd (hm.powerMark.head c rfl) (not_or.mpr hc)
  subst hmark
  refine ⟨?_, hw, hf, ?_⟩
  · rw [List.append_nil]
  · exact (Prod.mk.inj hm.powerMark.take).1.symm

end Numeral

namespace Scientific

open Numeral

variable {n : Numeral} {x : Scientific}

/-- A zero has one digit. -/
theorem adjusted_of_zero (h : x.coefficient = 0) : x.adjusted = x.exponent := by
  have hdigits : x.digits = ['0'] := by
    rw [digits, h]
    rfl
  rw [adjusted, hdigits, List.length_singleton]
  omega

theorem digits_of_writes (hx : n.Writes x) : x.digits = Nat.toDigits 10 (natOf (n.whole ++ n.fraction)) := by
  rw [digits, hx.coefficient, natOf_eq_placeValue]

theorem exponent_of_no_power (hp : n.power = 0) (hx : n.Writes x) : x.exponent = -(n.fraction.length : Int) := by
  rw [hx.exponent, hp, Int.zero_sub]

/-- The text of a number that a numeral without a power writes, while the first digit is near the point. -/
theorem unsignedText_of_near (hw : StrictWhole n.whole) (hf : Digits n.fraction) (hp : n.power = 0) (hx : n.Writes x)
    (hnear : plainLimit ≤ x.adjusted) : x.unsignedText = n.whole ++ pointText n.fraction := by
  have hexponent := exponent_of_no_power hp hx
  have hdigits := digits_of_writes hx
  unfold unsignedText
  rw [if_pos ⟨by omega, hnear⟩]
  by_cases hfraction : n.fraction = []
  · have hzero : x.exponent = 0 := by
      rw [hexponent, hfraction]
      rfl
    rw [if_pos hzero, hdigits, hfraction, List.append_nil, hw.toDigits_natOf]
    exact (List.append_nil _).symm
  · have hpos := List.length_pos_iff.mpr hfraction
    have hplaces : (-x.exponent).toNat = n.fraction.length := by omega
    rw [if_neg (by omega), hplaces, hdigits, pointed_toDigits hw hf hfraction, pointText_of_ne_nil hfraction]

/-- Where the first digit is far behind the point, the text has a power. -/
theorem power_mem_text (hfar : ¬plainLimit ≤ x.adjusted) : 'E' ∈ x.text := by
  have hpower : 'E' ∈ x.unsignedText := by
    unfold unsignedText
    rw [if_neg fun h => hfar h.2]
    exact List.mem_append_right _ List.mem_cons_self
  unfold text
  split
  · exact List.mem_cons_of_mem _ hpower
  · exact hpower

/-- A numeral without a power is the text of its number as long as the first digit is near the point. -/
theorem text_eq_iff {cs : List Char} (ht : StrictForm cs n) (hplain : ∀ c ∈ cs, c ≠ 'e' ∧ c ≠ 'E') (hx : n.Writes x) :
    x.text = cs ↔ plainLimit ≤ x.adjusted := by
  constructor
  · rintro rfl
    by_contra hfar
    exact (hplain 'E' (power_mem_text hfar)).2 rfl
  · intro hnear
    obtain ⟨hcs, hw, hf, hp⟩ := ht.parts_of_no_power hplain
    rw [hcs, text, unsignedText_of_near hw hf hp hx hnear, hx.negative]
    cases n.negative <;> rfl

/-- Only a very long numeral without a power is out of bounds. -/
theorem inRange_of_short {cs : List Char} (ht : StrictForm cs n) (hplain : ∀ c ∈ cs, c ≠ 'e' ∧ c ≠ 'E')
    (hx : n.Writes x) (hshort : cs.length < 10 ^ 18) : x.InRange := by
  obtain ⟨hcs, hw, hf, hp⟩ := ht.parts_of_no_power hplain
  have hexponent := exponent_of_no_power hp hx
  have hpos : 0 < (n.whole ++ n.fraction).length := by
    rw [List.length_append]
    exact Nat.add_pos_left (List.length_pos_iff.mpr hw.ne_nil) _
  have hdigits : x.digits.length ≤ (n.whole ++ n.fraction).length := by
    rw [digits_of_writes hx]
    exact (Nat.length_toDigits_le_iff (by decide) hpos).mpr (natOf_lt (List.forall_mem_append.mpr ⟨hw.digits, hf⟩))
  have hpoint : n.fraction.length ≤ (pointText n.fraction).length := by
    cases n.fraction with
    | nil => exact Nat.le_refl _
    | cons c cs => exact Nat.le_succ _
  have hlength : n.whole.length + n.fraction.length ≤ cs.length := by
    rw [hcs, List.length_append, List.length_append]
    omega
  rw [List.length_append] at hdigits
  rw [InRange, minExponent, maxAdjusted, adjusted]
  omega

end Scientific

namespace Wire

open Numeral

variable {cs : List Char} {n : Numeral} {x : Scientific}

/-- A number token within bounds is read as the number that it writes. -/
theorem read_strictForm (ht : StrictForm cs n) (hx : n.Writes x) (h : x.InRange) :
    read (.ofChars cs) = .ok (.decimal (.finite x h)) := by
  rw [read, Json.read_of_scan? ht.scan?, h.ofNumeral? (writes_iff.mp hx)]

theorem read_strictForm_outOfBounds (ht : StrictForm cs n) (hx : n.Writes x) (h : ¬x.InRange) :
    read (.ofChars cs) = .error .numberOutOfBounds := by
  have hnone : Decimal.ofNumeral? n = none := by
    rw [Decimal.ofNumeral?, writes_iff.mp hx]
    exact dif_neg h
  rw [read, Json.read_of_scan? ht.scan?, hnone]

theorem write_finite (h : x.InRange) : write (.decimal (.finite x h)) = .ok (.ofChars x.text) := rfl

theorem read_text (h : x.InRange) : read (.ofChars x.text) = .ok (.decimal (.finite x h)) := by
  obtain ⟨n, hn, hx⟩ := x.exists_strictForm_text
  exact read_strictForm hn hx h

/-- **A number without a power keeps its spelling** if its first digit stands at most six places after the point; the
first digit of a zero is its last one.  Otherwise it is written in another way, which is read as the same number.  Only
a number out of bounds is not read at all, and such a numeral has `10 ^ 18` characters or more. -/
theorem plain_number_keeps_spelling (ht : StrictForm cs n) (hplain : ∀ c ∈ cs, c ≠ 'e' ∧ c ≠ 'E')
    (hx : n.Writes x) :
    (∃ h : x.InRange, read (.ofChars cs) = .ok (.decimal (.finite x h)) ∧
      ∃ u, write (.decimal (.finite x h)) = .ok u ∧ read u = .ok (.decimal (.finite x h)) ∧
        (u = .ofChars cs ↔ -6 ≤ x.adjusted) ∧ (x.coefficient = 0 → x.adjusted = x.exponent)) ∨
    (10 ^ 18 ≤ cs.length ∧ ¬x.InRange ∧ read (.ofChars cs) = .error .numberOutOfBounds) := by
  by_cases h : x.InRange
  · refine Or.inl ⟨h, read_strictForm ht hx h, _, write_finite h, read_text h, ?_, Scientific.adjusted_of_zero⟩
    rw [Text.ofChars_inj]
    exact Scientific.text_eq_iff ht hplain hx
  · have hlong : 10 ^ 18 ≤ cs.length :=
      Nat.le_of_not_lt fun hshort => h (Scientific.inRange_of_short ht hplain hx hshort)
    exact Or.inr ⟨hlong, h, read_strictForm_outOfBounds ht hx h⟩

/-- On both sides of the limit: the first digit stands six places after the point, and seven. -/
theorem plain_number_keeps_spelling_limit :
    let near : Scientific := ⟨true, 10, -7⟩
    let far : Scientific := ⟨false, 100, -9⟩
    let n : Numeral := ⟨true, ['0'], "0000010".toList, 0⟩
    let n' : Numeral := ⟨false, ['0'], "000000100".toList, 0⟩
    StrictForm "-0.0000010".toList n ∧ n.Writes near ∧ StrictForm "0.000000100".toList n' ∧ n'.Writes far ∧
      ∃ (h : near.InRange) (h' : far.InRange),
        read "-0.0000010" = .ok (.decimal (.finite near h)) ∧
        write (.decimal (.finite near h)) = .ok (Text.ofString "-0.0000010") ∧
        read "0.000000100" = .ok (.decimal (.finite far h')) ∧
        ∃ u, write (.decimal (.finite far h')) = .ok u ∧ u ≠ Text.ofString "0.000000100" ∧
          read u = .ok (.decimal (.finite far h')) := by
  intro near far n n'
  have hzero : StrictWhole ['0'] := Or.inl rfl
  have hn : StrictForm "-0.0000010".toList n := by
    have htext : "-0.0000010".toList = signText true ++ (['0'] ++ (pointText "0000010".toList ++ [])) := by decide
    rw [htext]
    exact .mk true hzero (by decide) .absent
  have hn' : StrictForm "0.000000100".toList n' := by
    have htext : "0.000000100".toList = signText false ++ (['0'] ++ (pointText "000000100".toList ++ [])) := by decide
    rw [htext]
    exact .mk false hzero (by decide) .absent
  have hx : n.Writes near := ⟨rfl, by decide, rfl⟩
  have hx' : n'.Writes far := ⟨rfl, by decide, rfl⟩
  refine ⟨hn, hx, hn', hx', ?_⟩
  have hplain : ∀ c ∈ "-0.0000010".toList, c ≠ 'e' ∧ c ≠ 'E' := by simp
  have hplain' : ∀ c ∈ "0.000000100".toList, c ≠ 'e' ∧ c ≠ 'E' := by simp
  rcases plain_number_keeps_spelling hn hplain hx with ⟨h, hread, u, hwrite, -, hu, -⟩ | ⟨-, hout, -⟩
  · rcases plain_number_keeps_spelling hn' hplain' hx' with
      ⟨h', hread', u', hwrite', hback, hu', -⟩ | ⟨-, hout, -⟩
    · have hsame : u = "-0.0000010" := hu.mpr (by decide)
      have hother : u' ≠ "0.000000100" := fun hsame => absurd (hu'.mp hsame) (by decide)
      rw [hsame] at hwrite
      exact ⟨h, h', hread, hwrite, hread', u', hwrite', hother, hback⟩
    · exact absurd (by decide) hout
  · exact absurd (by decide) hout

end Wire

end Intake
