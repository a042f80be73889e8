import Intake.Number.Decimal
import Mathlib.Algebra.Order.Field.Power
import Mathlib.Algebra.Order.Field.Rat
import Mathlib.Tactic.Linarith
import Mathlib.Tactic.Positivity
import Mathlib.Tactic.Ring

/-! # Whole numbers

A decimal number has an exact value, which is a rational number (`Scientific.toRat`).  Numbers are compared without
computing it: both coefficients lose the zeros at their ends to the exponents, and what is left has to agree.  This
decides equality of the values (`sameNumber_iff`), since a coefficient without a zero at its end determines its
exponent.

A number is whole when its value is an integer.  Rounding to the nearest whole number tells: it changes all numbers
but the whole ones (`sameNumber_nearestWhole_iff`).  What is rounded is whole in any case, so nothing but a whole
number can equal it.  And the places of a whole number that are rounded away hold zeros only, so that neither a tie
nor a carry ever comes up.
-/
namespace Intake.Scientific

/-! ## Values -/

/-- The size of the number. -/
def magnitude (x : Scientific) : ℚ := x.coefficient * 10 ^ x.exponent

/-- The exact value of the number. -/
def toRat (x : Scientific) : ℚ := if x.negative then -x.magnitude else x.magnitude

/-- The value is an integer. -/
def Whole (x : Scientific) : Prop := ∃ n : ℤ, x.toRat = n

variable {x y : Scientific} {c d : ℕ} {e f : ℤ}

theorem magnitude_nonneg (x : Scientific) : 0 ≤ x.magnitude := by
  unfold magnitude
  positivity

theorem magnitude_pos (h : x.coefficient ≠ 0) : 0 < x.magnitude := by
  have hc : 0 < x.coefficient := Nat.pos_of_ne_zero h
  unfold magnitude
  positivity

theorem abs_toRat (x : Scientific) : |x.toRat| = x.magnitude := by
  unfold toRat
  split
  · rw [abs_neg, abs_of_nonneg x.magnitude_nonneg]
  · exact abs_of_nonneg x.magnitude_nonneg

theorem toRat_eq_zero_iff : x.toRat = 0 ↔ x.coefficient = 0 := by
  rw [← abs_eq_zero, abs_toRat]
  constructor
  · intro h
    by_contra hc
    exact (magnitude_pos hc).ne' h
  · intro h
    rw [magnitude, h, Nat.cast_zero, zero_mul]

/-- Numbers other than zero have one value when they have one sign and one size. -/
theorem toRat_eq_iff (hx : x.coefficient ≠ 0) (hy : y.coefficient ≠ 0) :
    x.toRat = y.toRat ↔ x.negative = y.negative ∧ x.magnitude = y.magnitude := by
  have hxpos := magnitude_pos hx
  have hypos := magnitude_pos hy
  unfold toRat
  cases x.negative <;> cases y.negative <;> simp
  · linarith
  · linarith

/-! ## Equality of numbers -/

theorem dropZeros_magnitude (c : ℕ) (e : ℤ) :
    ((dropZeros c e).1 : ℚ) * 10 ^ (dropZeros c e).2 = c * 10 ^ e := by
  induction c, e using dropZeros.induct with
  | case1 c e h ih =>
    have hc : ((c / 10 : ℕ) : ℚ) * 10 = c := by
      exact_mod_cast Nat.div_mul_cancel (Nat.dvd_of_mod_eq_zero h.2)
    rw [dropZeros, dif_pos h, ih, zpow_add_one₀ (by norm_num), ← hc]
    ring
  | case2 c e h => rw [dropZeros, dif_neg h]

theorem not_dvd_dropZeros (hc : c ≠ 0) (e : ℤ) : ¬10 ∣ (dropZeros c e).1 := by
  induction c, e using dropZeros.induct with
  | case1 c e h ih =>
    rw [dropZeros, dif_pos h]
    exact ih (by omega)
  | case2 c e h =>
    rw [dropZeros, dif_neg h]
    omega

/-- A coefficient that does not end with a zero has the largest exponent. -/
theorem exponent_le_of_not_dvd (hc : ¬10 ∣ c) (h : (c : ℚ) * 10 ^ e = d * 10 ^ f) : f ≤ e := by
  by_contra hlt
  obtain ⟨k, hk⟩ := Int.le.dest (Int.add_one_le_of_lt (not_le.mp hlt))
  refine hc ⟨d * 10 ^ k, ?_⟩
  have hpow : (10 : ℚ) ^ f = 10 ^ e * (10 * 10 ^ k) := by
    rw [← hk, zpow_add₀ (by norm_num), zpow_add_one₀ (by norm_num), zpow_natCast, mul_assoc]
  have hpos : (10 : ℚ) ^ e ≠ 0 := by positivity
  have hq : (c : ℚ) = 10 * (d * 10 ^ k) := by
    refine mul_right_cancel₀ hpos ?_
    rw [h, hpow]
    ring
  exact_mod_cast hq

theorem eq_of_not_dvd (hc : ¬10 ∣ c) (hd : ¬10 ∣ d) (h : (c : ℚ) * 10 ^ e = d * 10 ^ f) : c = d ∧ e = f := by
  have he : e = f := le_antisymm (exponent_le_of_not_dvd hd h.symm) (exponent_le_of_not_dvd hc h)
  subst he
  have hpos : (10 : ℚ) ^ e ≠ 0 := by positivity
  exact ⟨by exact_mod_cast mul_right_cancel₀ hpos h, rfl⟩

theorem magnitude_eq_iff (hx : x.coefficient ≠ 0) (hy : y.coefficient ≠ 0) : x.magnitude = y.magnitude ↔
    dropZeros x.coefficient x.exponent = dropZeros y.coefficient y.exponent := by
  rw [magnitude, magnitude, ← dropZeros_magnitude x.coefficient, ← dropZeros_magnitude y.coefficient]
  constructor
  · intro h
    obtain ⟨hc, he⟩ := eq_of_not_dvd (not_dvd_dropZeros hx _) (not_dvd_dropZeros hy _) h
    exact Prod.ext hc he
  · intro h
    rw [h]

/-- **Numbers are equal when their values are.** -/
theorem sameNumber_iff : x.sameNumber y = true ↔ x.toRat = y.toRat := by
  unfold sameNumber
  split
  · rename_i hzero
    rw [decide_eq_true_iff]
    constructor
    · intro h
      have hx : x.coefficient = 0 := hzero.elim id h.trans
      rw [toRat_eq_zero_iff.mpr hx, toRat_eq_zero_iff.mpr (h.symm.trans hx)]
    · intro h
      have hboth : x.coefficient = 0 ↔ y.coefficient = 0 := by
        rw [← toRat_eq_zero_iff, h, toRat_eq_zero_iff]
      rcases hzero with hx | hy
      · rw [hx, hboth.mp hx]
      · rw [hy, hboth.mpr hy]
  · rename_i hzero
    obtain ⟨hx, hy⟩ := not_or.mp hzero
    rw [decide_eq_true_iff, toRat_eq_iff hx hy, magnitude_eq_iff hx hy]

/-! ## Whole numbers -/

/-- Signs do not matter to wholeness. -/
theorem whole_iff_magnitude : x.Whole ↔ ∃ n : ℕ, x.magnitude = n := by
  constructor
  · rintro ⟨n, hn⟩
    refine ⟨n.natAbs, ?_⟩
    rw [← abs_toRat, hn, Nat.cast_natAbs, Int.cast_abs]
  · rintro ⟨n, hn⟩
    unfold Whole toRat
    rw [hn]
    split
    · exact ⟨-n, by push_cast; rfl⟩
    · exact ⟨n, by push_cast; rfl⟩

/-- Without digits after the point a number is whole. -/
theorem whole_of_nonneg (h : 0 ≤ x.exponent) : x.Whole := by
  refine whole_iff_magnitude.mpr ⟨x.coefficient * 10 ^ x.exponent.toNat, ?_⟩
  rw [magnitude]
  nth_rewrite 1 [← Int.toNat_of_nonneg h]
  rw [zpow_natCast]
  push_cast
  rfl

/-- So many places after the point, a number is its coefficient divided by a power of ten. -/
theorem magnitude_eq_iff_mul {places : ℕ} (he : x.exponent = -places) (n : ℕ) :
    x.magnitude = n ↔ x.coefficient = n * 10 ^ places := by
  have hpos : (10 : ℚ) ^ places ≠ 0 := by positivity
  rw [magnitude, he, zpow_neg, zpow_natCast, ← div_eq_mul_inv, div_eq_iff hpos]
  norm_cast

theorem roundDiv_mul (n : ℕ) {d : ℕ} (hd : 0 < d) : roundDiv (n * d) d = n := by
  unfold roundDiv
  rw [Nat.mul_div_cancel n hd, Nat.mul_mod_left]
  exact if_pos hd

/-- The digits of a whole number reach up to the point, unless it is zero. -/
theorem eq_zero_of_length_digits_lt {places n : ℕ} (hlength : x.digits.length < places)
    (h : x.coefficient = n * 10 ^ places) : n = 0 := by
  have hlt : x.coefficient < 10 ^ places := by
    refine (Nat.length_toDigits_le_iff (by decide) (by omega)).mp ?_
    exact hlength.le
  by_contra hn
  have hle : 1 * 10 ^ places ≤ n * 10 ^ places := Nat.mul_le_mul_right _ (Nat.pos_of_ne_zero hn)
  omega

/-- A whole number is rounded to itself. -/
theorem magnitude_nearestWhole {places n : ℕ} (hp : 0 < places) (he : x.exponent = -places)
    (h : x.coefficient = n * 10 ^ places) : x.nearestWhole = ⟨x.negative, n, 0⟩ := by
  have hneg : ¬0 ≤ x.exponent := by omega
  have hplaces : (-x.exponent).toNat = places := by omega
  rw [nearestWhole, if_neg hneg, hplaces]
  dsimp only
  split
  · rename_i hlength
    rw [eq_zero_of_length_digits_lt hlength h]
  · rw [h]
    congr 1
    exact roundDiv_mul n (by positivity)

/-- **Rounding changes all numbers but the whole ones.** -/
theorem sameNumber_nearestWhole_iff : x.sameNumber x.nearestWhole = true ↔ x.Whole := by
  rw [sameNumber_iff]
  by_cases hexponent : 0 ≤ x.exponent
  · rw [nearestWhole, if_pos hexponent]
    exact iff_of_true rfl (whole_of_nonneg hexponent)
  · obtain ⟨places, hplaces⟩ := Int.exists_eq_neg_ofNat (not_le.mp hexponent).le
    constructor
    · intro h
      have hwhole : x.nearestWhole.Whole := by
        rw [nearestWhole, if_neg hexponent]
        exact whole_of_nonneg le_rfl
      rwa [Whole, h]
    · intro h
      obtain ⟨n, hn⟩ := whole_iff_magnitude.mp h
      have hcoefficient := (magnitude_eq_iff_mul hplaces n).mp hn
      rw [magnitude_nearestWhole (by omega) hplaces hcoefficient, toRat, toRat, hn]
      simp [magnitude]

end Intake.Scientific
