import Intake.Number.Binary64
import Intake.Proofs.Number.Scan
import Mathlib.Algebra.Group.Nat.Defs

/-! # The text of a binary number is a numeral

The shortest digits of a binary number are found by a search over grids of powers of ten.  How good they are does
not matter here, only that there are few of them and that their power is small (`WithinReach`): the search starts
at the first digit of the number (`firstPower_bounds`), goes down seventeen places at most
(`searchDigits_eq_some`), and stops at a point inside the cell of the number, which is no larger than the cell's
upper end (`onGrid?_eq_some`).  Dropping zeros moves digits into the power (`dropZeros_bounds`).

The text puts these digits in one of three notations, and each is also a notation of a decimal number
(`exists_parts_unsignedText`).  So the text of a finite binary number is read as a decimal number within bounds
(`exists_decimal_of_text`).
-/
namespace Intake

/-! ## Words of digits -/

theorem length_toDigits_le {n k : Nat} (h : n < 10 ^ k) : (Nat.toDigits 10 n).length ≤ k + 1 := by
  have hk : n < 10 ^ (k + 1) := Nat.lt_of_lt_of_le h (Nat.pow_le_pow_right (by decide) (Nat.le_succ k))
  exact (Nat.length_toDigits_le_iff (by decide) (Nat.succ_pos k)).mpr hk

/-- A power of ten puts zeros at the end. -/
theorem toDigits_mul_pow {n : Nat} (hn : n ≠ 0) (k : Nat) :
    Nat.toDigits 10 (n * 10 ^ k) = Nat.toDigits 10 n ++ List.replicate k '0' := by
  induction k with
  | zero => rw [Nat.pow_zero, Nat.mul_one, List.replicate_zero, List.append_nil]
  | succ k ih =>
    have hpos : 0 < n * 10 ^ k := Nat.mul_pos (Nat.pos_of_ne_zero hn) (Nat.pow_pos (by decide))
    have hlast := Nat.toDigits_append_toDigits (b := 10) (n := n * 10 ^ k) (d := 0) (by decide) hpos (by decide)
    have hmul : 10 * (n * 10 ^ k) + 0 = n * 10 ^ (k + 1) := by
      rw [Nat.add_zero, Nat.mul_comm 10, Nat.pow_succ, Nat.mul_assoc]
    rw [← hmul, ← hlast, ih, List.replicate_succ', List.append_assoc]
    rfl

namespace Binary64

/-! ## The search for digits -/

theorem scaled_eq (base : Nat) (power : Int) (num den : Nat) :
    scaled base power num den = (num * base ^ power.toNat, den * base ^ (-power).toNat) := by
  unfold scaled
  split
  · have h : (-power).toNat = 0 := by omega
    rw [h, Nat.pow_zero, Nat.mul_one]
    rfl
  · have h : power.toNat = 0 := by omega
    rw [h, Nat.pow_zero, Nat.mul_one]
    rfl

theorem firstPower_bounds {num den a b : Nat} (hn : num < 10 ^ a) (hd : den ≤ 10 ^ b) :
    -(b + 1 : Int) ≤ firstPower num den ∧ firstPower num den ≤ a := by
  unfold firstPower
  split
  · have hlength := length_toDigits_le (Nat.lt_of_le_of_lt (Nat.div_le_self num den) hn)
    omega
  · have hlt : (den - 1) / num < 10 ^ b := Nat.lt_of_le_of_lt (Nat.div_le_self _ _) (by omega)
    have hlength := length_toDigits_le hlt
    show -(b + 1 : Int) ≤ -((Nat.toDigits 10 ((den - 1) / num)).length : Int) ∧
      -((Nat.toDigits 10 ((den - 1) / num)).length : Int) ≤ a
    omega

theorem Cell.contains_bounds {c : Cell} {num den : Nat} (h : c.contains num den = true) :
    c.lower * den ≤ num ∧ num ≤ c.upper * den := by
  unfold Cell.contains at h
  split at h
  · simpa using h
  · simp only [Bool.and_eq_true, decide_eq_true_eq] at h
    exact ⟨Nat.le_of_lt h.1, Nat.le_of_lt h.2⟩

/-- The grid point that is found lies in the cell. -/
theorem Cell.onGrid?_eq_some {c : Cell} {e power : Int} {p : Nat} (h : c.onGrid? e power = some p) :
    c.contains (p * (1 * 10 ^ power.toNat * 2 ^ (2 - e).toNat))
      (1 * 10 ^ (-power).toNat * 2 ^ (-(2 - e)).toNat) = true := by
  unfold Cell.onGrid? at h
  simp only [scaled_eq] at h
  split at h
  · cases h
  · rename_i hbelow _
    cases h
    exact hbelow
  · rename_i habove
    cases h
    exact habove
  · rename_i hbelow habove
    split at h
    · cases h
      exact hbelow
    · split at h
      · cases h
        exact habove
      · split at h
        · cases h
          exact hbelow
        · cases h
          exact habove

theorem searchDigits_eq_some {c : Cell} {e first power : Int} {p : Nat} {counts : List Nat}
    (h : searchDigits c e first counts = some (p, power)) :
    ∃ n ∈ counts, power = first - n ∧ c.onGrid? e power = some p := by
  induction counts with
  | nil => cases h
  | cons n counts ih =>
    rw [searchDigits] at h
    split at h
    · rename_i hp
      cases h
      exact ⟨n, List.mem_cons_self, rfl, hp⟩
    · obtain ⟨n, hn, hpower, hp⟩ := ih h
      exact ⟨n, List.mem_cons_of_mem _ hn, hpower, hp⟩

/-! ## The shortest digits -/

/-- The digits' last and first powers of ten are no further than this from zero. -/
def textReach : Int := 10000

/-- A coefficient and a power of ten of moderate size. -/
structure WithinReach (c : Nat) (e : Int) : Prop where
  ne_zero : c ≠ 0
  low : -textReach ≤ e
  high : e + (Nat.toDigits 10 c).length ≤ textReach

/-- Trailing zeros that are dropped move the last power up and leave the first one. -/
theorem WithinReach.dropZeros {c : Nat} {e : Int} (h : WithinReach c e) :
    WithinReach (Scientific.dropZeros c e).1 (Scientific.dropZeros c e).2 := by
  induction c, e using Scientific.dropZeros.induct with
  | case1 c e hc ih =>
    rw [Scientific.dropZeros, dif_pos hc]
    refine ih ⟨by omega, ?_, ?_⟩
    · have hlow := h.low
      omega
    · -- One digit less, one power more.
      have hdigits : Nat.toDigits 10 c = Nat.toDigits 10 (c / 10) ++ ['0'] := by
        have hpow := toDigits_mul_pow (n := c / 10) (by omega) 1
        have hten : c / 10 * 10 ^ 1 = c := by omega
        rw [hten] at hpow
        exact hpow
      have hhigh := h.high
      rw [hdigits, List.length_append, List.length_singleton] at hhigh
      omega
  | case2 c e hc =>
    rw [Scientific.dropZeros, dif_neg hc]
    exact h

theorem Fits.bounds {m : Nat} {e : Int} (h : Fits m e) :
    m < 9007199254740992 ∧ -1074 ≤ e ∧ e ≤ 971 := ⟨h.1, h.2.2.1, h.2.2.2⟩

theorem two_pow_le (k : Nat) : 2 ^ k ≤ 10 ^ k := Nat.pow_le_pow_left (by decide) k

/-- The power of the first digit, from which the search starts. -/
theorem firstPower_scaled_bounds {m : Nat} {e : Int} (h : Fits m e) :
    -1075 ≤ firstPower (scaled 2 e m 1).1 (scaled 2 e m 1).2 ∧
      firstPower (scaled 2 e m 1).1 (scaled 2 e m 1).2 ≤ 1000 := by
  have hfits := h.bounds
  have hnum : m * 2 ^ e.toNat < 10 ^ (17 + e.toNat) := by
    rw [Nat.pow_add]
    exact Nat.mul_lt_mul_of_lt_of_le (by omega) (two_pow_le _) (Nat.pow_pos (by decide))
  have hden : 1 * 2 ^ (-e).toNat ≤ 10 ^ (-e).toNat := by
    rw [Nat.one_mul]
    exact two_pow_le _
  have hfirst := firstPower_bounds hnum hden
  rw [scaled_eq]
  dsimp only
  omega

/-- A point inside the cell of a positive number is positive, and no larger than the cell's upper end. -/
theorem onGrid?_cell_bounds {m : Nat} {e power : Int} {p : Nat} (hm : m ≠ 0) (h : Fits m e)
    (hp : (cell m e).onGrid? e power = some p) :
    p ≠ 0 ∧ (Nat.toDigits 10 p).length ≤ 18 + (-power).toNat + (e - 2).toNat := by
  obtain ⟨hlower, hupper⟩ := Cell.contains_bounds (Cell.onGrid?_eq_some hp)
  have hneg : (-(2 - e)).toNat = (e - 2).toNat := by omega
  rw [Nat.one_mul, Nat.one_mul] at hlower hupper
  rw [hneg] at hlower hupper
  have hdown : 0 < 10 ^ (-power).toNat * 2 ^ (e - 2).toNat :=
    Nat.mul_pos (Nat.pow_pos (by decide)) (Nat.pow_pos (by decide))
  have hup : 0 < 10 ^ power.toNat * 2 ^ (2 - e).toNat :=
    Nat.mul_pos (Nat.pow_pos (by decide)) (Nat.pow_pos (by decide))
  constructor
  · -- The lower end of the cell of a positive number is positive, so zero is not inside.
    rintro rfl
    have hcell : 0 < (cell m e).lower := by
      unfold cell
      dsimp only
      split <;> omega
    have hpos := Nat.mul_pos hcell hdown
    omega
  · have hcell : (cell m e).upper < 10 ^ 17 := by
      have hm' := h.bounds.1
      show 4 * m + 2 < 10 ^ 17
      omega
    have hpow : 10 ^ (-power).toNat * 2 ^ (e - 2).toNat ≤ 10 ^ ((-power).toNat + (e - 2).toNat) := by
      rw [Nat.pow_add]
      exact Nat.mul_le_mul_left _ (two_pow_le _)
    -- The bound is far from sharp: every power of two counts as a power of ten.
    have hlt : p < 10 ^ (17 + ((-power).toNat + (e - 2).toNat)) :=
      calc p ≤ p * (10 ^ power.toNat * 2 ^ (2 - e).toNat) := Nat.le_mul_of_pos_right p hup
        _ ≤ (cell m e).upper * (10 ^ (-power).toNat * 2 ^ (e - 2).toNat) := hupper
        _ ≤ (cell m e).upper * 10 ^ ((-power).toNat + (e - 2).toNat) := Nat.mul_le_mul_left _ hpow
        _ < 10 ^ 17 * 10 ^ ((-power).toNat + (e - 2).toNat) :=
          Nat.mul_lt_mul_of_pos_right hcell (Nat.pow_pos (by decide))
        _ = 10 ^ (17 + ((-power).toNat + (e - 2).toNat)) := (Nat.pow_add ..).symm
    have hlength := length_toDigits_le hlt
    omega

/-- The shortest digits are few, and their power is small. -/
theorem withinReach_shortest {m : Nat} {e : Int} (hm : m ≠ 0) (h : Fits m e) :
    WithinReach (shortest m e).1 (shortest m e).2 := by
  have hfits := h.bounds
  have hreach : textReach = 10000 := rfl
  unfold shortest
  dsimp only
  split
  · rename_i p power hsearch
    obtain ⟨n, hn, rfl, hp⟩ := searchDigits_eq_some hsearch
    have hcount : n < 17 := List.mem_range.mp hn
    have hfirst := firstPower_scaled_bounds h
    obtain ⟨hne, hlength⟩ := onGrid?_cell_bounds hm h hp
    exact WithinReach.dropZeros ⟨hne, by omega, by omega⟩
  · -- The search always ends before this; the number itself would do as well.
    have hlength := length_toDigits_le (n := m) (k := 17) (by omega)
    exact ⟨hm, by dsimp only; omega, by dsimp only; omega⟩

/-! ## The text -/

/-- The text writes the decimal number. -/
def Writes (text : List Char) (x : Scientific) : Prop := Nonempty (x.Parts text)

theorem natOf_zero_cons (ds : List Char) : Numeral.natOf ('0' :: ds) = Numeral.natOf ds := rfl

/-- The power behind the digits is read back. -/
theorem powerMark_powerText (power : Int) : Numeral.PowerMark ('e' :: powerText power) power := by
  have hdigits := Numeral.digits_toDigits power.natAbs
  have hvalue := Numeral.natOf_toDigits power.natAbs
  unfold powerText
  refine Numeral.powerMark_signed (Or.inl rfl) ?_ ?_ ?_
  · split
    · exact List.forall_mem_cons.mpr ⟨rfl, hdigits⟩
    · exact hdigits
  · split
    · exact List.cons_ne_nil _ _
    · exact Nat.toDigits_ne_nil
  · split
    · rw [natOf_zero_cons, hvalue]
    · exact hvalue

/-- A point before the last digit. -/
theorem pointed_one {ds : List Char} (hds : ds ≠ []) (d : Char) :
    Scientific.pointed (ds ++ [d]) 1 = ds ++ ['.', d] := by
  have hlength : (ds ++ [d]).length - 1 = ds.length := by
    rw [List.length_append, List.length_singleton, Nat.add_sub_cancel]
  have hpos : 0 < ds.length := List.length_pos_iff.mpr hds
  rw [Scientific.pointed, if_pos (by omega), hlength, List.take_left' rfl, List.drop_left' rfl]

/-- The digits of a binary number in any notation are a notation of a decimal number. -/
theorem exists_writes_unsignedText {c : Nat} {e : Int} (negative : Bool) (h : WithinReach c e) :
    ∃ x : Scientific, x.negative = negative ∧ x.InRange ∧ Writes (unsignedText c e) x := by
  have hlow := h.low
  have hhigh := h.high
  have hlength := (⟨negative, c, e⟩ : Scientific).length_digits_pos
  have hreach : textReach = 10000 := rfl
  have hmin : Scientific.minExponent = -1999999999999999997 := rfl
  have hmax : Scientific.maxAdjusted = 999999999999999999 := rfl
  have hrange : (⟨negative, c, e⟩ : Scientific).InRange :=
    ⟨by dsimp only; omega, by dsimp only [Scientific.adjusted, Scientific.digits]; omega⟩
  unfold unsignedText
  dsimp only
  split
  · split
    · rename_i he
      -- The zeros up to the point and the one behind it belong to the digits.
      have hdigits : Nat.toDigits 10 (c * 10 ^ (e.toNat + 1)) =
          Nat.toDigits 10 c ++ List.replicate e.toNat '0' ++ ['0'] := by
        rw [toDigits_mul_pow h.ne_zero, List.replicate_succ', List.append_assoc]
      refine ⟨⟨negative, c * 10 ^ (e.toNat + 1), -1⟩, rfl, ⟨by dsimp only; omega, ?_⟩, ?_⟩
      · dsimp only [Scientific.adjusted, Scientific.digits]
        rw [hdigits, List.length_append, List.length_append, List.length_replicate, List.length_singleton]
        omega
      · have hne : Nat.toDigits 10 c ++ List.replicate e.toNat '0' ≠ [] :=
          List.append_ne_nil_of_left_ne_nil Nat.toDigits_ne_nil _
        have hparts := (⟨negative, c * 10 ^ (e.toNat + 1), -1⟩ : Scientific).parts_pointed Nat.one_pos rfl
        rw [Scientific.digits, hdigits, pointed_one hne] at hparts
        exact hparts
    · exact ⟨⟨negative, c, e⟩, rfl, hrange, Scientific.parts_pointed _ (by omega) (by dsimp only; omega)⟩
  · exact ⟨⟨negative, c, e⟩, rfl, hrange, Scientific.parts_leading _ (powerMark_powerText _)⟩

/-- **The text of a finite binary number is read as a decimal number.** -/
theorem exists_decimal_of_text (negative : Bool) (m : Nat) (e : Int) (h : Fits m e) :
    ∃ n d, Numeral.scan? (finite negative m e h).text = some (n, []) ∧ Decimal.ofNumeral? n = some d := by
  have hwrites : ∃ x : Scientific, x.negative = negative ∧ x.InRange ∧
      Writes (if m = 0 then "0.0".toList else unsignedText (shortest m e).1 (shortest m e).2) x := by
    split
    · have hzero : Scientific.pointed (Nat.toDigits 10 0) 1 = "0.0".toList := by decide
      refine ⟨⟨negative, 0, -1⟩, rfl, by cases negative <;> decide, ?_⟩
      rw [← hzero]
      exact (⟨negative, 0, -1⟩ : Scientific).parts_pointed Nat.one_pos rfl
    · rename_i hm
      exact exists_writes_unsignedText negative (withinReach_shortest hm h)
  obtain ⟨x, rfl, hx, ⟨parts⟩⟩ := hwrites
  obtain ⟨n, hn, hvalue⟩ := parts.scan?
  exact ⟨n, .finite x hx, hn, hx.ofNumeral? hvalue⟩

end Binary64

end Intake
