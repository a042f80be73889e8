import Intake.Settings.Loading
import Mathlib.Algebra.Group.Nat.Defs

/-! # The status that is chosen

A status is given as a value of any kind, and means a whole number (`integerOf`): a numeral of any size, a truth value,
a binary or a decimal number without a fraction.  Reading a status is this and the test of its bounds, and nothing else:
the number is never changed to fit (`readStatus_eq_ok_iff`).  The reader of decimal numbers looks at their first digit
beforehand, so that a far exponent is not written out; what it refuses there lies outside the bounds anyway
(`Scientific.le_natAbs_truncate`).

So loaded settings have the status that was chosen for them, which is the standard one where none is given
(`chosenStatus_of_load`).
-/
namespace Intake

theorem Numeral.natAbs_signed (negative : Bool) (n : Nat) : (signed negative n).natAbs = n := by
  cases negative with
  | true => exact Int.natAbs_neg (n : Int)
  | false => rfl

namespace Scientific
variable {x : Scientific}

theorem pow_le_coefficient {n : Nat} (hx : x.coefficient ≠ 0) (hn : x.digits.length = n + 1) :
    10 ^ n ≤ x.coefficient := by
  rcases Nat.eq_zero_or_pos n with rfl | hpos
  · exact Nat.pos_of_ne_zero hx
  · rcases Nat.lt_or_ge x.coefficient (10 ^ n) with hlt | hle
    · have hlength : x.digits.length ≤ n := (Nat.length_toDigits_le_iff (by decide) hpos).mpr hlt
      omega
    · exact hle

/-- Without its fraction a number is still at least the power of ten of its first digit. -/
theorem le_natAbs_truncate (hx : x.coefficient ≠ 0) {k : Nat} (hk : (k : Int) ≤ x.adjusted) :
    10 ^ k ≤ x.truncate.natAbs := by
  obtain ⟨n, hn⟩ : ∃ n, x.digits.length = n + 1 :=
    Nat.exists_eq_add_one_of_ne_zero (Nat.ne_of_gt Nat.length_toDigits_pos)
  have hcoefficient := pow_le_coefficient hx hn
  have hreach : (k : Int) ≤ x.exponent + n := by
    unfold adjusted at hk
    omega
  rw [truncate, Numeral.natAbs_signed]
  by_cases he : 0 ≤ x.exponent
  · rw [if_pos he]
    calc 10 ^ k
      _ ≤ 10 ^ (n + x.exponent.toNat) := Nat.pow_le_pow_right (by decide) (by omega)
      _ = 10 ^ n * 10 ^ x.exponent.toNat := Nat.pow_add ..
      _ ≤ x.coefficient * 10 ^ x.exponent.toNat := Nat.mul_le_mul_right _ hcoefficient
  · rw [if_neg he, if_neg (by omega)]
    refine (Nat.le_div_iff_mul_le (Nat.pow_pos (by decide))).mpr ?_
    calc 10 ^ k * 10 ^ (-x.exponent).toNat
      _ = 10 ^ (k + (-x.exponent).toNat) := (Nat.pow_add ..).symm
      _ ≤ 10 ^ n := Nat.pow_le_pow_right (by decide) (by omega)
      _ ≤ x.coefficient := hcoefficient

end Scientific

namespace Settings
variable {v : Value} {s : ClientStatus} {environment : Environment} {arguments : Arguments}

/-- The whole number that a value means as a setting, be it large or small. -/
def integerOf : Value → Except Problem Int
  | .int n => .ok n
  | .bool b => .ok (if b then 1 else 0)
  | .text t =>
    match t.chars? with
    | some cs => integerOfText cs
    | none => .error .notUnicode
  | .bytes bs =>
    match Utf8.decode bs with
    | .ok cs => integerOfText cs
    | .error _ => .error .unclearInteger
  | .float x => integerOfBinary x
  | .decimal d => (integerOfDecimal d).map Scientific.truncate
  | _ => .error .notInteger

theorem clientStatus_eq_ok_iff {n : Int} : clientStatus n = .ok s ↔ n = s := by
  unfold clientStatus
  constructor
  · intro h
    split at h
    · exact congrArg Subtype.val (Except.ok.inj h)
    · split at h <;> cases h
  · rintro rfl
    exact dif_pos s.property

theorem bind_clientStatus_eq_ok_iff {a : Except Problem Int} : a.bind clientStatus = .ok s ↔ a = .ok ↑s := by
  cases a with
  | error p => exact ⟨nofun, nofun⟩
  | ok n => exact clientStatus_eq_ok_iff.trans ⟨congrArg Except.ok, Except.ok.inj⟩

theorem clientStatusOfDecimal_eq_ok_iff {d : Decimal} :
    clientStatusOfDecimal d = .ok s ↔ (integerOfDecimal d).map Scientific.truncate = .ok ↑s := by
  unfold clientStatusOfDecimal
  cases integerOfDecimal d with
  | error p => exact ⟨nofun, nofun⟩
  | ok x =>
    have hread : (Except.ok x : Except Problem Scientific).map Scientific.truncate = .ok ↑s ↔ x.truncate = s :=
      ⟨Except.ok.inj, congrArg Except.ok⟩
    rw [hread]
    dsimp only
    by_cases hlong : x.coefficient ≠ 0 ∧ (Numeral.maxDigits : Int) ≤ x.adjusted
    · rw [if_pos hlong]
      refine ⟨nofun, fun h => ?_⟩
      -- Four digits are already more than a status has.
      have hsize : 10 ^ 3 ≤ x.truncate.natAbs :=
        Scientific.le_natAbs_truncate hlong.1 (Int.le_trans (by decide) hlong.2)
      have hbounds := s.property
      omega
    · rw [if_neg hlong]
      split
      · rename_i hzero
        have htruncate : x.truncate = 0 := by simp [Scientific.truncate, Numeral.signed, hzero]
        rw [htruncate]
        exact clientStatus_eq_ok_iff
      · exact clientStatus_eq_ok_iff

/-- **A status is read as the number that it means**, if that lies within the bounds. -/
theorem readStatus_eq_ok_iff : readStatus v = .ok s ↔ integerOf v = .ok ↑s := by
  cases v with
  | int n => exact bind_clientStatus_eq_ok_iff (a := .ok n)
  | bool b => exact bind_clientStatus_eq_ok_iff (a := .ok (if b then 1 else 0))
  | text t =>
    unfold readStatus integerOf
    dsimp only
    cases t.chars? with
    | some cs => exact bind_clientStatus_eq_ok_iff
    | none => exact ⟨nofun, nofun⟩
  | bytes bs =>
    unfold readStatus integerOf
    dsimp only
    cases Utf8.decode bs with
    | ok cs => exact bind_clientStatus_eq_ok_iff
    | error flaw => exact ⟨nofun, nofun⟩
  | float x => exact bind_clientStatus_eq_ok_iff
  | decimal d => exact clientStatusOfDecimal_eq_ok_iff
  | _ => exact ⟨nofun, nofun⟩

/-- The status that is chosen: the number that is meant by what is given, or the standard one. -/
def ChosenStatus (environment : Environment) (arguments : Arguments) (n : Int) : Prop :=
  match given? environment arguments .rejectionStatus with
  | none => n = standard.rejectionStatus
  | some v => integerOf v = .ok n

theorem chosenStatus_of_load {settings : Settings} (h : load environment arguments = .ok settings) :
    ChosenStatus environment arguments settings.rejectionStatus := by
  unfold load at h
  dsimp only at h
  split at h
  · rename_i hstatus _
    cases h
    unfold ChosenStatus
    cases hgiven : given? environment arguments .rejectionStatus with
    | none =>
      rw [hgiven] at hstatus
      exact congrArg Subtype.val (Except.ok.inj hstatus).symm
    | some v =>
      rw [hgiven] at hstatus
      exact readStatus_eq_ok_iff.mp hstatus
  · cases h

end Settings

end Intake
