import Mathlib.Analysis.SpecialFunctions.Log.Base
import Mathlib.NumberTheory.Padics.PadicVal.Basic
import UnitConversion.Proofs.Decimal.Logarithm

/-!
# Correctly rounded logarithms

A logarithm is correctly rounded if no finite number is nearer to it. There is no tie to break: a decimal logarithm
in the middle between two numbers would be a binary fraction, and of a magnitude, which is one itself, only an
integer can be that (`Magnitude.exists_log_eq`). So the integer part of a correctly rounded logarithm is decided by
the magnitude. It is one more than the exponent of the leading digit where the next integer is the nearest number.

* `Magnitude.IsRoundedLogarithm`: the numbers that the logarithm can be rounded to.
* `Platform.logFloor_eq_succ_iff`: where the integer part of a correctly rounded logarithm is one more.
-/

namespace UnitConversion

namespace Binary64

variable {x : Binary64} {n : Int}

theorem isFinite_ofInt (hSmall : n.natAbs ≤ 2 ^ 53) : (ofInt n).isFinite = true := by
  obtain ⟨hRepresentable, hOwn⟩ := exists_ofInt_eq hSmall
  rw [hOwn]
  rfl

theorem exactValue_ofInt (hSmall : n.natAbs ≤ 2 ^ 53) : (ofInt n).exactValue = n := by
  have hOne : (oneUnits : ℚ) ≠ 0 := Nat.cast_ne_zero.mpr (Nat.ne_of_gt oneUnits_pos)
  obtain ⟨hRepresentable, hOwn⟩ := exists_ofInt_eq hSmall
  rw [hOwn, exactValue_finite, signedUnits_natAbs, Int.cast_mul, Int.cast_natCast, mul_div_cancel_right₀ _ hOne]

/-- The greatest integer that is not above a number, for its exact value. -/
theorem floor_exactValue (hFloor : x.floor? = some n) : ⌊x.exactValue⌋ = n := by
  cases x with
  | nan => cases hFloor
  | infinite s => cases hFloor
  | finite s m =>
    rw [exactValue_finite, Rat.floor_intCast_div_natCast]
    exact Option.some.inj hFloor

end Binary64

namespace Magnitude

variable {m : Magnitude} {x : Binary64}

/-- The decimal logarithm. -/
noncomputable def log (m : Magnitude) : ℝ := Real.logb 10 m.value

/-- No finite number is nearer to the decimal logarithm of the magnitude. -/
def IsRoundedLogarithm (m : Magnitude) (x : Binary64) : Prop :=
  x.isFinite = true ∧
    ∀ y : Binary64, y.isFinite = true → |(x.exactValue : ℝ) - m.log| ≤ |(y.exactValue : ℝ) - m.log|

/-! ## The logarithm and its decade -/

theorem cast_ten_zpow (e : Int) : ((10 ^ e : ℚ) : ℝ) = 10 ^ e := by
  rw [Rat.cast_zpow, Rat.cast_ofNat]

theorem cast_value_pos (hNonzero : m.units ≠ 0) : (0 : ℝ) < m.value :=
  Rat.cast_pos.mpr (inDecade_leading hNonzero).pos

theorem ten_rpow_log (hNonzero : m.units ≠ 0) : (10 : ℝ) ^ m.log = m.value :=
  Real.rpow_logb (by norm_num) (by norm_num) (cast_value_pos hNonzero)

theorem leading_le_log (hNonzero : m.units ≠ 0) : (m.leading : ℝ) ≤ m.log := by
  rw [log, Real.le_logb_iff_rpow_le (by norm_num) (cast_value_pos hNonzero), Real.rpow_intCast,
    ← cast_ten_zpow, Rat.cast_le]
  exact (inDecade_leading hNonzero).1

theorem log_lt (hNonzero : m.units ≠ 0) : m.log < (m.leading + 1 : Int) := by
  rw [log, Real.logb_lt_iff_lt_rpow (by norm_num) (cast_value_pos hNonzero), Real.rpow_intCast,
    ← cast_ten_zpow, Rat.cast_lt]
  exact (inDecade_leading hNonzero).2

/-! ## Ties -/

theorem padicValRat_ten [Fact (Nat.Prime 5)] : padicValRat 5 10 = 1 := by
  have hTwo : padicValRat 5 2 = 0 := by
    have hNat := padicValNat.eq_zero_of_not_dvd (show ¬ 5 ∣ 2 by decide)
    rw [show (2 : ℚ) = (2 : Nat) by norm_num, padicValRat.of_nat, hNat, Nat.cast_zero]
  have hFive : padicValRat 5 5 = 1 := padicValRat.self (by decide)
  rw [show (10 : ℚ) = 2 * 5 by norm_num, padicValRat.mul (by norm_num) (by norm_num), hTwo, hFive, zero_add]

/-- A logarithm that is a binary fraction is an integer, the number of factors five of the magnitude. -/
theorem exists_log_eq (hNonzero : m.units ≠ 0) {p : Int} {k : Nat} (hFraction : m.log * 2 ^ k = p) :
    ∃ n : Int, m.log = n := by
  have hPrime : Fact (Nat.Prime 5) := ⟨by decide⟩
  have hPower : m.value ^ (2 ^ k) = 10 ^ p := by
    have hReal : ((10 : ℝ) ^ m.log) ^ (2 ^ k) = 10 ^ p := by
      rw [← Real.rpow_natCast, ← Real.rpow_mul (by norm_num), Nat.cast_pow, Nat.cast_ofNat, hFraction,
        Real.rpow_intCast]
    rw [ten_rpow_log hNonzero, ← cast_ten_zpow, ← Rat.cast_pow] at hReal
    exact Rat.cast_injective hReal
  have hCount := congrArg (padicValRat 5) hPower
  rw [padicValRat.pow, padicValRat.zpow, padicValRat_ten, mul_one] at hCount
  refine ⟨padicValRat 5 m.value, ?_⟩
  have hScale : (0 : ℝ) < 2 ^ k := by positivity
  have hReal := congrArg (Int.cast : Int → ℝ) hCount
  rw [Int.cast_mul, Int.cast_natCast, Nat.cast_pow, Nat.cast_ofNat, ← hFraction, mul_comm] at hReal
  exact (mul_right_cancel₀ (ne_of_gt hScale) hReal).symm

/-! ## Integers next to a logarithm -/

theorem natAbs_leading_le (m : Magnitude) : m.leading.natAbs ≤ 700 := m.natAbs_leadingExponent_le

/-- A logarithm in the middle between a number and an integer is an integer. -/
theorem exists_log_eq_of_middle (hNonzero : m.units ≠ 0) (hFinite : x.isFinite = true) {n : Int}
    (hMiddle : 2 * m.log = x.exactValue + n) : ∃ n : Int, m.log = n := by
  obtain ⟨s, u, rfl⟩ := Binary64.isFinite_iff.mp hFinite
  have hOne : (oneUnits : ℝ) ≠ 0 := Nat.cast_ne_zero.mpr (Nat.ne_of_gt oneUnits_pos)
  have hScale : (2 : ℝ) ^ (fractionBits + 1) = 2 * oneUnits := by
    rw [pow_succ, mul_comm, oneUnits, Nat.cast_pow, Nat.cast_ofNat]
  have hExact : ((Binary64.finite s u).exactValue : ℝ) * oneUnits = Binary64.signedUnits s u.units := by
    rw [Binary64.exactValue_finite, Rat.cast_div, Rat.cast_intCast, Rat.cast_natCast, div_mul_cancel₀ _ hOne]
  refine exists_log_eq hNonzero (p := Binary64.signedUnits s u.units + n * oneUnits) (k := fractionBits + 1) ?_
  rw [hScale, Int.cast_add, ← hExact, Int.cast_mul, Int.cast_natCast]
  linear_combination (oneUnits : ℝ) * hMiddle

/-- Of a logarithm that is rounded to the next integer nothing below that integer is as near. -/
theorem IsRoundedLogarithm.le_of_next (hNonzero : m.units ≠ 0)
    (hNext : m.IsRoundedLogarithm (.ofInt (m.leading + 1))) (hx : m.IsRoundedLogarithm x) :
    ((m.leading + 1 : Int) : ℚ) ≤ x.exactValue := by
  have hBound := m.natAbs_leading_le
  have hDistances := le_antisymm (hNext.2 x hx.1) (hx.2 _ hNext.1)
  rw [Binary64.exactValue_ofInt (by omega), Rat.cast_intCast] at hDistances
  have hLog := log_lt hNonzero
  rw [abs_of_pos (by linarith)] at hDistances
  refine not_lt.mp fun hLess => ?_
  have hLessReal : (x.exactValue : ℝ) < (m.leading + 1 : Int) := by
    rw [← Rat.cast_intCast, Rat.cast_lt]
    exact hLess
  rcases le_or_gt m.log x.exactValue with hAbove | hBelow
  · rw [abs_of_nonneg (by linarith)] at hDistances
    linarith
  · -- The logarithm would be in the middle, so an integer; but then the integer itself is nearest.
    rw [abs_of_neg (by linarith)] at hDistances
    obtain ⟨n, hn⟩ := exists_log_eq_of_middle hNonzero hx.1 (n := m.leading + 1) (by linarith)
    have hLeast := leading_le_log hNonzero
    rw [hn, Int.cast_lt] at hLog
    rw [hn, Int.cast_le] at hLeast
    have hInteger : n = m.leading := by omega
    have hOwn := hx.2 _ (Binary64.isFinite_ofInt (n := m.leading) (by omega))
    rw [Binary64.exactValue_ofInt (by omega), Rat.cast_intCast, hn, hInteger, sub_self, abs_zero] at hOwn
    rw [hn, hInteger] at hBelow
    linarith [abs_nonpos_iff.mp hOwn]

/-- If a number from the next integer on is nearest to the logarithm, that integer is. -/
theorem IsRoundedLogarithm.next_of_le (hNonzero : m.units ≠ 0) (hx : m.IsRoundedLogarithm x)
    (hReaches : ((m.leading + 1 : Int) : ℚ) ≤ x.exactValue) : m.IsRoundedLogarithm (.ofInt (m.leading + 1)) := by
  have hBound := m.natAbs_leading_le
  have hLog := log_lt hNonzero
  have hReachesReal : ((m.leading + 1 : Int) : ℝ) ≤ x.exactValue := by
    rw [← Rat.cast_intCast, Rat.cast_le]
    exact hReaches
  refine ⟨Binary64.isFinite_ofInt (by omega), fun y hy => le_trans ?_ (hx.2 y hy)⟩
  rw [Binary64.exactValue_ofInt (by omega), Rat.cast_intCast, abs_of_pos (by linarith), abs_of_pos (by linarith)]
  linarith

/-- An integer further away is not the nearest. -/
theorem not_isRoundedLogarithm_ofInt {n : Int} (hNonzero : m.units ≠ 0) (hBeyond : m.leading + 1 < n)
    (hSmall : n.natAbs ≤ 2 ^ 53) : ¬ m.IsRoundedLogarithm (.ofInt n) := by
  intro hRounded
  have hBound := m.natAbs_leading_le
  have hLog := log_lt hNonzero
  have hFurther : ((m.leading + 1 : Int) : ℝ) < n := Int.cast_lt.mpr hBeyond
  have hNearer := hRounded.2 _ (Binary64.isFinite_ofInt (n := m.leading + 1) (by omega))
  rw [Binary64.exactValue_ofInt hSmall, Binary64.exactValue_ofInt (by omega), Rat.cast_intCast, Rat.cast_intCast,
    abs_of_pos (by linarith), abs_of_pos (by linarith)] at hNearer
  linarith

end Magnitude

namespace Platform

variable {platform : Platform} {m : Magnitude}

/-- The integer part of a correctly rounded logarithm is one more than the exponent of the leading digit exactly
where the next integer is the number nearest to the logarithm. -/
theorem logFloor_eq_succ_iff (hNonzero : m.units ≠ 0) (hLog : m.IsRoundedLogarithm (platform.logarithm m)) :
    platform.logFloor m = m.leading + 1 ↔ m.IsRoundedLogarithm (.ofInt (m.leading + 1)) := by
  obtain ⟨n, hFloor, -⟩ := platform.logarithm_bounds m hNonzero
  have hExact := Binary64.floor_exactValue hFloor
  have hFloors := platform.logFloor_eq hNonzero
  rw [logFloor, hFloor, Option.getD_some] at hFloors ⊢
  constructor
  · intro hNext
    rw [hNext] at hExact
    exact hLog.next_of_le hNonzero (Int.le_floor.mp (le_of_eq hExact.symm))
  · intro hNext
    have hReaches := Int.le_floor.mpr (Magnitude.IsRoundedLogarithm.le_of_next hNonzero hNext hLog)
    omega

end Platform

end UnitConversion
