import Mathlib.Algebra.Order.Field.Power
import Mathlib.Algebra.Order.Field.Rat
import Mathlib.Tactic.FieldSimp
import Mathlib.Tactic.NormNum
import Mathlib.Tactic.Positivity
import UnitConversion.Decimal.Shortest
import UnitConversion.Proofs.Binary64.Nearest

/-!
# The values of decimals

A decimal is read as the binary64 number nearest to its value (`toBinary64_eq_nearest`): the two
comparisons of exponents that come first only save work. So decimals of one value are read alike, and
a decimal is read as infinite when its value reaches the middle between the largest magnitude and
`2 ^ 1024`.

* `Decimal.toBinary64_congr`: decimals of one value are read as one number.
* `Decimal.isFinite_toBinary64_iff`: which decimals are read as finite numbers.
* `Decimal.toBinary64_eq_of_value`: the value of a magnitude is read as that magnitude.
* `Magnitude.shortest_toBinary64`: the shortest decimal of a magnitude reads back.
-/

namespace UnitConversion

namespace Decimal

/-- The exact value. -/
def value (d : Decimal) : ℚ := d.coefficient * 10 ^ d.exponent

/-- The value is a quotient of natural numbers, one of whose powers of ten is one. -/
def numerator (d : Decimal) : Nat := d.coefficient * 10 ^ d.exponent.toNat

def denominator (d : Decimal) : Nat := 10 ^ (-d.exponent).toNat

theorem denominator_pos (d : Decimal) : 0 < d.denominator := Nat.pow_pos (by decide)

theorem value_eq_div (d : Decimal) : d.value = (d.numerator : ℚ) / d.denominator := by
  unfold value numerator denominator
  rcases Int.le_total 0 d.exponent with hUp | hDown
  · obtain ⟨n, hn⟩ := Int.eq_ofNat_of_zero_le hUp
    simp [hn]
  · obtain ⟨n, hn⟩ := Int.eq_ofNat_of_zero_le (Int.neg_nonneg_of_nonpos hDown)
    have hExponent : d.exponent = -(n : Int) := by omega
    simp [hExponent, div_eq_mul_inv]

theorem value_eq_value_iff (d d' : Decimal) :
    d.value = d'.value ↔ d.numerator * d'.denominator = d'.numerator * d.denominator := by
  have hDen : (d.denominator : ℚ) ≠ 0 := Nat.cast_ne_zero.mpr (Nat.ne_of_gt d.denominator_pos)
  have hDen' : (d'.denominator : ℚ) ≠ 0 := Nat.cast_ne_zero.mpr (Nat.ne_of_gt d'.denominator_pos)
  rw [value_eq_div, value_eq_div, div_eq_div_iff hDen hDen']
  exact_mod_cast Iff.rfl

/-! ## Reading a decimal -/

theorem overflowUnits_le_pow {k : Nat} (hk : 310 ≤ k) : overflowUnits ≤ 10 ^ k * oneUnits := by
  induction k, hk using Nat.le_induction with
  | base => decide +kernel
  | succ k hk ih =>
    rw [Nat.pow_succ, Nat.mul_right_comm]
    exact Nat.le_trans ih (Nat.le_mul_of_pos_right _ (by decide))

theorem two_mul_oneUnits_le_pow {k : Nat} (hk : 330 ≤ k) : 2 * oneUnits ≤ 10 ^ k := by
  induction k, hk using Nat.le_induction with
  | base => decide +kernel
  | succ k hk ih =>
    rw [Nat.pow_succ]
    exact Nat.le_trans ih (Nat.le_mul_of_pos_right _ (by decide))

/-- A decimal with a large exponent overflows. -/
theorem overflowMiddle_le_of_exponent {d : Decimal} (hNonzero : d.coefficient ≠ 0)
    (hLarge : 310 < d.exponent) : overflowMiddle * d.denominator ≤ d.numerator * oneUnits := by
  have hDen : d.denominator = 1 := by
    unfold denominator
    rw [show (-d.exponent).toNat = 0 by omega, Nat.pow_zero]
  have hNum : 10 ^ d.exponent.toNat ≤ d.numerator :=
    Nat.le_mul_of_pos_left _ (Nat.pos_of_ne_zero hNonzero)
  rw [hDen, Nat.mul_one]
  calc overflowMiddle ≤ overflowUnits := Nat.le_of_lt overflowMiddle_lt
    _ ≤ 10 ^ d.exponent.toNat * oneUnits := overflowUnits_le_pow (by omega)
    _ ≤ d.numerator * oneUnits := Nat.mul_le_mul_right oneUnits hNum

/-- A decimal with a small exponent and few digits is less than half a unit. -/
theorem two_mul_lt_denominator_of_exponent {d : Decimal}
    (hSmall : d.exponent + d.coefficient.log2 + 1 < -330) :
    2 * (d.numerator * oneUnits) < d.denominator := by
  have hNum : d.numerator = d.coefficient := by
    unfold numerator
    rw [show d.exponent.toNat = 0 by omega, Nat.pow_zero, Nat.mul_one]
  have hCoefficient : d.coefficient < 10 ^ (d.coefficient.log2 + 1) :=
    Nat.lt_of_lt_of_le Nat.lt_log2_self (Nat.pow_le_pow_left (by decide) _)
  obtain ⟨k, hk⟩ : ∃ k, (-d.exponent).toNat = d.coefficient.log2 + 1 + k :=
    ⟨(-d.exponent).toNat - (d.coefficient.log2 + 1), by omega⟩
  have hUnit : 2 * oneUnits ≤ 10 ^ k := two_mul_oneUnits_le_pow (by omega)
  calc 2 * (d.numerator * oneUnits) = d.coefficient * (2 * oneUnits) := by
        rw [hNum, Nat.mul_left_comm]
    _ < 10 ^ (d.coefficient.log2 + 1) * (2 * oneUnits) :=
        Nat.mul_lt_mul_of_pos_right hCoefficient (Nat.mul_pos (by decide) oneUnits_pos)
    _ ≤ 10 ^ (d.coefficient.log2 + 1) * 10 ^ k := Nat.mul_le_mul_left _ hUnit
    _ = d.denominator := by rw [denominator, hk, ← Nat.pow_add]

/-- A decimal is read as the number nearest to its value. -/
theorem toBinary64_eq_nearest (d : Decimal) (s : Bool) :
    d.toBinary64 s = .nearest s (d.numerator * oneUnits) d.denominator := by
  unfold toBinary64
  split
  · rename_i hZero
    refine (Binary64.nearest_eq_zero ?_).symm
    simp [numerator, hZero, denominator_pos]
  · rename_i hNonzero
    split
    · rename_i hLarge
      exact (Binary64.nearest_eq_infinite d.denominator_pos
        (overflowMiddle_le_of_exponent hNonzero hLarge)).symm
    · split
      · rename_i hSmall
        exact (Binary64.nearest_eq_zero (two_mul_lt_denominator_of_exponent hSmall)).symm
      · unfold numerator denominator
        split
        · rw [show (-d.exponent).toNat = 0 by omega, Nat.pow_zero]
        · rw [show d.exponent.toNat = 0 by omega, Nat.pow_zero, Nat.mul_one]

/-- Decimals of one value are read as one number. -/
theorem toBinary64_congr {d d' : Decimal} (hValue : d.value = d'.value) (s : Bool) :
    d.toBinary64 s = d'.toBinary64 s := by
  have hCross := (value_eq_value_iff d d').mp hValue
  rw [toBinary64_eq_nearest, toBinary64_eq_nearest]
  refine Binary64.nearest_congr d.denominator_pos d'.denominator_pos ?_ s
  rw [Nat.mul_right_comm, hCross, Nat.mul_right_comm]

/-- The middle between the largest magnitude and the overflow. -/
theorem value_overflowMiddle : (overflowMiddle : ℚ) / oneUnits = 2 ^ 1024 - 2 ^ 970 := by
  have hUnits : (oneUnits : ℚ) ≠ 0 := Nat.cast_ne_zero.mpr (Nat.ne_of_gt oneUnits_pos)
  have hStep (k : Nat) :
      (((2 ^ 54 - 1) * (2 ^ k * oneUnits) : Nat) : ℚ) / oneUnits = 2 ^ (54 + k) - 2 ^ k := by
    push_cast
    field_simp
    ring
  rw [overflowMiddle, lastHalfStep_eq, hStep 970]

theorem isFinite_toBinary64_iff (d : Decimal) (s : Bool) :
    (d.toBinary64 s).isFinite = true ↔ d.value < 2 ^ 1024 - 2 ^ 970 := by
  have hDen : (0 : ℚ) < d.denominator := Nat.cast_pos.mpr d.denominator_pos
  have hUnits : (0 : ℚ) < oneUnits := Nat.cast_pos.mpr oneUnits_pos
  rw [toBinary64_eq_nearest, Binary64.isFinite_nearest_iff d.denominator_pos,
    ← value_overflowMiddle, value_eq_div, div_lt_div_iff₀ hDen hUnits]
  exact_mod_cast Iff.rfl

theorem toBinary64_eq_infinite {d : Decimal} (hLarge : 2 ^ 1024 - 2 ^ 970 ≤ d.value) (s : Bool) :
    d.toBinary64 s = .infinite s := by
  have hNotFinite : ¬ (d.toBinary64 s).isFinite = true := by
    rw [isFinite_toBinary64_iff]
    exact not_lt.mpr hLarge
  rw [toBinary64_eq_nearest] at hNotFinite ⊢
  refine Binary64.nearest_eq_infinite d.denominator_pos ?_
  rw [Binary64.isFinite_nearest_iff d.denominator_pos] at hNotFinite
  exact Nat.not_lt.mp hNotFinite

/-- The sign of a decimal has no bearing on the magnitude that it is read as. -/
theorem toBinary64_eq_finite_iff {d : Decimal} {s t : Bool} {m : Magnitude} :
    d.toBinary64 s = .finite s m ↔ d.toBinary64 t = .finite t m := by
  rw [toBinary64_eq_nearest, toBinary64_eq_nearest, Binary64.nearest_eq_finite_iff,
    Binary64.nearest_eq_finite_iff]

/-- The value of a magnitude is read as that magnitude. -/
theorem toBinary64_eq_of_value {d : Decimal} {m : Magnitude}
    (hValue : d.value = (m.units : ℚ) / oneUnits) (s : Bool) : d.toBinary64 s = .finite s m := by
  have hDen : (d.denominator : ℚ) ≠ 0 := Nat.cast_ne_zero.mpr (Nat.ne_of_gt d.denominator_pos)
  have hOne : (oneUnits : ℚ) ≠ 0 := Nat.cast_ne_zero.mpr (Nat.ne_of_gt oneUnits_pos)
  have hCross : d.numerator * oneUnits = m.units * d.denominator := by
    rw [value_eq_div, div_eq_div_iff hDen hOne] at hValue
    exact_mod_cast hValue
  rw [toBinary64_eq_nearest, hCross]
  exact Binary64.nearest_representable s d.denominator_pos

end Decimal

/-! ## The shortest decimal -/

namespace Magnitude

theorem value_exact (m : Magnitude) : m.exact.value = (m.units : ℚ) / oneUnits := by
  have hOne : (10 : ℚ) ^ fractionBits = 5 ^ fractionBits * oneUnits := by
    unfold oneUnits
    rw [Nat.cast_pow, Nat.cast_ofNat, ← mul_pow]
    norm_num
  have hFive : (5 : ℚ) ^ fractionBits ≠ 0 := by positivity
  have hUnits : (oneUnits : ℚ) ≠ 0 := Nat.cast_ne_zero.mpr (Nat.ne_of_gt oneUnits_pos)
  simp only [exact, Decimal.value, zpow_neg, zpow_natCast, hOne]
  push_cast
  field_simp

/-- The full decimal expansion reads back. -/
theorem exact_toBinary64 (m : Magnitude) (s : Bool) : m.exact.toBinary64 s = .finite s m :=
  Decimal.toBinary64_eq_of_value m.value_exact s

theorem readsBack_shortestFrom (m : Magnitude) (place : Int) (attempts : Nat) :
    m.ReadsBack (m.shortestFrom place attempts) := by
  induction attempts generalizing place with
  | zero => exact m.exact_toBinary64 false
  | succ attempts ih =>
    unfold shortestFrom
    split
    · rename_i d hFound
      exact of_decide_eq_true (List.find?_some (p := fun d => decide (m.ReadsBack d)) hFound)
    · exact ih (place - 1)

/-- The shortest decimal reads back. -/
theorem shortest_toBinary64 (m : Magnitude) (s : Bool) : m.shortest.toBinary64 s = .finite s m :=
  Decimal.toBinary64_eq_finite_iff.mp (m.readsBack_shortestFrom _ _)

end Magnitude

end UnitConversion
