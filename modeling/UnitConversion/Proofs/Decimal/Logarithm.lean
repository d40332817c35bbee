import UnitConversion.Proofs.Decimal.Shortest

/-!
# The integer part of a rounded logarithm

Rounding can take the decimal logarithm of a magnitude up to an integer that it stays below. So its integer part is
the exponent of the leading digit of the magnitude, or one more. The latter happens in the upper half of a decade
only, on whatever platform.

* `Platform.logFloor_eq`: the two integer parts.
* `Platform.le_value_of_logFloor`: where it is the greater one.
-/

namespace UnitConversion

namespace Platform

variable {m : Magnitude}

theorem inDecade_double (hNonzero : m.units ≠ 0) : InDecade (2 * m.value) (leadingExponent (2 * m.units) oneUnits) := by
  have hDecade := inDecade_leadingExponent (Nat.mul_pos Nat.two_pos (Nat.pos_of_ne_zero hNonzero)) oneUnits_pos
  rw [Nat.cast_mul, Nat.cast_ofNat, mul_div_assoc] at hDecade
  exact hDecade

/-- The integer part of the rounded logarithm is the exponent of the leading digit, or one more. -/
theorem logFloor_eq (platform : Platform) (hNonzero : m.units ≠ 0) :
    platform.logFloor m = m.leading ∨ platform.logFloor m = m.leading + 1 := by
  obtain ⟨hLow, hHigh⟩ := platform.logFloor_bounds hNonzero
  have hDouble := ten_zpow_lt_iff.mp (lt_of_le_of_lt (inDecade_double hNonzero).1
    (show 2 * m.value < 10 ^ (m.leading + 1 + 1) by
      have hTen := ten_zpow_succ (m.leading + 1)
      linarith [(Magnitude.inDecade_leading hNonzero).2, (Magnitude.inDecade_leading hNonzero).pos]))
  unfold Magnitude.leading at hDouble ⊢
  omega

/-- Where the integer part of the rounded logarithm is one more than the exponent of the leading digit, the
magnitude lies in the upper half of its decade. -/
theorem le_value_of_logFloor (platform : Platform) (hNonzero : m.units ≠ 0)
    (hFloor : platform.logFloor m = m.leading + 1) : 10 ^ (m.leading + 1) ≤ 2 * m.value := by
  have hHigh := (platform.logFloor_bounds hNonzero).2
  rw [hFloor] at hHigh
  exact le_trans (ten_zpow_le hHigh) (inDecade_double hNonzero).1

end Platform

end UnitConversion
