import UnitConversion.Proofs.Binary64.Exact
import UnitConversion.Proofs.Transform.Formula

/-!
# Formulas that overflow

A transform that was declared with a factor of at least one can only overflow where it multiplies by that
factor. A scale, without an offset, does so on the way to the primary unit, exactly when the exact product
is beyond the overflow, and never on the way back. A shift, which is swapped and has a small offset, does
so on the way from the primary unit only, and not for a magnitude that is moderate.

* `Transform.IsScale`, `Transform.IsShift`: the two shapes.
* `isFinite_forward_scale_iff`, `isFinite_backward_scale_iff`: where a scale overflows.
* `isFinite_forward_shift`, `isFinite_backward_shift`: where a shift does not.
-/

namespace UnitConversion

/-- Half of the distance between the largest magnitudes. -/
def halfStep : ℚ := 2 ^ 970

theorem halfStep_large : 2 ^ 10 ≤ halfStep :=
  pow_le_pow_right₀ (by norm_num) (by norm_num)

theorem two_pow_1024 : (2 : ℚ) ^ 1024 - 2 ^ 970 = (2 ^ 54 - 1) * halfStep := Magnitude.overflow_eq

theorem two_pow_1023 : (2 : ℚ) ^ 1023 = 2 ^ 53 * halfStep := by
  rw [halfStep, ← pow_add]

/-- A magnitude between a half and five eighths of `2 ^ 1023`. -/
def Magnitude.moderate : Magnitude :=
  ⟨5 * 2 ^ (1020 + fractionBits), representable_mul_pow (by decide) (by decide +kernel)⟩

theorem Magnitude.value_moderate : Magnitude.moderate.value = 5 * 2 ^ 50 * halfStep := by
  have hPow : (2 : ℚ) ^ 1020 = 2 ^ 50 * halfStep := by
    rw [halfStep, ← pow_add]
  have hUnits := Magnitude.units_div_oneUnits 5 1020
  rw [hPow, ← mul_assoc] at hUnits
  exact hUnits

namespace Transform

/-- The transform multiplies by a factor of at least one on the way to the primary unit. -/
structure IsScale (t : Transform Binary64) : Prop where
  swapped : t.swapped = false
  factor_finite : t.factor.isFinite = true
  one_le : 1 ≤ t.factor.exactValue
  offset : t.offset = .zero false
  reciprocal : t.reciprocal = t.factor⁻¹

/-- The transform multiplies by a factor between one and two on the way from the primary unit, and adds a
small offset. -/
structure IsShift (t : Transform Binary64) : Prop where
  swapped : t.swapped = true
  factor_finite : t.factor.isFinite = true
  one_le : 1 ≤ t.factor.exactValue
  le_two : t.factor.exactValue ≤ 2
  offset_finite : t.offset.isFinite = true
  offset_small : |t.offset.exactValue| < 2 ^ 10
  reciprocal : t.reciprocal = t.factor⁻¹

variable {t : Transform Binary64} {x : Binary64}

section Scale

variable (hScale : t.IsScale)

include hScale

theorem isFinite_forward_scale_iff (hx : x.isFinite = true) :
    (t.forward x).isFinite = true ↔
      |t.factor.exactValue * x.exactValue| < 2 ^ 1024 - 2 ^ 970 := by
  have hForward : t.forward x = t.factor * x + .zero false := by
    rw [forward, hScale.swapped, if_neg Bool.false_ne_true, apply, hScale.offset]
  rw [hForward, ← Binary64.isFinite_mul_iff hScale.factor_finite hx]
  constructor
  · intro hSum
    exact (Binary64.isFinite_of_add hSum).1
  · intro hProduct
    refine Binary64.isFinite_add_of_small hProduct rfl ?_
    rw [Binary64.exactValue_zero, abs_zero]
    positivity

theorem isFinite_backward_scale_iff : (t.backward x).isFinite = true ↔ x.isFinite = true := by
  have hBackward : t.backward x = (x - .zero false) * t.factor⁻¹ := by
    rw [backward, hScale.swapped, if_neg Bool.false_ne_true, solve, hScale.offset, hScale.reciprocal]
  have hInv : Magnitude.one.Bounds t.factor⁻¹ :=
    Binary64.bounds_inv hScale.factor_finite (le_trans hScale.one_le (le_abs_self _))
  rw [hBackward]
  constructor
  · intro hProduct
    exact (Binary64.isFinite_of_add (Binary64.isFinite_of_mul hProduct).1).1
  · intro hx
    have hDifference : (x - .zero false).isFinite = true := by
      refine Binary64.isFinite_add_of_small hx rfl ?_
      rw [Binary64.exactValue_neg, Binary64.exactValue_zero, neg_zero, abs_zero]
      positivity
    exact (Magnitude.bounds_mul_of_le_one (Magnitude.bounds_largest hDifference) hInv).1

end Scale

section Shift

variable (hShift : t.IsShift)

include hShift

theorem forward_shift (x : Binary64) : t.forward x = (x + -t.offset) * t.factor⁻¹ := by
  rw [forward, hShift.swapped, if_pos rfl, solve, hShift.reciprocal]
  rfl

theorem backward_shift (x : Binary64) : t.backward x = t.factor * x + t.offset := by
  rw [backward, hShift.swapped, if_pos rfl, apply]

theorem bounds_inv_shift : Magnitude.one.Bounds t.factor⁻¹ :=
  Binary64.bounds_inv hShift.factor_finite (le_trans hShift.one_le (le_abs_self _))

/-- On the way to the primary unit a shift does not overflow. -/
theorem isFinite_forward_shift (hx : x.isFinite = true) : (t.forward x).isFinite = true := by
  have hOffset : (-t.offset).isFinite = true := by
    rw [Binary64.isFinite_neg]
    exact hShift.offset_finite
  have hDifference : (x + -t.offset).isFinite = true := by
    refine Binary64.isFinite_add_of_small hx hOffset ?_
    rw [Binary64.exactValue_neg, abs_neg]
    exact lt_of_lt_of_le hShift.offset_small halfStep_large
  rw [forward_shift hShift]
  exact (Magnitude.bounds_mul_of_le_one (Magnitude.bounds_largest hDifference)
    (bounds_inv_shift hShift)).1

/-- A bound on the difference from the offset is kept on the way to the primary unit. -/
theorem bounds_forward_shift {m : Magnitude} (hx : x.isFinite = true)
    (hExact : |x.exactValue - t.offset.exactValue| ≤ m.value) : m.Bounds (t.forward x) := by
  have hOffset : (-t.offset).isFinite = true := by
    rw [Binary64.isFinite_neg]
    exact hShift.offset_finite
  have hDifference : m.Bounds (x + -t.offset) := by
    refine Magnitude.bounds_add hx hOffset ?_
    rwa [Binary64.exactValue_neg, ← sub_eq_add_neg]
  rw [forward_shift hShift]
  exact Magnitude.bounds_mul_of_le_one hDifference (bounds_inv_shift hShift)

/-- On the way from the primary unit a shift by a factor of one does not overflow. -/
theorem isFinite_backward_shift_of_le_one (hFactor : t.factor.exactValue ≤ 1)
    (hx : x.isFinite = true) : (t.backward x).isFinite = true := by
  have hOne : Magnitude.one.Bounds t.factor := by
    refine ⟨hShift.factor_finite, ?_⟩
    rw [Magnitude.value_one, abs_of_nonneg (le_trans zero_le_one hShift.one_le)]
    exact hFactor
  have hProduct : (t.factor * x).isFinite = true := by
    rw [Binary64.mul_comm]
    exact (Magnitude.bounds_mul_of_le_one (Magnitude.bounds_largest hx) hOne).1
  rw [backward_shift hShift]
  exact Binary64.isFinite_add_of_small hProduct hShift.offset_finite
    (lt_of_lt_of_le hShift.offset_small halfStep_large)

/-- On the way from the primary unit a moderate magnitude does not overflow. -/
theorem isFinite_backward_shift (hx : Magnitude.moderate.Bounds x) :
    (t.backward x).isFinite = true := by
  have hProduct : (t.factor * x).isFinite = true := by
    rw [Binary64.isFinite_mul_iff hShift.factor_finite hx.1, two_pow_1024, abs_mul]
    have hModerate := hx.2
    have hLarge := halfStep_large
    have hFactor : |t.factor.exactValue| ≤ 2 := by
      rw [abs_of_nonneg (le_trans zero_le_one hShift.one_le)]
      exact hShift.le_two
    rw [Magnitude.value_moderate] at hModerate
    generalize halfStep = h at *
    calc |t.factor.exactValue| * |x.exactValue| ≤ 2 * (5 * 2 ^ 50 * h) :=
          mul_le_mul hFactor hModerate (abs_nonneg _) (by norm_num)
      _ < (2 ^ 54 - 1) * h := by linarith
  rw [backward_shift hShift]
  exact Binary64.isFinite_add_of_small hProduct hShift.offset_finite
    (lt_of_lt_of_le hShift.offset_small halfStep_large)

end Shift

end Transform

end UnitConversion
