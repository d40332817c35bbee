import Mathlib.Algebra.Order.AbsoluteValue.Basic
import Mathlib.Data.Nat.Cast.Order.Field
import UnitConversion.Proofs.Binary64.Exact

/-!
# The error of rounding

Both rules of rounding a quotient to an integer leave an error of at most a half (`NearestTo`), and that
is all that is used of them here. The nearest binary64 number is off by at most half a unit or a part in
`2 ^ 53`, whichever is more, and a quotient that is closer than that to a magnitude is rounded to it.

* `abs_nearestUnits_sub_le`: the error of the nearest count of units.
* `nearestUnits_eq_of_close`: quotients that are rounded to a given count.
* `Decimal.abs_value_sub_le`: the error of reading a decimal.
* `Binary64.exactValue_eq_value`: the exact value of a finite number.
-/

namespace UnitConversion

/-! ## Integers nearest to a quotient -/

/-- No integer is nearer to the number. -/
def NearestTo (count : Nat) (q : ℚ) : Prop := |(count : ℚ) - q| ≤ 1 / 2

namespace NearestTo

variable {count bound : Nat} {q : ℚ}

theorem le_of_le (h : NearestTo count q) (hBound : (bound : ℚ) ≤ q) : bound ≤ count := by
  have hLow := (abs_le.mp h).1
  have hLess : (bound : ℚ) < count + 1 := by linarith
  exact Nat.lt_succ_iff.mp (by exact_mod_cast hLess)

theorem le_of_ge (h : NearestTo count q) (hBound : q ≤ bound) : count ≤ bound := by
  have hHigh := (abs_le.mp h).2
  have hLess : (count : ℚ) < bound + 1 := by linarith
  exact Nat.lt_succ_iff.mp (by exact_mod_cast hLess)

theorem eq_of_close (h : NearestTo count q) (hClose : |q - bound| < 1 / 2) : count = bound := by
  obtain ⟨hLow, hHigh⟩ := abs_le.mp h
  obtain ⟨hLow', hHigh'⟩ := abs_lt.mp hClose
  have hLess : (bound : ℚ) < count + 1 := by linarith
  have hMore : (count : ℚ) < bound + 1 := by linarith
  have hLess : bound < count + 1 := by exact_mod_cast hLess
  have hMore : count < bound + 1 := by exact_mod_cast hMore
  omega

section Quotients

variable (num : Nat) {den : Nat} (hDen : 0 < den)

include hDen

theorem quotient_eq : (num : ℚ) / den = (num / den : Nat) + ((num % den : Nat) : ℚ) / den := by
  have hDenCast : (den : ℚ) ≠ 0 := Nat.cast_ne_zero.mpr (Nat.ne_of_gt hDen)
  have hSplit : (num : ℚ) = (num / den : Nat) * den + (num % den : Nat) := by
    exact_mod_cast (Nat.div_add_mod' num den).symm
  rw [hSplit, add_div, mul_div_cancel_right₀ _ hDenCast]

theorem floor (hRest : 2 * (num % den) ≤ den) : NearestTo (num / den) ((num : ℚ) / den) := by
  have hDenCast : (0 : ℚ) < den := Nat.cast_pos.mpr hDen
  have hHalf : ((num % den : Nat) : ℚ) / den ≤ 1 / 2 := by
    rw [div_le_div_iff₀ hDenCast (by norm_num), one_mul, mul_comm]
    exact_mod_cast hRest
  have hNonneg : (0 : ℚ) ≤ ((num % den : Nat) : ℚ) / den := by positivity
  rw [NearestTo, quotient_eq num hDen, abs_le]
  constructor <;> linarith

theorem ceil (hRest : den ≤ 2 * (num % den)) : NearestTo (num / den + 1) ((num : ℚ) / den) := by
  have hDenCast : (0 : ℚ) < den := Nat.cast_pos.mpr hDen
  have hHalf : 1 / 2 ≤ ((num % den : Nat) : ℚ) / den := by
    rw [div_le_div_iff₀ (by norm_num) hDenCast, one_mul, mul_comm]
    exact_mod_cast hRest
  have hLess : ((num % den : Nat) : ℚ) / den < 1 := by
    rw [div_lt_one hDenCast]
    exact_mod_cast Nat.mod_lt num hDen
  rw [NearestTo, quotient_eq num hDen, Nat.cast_add, Nat.cast_one, abs_le]
  constructor <;> linarith

theorem divHalfEven : NearestTo (divHalfEven num den) ((num : ℚ) / den) := by
  unfold UnitConversion.divHalfEven
  dsimp only
  split
  · exact floor num hDen (by omega)
  · split
    · exact ceil num hDen (by omega)
    · -- In the middle both neighbours are nearest.
      rcases Nat.mod_two_eq_zero_or_one (num / den) with hEven | hOdd
      · rw [hEven]
        exact floor num hDen (by omega)
      · rw [hOdd]
        exact ceil num hDen (by omega)

theorem divHalfUp : NearestTo (divHalfUp num den) ((num : ℚ) / den) := by
  unfold UnitConversion.divHalfUp
  split
  · exact floor num hDen (by omega)
  · exact ceil num hDen (by omega)

end Quotients

end NearestTo

/-! ## The nearest count of units -/

section Units

variable (num : Nat) {den : Nat} (hDen : 0 < den)

include hDen

/-- A quotient has 53 binary digits and its excess bits. -/
theorem lt_pow_excessBits : (num : ℚ) / den < 2 ^ (53 + excessBits num den) := by
  have hWhole : num / den < 2 ^ (53 + excessBits num den) := by
    refine Nat.lt_of_lt_of_le Nat.lt_log2_self (Nat.pow_le_pow_right (by decide) ?_)
    unfold excessBits
    omega
  rw [div_lt_iff₀ (Nat.cast_pos.mpr hDen)]
  exact_mod_cast (Nat.div_lt_iff_lt_mul hDen).mp hWhole

theorem pow_excessBits_le (hExcess : 0 < excessBits num den) :
    (2 : ℚ) ^ (52 + excessBits num den) ≤ num / den := by
  have hNonzero : num / den ≠ 0 := by
    intro hZero
    simp [excessBits, hZero] at hExcess
  have hWhole : 2 ^ (52 + excessBits num den) ≤ num / den := by
    refine (Nat.le_log2 hNonzero).mp ?_
    unfold excessBits at hExcess ⊢
    omega
  rw [le_div_iff₀ (Nat.cast_pos.mpr hDen)]
  exact_mod_cast (Nat.le_div_iff_mul_le hDen).mp hWhole

theorem exists_nearestUnits :
    ∃ count, nearestUnits num den = count * 2 ^ excessBits num den ∧
      NearestTo count ((num : ℚ) / den / 2 ^ excessBits num den) := by
  have hNearest := NearestTo.divHalfEven num
    (Nat.mul_pos hDen (Nat.two_pow_pos (excessBits num den)))
  rw [Nat.cast_mul, Nat.cast_pow, Nat.cast_ofNat, ← div_div] at hNearest
  exact ⟨_, rfl, hNearest⟩

/-- The error is at most a half of the last binary digit. -/
theorem abs_nearestUnits_sub_le :
    |(nearestUnits num den : ℚ) - num / den| ≤ max (1 / 2) ((num : ℚ) / den / 2 ^ 53) := by
  obtain ⟨count, hUnits, hNearest⟩ := exists_nearestUnits num hDen
  have hStep : (0 : ℚ) < 2 ^ excessBits num den := by positivity
  have hError : |(nearestUnits num den : ℚ) - num / den| ≤ 2 ^ excessBits num den / 2 := by
    have hScaled : (nearestUnits num den : ℚ) - num / den =
        2 ^ excessBits num den * (count - num / den / 2 ^ excessBits num den) := by
      rw [hUnits, Nat.cast_mul, Nat.cast_pow, Nat.cast_ofNat, mul_sub, mul_div_cancel₀ _ (ne_of_gt hStep),
        mul_comm]
    rw [hScaled, abs_mul, abs_of_pos hStep]
    calc 2 ^ excessBits num den * |(count : ℚ) - num / den / 2 ^ excessBits num den|
        ≤ 2 ^ excessBits num den * (1 / 2) := mul_le_mul_of_nonneg_left hNearest (le_of_lt hStep)
      _ = 2 ^ excessBits num den / 2 := by ring
  rcases Nat.eq_zero_or_pos (excessBits num den) with hNone | hSome
  · rw [hNone, pow_zero] at hError
    exact le_max_of_le_left hError
  · refine le_max_of_le_right (le_trans hError ?_)
    have hLeading := pow_excessBits_le num hDen hSome
    rw [pow_add] at hLeading
    rw [div_le_div_iff₀ (by norm_num) (by positivity)]
    calc (2 : ℚ) ^ excessBits num den * 2 ^ 53 = 2 ^ 52 * 2 ^ excessBits num den * 2 := by ring
      _ ≤ (num : ℚ) / den * 2 := mul_le_mul_of_nonneg_right hLeading (by norm_num)

variable {num}

/-- The number of excess bits is known from the powers of two around the quotient. -/
theorem excessBits_eq {k : Nat} (hLow : k = 0 ∨ (2 : ℚ) ^ (52 + k) ≤ num / den)
    (hHigh : (num : ℚ) / den < 2 ^ (53 + k)) : excessBits num den = k := by
  have hUpper := lt_pow_excessBits num hDen
  refine Nat.le_antisymm (Nat.le_of_not_lt fun hMore => ?_) (Nat.le_of_not_lt fun hLess => ?_)
  · have hLower := pow_excessBits_le num hDen (Nat.lt_of_le_of_lt (Nat.zero_le k) hMore)
    have hBetween := lt_of_le_of_lt hLower hHigh
    rw [pow_lt_pow_iff_right₀ (by norm_num)] at hBetween
    omega
  · rcases hLow with rfl | hLow
    · exact absurd hLess (Nat.not_lt_zero _)
    · have hBetween := lt_of_le_of_lt hLow hUpper
      rw [pow_lt_pow_iff_right₀ (by norm_num)] at hBetween
      omega

theorem nearestUnits_eq_of_excessBits {count k : Nat} (hExcess : excessBits num den = k)
    (hClose : |(num : ℚ) / den - (count * 2 ^ k : Nat)| < 2 ^ k / 2) :
    nearestUnits num den = count * 2 ^ k := by
  obtain ⟨found, hUnits, hNearest⟩ := exists_nearestUnits num hDen
  have hStep : (0 : ℚ) < 2 ^ k := by positivity
  rw [hExcess] at hUnits hNearest
  rw [hUnits, hNearest.eq_of_close ?_]
  have hScaled : (num : ℚ) / den - (count * 2 ^ k : Nat) = 2 ^ k * (num / den / 2 ^ k - count) := by
    rw [mul_sub, mul_div_cancel₀ _ (ne_of_gt hStep), Nat.cast_mul, Nat.cast_pow, Nat.cast_ofNat,
      mul_comm (count : ℚ)]
  rw [hScaled, abs_mul, abs_of_pos hStep] at hClose
  have hHalf : 2 ^ k * |(num : ℚ) / den / 2 ^ k - count| < 2 ^ k * (1 / 2) := by
    rw [mul_one_div]
    exact hClose
  exact lt_of_mul_lt_mul_left hHalf (le_of_lt hStep)

/-- Just below a power of two there is one excess bit less. -/
theorem nearestUnits_eq_of_below {k : Nat} (hBelow : (num : ℚ) / den < 2 ^ (53 + k))
    (hClose : |(num : ℚ) / den - 2 ^ (53 + k)| < 2 ^ k / 2) : nearestUnits num den = 2 ^ 53 * 2 ^ k := by
  have hExcess : excessBits num den = k := by
    refine excessBits_eq hDen (Or.inr ?_) hBelow
    have hLow := (abs_lt.mp hClose).1
    have hStep : (0 : ℚ) < 2 ^ k := by positivity
    rw [pow_add] at hLow ⊢
    linarith
  refine nearestUnits_eq_of_excessBits hDen hExcess ?_
  rwa [← Nat.pow_add, Nat.cast_pow, Nat.cast_ofNat]

/-- The case of 53 binary digits and some zeros behind them. -/
theorem nearestUnits_eq_of_leading {count k : Nat} (hLeast : 2 ^ 52 ≤ count) (hMost : count < 2 ^ 53)
    (hClose : |(num : ℚ) / den - (count * 2 ^ (k + 1) : Nat)| < (count * 2 ^ (k + 1) : Nat) / 2 ^ 54) :
    nearestUnits num den = count * 2 ^ (k + 1) := by
  have hStep : (0 : ℚ) < 2 ^ k := by positivity
  have hMostCast : (count : ℚ) + 1 ≤ 2 ^ 53 := by exact_mod_cast hMost
  have hUnits : ((count * 2 ^ (k + 1) : Nat) : ℚ) = 2 * (count * 2 ^ k) := by
    push_cast
    ring
  have hPart : (count : ℚ) * 2 ^ k ≤ (2 ^ 53 - 1) * 2 ^ k :=
    mul_le_mul_of_nonneg_right (by linarith) (le_of_lt hStep)
  rw [hUnits] at hClose
  obtain ⟨hLow, hHigh⟩ := abs_lt.mp hClose
  rcases le_or_gt ((2 : ℚ) ^ (52 + (k + 1))) (num / den) with hAbove | hBelow
  · have hExcess : excessBits num den = k + 1 := by
      refine excessBits_eq hDen (Or.inr hAbove) ?_
      rw [pow_add, pow_succ' 2 k]
      linarith
    have hDouble : (2 : ℚ) ^ (k + 1) = 2 * 2 ^ k := pow_succ' 2 k
    refine nearestUnits_eq_of_excessBits hDen hExcess ?_
    rw [hUnits, hDouble]
    exact lt_of_lt_of_le hClose (by linarith)
  · -- Only from the power of two itself one gets below it.
    rw [show 52 + (k + 1) = 53 + k by omega] at hBelow
    have hFew : (count : ℚ) < 2 ^ 52 + 1 := by
      rw [pow_add] at hBelow
      have hScaled : (count : ℚ) * 2 ^ k < (2 ^ 52 + 1) * 2 ^ k := by linarith
      exact lt_of_mul_lt_mul_right hScaled (le_of_lt hStep)
    have hFew : count < 2 ^ 52 + 1 := by exact_mod_cast hFew
    obtain rfl : count = 2 ^ 52 := by omega
    have hEnd : (2 : ℚ) * ((2 ^ 52 : Nat) * 2 ^ k) = 2 ^ (53 + k) := by
      rw [pow_add]
      push_cast
      ring
    rw [hEnd] at hClose
    rw [show 2 ^ 52 * 2 ^ (k + 1) = 2 ^ 53 * 2 ^ k by ring]
    refine nearestUnits_eq_of_below hDen hBelow (lt_of_lt_of_le hClose (le_of_eq ?_))
    rw [pow_add]
    ring

/-- A quotient is rounded to a magnitude that it is close to. Below a power of two the magnitudes lie at
half the distance that they have above it, which is where the bound comes from. -/
theorem nearestUnits_eq_of_close {m : Magnitude}
    (hClose : |(num : ℚ) / den - m.units| < max (1 / 2) ((m.units : ℚ) / 2 ^ 54)) :
    nearestUnits num den = m.units := by
  rcases Nat.lt_or_ge m.units (2 ^ 53) with hSmall | hLarge
  · have hSmallCast : (m.units : ℚ) + 1 ≤ 2 ^ 53 := by exact_mod_cast hSmall
    have hUnit : |(num : ℚ) / den - m.units| < 1 / 2 := by
      rwa [max_eq_left (by linarith)] at hClose
    have hExcess : excessBits num den = 0 := by
      refine excessBits_eq hDen (Or.inl rfl) ?_
      have hHigh := (abs_lt.mp hUnit).2
      norm_num at hSmallCast ⊢
      linarith
    have hCount : nearestUnits num den = m.units * 2 ^ 0 :=
      nearestUnits_eq_of_excessBits hDen hExcess (by simpa using hUnit)
    rwa [Nat.pow_zero, Nat.mul_one] at hCount
  · have hLog : 53 ≤ m.units.log2 := (Nat.le_log2 (by omega)).mpr hLarge
    obtain ⟨k, hk⟩ : ∃ k, m.units.log2 = 53 + k := ⟨m.units.log2 - 53, by omega⟩
    obtain ⟨count, hCount⟩ := m.representable.2
    rw [hk, show 53 + k - 52 = k + 1 by omega, Nat.mul_comm] at hCount
    have hLeast : 2 ^ 52 ≤ count := by
      have hSelf := Nat.log2_self_le (n := m.units) (by omega)
      rw [hk, hCount, show 53 + k = 52 + (k + 1) by omega, Nat.pow_add] at hSelf
      exact Nat.le_of_mul_le_mul_right hSelf (Nat.two_pow_pos _)
    have hMost : count < 2 ^ 53 := by
      have hSelf := Nat.lt_log2_self (n := m.units)
      rw [hk, hCount, show 53 + k + 1 = 53 + (k + 1) by omega, Nat.pow_add 2 53] at hSelf
      exact Nat.lt_of_mul_lt_mul_right hSelf
    have hLargeCast : (2 : ℚ) ^ 53 ≤ m.units := by exact_mod_cast hLarge
    rw [max_eq_right (by linarith), hCount] at hClose
    rw [hCount]
    exact nearestUnits_eq_of_leading hDen hLeast hMost hClose

end Units

/-! ## Values -/

theorem Magnitude.value_nonneg (m : Magnitude) : 0 ≤ m.value :=
  div_nonneg (Nat.cast_nonneg _) (Nat.cast_nonneg _)

theorem Magnitude.value_eq_zero {m : Magnitude} (hZero : m.units = 0) : m.value = 0 := by
  rw [value, hZero, Nat.cast_zero, zero_div]

theorem Magnitude.abs_value_sub_le {m : Magnitude} {num den : Nat} (hDen : 0 < den)
    (hUnits : nearestUnits num den = m.units) :
    |m.value - (num : ℚ) / den / oneUnits| ≤
      max ((1 : ℚ) / 2 / oneUnits) ((num : ℚ) / den / oneUnits / 2 ^ 53) := by
  have hOne : (0 : ℚ) < oneUnits := Nat.cast_pos.mpr oneUnits_pos
  have hError := abs_nearestUnits_sub_le num hDen
  rw [hUnits] at hError
  rw [value, ← sub_div, abs_div, abs_of_pos hOne, div_right_comm _ (oneUnits : ℚ) (2 ^ 53),
    max_div_div_right (le_of_lt hOne)]
  exact div_le_div_of_nonneg_right hError (le_of_lt hOne)

namespace Decimal

theorem abs_value_sub_le {d : Decimal} {s : Bool} {m : Magnitude} (hRead : d.toBinary64 s = .finite s m) :
    |m.value - d.value| ≤ max ((1 : ℚ) / 2 / oneUnits) (d.value / 2 ^ 53) := by
  have hOne : (oneUnits : ℚ) ≠ 0 := Nat.cast_ne_zero.mpr (Nat.ne_of_gt oneUnits_pos)
  rw [toBinary64_eq_nearest, Binary64.nearest_eq_finite_iff] at hRead
  have hError := Magnitude.abs_value_sub_le d.denominator_pos hRead
  rwa [Nat.cast_mul, mul_div_right_comm, mul_div_cancel_right₀ _ hOne, ← value_eq_div] at hError

/-- A decimal close to a magnitude is read as that magnitude. -/
theorem toBinary64_eq_of_close {d : Decimal} {m : Magnitude}
    (hClose : |d.value - m.value| < max ((1 : ℚ) / 2 / oneUnits) (m.value / 2 ^ 54)) (s : Bool) :
    d.toBinary64 s = .finite s m := by
  have hOne : (0 : ℚ) < oneUnits := Nat.cast_pos.mpr oneUnits_pos
  rw [toBinary64_eq_nearest, Binary64.nearest_eq_finite_iff]
  refine nearestUnits_eq_of_close d.denominator_pos ?_
  rw [Nat.cast_mul, mul_div_right_comm, ← value_eq_div]
  rw [Magnitude.value, div_right_comm _ (oneUnits : ℚ) (2 ^ 54), max_div_div_right (le_of_lt hOne),
    lt_div_iff₀ hOne, ← abs_of_pos hOne, ← abs_mul, sub_mul, abs_of_pos hOne,
    div_mul_cancel₀ _ (ne_of_gt hOne)] at hClose
  exact hClose

theorem value_mono {d d' : Decimal} {s s' : Bool} {m m' : Magnitude}
    (hRead : d.toBinary64 s = .finite s m) (hRead' : d'.toBinary64 s' = .finite s' m')
    (hLess : d.value ≤ d'.value) : m.value ≤ m'.value := by
  have hOne : (0 : ℚ) ≤ oneUnits := Nat.cast_nonneg oneUnits
  rw [toBinary64_eq_nearest, Binary64.nearest_eq_finite_iff] at hRead hRead'
  have hDen : (0 : ℚ) < d.denominator := Nat.cast_pos.mpr d.denominator_pos
  have hDen' : (0 : ℚ) < d'.denominator := Nat.cast_pos.mpr d'.denominator_pos
  rw [value_eq_div, value_eq_div, div_le_div_iff₀ hDen hDen'] at hLess
  have hCross : d.numerator * d'.denominator ≤ d'.numerator * d.denominator := by exact_mod_cast hLess
  -- Both quotients are compared over the product of their denominators.
  have hUnits : m.units ≤ m'.units := by
    rw [← hRead, ← hRead', ← nearestUnits_mul_left d'.denominator_pos,
      ← nearestUnits_mul_left d.denominator_pos (d'.numerator * oneUnits),
      Nat.mul_comm d'.denominator d.denominator]
    refine nearestUnits_mono ?_ _
    rw [← Nat.mul_assoc, ← Nat.mul_assoc, Nat.mul_comm d'.denominator, Nat.mul_comm d.denominator]
    exact Nat.mul_le_mul_right oneUnits hCross
  exact div_le_div_of_nonneg_right (Nat.cast_le.mpr hUnits) hOne

end Decimal

/-! ## Finite numbers -/

namespace Binary64

theorem exists_nearest_eq_finite {s : Bool} {num den : Nat} (hFinite : (nearest s num den).isFinite = true) :
    ∃ m, nearest s num den = .finite s m := by
  unfold nearest at hFinite ⊢
  split at hFinite
  · rename_i hLess
    rw [dif_pos hLess]
    exact ⟨_, rfl⟩
  · cases hFinite

theorem exactValue_eq_value (s : Bool) (m : Magnitude) :
    (Binary64.finite s m).exactValue = if s then -m.value else m.value := by
  rw [exactValue_finite, Magnitude.value]
  cases s with
  | false => rfl
  | true => rw [signedUnits, if_pos rfl, if_pos rfl, Int.cast_neg, Int.cast_natCast, neg_div]

end Binary64

end UnitConversion
