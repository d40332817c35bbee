import Mathlib.Algebra.Order.Field.Power
import UnitConversion.Proofs.Binary64.Error

/-!
# Decades and decimal grids

A positive number lies in the decade of its leading digit (`InDecade`), which is what both computed
exponents, that of a quotient and that of a decimal, say of it. A number is rounded at a decimal place to
a nearest multiple of a power of ten (`RoundsTo`), by whatever rule; such a rounding does not cross a
multiple of the same power.

* `inDecade_leadingExponent`, `Decimal.inDecade_leading`: the exponents that are computed.
* `RoundsTo.le_of_le`, `RoundsTo.le_of_ge`, `RoundsTo.eq_of_close`: what rounding keeps.
* `exists_roundAtPlace`: rounding at a place is rounding to an integer.
* `Decimal.roundsTo_roundHalfUp`: decimals are rounded to a nearest multiple.
-/

namespace UnitConversion

/-! ## Decades -/

theorem ten_zpow_pos (e : Int) : (0 : ℚ) < 10 ^ e := zpow_pos (by norm_num) e

theorem ten_zpow_succ (e : Int) : (10 : ℚ) ^ (e + 1) = 10 * 10 ^ e := by
  rw [zpow_add₀ (by norm_num), zpow_one, mul_comm]

theorem ten_zpow_le {e e' : Int} (h : e ≤ e') : (10 : ℚ) ^ e ≤ 10 ^ e' :=
  zpow_le_zpow_right₀ (by norm_num) h

theorem ten_zpow_lt_iff {e e' : Int} : (10 : ℚ) ^ e < 10 ^ e' ↔ e < e' :=
  zpow_lt_zpow_iff_right₀ (by norm_num)

theorem ten_zpow_eq_mul {e e' : Int} (h : e ≤ e') :
    (10 : ℚ) ^ e' = (10 ^ (e' - e).toNat : Nat) * 10 ^ e := by
  rw [Nat.cast_pow, Nat.cast_ofNat, ← zpow_natCast, Int.toNat_of_nonneg (by omega),
    ← zpow_add₀ (by norm_num)]
  congr 1
  omega

theorem digitCount_eq {n k : Nat} (hLow : 10 ^ k ≤ n) (hHigh : n < 10 ^ (k + 1)) : digitCount n = k + 1 := by
  have hMost := (digitCount_le_iff (Nat.succ_pos k)).mpr hHigh
  refine Nat.le_antisymm hMost (Nat.lt_of_not_le fun hFew => ?_)
  rcases Nat.eq_zero_or_pos k with rfl | hPos
  · exact absurd hFew (Nat.not_le.mpr (digitCount_pos n))
  · exact absurd ((digitCount_le_iff hPos).mp hFew) (Nat.not_lt.mpr hLow)

/-- The powers of ten around a number, by its count of digits. -/
theorem exists_digitCount {n : Nat} (hPos : 0 < n) :
    ∃ k, digitCount n = k + 1 ∧ 10 ^ k ≤ n ∧ n < 10 ^ (k + 1) := by
  obtain ⟨k, hk⟩ := Nat.exists_eq_add_of_le' (digitCount_pos n)
  refine ⟨k, hk, ?_, (digitCount_le_iff (Nat.succ_pos k)).mp (Nat.le_of_eq hk)⟩
  rcases Nat.eq_zero_or_pos k with rfl | hMore
  · exact hPos
  · refine Nat.le_of_not_lt fun hLess => ?_
    have hFew := (digitCount_le_iff hMore).mpr hLess
    omega

/-- The leading digit of the number has this exponent. -/
def InDecade (q : ℚ) (e : Int) : Prop := 10 ^ e ≤ q ∧ q < 10 ^ (e + 1)

namespace InDecade

variable {q q' : ℚ} {e e' : Int}

theorem pos (h : InDecade q e) : 0 < q := lt_of_lt_of_le (ten_zpow_pos e) h.1

theorem le_of_le (h : InDecade q e) (h' : InDecade q' e') (hLess : q ≤ q') : e ≤ e' := by
  have hBetween : (10 : ℚ) ^ e < 10 ^ (e' + 1) := lt_of_le_of_lt h.1 (lt_of_le_of_lt hLess h'.2)
  have hExponents := ten_zpow_lt_iff.mp hBetween
  omega

theorem unique (h : InDecade q e) (h' : InDecade q e') : e = e' :=
  Int.le_antisymm (h.le_of_le h' (le_refl q)) (h'.le_of_le h (le_refl q))

end InDecade

theorem inDecade_leadingExponent {num den : Nat} (hNum : 0 < num) (hDen : 0 < den) :
    InDecade ((num : ℚ) / den) (leadingExponent num den) := by
  have hDenCast : (0 : ℚ) < den := Nat.cast_pos.mpr hDen
  unfold leadingExponent
  split
  · rename_i hLarge
    obtain ⟨k, hk, hLower, hUpper⟩ := exists_digitCount (Nat.div_pos hLarge hDen)
    rw [hk, show ((k + 1 : Nat) : Int) - 1 = k by omega]
    constructor
    · rw [zpow_natCast, le_div_iff₀ hDenCast]
      exact_mod_cast (Nat.le_div_iff_mul_le hDen).mp hLower
    · rw [show (k : Int) + 1 = (k + 1 : Nat) by omega, zpow_natCast, div_lt_iff₀ hDenCast]
      exact_mod_cast (Nat.div_lt_iff_lt_mul hDen).mp hUpper
  · rename_i hSmall
    obtain ⟨k, hk, hLower, hUpper⟩ := exists_digitCount (Nat.div_pos (show num ≤ den - 1 by omega) hNum)
    rw [hk]
    constructor
    · rw [zpow_neg, zpow_natCast, le_div_iff₀ hDenCast, inv_mul_le_iff₀ (by positivity)]
      have hProduct := (Nat.div_lt_iff_lt_mul hNum).mp hUpper
      have hProduct : den ≤ 10 ^ (k + 1) * num := by omega
      exact_mod_cast hProduct
    · rw [show -((k + 1 : Nat) : Int) + 1 = -(k : Nat) by omega, zpow_neg, zpow_natCast,
        div_lt_iff₀ hDenCast, lt_inv_mul_iff₀ (by positivity)]
      have hProduct : 10 ^ k * num < den := by
        have hProduct := (Nat.le_div_iff_mul_le hNum).mp hLower
        omega
      exact_mod_cast hProduct

theorem Decimal.inDecade_leading {d : Decimal} (hNonzero : d.coefficient ≠ 0) :
    InDecade d.value d.leading := by
  obtain ⟨k, hk, hLower, hUpper⟩ := exists_digitCount (Nat.pos_of_ne_zero hNonzero)
  have hLeading : d.leading = k + d.exponent := by
    unfold leading
    omega
  have hStep := ten_zpow_pos d.exponent
  rw [hLeading, InDecade, show (k : Int) + d.exponent + 1 = (k + 1 : Nat) + d.exponent by omega,
    zpow_add₀ (by norm_num), zpow_add₀ (by norm_num), zpow_natCast, zpow_natCast, value]
  constructor
  · exact mul_le_mul_of_nonneg_right (by exact_mod_cast hLower) (le_of_lt hStep)
  · exact mul_lt_mul_of_pos_right (by exact_mod_cast hUpper) hStep

/-! ## Decimal grids -/

/-- The number is a multiple of the power of ten. -/
def OnGrid (place : Int) (v : ℚ) : Prop := ∃ count : Nat, v = count * 10 ^ place

theorem onGrid_ten_zpow {place e : Int} (h : place ≤ e) : OnGrid place (10 ^ e) :=
  ⟨10 ^ (e - place).toNat, ten_zpow_eq_mul h⟩

theorem OnGrid.finer {place place' : Int} {v : ℚ} (h : OnGrid place v) (hFiner : place' ≤ place) :
    OnGrid place' v := by
  obtain ⟨count, rfl⟩ := h
  refine ⟨count * 10 ^ (place - place').toNat, ?_⟩
  rw [ten_zpow_eq_mul hFiner, Nat.cast_mul, mul_assoc]

/-- Different multiples are a step apart. -/
theorem OnGrid.add_le {place : Int} {v w : ℚ} (hv : OnGrid place v) (hw : OnGrid place w)
    (hLess : v < w) : v + 10 ^ place ≤ w := by
  obtain ⟨a, rfl⟩ := hv
  obtain ⟨b, rfl⟩ := hw
  have hCounts : (a : ℚ) < b := lt_of_mul_lt_mul_right hLess (le_of_lt (ten_zpow_pos place))
  have hCounts : a + 1 ≤ b := by exact_mod_cast hCounts
  have hCounts : (a : ℚ) + 1 ≤ b := by exact_mod_cast hCounts
  calc (a : ℚ) * 10 ^ place + 10 ^ place = (a + 1) * 10 ^ place := by ring
    _ ≤ b * 10 ^ place := mul_le_mul_of_nonneg_right hCounts (le_of_lt (ten_zpow_pos place))

theorem OnGrid.zero (place : Int) : OnGrid place 0 := ⟨0, by rw [Nat.cast_zero, zero_mul]⟩

theorem Decimal.onGrid (d : Decimal) : OnGrid d.exponent d.value := ⟨d.coefficient, rfl⟩

/-- The number `v` is a nearest multiple of the power of ten to `q`. -/
def RoundsTo (place : Int) (q v : ℚ) : Prop :=
  ∃ count : Nat, v = count * 10 ^ place ∧ NearestTo count (q / 10 ^ place)

namespace RoundsTo

variable {place : Int} {q v w : ℚ}

theorem onGrid (h : RoundsTo place q v) : OnGrid place v := by
  obtain ⟨count, hv, -⟩ := h
  exact ⟨count, hv⟩

theorem abs_sub_le (h : RoundsTo place q v) : |v - q| ≤ 10 ^ place / 2 := by
  obtain ⟨count, rfl, hNearest⟩ := h
  have hStep := ten_zpow_pos place
  have hScaled : (count : ℚ) * 10 ^ place - q = (count - q / 10 ^ place) * 10 ^ place := by
    rw [sub_mul, div_mul_cancel₀ _ (ne_of_gt hStep)]
  rw [hScaled, abs_mul, abs_of_pos hStep]
  calc |(count : ℚ) - q / 10 ^ place| * 10 ^ place ≤ 1 / 2 * 10 ^ place :=
        mul_le_mul_of_nonneg_right hNearest (le_of_lt hStep)
    _ = 10 ^ place / 2 := by ring

theorem le_of_le (h : RoundsTo place q v) (hw : OnGrid place w) (hLess : w ≤ q) : w ≤ v := by
  obtain ⟨count, rfl, hNearest⟩ := h
  obtain ⟨bound, rfl⟩ := hw
  have hStep := ten_zpow_pos place
  have hCounts := hNearest.le_of_le ((le_div_iff₀ hStep).mpr hLess)
  exact mul_le_mul_of_nonneg_right (by exact_mod_cast hCounts) (le_of_lt hStep)

theorem le_of_ge (h : RoundsTo place q v) (hw : OnGrid place w) (hMore : q ≤ w) : v ≤ w := by
  obtain ⟨count, rfl, hNearest⟩ := h
  obtain ⟨bound, rfl⟩ := hw
  have hStep := ten_zpow_pos place
  have hCounts := hNearest.le_of_ge ((div_le_iff₀ hStep).mpr hMore)
  exact mul_le_mul_of_nonneg_right (by exact_mod_cast hCounts) (le_of_lt hStep)

/-- A number is rounded to a multiple that is less than half a step away. -/
theorem eq_of_close (h : RoundsTo place q v) (hw : OnGrid place w) (hClose : |q - w| < 10 ^ place / 2) :
    v = w := by
  obtain ⟨count, rfl, hNearest⟩ := h
  obtain ⟨bound, rfl⟩ := hw
  have hStep := ten_zpow_pos place
  have hScaled : q - bound * 10 ^ place = (q / 10 ^ place - bound) * 10 ^ place := by
    rw [sub_mul, div_mul_cancel₀ _ (ne_of_gt hStep)]
  rw [hScaled, abs_mul, abs_of_pos hStep] at hClose
  have hHalf : |q / 10 ^ place - bound| < 1 / 2 := by
    refine lt_of_mul_lt_mul_right (lt_of_lt_of_eq hClose ?_) (le_of_lt hStep)
    ring
  rw [hNearest.eq_of_close hHalf]

theorem eq_self (h : RoundsTo place q v) (hq : OnGrid place q) : v = q := by
  refine h.eq_of_close hq ?_
  rw [sub_self, abs_zero]
  exact half_pos (ten_zpow_pos place)

end RoundsTo

/-! ## Rounding at a place -/

theorem divHalfUp_pos {num den : Nat} (hDen : 0 < den) (hHalf : den ≤ 2 * num) : 0 < divHalfUp num den := by
  unfold divHalfUp
  split
  · rename_i hRest
    refine Nat.div_pos (Nat.le_of_not_lt fun hLess => ?_) hDen
    rw [Nat.mod_eq_of_lt hLess] at hRest
    omega
  · exact Nat.succ_pos _

/-- Rounding a quotient at a place is rounding another quotient to an integer. -/
theorem exists_roundAtPlace (num : Nat) {den : Nat} (hDen : 0 < den) (place : Int) :
    ∃ num' den' : Nat, 0 < den' ∧ (num' : ℚ) / den' = num / den / 10 ^ place ∧
      ∀ round, roundAtPlace round num den place = round num' den' := by
  unfold roundAtPlace
  rcases Int.lt_or_le place 0 with hDown | hUp
  · obtain ⟨k, hk⟩ := Int.eq_ofNat_of_zero_le (show 0 ≤ -place by omega)
    have hPlace : place = -(k : Int) := by omega
    refine ⟨num * 10 ^ k, den, hDen, ?_, fun round => ?_⟩
    · rw [hPlace, zpow_neg, zpow_natCast, div_inv_eq_mul, Nat.cast_mul, Nat.cast_pow, Nat.cast_ofNat,
        mul_div_right_comm]
    · rw [if_neg (by omega), hk]
      rfl
  · obtain ⟨k, hk⟩ := Int.eq_ofNat_of_zero_le hUp
    refine ⟨num, den * 10 ^ k, Nat.mul_pos hDen (Nat.pow_pos (by decide)), ?_, fun round => ?_⟩
    · rw [hk, zpow_natCast, Nat.cast_mul, Nat.cast_pow, Nat.cast_ofNat, div_div]
    · rw [if_pos hUp, hk]
      rfl

namespace Decimal

theorem roundsTo_roundHalfUp (d : Decimal) (place : Int) :
    RoundsTo place d.value (d.roundHalfUp place).value := by
  unfold roundHalfUp
  split
  · rename_i hFine
    have hValue : d.value / 10 ^ place = (d.coefficient * 10 ^ (d.exponent - place).toNat : Nat) := by
      rw [value, ten_zpow_eq_mul hFine, ← mul_assoc, mul_div_cancel_right₀ _ (ne_of_gt (ten_zpow_pos place)),
        Nat.cast_mul]
    refine ⟨_, rfl, ?_⟩
    rw [hValue, NearestTo, sub_self, abs_zero]
    norm_num
  · rename_i hCoarse
    have hValue : d.value / 10 ^ place =
        (d.coefficient : ℚ) / (10 ^ (place - d.exponent).toNat : Nat) := by
      rw [value, ten_zpow_eq_mul (show d.exponent ≤ place by omega),
        mul_div_mul_right _ _ (ne_of_gt (ten_zpow_pos d.exponent))]
    refine ⟨_, rfl, ?_⟩
    rw [hValue]
    exact NearestTo.divHalfUp _ (Nat.pow_pos (by decide))

theorem exponent_roundHalfUp (d : Decimal) (place : Int) : (d.roundHalfUp place).exponent = place := by
  unfold roundHalfUp
  split
  · rfl
  · rfl

/-- Rounding half up does not lose half a step. -/
theorem le_value_roundHalfUp {d : Decimal} {place : Int} (hHalf : 10 ^ place ≤ 2 * d.value) :
    10 ^ place ≤ (d.roundHalfUp place).value := by
  have hStep := ten_zpow_pos place
  have hPositive : 0 < (d.roundHalfUp place).coefficient := by
    unfold roundHalfUp
    split
    · refine Nat.mul_pos (Nat.pos_of_ne_zero fun hZero => ?_) (Nat.pow_pos (by decide))
      rw [value, hZero, Nat.cast_zero, zero_mul, mul_zero] at hHalf
      exact absurd hHalf (not_le.mpr hStep)
    · rename_i hCoarse
      rw [value, ten_zpow_eq_mul (show d.exponent ≤ place by omega), ← mul_assoc] at hHalf
      have hCount := le_of_mul_le_mul_right hHalf (ten_zpow_pos d.exponent)
      exact divHalfUp_pos (Nat.pow_pos (by decide)) (by exact_mod_cast hCount)
  rw [value, exponent_roundHalfUp]
  refine le_mul_of_one_le_left (le_of_lt hStep) ?_
  exact_mod_cast hPositive

theorem value_roundHalfUp_of_le {d : Decimal} {place : Int} (hFine : place ≤ d.exponent) :
    (d.roundHalfUp place).value = d.value :=
  (d.roundsTo_roundHalfUp place).eq_self (d.onGrid.finer hFine)

theorem coefficient_eq_zero_iff {d : Decimal} : d.coefficient = 0 ↔ d.value = 0 := by
  rw [value, mul_eq_zero, Nat.cast_eq_zero, or_iff_left (ne_of_gt (ten_zpow_pos d.exponent))]

theorem leading_eq {d : Decimal} {e : Int} (h : InDecade d.value e) : d.leading = e := by
  have hNonzero : d.coefficient ≠ 0 := fun hZero => by
    have hPos := h.pos
    rw [coefficient_eq_zero_iff.mp hZero] at hPos
    exact lt_irrefl _ hPos
  exact (inDecade_leading hNonzero).unique h

end Decimal

end UnitConversion
