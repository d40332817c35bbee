import Mathlib.Analysis.Complex.ExponentialBounds
import UnitConversion.Proofs.Decimal.CorrectLogarithm
import UnitConversion.Proofs.Rendering.Figures

/-!
# Figures that are lost

The place at which the shortest decimal is rounded is counted from the logarithm of the magnitude, and not from the
leading digit of the decimal. Just below a power of ten the logarithm, correctly rounded, is the exponent of that
power. Then the decimal is rounded one place early, and the text denotes another number if the figure that is lost
is not a zero (`Magnitude.RoundsEarly`).

* `Magnitude.value_rounded_eq_iff`: where no figure is lost.
* `Binary64.denotes_figures_iff`: which significant figures denote the rounded shortest decimal.
* `Magnitude.isRoundedLogarithm_belowPower`: a logarithm that is rounded to an integer from below.
-/

namespace UnitConversion

namespace Magnitude

variable {platform : Platform} {m : Magnitude} {count : Nat}

/-- The shortest decimal, rounded half up to so many figures from its own leading digit on. -/
def inFigures (m : Magnitude) (count : Nat) : Decimal :=
  m.shortest.roundHalfUp (m.shortest.leading - count + 1)

/-- The exponent behind that of the leading digit of the shortest decimal is the number nearest to the logarithm,
and the decimal is another number in one figure less. -/
def RoundsEarly (m : Magnitude) (count : Nat) : Prop :=
  m.IsRoundedLogarithm (.ofInt (m.shortest.leading + 1)) ∧
    (m.inFigures (count - 1)).value ≠ (m.inFigures count).value

theorem value_rounded_eq_iff (hNonzero : m.units ≠ 0) (hCount : 0 < count)
    (hLog : m.IsRoundedLogarithm (platform.logarithm m)) :
    (m.rounded platform count).value = (m.inFigures count).value ↔ ¬ m.RoundsEarly count := by
  have hFloors := platform.logFloor_eq hNonzero
  rcases leading_shortest hNonzero with hLeading | ⟨hLeading, hPower⟩
  · rw [RoundsEarly, hLeading, ← Platform.logFloor_eq_succ_iff hNonzero hLog]
    rcases hFloors with hFloor | hFloor
    · refine iff_of_true ?_ fun hEarly => by omega
      rw [rounded, inFigures, hLeading, hFloor]
    · have hRounded : m.rounded platform count = m.inFigures (count - 1) := by
        rw [rounded, inFigures, hLeading, hFloor]
        exact congrArg m.shortest.roundHalfUp (by omega)
      rw [hRounded, and_iff_right hFloor, not_ne_iff]
  · -- A power of ten is its own rounding at every place up to its exponent, and no logarithm is beyond that.
    have hSelf {place : Int} (hPlace : place ≤ m.leading + 1) :
        (m.shortest.roundHalfUp place).value = m.shortest.value :=
      (m.shortest.roundsTo_roundHalfUp place).eq_self (by rw [hPower]; exact onGrid_ten_zpow hPlace)
    have hBound := m.natAbs_leading_le
    have hBeyond := not_isRoundedLogarithm_ofInt hNonzero (n := m.shortest.leading + 1) (by omega) (by omega)
    refine iff_of_true ?_ fun hEarly => hBeyond hEarly.1
    rw [rounded, inFigures, hSelf (by omega), hSelf (by omega)]

/-- A magnitude of so many units does not lie below the power of ten that they come to. -/
theorem neg_le_leading_of_units {k least : Nat} (hUnits : oneUnits ≤ least * 10 ^ k) (hLeast : least ≤ m.units)
    (hNonzero : m.units ≠ 0) : -(k : Int) ≤ m.leading := by
  have hOne : (0 : ℚ) < oneUnits := Nat.cast_pos.mpr oneUnits_pos
  have hPower : (0 : ℚ) < 10 ^ k := by positivity
  refine Int.not_lt.mp fun hLess => ?_
  have hSmall := (inDecade_leading hNonzero).2
  have hStep := ten_zpow_le (show m.leading + 1 ≤ -(k : Int) by omega)
  have hValue := lt_of_lt_of_le hSmall hStep
  rw [value, zpow_neg, zpow_natCast, div_lt_iff₀ hOne, lt_inv_mul_iff₀ hPower, mul_comm] at hValue
  have hProduct : m.units * 10 ^ k < oneUnits := by exact_mod_cast hValue
  have hMore := Nat.mul_le_mul_right (10 ^ k) hLeast
  omega

end Magnitude

namespace Binary64

variable {s : Bool} {m : Magnitude} {count : Nat}

/-- **Significant figures.** On a platform that rounds the logarithm correctly, a magnitude from `2 ^ -1022` on is
written in up to fifteen significant figures as its shortest decimal in so many figures, provided that this is a
finite number, exactly when it does not round early. -/
theorem denotes_figures_iff {platform : Platform} (hLog : m.IsRoundedLogarithm (platform.logarithm m))
    (hNormal : 2 ^ 52 ≤ m.units) (hCount : 0 < count) (hFew : count ≤ 15)
    (hFinite : (m.inFigures count).value < 2 ^ 1024 - 2 ^ 970) :
    ∃ text, (finite s m).format platform { figures := some count } = .ok text ∧
      (Denotes text (signedValue s (m.inFigures count).value) ↔ ¬ m.RoundsEarly count) := by
  have hNonzero : m.units ≠ 0 := by omega
  have hUnits : oneUnits ≤ 2 ^ 52 * 10 ^ 308 := by decide +kernel
  have hLarge := Magnitude.neg_le_leading_of_units hUnits hNormal hNonzero
  have hFloor := platform.logFloor_eq hNonzero
  have hPlace : -2000054 ≤ platform.logFloor m - count + 1 := by omega
  obtain ⟨text, hText⟩ := Magnitude.significant_of_le hPlace s
  refine ⟨text, ?_, ?_⟩
  · show (if (count : Int) ≤ 0 then _ else _) = _
    rw [if_neg (by omega), Int.toNat_natCast, significant, if_neg hNonzero]
    exact hText
  · rw [← Magnitude.value_rounded_eq_iff hNonzero hCount hLog]
    rcases lt_or_ge (m.rounded platform count).value (2 ^ 1024 - 2 ^ 970) with hBelow | hBeyond
    · obtain ⟨x, hRead⟩ := (m.rounded platform count).exists_toBinary64_eq_finite hBelow s
      rw [Magnitude.significant_eq_figuresNumeral hText hRead, Numeral.denotes_signed_iff,
        Magnitude.value_figuresNumeral hNonzero hLarge hCount hFew hRead, signedValue_inj]
    · refine iff_of_false ?_ fun hSame => ?_
      · rintro ⟨t, n, hNumeral, -⟩
        exact (Magnitude.isNumeral_significant_iff hText).mp ⟨t, n, hNumeral⟩ hBeyond
      · rw [hSame] at hBeyond
        exact absurd hFinite (not_lt.mpr hBeyond)

/-- One in three significant figures denotes one. -/
theorem denotes_figures_one :
    Magnitude.one.IsRoundedLogarithm (Standard.platform.logarithm .one) ∧
      ∃ text, (finite false .one).format Standard.platform { figures := some (3 : Nat) } = .ok text ∧
        Denotes text (signedValue false (Magnitude.one.inFigures 3).value) := by
  have hNonzero : Magnitude.one.units ≠ 0 := by decide +kernel
  have hZero : Standard.platform.logarithm .one = .ofInt 0 := by decide +kernel
  have hLog : Magnitude.one.IsRoundedLogarithm (Standard.platform.logarithm .one) := by
    rw [hZero]
    refine ⟨isFinite_ofInt (by decide), fun y _ => ?_⟩
    rw [exactValue_ofInt (by decide), Magnitude.log, Magnitude.value_one, Rat.cast_one, Real.logb_one, Int.cast_zero,
      Rat.cast_zero, sub_zero, abs_zero]
    exact abs_nonneg _
  have hNormal : 2 ^ 52 ≤ Magnitude.one.units := by decide +kernel
  have hFinite : (Magnitude.one.inFigures 3).value < 2 ^ 1024 - 2 ^ 970 :=
    (Decimal.isFinite_toBinary64_iff _ false).mp (by decide +kernel)
  obtain ⟨text, hText, hDenotes⟩ := denotes_figures_iff hLog hNormal (by decide) (by decide) hFinite
  refine ⟨hLog, text, hText, hDenotes.mpr fun hEarly => ?_⟩
  have hNext : Magnitude.one.shortest.leading = Magnitude.one.leading := by decide +kernel
  rw [Magnitude.RoundsEarly, hNext, ← Platform.logFloor_eq_succ_iff hNonzero hLog] at hEarly
  exact absurd hEarly.1 (by decide +kernel)

end Binary64

/-! ## A magnitude below a power of ten -/

/-- The binary64 number nearest to `9.9999999999995e299`. -/
def Magnitude.belowPower : Magnitude :=
  ⟨6724873095246923 * 2 ^ (944 + fractionBits), representable_mul_pow (by decide) (by decide +kernel)⟩

theorem two_lt_log_ten : 2 < Real.log 10 := by
  rw [Real.lt_log_iff_exp_lt (by norm_num)]
  have hSquare : Real.exp 2 = Real.exp 1 * Real.exp 1 := by
    rw [← Real.exp_add]
    norm_num
  have hOne := Real.exp_one_lt_d9
  have hPositive := Real.exp_pos 1
  rw [hSquare]
  nlinarith

namespace Magnitude

/-- From 256 up to 300 the magnitudes are `2 ^ -44` apart. -/
theorem value_le_of_lt_threeHundred {m : Magnitude} (hLess : m.value < 300) : m.value ≤ 300 - 1 / 2 ^ 44 := by
  have hOne : (0 : ℚ) < oneUnits := Nat.cast_pos.mpr oneUnits_pos
  rcases lt_or_ge m.value 256 with hSmall | hLarge
  · linarith [show (1 : ℚ) / 2 ^ 44 ≤ 1 by norm_num]
  · have hUnits : 2 ^ (8 + fractionBits) ≤ m.units := by
      rw [value, le_div_iff₀ hOne] at hLarge
      have hScaled : ((2 ^ 8 * oneUnits : Nat) : ℚ) ≤ m.units := by
        rw [Nat.cast_mul, Nat.cast_pow, Nat.cast_ofNat]
        linarith
      rw [Nat.pow_add, ← oneUnits]
      exact Nat.cast_le.mp hScaled
    have hLog := (Nat.le_log2 (Nat.ne_of_gt (Nat.lt_of_lt_of_le (Nat.two_pow_pos _) hUnits))).mpr hUnits
    have hStep : 2 ^ (fractionBits - 44) ∣ m.units :=
      Nat.dvd_trans (Nat.pow_dvd_pow 2 (by unfold fractionBits at hLog ⊢; omega)) m.representable.2
    obtain ⟨count, hCount⟩ := hStep
    have hScale : (oneUnits : ℚ) = 2 ^ (fractionBits - 44) * 2 ^ 44 := by
      rw [oneUnits, Nat.cast_pow, Nat.cast_ofNat, ← pow_add]
      rfl
    have hValue : m.value = count / 2 ^ 44 := by
      rw [value, hCount, hScale, Nat.cast_mul, Nat.cast_pow, Nat.cast_ofNat, mul_div_mul_left _ _ (by positivity)]
    rw [hValue, div_lt_iff₀ (by norm_num)] at hLess
    have hLessNat : count < 300 * 2 ^ 44 := by exact_mod_cast hLess
    have hMost : (count : ℚ) ≤ (300 * 2 ^ 44 - 1 : Nat) := Nat.cast_le.mpr (by omega)
    rw [hValue, div_le_iff₀ (by norm_num)]
    norm_num at hMost ⊢
    linarith

theorem exactValue_le_of_lt_threeHundred {x : Binary64} (hFinite : x.isFinite = true) (hLess : x.exactValue < 300) :
    x.exactValue ≤ 300 - 1 / 2 ^ 44 := by
  obtain ⟨s, m, rfl⟩ := Binary64.isFinite_iff.mp hFinite
  rw [Binary64.exactValue_eq_value] at hLess ⊢
  split at hLess
  · rw [if_pos ‹_›]
    linarith [m.value_nonneg, show (1 : ℚ) / 2 ^ 44 ≤ 1 by norm_num]
  · rw [if_neg ‹_›]
    exact value_le_of_lt_threeHundred hLess

theorem div_value_le {m : Magnitude} {power b c : Nat} (hNonzero : m.units ≠ 0) (hb : 0 < b)
    (hUnits : power * oneUnits * b ≤ m.units * c) : (power : ℝ) / m.value ≤ c / b := by
  have hOne : (0 : ℝ) < oneUnits := Nat.cast_pos.mpr oneUnits_pos
  have hScale : (0 : ℝ) < b := Nat.cast_pos.mpr hb
  have hReal : (power : ℝ) * oneUnits * b ≤ m.units * c := by exact_mod_cast hUnits
  rw [div_le_div_iff₀ (cast_value_pos hNonzero) hScale, value, Rat.cast_div, Rat.cast_natCast, Rat.cast_natCast,
    mul_div_assoc', le_div_iff₀ hOne]
  linarith

/-- The natural logarithm of a number is at least one minus its reciprocal. -/
theorem le_naturalLog {m : Magnitude} {e b c : Nat} (hNonzero : m.units ≠ 0) (hb : 0 < b)
    (hUnits : 10 ^ e * oneUnits * b ≤ m.units * c) : e * Real.log 10 + (1 - c / b) ≤ Real.log m.value := by
  have hPower : (0 : ℝ) < (10 ^ e : Nat) := Nat.cast_pos.mpr (Nat.pow_pos (by decide))
  have hPositive := cast_value_pos hNonzero
  have hPart := Real.one_sub_inv_le_log_of_pos (div_pos hPositive hPower)
  rw [inv_div, Real.log_div (ne_of_gt hPositive) (ne_of_gt hPower), Nat.cast_pow, Nat.cast_ofNat, Real.log_pow]
    at hPart
  have hQuotient := div_value_le hNonzero hb hUnits
  rw [Nat.cast_pow, Nat.cast_ofNat] at hQuotient
  linarith

/-- The logarithm is less than half of a step below 300. -/
theorem le_log_belowPower : 300 - 1 / 2 ^ 45 ≤ belowPower.log := by
  have hNonzero : belowPower.units ≠ 0 := by decide +kernel
  have hUnits : 10 ^ 300 * oneUnits * 10 ^ 15 ≤ belowPower.units * (10 ^ 15 + 51) := by decide +kernel
  have hLeast := le_naturalLog hNonzero (by decide) hUnits
  have hTen := two_lt_log_ten
  rw [log, ← Real.log_div_log, le_div_iff₀ (by linarith)]
  norm_num at hLeast ⊢
  linarith

/-- The nearest number to the logarithm is the exponent of the next power of ten. -/
theorem isRoundedLogarithm_belowPower : belowPower.IsRoundedLogarithm (.ofInt 300) := by
  have hNonzero : belowPower.units ≠ 0 := by decide +kernel
  have hNext : belowPower.leading + 1 = 300 := by decide +kernel
  have hLeast := le_log_belowPower
  have hMost := log_lt hNonzero
  rw [hNext, Int.cast_ofNat] at hMost
  refine ⟨Binary64.isFinite_ofInt (by decide), fun y hy => ?_⟩
  rw [Binary64.exactValue_ofInt (by decide), Int.cast_ofNat, Rat.cast_ofNat, abs_of_pos (by linarith)]
  rcases lt_or_ge y.exactValue 300 with hBelow | hAbove
  · have hApart : (y.exactValue : ℝ) ≤ (300 - 1 / 2 ^ 44 : ℚ) :=
      Rat.cast_le.mpr (exactValue_le_of_lt_threeHundred hy hBelow)
    push_cast at hApart
    rw [abs_of_nonpos (by linarith [show (1 : ℝ) / 2 ^ 45 ≤ 1 / 2 ^ 44 by norm_num])]
    linarith [show (1 : ℝ) / 2 ^ 44 = 2 * (1 / 2 ^ 45) by norm_num]
  · have hReaches : ((300 : ℚ) : ℝ) ≤ y.exactValue := Rat.cast_le.mpr hAbove
    rw [Rat.cast_ofNat] at hReaches
    rw [abs_of_pos (by linarith)]
    linarith

end Magnitude

namespace Binary64

/-- This number has fourteen significant figures, and in fourteen it is written as the next power of ten, also
with the logarithm correctly rounded. -/
theorem figures_belowPower :
    Magnitude.belowPower.IsRoundedLogarithm (Standard.platform.logarithm .belowPower) ∧
      2 ^ 52 ≤ Magnitude.belowPower.units ∧ (Magnitude.belowPower.inFigures 14).value < 2 ^ 1024 - 2 ^ 970 ∧
      (finite false .belowPower).format Standard.platform { figures := some (14 : Nat) } =
        .ok "1.0000000000000e+300" ∧
      ¬ Denotes "1.0000000000000e+300" (signedValue false (Magnitude.belowPower.inFigures 14).value) := by
  have hLog : Standard.platform.logarithm .belowPower = .ofInt 300 := by decide +kernel
  refine ⟨by rw [hLog]; exact Magnitude.isRoundedLogarithm_belowPower, by decide +kernel,
    (Decimal.isFinite_toBinary64_iff _ false).mp (by decide +kernel), by decide +kernel, fun hDenotes => ?_⟩
  have hFigures : Magnitude.belowPower.inFigures 14 = ⟨99999999999995, 286⟩ := by decide +kernel
  have hText : "1.0000000000000e+300" =
      String.ofList (Layout.signed false (Numeral.ofDecimal ⟨10000000000000, 287⟩).chars) := by decide +kernel
  rw [hText, Numeral.denotes_signed_iff, Numeral.value_ofDecimal, hFigures, signedValue_inj,
    Decimal.value_eq_value_iff] at hDenotes
  exact absurd hDenotes (by decide +kernel)

end Binary64

end UnitConversion
