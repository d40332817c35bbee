import UnitConversion.Proofs.Decimal.Rounding

/-!
# Rounding half to even

A number in the middle between two multiples of a power of ten goes to the even one (`RoundsHalfEven`). This
leaves no choice: greater numbers are not rounded to smaller ones, and one number not to two. Quotients are
rounded so at a decimal place, and in a number of significant digits.

* `NearestEven.le_of_le`, `RoundsHalfEven.mono`: rounding keeps the order of numbers.
* `roundsHalfEven_roundAtPlace`, `Decimal.roundsHalfEven_significant`: the roundings of quotients.
-/

namespace UnitConversion

/-- No integer is nearer to the number, and in the middle between two the integer is the even one. -/
structure NearestEven (count : Nat) (q : ℚ) : Prop where
  nearest : NearestTo count q
  even : |(count : ℚ) - q| = 1 / 2 → Even count

namespace NearestEven

variable {count count' : Nat} {q q' : ℚ}

theorem le_of_le (h : NearestEven count q) (h' : NearestEven count' q') (hLess : q ≤ q') : count ≤ count' := by
  refine Nat.le_of_not_lt fun hMore => ?_
  have hApart : (count' : ℚ) + 1 ≤ count := by exact_mod_cast hMore
  obtain ⟨-, hHigh⟩ := abs_le.mp h.nearest
  obtain ⟨hLow, -⟩ := abs_le.mp h'.nearest
  -- There is no room left: both integers are a half away from one number, and neighbours.
  have hAbove : (count : ℚ) - q = 1 / 2 := by linarith
  have hBelow : (count' : ℚ) - q' = -(1 / 2) := by linarith
  have hNext : (count : ℚ) = (count' + 1 : Nat) := by
    push_cast
    linarith
  have hEven := h.even (by rw [hAbove, abs_of_pos (by norm_num)])
  have hEven' := h'.even (by rw [hBelow, abs_neg, abs_of_pos (by norm_num)])
  rw [Nat.cast_inj.mp hNext] at hEven
  exact Nat.not_even_iff_odd.mpr hEven'.add_one hEven

theorem divHalfEven (num : Nat) {den : Nat} (hDen : 0 < den) :
    NearestEven (divHalfEven num den) ((num : ℚ) / den) := by
  refine ⟨NearestTo.divHalfEven num hDen, fun hMiddle => ?_⟩
  have hDenCast : (0 : ℚ) < den := Nat.cast_pos.mpr hDen
  have hRestNonneg : (0 : ℚ) ≤ ((num % den : Nat) : ℚ) / den := by positivity
  have hRestLess : ((num % den : Nat) : ℚ) / den < 1 := by
    rw [div_lt_one hDenCast]
    exact_mod_cast Nat.mod_lt num hDen
  have hHalf (hRest : ((num % den : Nat) : ℚ) / den = 1 / 2) : 2 * (num % den) = den := by
    rw [div_eq_div_iff (ne_of_gt hDenCast) (by norm_num), one_mul, mul_comm] at hRest
    exact_mod_cast hRest
  rw [NearestTo.quotient_eq num hDen] at hMiddle
  unfold UnitConversion.divHalfEven at hMiddle ⊢
  dsimp only at hMiddle ⊢
  split at hMiddle
  · rw [sub_add_cancel_left, abs_neg, abs_of_nonneg hRestNonneg] at hMiddle
    have hRest := hHalf hMiddle
    omega
  · split at hMiddle
    · rw [Nat.cast_add, Nat.cast_one, add_sub_add_left_eq_sub, abs_of_pos (by linarith)] at hMiddle
      have hRest := hHalf (by linarith)
      omega
    · rw [if_neg (by assumption), if_neg (by assumption), Nat.even_iff]
      omega

end NearestEven

/-- The number `v` is the nearest multiple of the power of ten to `q`, the even one if there are two. -/
def RoundsHalfEven (place : Int) (q v : ℚ) : Prop :=
  ∃ count : Nat, v = count * 10 ^ place ∧ NearestEven count (q / 10 ^ place)

namespace RoundsHalfEven

variable {place : Int} {q q' v v' : ℚ}

theorem roundsTo (h : RoundsHalfEven place q v) : RoundsTo place q v := by
  obtain ⟨count, hv, hNearest⟩ := h
  exact ⟨count, hv, hNearest.nearest⟩

theorem mono (h : RoundsHalfEven place q v) (h' : RoundsHalfEven place q' v') (hLess : q ≤ q') : v ≤ v' := by
  obtain ⟨count, rfl, hNearest⟩ := h
  obtain ⟨count', rfl, hNearest'⟩ := h'
  have hStep := le_of_lt (ten_zpow_pos place)
  have hCounts := hNearest.le_of_le hNearest' (div_le_div_of_nonneg_right hLess hStep)
  exact mul_le_mul_of_nonneg_right (Nat.cast_le.mpr hCounts) hStep

end RoundsHalfEven

theorem roundsHalfEven_roundAtPlace (num : Nat) {den : Nat} (hDen : 0 < den) (place : Int) :
    RoundsHalfEven place ((num : ℚ) / den) (roundAtPlace divHalfEven num den place * 10 ^ place) := by
  obtain ⟨num', den', hDen', hValue, hRound⟩ := exists_roundAtPlace num hDen place
  refine ⟨_, rfl, ?_⟩
  rw [hRound, ← hValue]
  exact NearestEven.divHalfEven _ hDen'

/-- Rounding a quotient to `count` digits rounds it at a place and writes exactly so many digits. -/
theorem Decimal.roundsHalfEven_significant {num den count : Nat} (hNum : 0 < num) (hDen : 0 < den)
    (hCount : 0 < count) :
    RoundsHalfEven (leadingExponent num den - count + 1) ((num : ℚ) / den) (significant num den count).value ∧
      digitCount (significant num den count).coefficient = count := by
  have hDecade := inDecade_leadingExponent hNum hDen
  have hRounds := roundsHalfEven_roundAtPlace num hDen (leadingExponent num den - count + 1)
  unfold significant
  dsimp only
  generalize leadingExponent num den = e at *
  generalize hPlace : e - count + 1 = place at *
  generalize roundAtPlace divHalfEven num den place = rounded at *
  have hStep := ten_zpow_pos place
  obtain ⟨below, rfl⟩ : ∃ below, count = below + 1 := ⟨count - 1, by omega⟩
  rw [Nat.add_sub_cancel]
  have hLow : 10 ^ below ≤ rounded := by
    have hLeast := hRounds.roundsTo.le_of_le (onGrid_ten_zpow (by omega)) hDecade.1
    rw [ten_zpow_eq_mul (show place ≤ e by omega), show (e - place).toNat = below by omega] at hLeast
    exact_mod_cast le_of_mul_le_mul_right hLeast hStep
  have hHigh : rounded ≤ 10 ^ (below + 1) := by
    have hMost := hRounds.roundsTo.le_of_ge (onGrid_ten_zpow (by omega)) (le_of_lt hDecade.2)
    rw [ten_zpow_eq_mul (show place ≤ e + 1 by omega), show (e + 1 - place).toNat = below + 1 by omega] at hMost
    exact_mod_cast le_of_mul_le_mul_right hMost hStep
  split
  · rename_i hFull
    refine ⟨?_, digitCount_eq (Nat.le_refl _) (Nat.pow_lt_pow_right (by decide) (Nat.lt_succ_self below))⟩
    have hValue : (Decimal.mk (10 ^ below) (place + 1)).value = rounded * 10 ^ place := by
      rw [value, hFull, Nat.pow_succ, ten_zpow_succ]
      push_cast
      ring
    rw [hValue]
    exact hRounds
  · rename_i hPartial
    exact ⟨hRounds, digitCount_eq hLow (Nat.lt_of_le_of_ne hHigh hPartial)⟩

end UnitConversion
