import UnitConversion.Proofs.Rendering.Figures

/-!
# The decade of the number that is printed

Significant figures are printed from the number that the rounded decimal is read as, with digits that are
counted from the leading digit of the decimal. They come out right when that number lies in the decade of the
decimal, and not so close to its end that printing rounds it up to the end. It fails to in one case only: a
magnitude that falls short of the power of ten that is its shortest decimal (`Magnitude.FallsShort`).

Where the figures asked for are more than the shortest decimal has, the number is the magnitude itself. Where
they are few, the error of reading is less than half of the last of them. In between there are few decades in
which the digits are laid out by the point at all, and their ends are compared one by one.

* `Magnitude.rounded_ne_zero`: the rounded decimal is not zero.
* `Decimal.power_le_value`, `Decimal.two_mul_value_lt`: the ends of those decades.
* `Magnitude.inWindow_of_read_rounded`: the number lies in the decade of the decimal, but for one case.
-/

namespace UnitConversion

variable {platform : Platform}

/-! ## The ends of decades -/

namespace Decimal

variable {d : Decimal} {x : Magnitude} {s : Bool} {j : Int}

theorem value_le_value_iff (d : Decimal) (x : Magnitude) :
    d.value ≤ x.value ↔ d.numerator * oneUnits ≤ x.units * d.denominator := by
  have hDen : (0 : ℚ) < d.denominator := Nat.cast_pos.mpr d.denominator_pos
  have hOne : (0 : ℚ) < oneUnits := Nat.cast_pos.mpr oneUnits_pos
  rw [value_eq_div, Magnitude.value, div_le_div_iff₀ hDen hOne]
  exact_mod_cast Iff.rfl

theorem two_mul_value_lt_iff (x : Magnitude) (d : Decimal) :
    2 * x.value < d.value ↔ 2 * x.units * d.denominator < d.numerator * oneUnits := by
  have hDen : (0 : ℚ) < d.denominator := Nat.cast_pos.mpr d.denominator_pos
  have hOne : (0 : ℚ) < oneUnits := Nat.cast_pos.mpr oneUnits_pos
  rw [value_eq_div, Magnitude.value, mul_div_assoc', div_lt_div_iff₀ hOne hDen]
  exact_mod_cast Iff.rfl

/-- The count of units that the decimal is read as, unless it overflows. -/
def readUnits (d : Decimal) : Nat := nearestUnits (d.numerator * oneUnits) d.denominator

theorem toBinary64_eq_finite_iff_readUnits : d.toBinary64 s = .finite s x ↔ d.readUnits = x.units := by
  rw [toBinary64_eq_nearest, Binary64.nearest_eq_finite_iff, readUnits]

/-- A decimal below one that is read as a finite number is read as one. -/
theorem exists_toBinary64_of_le {d' : Decimal} (hRead : d'.toBinary64 s = .finite s x)
    (hLess : d.value ≤ d'.value) : ∃ y, d.toBinary64 s = .finite s y := by
  refine exists_toBinary64_eq_finite d (lt_of_le_of_lt hLess ((isFinite_toBinary64_iff d' s).mp ?_)) s
  rw [hRead]
  rfl

theorem exists_toBinary64_of_readUnits (hLess : d.readUnits < overflowUnits) (s : Bool) :
    ∃ y, d.toBinary64 s = .finite s y := by
  rw [toBinary64_eq_nearest]
  exact ⟨_, dif_pos hLess⟩

/-- Each of these powers of ten is a magnitude, or rounded up to one. -/
theorem powers_rounded_up : ∀ k < 28,
    (Decimal.mk 1 ((k : Nat) - 5 : Int)).numerator * oneUnits ≤
      (Decimal.mk 1 ((k : Nat) - 5 : Int)).readUnits * (Decimal.mk 1 ((k : Nat) - 5 : Int)).denominator := by
  decide +kernel

/-- A decimal from one of these powers of ten on is read as a number from it on. -/
theorem power_le_value (hRead : d.toBinary64 s = .finite s x) (hLow : -5 ≤ j) (hHigh : j ≤ 22)
    (hLess : 10 ^ j ≤ d.value) : 10 ^ j ≤ x.value := by
  have hPower : (Decimal.mk 1 j).value = 10 ^ j := by
    rw [value, Nat.cast_one, one_mul]
  rw [← hPower] at hLess ⊢
  obtain ⟨y, hy⟩ := exists_toBinary64_of_le hRead hLess
  refine le_trans ?_ (value_mono hy hRead hLess)
  rw [value_le_value_iff, ← toBinary64_eq_finite_iff_readUnits.mp hy]
  have hRounded := powers_rounded_up (j + 5).toNat (by omega)
  rwa [Int.toNat_of_nonneg (by omega), Int.add_sub_cancel] at hRounded

/-- Sixteen nines are not rounded so far up that they come close to the next power of ten. -/
theorem nines_not_rounded_up : ∀ k < 23, k ≠ 20 →
    (Decimal.mk (10 ^ 16 - 1) ((k : Nat) - 20 : Int)).readUnits < overflowUnits ∧
      2 * (Decimal.mk (10 ^ 16 - 1) ((k : Nat) - 20 : Int)).readUnits *
          (Decimal.mk (2 * 10 ^ 16 - 1) ((k : Nat) - 20 : Int)).denominator <
        (Decimal.mk (2 * 10 ^ 16 - 1) ((k : Nat) - 20 : Int)).numerator * oneUnits := by
  decide +kernel

/-- A decimal of up to sixteen digits is not read as a number within half a step of the next power of ten.
The sixteen digits before the point are an exception that is not needed. -/
theorem two_mul_value_lt (hRead : d.toBinary64 s = .finite s x) (hLow : -20 ≤ j) (hHigh : j ≤ 2) (hPoint : j ≠ 0)
    (hMost : d.value + 10 ^ j ≤ 10 ^ (j + 16)) : 2 * x.value + 10 ^ j < 2 * 10 ^ (j + 16) := by
  have hPower : (10 : ℚ) ^ (j + 16) = 10 ^ 16 * 10 ^ j := by
    rw [zpow_add₀ (by norm_num), mul_comm]
    rfl
  have hNines : (Decimal.mk (10 ^ 16 - 1) j).value = 10 ^ (j + 16) - 10 ^ j := by
    rw [value, hPower]
    norm_num
    ring
  have hMiddle : (Decimal.mk (2 * 10 ^ 16 - 1) j).value = 2 * 10 ^ (j + 16) - 10 ^ j := by
    rw [value, hPower]
    norm_num
    ring
  obtain ⟨hFinite, hRounded⟩ := nines_not_rounded_up (j + 20).toNat (by omega) (by omega)
  rw [Int.toNat_of_nonneg (by omega), Int.add_sub_cancel] at hFinite hRounded
  obtain ⟨y, hy⟩ := exists_toBinary64_of_readUnits hFinite s
  have hBound := value_mono hRead hy (by rw [hNines]; linarith)
  rw [toBinary64_eq_finite_iff_readUnits.mp hy] at hRounded
  have hBelow := (two_mul_value_lt_iff y _).mpr hRounded
  rw [hMiddle] at hBelow
  linarith

end Decimal

/-! ## Integers -/

namespace Magnitude

variable {m x : Magnitude} {s : Bool} {count : Nat}

/-- A magnitude from `2 ^ 52` on is an integer. -/
theorem onGrid_zero_of_le (hLarge : 2 ^ 52 ≤ m.value) : OnGrid 0 m.value := by
  have hOne : (0 : ℚ) < oneUnits := Nat.cast_pos.mpr oneUnits_pos
  have hUnits : 2 ^ (52 + fractionBits) ≤ m.units := by
    rw [value, le_div_iff₀ hOne] at hLarge
    have hScaled : ((2 ^ 52 * oneUnits : Nat) : ℚ) ≤ m.units := by
      push_cast
      exact hLarge
    rw [Nat.pow_add, ← oneUnits]
    exact Nat.cast_le.mp hScaled
  have hLog := (Nat.le_log2 (Nat.ne_of_gt (Nat.lt_of_lt_of_le (Nat.two_pow_pos _) hUnits))).mpr hUnits
  have hDivides : oneUnits ∣ m.units :=
    Nat.dvd_trans (Nat.pow_dvd_pow 2 (by omega)) m.representable.2
  obtain ⟨whole, hWhole⟩ := hDivides
  refine ⟨whole, ?_⟩
  rw [value, hWhole, Nat.cast_mul, mul_div_cancel_left₀ _ (ne_of_gt hOne), zpow_zero, mul_one]

/-! ## The rounded decimal -/

theorem rounded_ne_zero (platform : Platform) (hNonzero : m.units ≠ 0) (hCount : 0 < count) :
    (m.rounded platform count).coefficient ≠ 0 := by
  rw [Ne, Decimal.coefficient_eq_zero_iff]
  refine ne_of_gt (lt_of_lt_of_le (ten_zpow_pos m.leading) ?_)
  rcases Int.lt_or_le m.leading (platform.logFloor m - count + 1) with hCoarse | hFine
  · -- The only figure stands one place before the leading digit, and it is rounded up.
    have hFloor := platform.logFloor_eq hNonzero
    have hHalf := platform.le_value_of_logFloor hNonzero (by omega)
    have hFive : OnGrid m.leading (5 * 10 ^ m.leading) := ⟨5, by norm_num⟩
    rw [ten_zpow_succ] at hHalf
    have hShortest := le_shortest hFive (by linarith)
    rw [rounded, show platform.logFloor m - count + 1 = m.leading + 1 by omega]
    refine le_trans (ten_zpow_le (by omega)) (Decimal.le_value_roundHalfUp ?_)
    rw [ten_zpow_succ]
    linarith
  · exact (m.roundsTo_rounded platform count).le_of_le (onGrid_ten_zpow hFine) (shortest_bounds hNonzero).1

/-- With no fewer figures than the shortest decimal has, the magnitude itself is printed. -/
theorem read_rounded_of_le (hFine : platform.logFloor m - count + 1 ≤ m.shortest.exponent)
    (hRead : (m.rounded platform count).toBinary64 s = .finite s x) :
    x = m ∧ (m.rounded platform count).value = m.shortest.value := by
  have hValue : (m.rounded platform count).value = m.shortest.value := Decimal.value_roundHalfUp_of_le hFine
  rw [Decimal.toBinary64_congr hValue, shortest_toBinary64] at hRead
  exact ⟨(Binary64.finite.inj hRead).2.symm, hValue⟩

/-- The shortest decimal is a power of ten with a point behind it in so many figures, and the magnitude is
less. -/
def FallsShort (m : Magnitude) (count : Nat) : Prop :=
  m.value < 10 ^ m.shortest.leading ∧ 1 ≤ m.shortest.leading ∧ m.shortest.leading ≤ count

/-! ## The window -/

/-- The number lies in the decade and is closer to another multiple of the power of ten than to its end. -/
def InWindow (q : ℚ) (e place : Int) : Prop := 10 ^ e ≤ q ∧ 2 * q + 10 ^ place < 2 * 10 ^ (e + 1)

/-- Rounding does not take a number in the window out of its decade. -/
theorem InWindow.inDecade {q v : ℚ} {e place : Int} (hWindow : InWindow q e place) (hPlace : place ≤ e)
    (hRounds : RoundsTo place q v) : InDecade v e := by
  obtain ⟨hLow, hHigh⟩ := hWindow
  refine ⟨hRounds.le_of_le (onGrid_ten_zpow hPlace) hLow, ?_⟩
  linarith [(abs_le.mp hRounds.abs_sub_le).2]

/-- Sixteen figures before the point: the upper half of that decade has integers only. -/
theorem two_mul_value_lt_of_sixteen (hNonzero : m.units ≠ 0) (hLeading : m.leading = 15)
    (hPlace : platform.logFloor m - count + 1 = 0) (hRead : (m.rounded platform count).toBinary64 s = .finite s x) :
    2 * x.value + 1 < 2 * 10 ^ (m.leading + 1) := by
  have hDecade := inDecade_leading hNonzero
  have hTen := ten_zpow_succ m.leading
  rcases lt_or_ge m.value (5 * 10 ^ m.leading) with hLower | hUpper
  · have hRounds := m.roundsTo_rounded platform count
    rw [hPlace] at hRounds
    have hFive : OnGrid m.leading (5 * 10 ^ m.leading) := ⟨5, by norm_num⟩
    have hMost := hRounds.le_of_ge (hFive.finer (by omega)) (shortest_le hFive hLower)
    have hWithin : (m.rounded platform count).value ≤ 10 ^ (m.leading + 1) := by linarith [ten_zpow_pos m.leading]
    have hError := Decimal.abs_value_sub_lt hRead hWithin (by omega)
    have hOne := ten_zpow_le (show 0 ≤ m.leading by omega)
    have hFine := ten_zpow_le (show m.leading + 1 - 15 ≤ m.leading by omega)
    rw [zpow_zero] at hOne
    linarith [(abs_lt.mp hError).2]
  · have hLarge : (2 : ℚ) ^ 52 ≤ 5 * 10 ^ m.leading := by
      rw [hLeading]
      norm_num
    have hIntegral := onGrid_zero_of_le (le_trans hLarge hUpper)
    have hDigits := exponent_shortest_nonneg hIntegral (by omega) (by omega)
    obtain ⟨rfl, -⟩ := read_rounded_of_le (by omega) hRead
    have hApart := hIntegral.add_le (onGrid_ten_zpow (show 0 ≤ x.leading + 1 by omega)) hDecade.2
    rw [zpow_zero] at hApart
    linarith

section Window

variable (hNonzero : m.units ≠ 0) (hCount : 0 < count) (hRead : (m.rounded platform count).toBinary64 s = .finite s x)
  (hLow : -5 ≤ (m.rounded platform count).leading) (hHigh : (m.rounded platform count).leading ≤ count)

include hNonzero hCount hRead hLow hHigh

/-- Unless the magnitude falls short of its shortest decimal, it is not read as a number of a lower decade. -/
theorem power_le_of_read_rounded (hReaches : ¬ m.FallsShort count) :
    10 ^ (m.rounded platform count).leading ≤ x.value := by
  have hDecade := Decimal.inDecade_leading (rounded_ne_zero platform hNonzero hCount)
  rcases Int.lt_or_le 22 (m.rounded platform count).leading with hLarge | hSmall
  · have hFloor := platform.logFloor_eq hNonzero
    have hLeading := (rounded_bounds platform hNonzero hCount (rounded_ne_zero platform hNonzero hCount)).1
    have hDigits := sub_le_exponent_shortest hNonzero
    obtain ⟨rfl, hValue⟩ := read_rounded_of_le (by omega) hRead
    rw [hValue] at hDecade
    have hSame := Decimal.leading_eq hDecade
    refine not_lt.mp fun hLess => hReaches ⟨?_, by omega, by omega⟩
    rw [hSame]
    exact hLess
  · exact Decimal.power_le_value hRead hLow hSmall hDecade.1

/-- The error of reading and the last of the figures leave room up to the end of the decade. -/
theorem two_mul_value_lt_of_read_rounded :
    2 * x.value + 10 ^ ((m.rounded platform count).leading - count + 1) <
      2 * 10 ^ ((m.rounded platform count).leading + 1) := by
  have hRounded := rounded_ne_zero platform hNonzero hCount
  have hDecade := Decimal.inDecade_leading hRounded
  obtain ⟨hLeading, -⟩ := rounded_bounds platform hNonzero hCount hRounded
  have hFloor := platform.logFloor_eq hNonzero
  rcases hLeading with hSame | ⟨hNext, hPower⟩
  · rw [hSame] at hDecade hLow hHigh ⊢
    have hApart := (m.roundsTo_rounded platform count).onGrid.add_le (onGrid_ten_zpow (by omega)) hDecade.2
    have hStep := ten_zpow_le (show m.leading - count + 1 ≤ platform.logFloor m - count + 1 by omega)
    rcases Int.lt_or_le (platform.logFloor m - count + 1) (m.leading - 15) with hExact | hRough
    · -- The magnitude itself is printed, and its shortest decimal is not the end of the decade.
      have hDigits := sub_le_exponent_shortest hNonzero
      obtain ⟨rfl, hValue⟩ := read_rounded_of_le (by omega) hRead
      rw [hValue] at hDecade
      refine not_le.mp fun hClose => absurd hDecade.2 (not_lt.mpr (le_of_eq ?_))
      have hSeventeenth := half_seventeenth_lt hNonzero
      have hFiner := ten_zpow_le (show x.leading - count + 1 ≤ x.leading - 16 by omega)
      exact (value_shortest_of_close hNonzero (by linarith)).symm
    · rcases Int.lt_or_le (m.leading - 15) (platform.logFloor m - count + 1) with hCoarse | hMiddle
      · -- The error is less than half of the last figure.
        have hError := Decimal.abs_value_sub_lt hRead (le_of_lt hDecade.2) (by omega)
        have hCoarser := ten_zpow_le (show m.leading + 1 - 15 ≤ platform.logFloor m - count + 1 by omega)
        linarith [(abs_lt.mp hError).2]
      · have hPlace : platform.logFloor m - count + 1 = m.leading - 15 := by omega
        rw [hPlace] at hApart hStep
        rcases eq_or_ne m.leading 15 with hPoint | hOther
        · have hEnd := two_mul_value_lt_of_sixteen hNonzero hPoint (by omega) hRead
          have hOne : (10 : ℚ) ^ (m.leading - 15) = 1 := by rw [hPoint, Int.sub_self, zpow_zero]
          linarith
        · rw [show m.leading + 1 = m.leading - 15 + 16 by omega] at hApart ⊢
          have hEnd := Decimal.two_mul_value_lt hRead (by omega) (by omega) (by omega) hApart
          linarith
  · -- The decimal is the power of ten at the start of its decade.
    have hStart : (m.rounded platform count).value = 10 ^ (m.rounded platform count).leading := by rw [hPower, hNext]
    have hError := Decimal.abs_value_sub_lt hRead (le_of_eq hStart) (by omega)
    have hStep := ten_zpow_le
      (show (m.rounded platform count).leading - count + 1 ≤ (m.rounded platform count).leading by omega)
    have hFine := ten_zpow_le
      (show (m.rounded platform count).leading - 15 ≤ (m.rounded platform count).leading by omega)
    have hEnd := ten_zpow_succ (m.rounded platform count).leading
    linarith [(abs_lt.mp hError).2, ten_zpow_pos (m.rounded platform count).leading]

/-- The number lies in the decade of the decimal, and the figures asked for leave it there. -/
theorem inWindow_of_read_rounded (hReaches : ¬ m.FallsShort count) :
    InWindow x.value (m.rounded platform count).leading ((m.rounded platform count).leading - count + 1) :=
  ⟨power_le_of_read_rounded hNonzero hCount hRead hLow hHigh hReaches,
    two_mul_value_lt_of_read_rounded hNonzero hCount hRead hLow hHigh⟩

end Window

/-! ## Far from the point -/

section Outside

variable (hNonzero : m.units ≠ 0) (hCount : 0 < count) (hRead : (m.rounded platform count).toBinary64 s = .finite s x)

include hNonzero hCount hRead

theorem units_ne_zero_of_read_rounded : x.units ≠ 0 := by
  rcases Int.lt_or_le (-324) (platform.logFloor m - count + 1) with hCoarse | hFine
  · intro hZero
    have hRounded := rounded_ne_zero platform hNonzero hCount
    have hPositive := (Decimal.inDecade_leading hRounded).pos
    have hLeast := (OnGrid.zero _).add_le (m.roundsTo_rounded platform count).onGrid hPositive
    have hUnit := Decimal.unit_lt_ten_zpow (show -323 ≤ platform.logFloor m - count + 1 by omega)
    have hError := Decimal.abs_value_sub_le hRead
    rw [value_eq_zero hZero, zero_sub, abs_neg, abs_of_pos hPositive, le_max_iff,
      div_right_comm, le_div_iff₀ (by norm_num)] at hError
    rcases hError with hSmall | hPart
    · linarith
    · rw [le_div_iff₀ (by norm_num)] at hPart
      linarith
  · obtain ⟨rfl, -⟩ := read_rounded_of_le (le_trans hFine (neg_le_exponent_shortest hNonzero)) hRead
    exact hNonzero

/-- A decimal with more digits before the point than figures is read as a number with as many. -/
theorem power_le_of_lt_leading (hMany : (count : Int) < (m.rounded platform count).leading) :
    10 ^ (count : Int) ≤ x.value := by
  obtain ⟨hLow, hHigh⟩ := Decimal.inDecade_leading (rounded_ne_zero platform hNonzero hCount)
  have hError := Decimal.abs_value_sub_lt hRead (le_of_lt hHigh) (by omega)
  have hFine := ten_zpow_le
    (show (m.rounded platform count).leading + 1 - 15 ≤ (m.rounded platform count).leading by omega)
  have hBelow := ten_zpow_le (show (count : Int) ≤ (m.rounded platform count).leading - 1 by omega)
  have hTen := ten_zpow_succ ((m.rounded platform count).leading - 1)
  rw [Int.sub_add_cancel] at hTen
  linarith [(abs_lt.mp hError).1, ten_zpow_pos ((m.rounded platform count).leading - 1)]

theorem value_le_of_leading_lt {e : Int} (hSmall : (m.rounded platform count).leading < e) (hNormal : -308 ≤ e) :
    x.value ≤ 2 * 10 ^ e := by
  obtain ⟨-, hHigh⟩ := Decimal.inDecade_leading (rounded_ne_zero platform hNonzero hCount)
  have hMost := le_trans (le_of_lt hHigh) (ten_zpow_le (show (m.rounded platform count).leading + 1 ≤ e by omega))
  have hError := Decimal.abs_value_sub_lt hRead hMost hNormal
  have hFine := ten_zpow_le (show e - 15 ≤ e by omega)
  linarith [(abs_lt.mp hError).2, ten_zpow_pos e]

end Outside

end Magnitude

end UnitConversion
