import UnitConversion.Proofs.Decimal.Logarithm
import UnitConversion.Proofs.Rendering.Numerals

/-!
# The number that significant figures denote

A magnitude is written in significant figures in three steps: its shortest decimal is rounded half up, the
rounded decimal is read as a binary64 number, and that number is written with the digits asked for. Up to
fifteen digits the last two steps give the rounded decimal back.

* `Numeral.denotes_signed_iff`: the number that a numeral with its sign denotes.
* `Magnitude.rounded_bounds`: the decade and the grid of the rounded decimal.
* `Decimal.value_fixedNumeral`, `Decimal.value_scientificNumeral`: up to fifteen digits a decimal is given back.
* `Magnitude.value_figuresNumeral`: the text of a magnitude denotes the rounded decimal.
-/

namespace UnitConversion

variable {platform : Platform}

/-! ## Numbers that texts denote -/

def signedValue (negative : Bool) (q : ℚ) : ℚ := if negative then -q else q

/-- The text is a numeral for the number. -/
def Denotes (text : String) (q : ℚ) : Prop :=
  ∃ (s : Bool) (n : Numeral), text = String.ofList (Layout.signed s n.chars) ∧
    signedValue s n.decimal.value = q

theorem signedValue_inj {s : Bool} {q q' : ℚ} : signedValue s q = signedValue s q' ↔ q = q' := by
  cases s with
  | false => exact Iff.rfl
  | true => exact neg_inj

namespace Numeral

variable {n n' : Numeral} {s s' : Bool}

theorem signed_chars_inj (hChars : Layout.signed s n.chars = Layout.signed s' n'.chars) :
    s = s' ∧ n.chars = n'.chars := by
  obtain ⟨c, rest, hHead, hDigit⟩ := n.exists_digit_head
  obtain ⟨c', rest', hHead', hDigit'⟩ := n'.exists_digit_head
  have hSplit := congrArg splitSign hChars
  rw [Binary64.splitSign_signed s hHead hDigit, Binary64.splitSign_signed s' hHead' hDigit'] at hSplit
  exact Prod.mk.inj hSplit

theorem decimal_congr (hChars : n.chars = n'.chars) : n.decimal = n'.decimal := by
  have hRead := n.ofText?_chars
  rw [hChars, n'.ofText?_chars] at hRead
  exact (Option.some.inj hRead).symm

/-- A numeral with its sign denotes one number only. -/
theorem denotes_signed_iff {q : ℚ} :
    Denotes (String.ofList (Layout.signed s n.chars)) q ↔ signedValue s n.decimal.value = q := by
  constructor
  · rintro ⟨s', n', hText, rfl⟩
    obtain ⟨rfl, hChars⟩ := signed_chars_inj (String.ofList_injective hText)
    rw [decimal_congr hChars]
  · intro hValue
    exact ⟨s, n, rfl, hValue⟩

theorem length_fraction_fixed (count places : Nat) : (fixed count places).fraction.length = places := by
  unfold fixed
  dsimp only
  split
  · rename_i hNone
    rw [hNone]
    rfl
  · rename_i hSome
    have hRest : count % 10 ^ places < 10 ^ places := Nat.mod_lt _ (Nat.pow_pos (by decide))
    have hDigits : (Nat.toDigits 10 (count % 10 ^ places)).length ≤ places :=
      (digitCount_le_iff (by omega)).mpr hRest
    rw [Layout.padLeft, List.length_append, List.length_replicate]
    omega

theorem ofDigits_fixed (count places : Nat) : (fixed count places).decimal = ⟨count, -(places : Int)⟩ := by
  have hFraction : Nat.ofDigitChars 10 (fixed count places).fraction 0 = count % 10 ^ places := by
    unfold fixed
    dsimp only
    split
    · rename_i hNone
      rw [hNone, Nat.pow_zero, Nat.mod_one]
      rfl
    · rw [Layout.padLeft, ofDigitChars_zeros_append, Nat.ofDigitChars_ten_toDigits]
  have hWhole : Nat.ofDigitChars 10 (fixed count places).whole 0 = count / 10 ^ places :=
    Nat.ofDigitChars_ten_toDigits
  have hExponent : (fixed count places).exponent = none := rfl
  rw [decimal, Decimal.ofDigits, Nat.ofDigitChars_append, hWhole, Nat.ofDigitChars_eq_ofDigitChars_zero,
    hFraction, length_fraction_fixed, Nat.div_add_mod, hExponent, Option.getD_none, Int.zero_sub]

/-- All the digits of a decimal, the first of them before the point. -/
def ofDecimal (d : Decimal) : Numeral :=
  .scientific (Nat.toDigits 10 d.coefficient) d.leading Nat.toDigits_ne_nil fun _ => isDigit_toDigits

theorem value_ofDecimal (d : Decimal) : (ofDecimal d).decimal.value = d.value := by
  have hExponent : d.leading - (Nat.toDigits 10 d.coefficient).length + 1 = d.exponent := by
    unfold Decimal.leading digitCount
    omega
  rw [ofDecimal, value_scientific, Nat.ofDigitChars_ten_toDigits, hExponent, Decimal.value]

end Numeral

/-! ## The numerals of rounded numbers -/

namespace Magnitude

variable {m : Magnitude}

/-- The numeral of the magnitude rounded to `places` digits behind the point. -/
def fixedNumeral (platform : Platform) (m : Magnitude) (places : Nat) : Numeral :=
  .fixed (m.fixedCount platform places) places

theorem chars_fixedNumeral (platform : Platform) (m : Magnitude) (places : Nat) :
    (m.fixedNumeral platform places).chars = m.fixedText platform places := Numeral.chars_fixed _ _

/-- The leading digit of a magnitude takes up less than 700 of the digits that can be counted. -/
theorem not_overflowsPlaces {places : Nat} (hFits : places + 701 ≤ platform.digitsLimit) :
    ¬ m.OverflowsPlaces platform places := by
  rintro ⟨-, -, hOverflow⟩
  have hLeading := m.natAbs_leadingExponent_le
  omega

theorem not_overflowsPlaces_of_units (hZero : m.units = 0) (places : Nat) :
    ¬ m.OverflowsPlaces platform places :=
  fun hOverflow => hOverflow.1 hZero

theorem decimal_fixedNumeral {places : Nat} (hCounted : ¬ m.OverflowsPlaces platform places) :
    (m.fixedNumeral platform places).decimal = m.near (-(places : Int)) := by
  have hPlace : roundAtPlace divHalfEven m.units oneUnits (-(places : Int)) =
      divHalfEven (m.units * 10 ^ places) oneUnits := by
    unfold roundAtPlace
    rcases Nat.eq_zero_or_pos places with rfl | hPos
    · simp
    · rw [if_neg (by omega), Int.neg_neg, Int.toNat_natCast]
  rw [fixedNumeral, fixedCount, if_neg hCounted, Numeral.ofDigits_fixed, near, hPlace]

theorem roundsTo_fixedNumeral {places : Nat} (hCounted : ¬ m.OverflowsPlaces platform places) :
    RoundsTo (-(places : Int)) m.value (m.fixedNumeral platform places).decimal.value := by
  rw [decimal_fixedNumeral hCounted]
  exact m.roundsTo_near _

/-- The numeral of the magnitude rounded to `places` digits behind its first digit. -/
def scientificNumeral (m : Magnitude) (places : Nat) : Numeral :=
  if m.units = 0 then
    .scientific (List.replicate (places + 1) '0') 0 (by simp) fun _ => isDigit_replicate
  else
    .ofDecimal (.significant m.units oneUnits (places + 1))

theorem chars_scientificNumeral (m : Magnitude) (places : Nat) :
    (m.scientificNumeral places).chars = m.scientificText places := by
  unfold scientificNumeral scientificText
  split
  · exact Numeral.chars_scientific _ _ _ _
  · exact Numeral.chars_scientific _ _ _ _

theorem value_scientificNumeral (hNonzero : m.units ≠ 0) (places : Nat) :
    (m.scientificNumeral places).decimal.value = (Decimal.significant m.units oneUnits (places + 1)).value := by
  rw [scientificNumeral, if_neg hNonzero]
  exact Numeral.value_ofDecimal _

theorem roundsTo_scientificNumeral {count : Nat} (hNonzero : m.units ≠ 0) (hCount : 0 < count) :
    RoundsTo (m.leading - count + 1) m.value (m.scientificNumeral (count - 1)).decimal.value := by
  rw [value_scientificNumeral hNonzero, Nat.sub_add_cancel hCount]
  exact (Decimal.roundsHalfEven_significant (Nat.pos_of_ne_zero hNonzero) oneUnits_pos hCount).1.roundsTo

theorem value_scientificNumeral_zero (hZero : m.units = 0) (places : Nat) :
    (m.scientificNumeral places).decimal.value = 0 := by
  unfold scientificNumeral
  rw [if_pos hZero, Numeral.value_scientific, Nat.ofDigitChars_replicate_zero, Nat.mul_zero, Nat.cast_zero,
    zero_mul]

/-! ## The rounded decimal -/

/-- The decimal that significant figures are made of. -/
def rounded (platform : Platform) (m : Magnitude) (count : Nat) : Decimal :=
  m.shortest.roundHalfUp (platform.logFloor m - count + 1)

theorem roundsTo_rounded (platform : Platform) (m : Magnitude) (count : Nat) :
    RoundsTo (platform.logFloor m - count + 1) m.shortest.value (m.rounded platform count).value :=
  m.shortest.roundsTo_roundHalfUp _

/-- The rounded decimal has the leading digit of the magnitude, unless it is the next power of ten, and it
has no more figures than asked for. -/
theorem rounded_bounds (platform : Platform) {count : Nat} (hNonzero : m.units ≠ 0) (hCount : 0 < count)
    (hRounded : (m.rounded platform count).coefficient ≠ 0) :
    ((m.rounded platform count).leading = m.leading ∨
        (m.rounded platform count).leading = m.leading + 1 ∧ (m.rounded platform count).value = 10 ^ (m.leading + 1)) ∧
      OnGrid ((m.rounded platform count).leading - count + 1) (m.rounded platform count).value := by
  obtain ⟨hLow, hHigh⟩ := shortest_bounds hNonzero
  have hRounds := m.roundsTo_rounded platform count
  have hFloor := platform.logFloor_eq hNonzero
  have hMost := hRounds.le_of_ge (onGrid_ten_zpow (by omega)) hHigh
  have hPower (hEq : (m.rounded platform count).value = 10 ^ (m.leading + 1)) :
      (m.rounded platform count).leading = m.leading + 1 :=
    Decimal.leading_eq ⟨le_of_eq hEq.symm, by rw [hEq]; exact ten_zpow_lt_iff.mpr (by omega)⟩
  rcases lt_or_eq_of_le hMost with hLess | hEq
  · rcases Int.lt_or_le m.leading (platform.logFloor m - count + 1) with hCoarse | hFine
    · -- On the grid of the next power of ten there is nothing below it but zero.
      have hPos : 0 < (m.rounded platform count).value := (Decimal.inDecade_leading hRounded).pos
      obtain ⟨c, hc⟩ := hRounds.onGrid
      rw [show platform.logFloor m - count + 1 = m.leading + 1 by omega] at hc
      have hApart := (OnGrid.zero (m.leading + 1)).add_le ⟨c, hc⟩ hPos
      linarith
    · have hLeast := hRounds.le_of_le (onGrid_ten_zpow hFine) hLow
      have hLeading := Decimal.leading_eq ⟨hLeast, hLess⟩
      refine ⟨Or.inl hLeading, hRounds.onGrid.finer ?_⟩
      omega
  · refine ⟨Or.inr ⟨hPower hEq, hEq⟩, ?_⟩
    rw [hEq, hPower hEq]
    exact onGrid_ten_zpow (by omega)

end Magnitude

/-! ## Decimals that are given back -/

namespace Decimal

variable {d : Decimal} {x : Magnitude} {s : Bool} {count : Nat}

theorem exists_toBinary64_eq_finite (d : Decimal) (hSmall : d.value < 2 ^ 1024 - 2 ^ 970) (s : Bool) :
    ∃ x, d.toBinary64 s = .finite s x := by
  have hFinite := (d.isFinite_toBinary64_iff s).mpr hSmall
  rw [toBinary64_eq_nearest] at hFinite ⊢
  exact Binary64.exists_nearest_eq_finite hFinite

/-- The unit is smaller than `10 ^ -323`. -/
theorem unit_lt_ten_zpow {e : Int} (hLarge : -323 ≤ e) : (1 : ℚ) / oneUnits < 10 ^ e := by
  have hUnits : 10 ^ 323 < oneUnits := by decide +kernel
  generalize hPlaces : 323 = k at hUnits
  have hPower : (0 : ℚ) < 10 ^ k := by positivity
  have hUnitsCast : (10 : ℚ) ^ k < oneUnits := by exact_mod_cast hUnits
  refine lt_of_lt_of_le ?_ (ten_zpow_le (show -(k : Int) ≤ e by omega))
  rw [zpow_neg, zpow_natCast, one_div]
  exact inv_strictAnti₀ hPower hUnitsCast

/-- Reading changes a decimal by less than half of what the sixteenth digit counts. -/
theorem abs_value_sub_lt {e : Int} (hRead : d.toBinary64 s = .finite s x) (hMost : d.value ≤ 10 ^ e)
    (hLarge : -308 ≤ e) : |x.value - d.value| < 10 ^ (e - 15) / 2 := by
  have hOne : (0 : ℚ) < oneUnits := Nat.cast_pos.mpr oneUnits_pos
  have hStep := ten_zpow_pos (e - 15)
  refine lt_of_le_of_lt (abs_value_sub_le hRead) (max_lt ?_ ?_)
  · have hUnit := unit_lt_ten_zpow (show -323 ≤ e - 15 by omega)
    rw [div_right_comm]
    linarith
  · rw [ten_zpow_eq_mul (show e - 15 ≤ e by omega), show (e - (e - 15)).toNat = 15 by omega] at hMost
    have hPart : ((10 ^ 15 : Nat) : ℚ) * 10 ^ (e - 15) < 2 ^ 52 * 10 ^ (e - 15) :=
      mul_lt_mul_of_pos_right (by norm_num) hStep
    rw [div_lt_div_iff₀ (by norm_num) (by norm_num)]
    linarith

section Printed

variable (hRead : d.toBinary64 s = .finite s x) (hNonzero : d.coefficient ≠ 0) (hLarge : -308 ≤ d.leading)
  (hCount : 0 < count) (hFew : count ≤ 15) (hGrid : OnGrid (d.leading - count + 1) d.value)

include hRead hNonzero hLarge hFew

theorem abs_value_sub_lt_of_le : |x.value - d.value| < 10 ^ (d.leading - count + 1) / 2 := by
  have hError := abs_value_sub_lt hRead (le_of_lt (inDecade_leading hNonzero).2) (by omega)
  have hStep := ten_zpow_le (show d.leading + 1 - 15 ≤ d.leading - count + 1 by omega)
  linarith

include hGrid

/-- In fixed form the number gives the decimal back. -/
theorem value_fixedNumeral {places : Nat} (hPlaces : (places : Int) = count - 1 - d.leading) :
    (x.fixedNumeral platform places).decimal.value = d.value := by
  have hLimit := platform.digitsLimit_ge
  have hCounted : ¬ x.OverflowsPlaces platform places := Magnitude.not_overflowsPlaces (by omega)
  have hRounds := Magnitude.roundsTo_fixedNumeral hCounted
  rw [show -(places : Int) = d.leading - count + 1 by omega] at hRounds
  exact hRounds.eq_of_close hGrid (abs_value_sub_lt_of_le hRead hNonzero hLarge hFew)

include hCount

/-- In scientific form the number gives the decimal back. It can lie just below a power of ten that the
decimal is; there the figures are finer, and the error is less as well. -/
theorem value_scientificNumeral : (x.scientificNumeral (count - 1)).decimal.value = d.value := by
  obtain ⟨hLow, hHigh⟩ := inDecade_leading hNonzero
  have hError : |x.value - d.value| < 10 ^ (d.leading - count + 1) / 2 :=
    abs_value_sub_lt_of_le hRead hNonzero hLarge hFew
  have hStep := ten_zpow_le (show d.leading - count + 1 ≤ d.leading by omega)
  have hTen := ten_zpow_succ (d.leading - 1)
  rw [show d.leading - 1 + 1 = d.leading by omega] at hTen
  obtain ⟨hBelow, hAbove⟩ := abs_lt.mp hError
  have hPositive : x.units ≠ 0 := by
    intro hZero
    have hValue := Magnitude.value_eq_zero hZero
    linarith [ten_zpow_pos (d.leading - 1)]
  have hDecade := Magnitude.inDecade_leading hPositive
  have hRounds := Magnitude.roundsTo_scientificNumeral hPositive hCount
  have hUnder : x.value < 10 ^ (d.leading + 1) := by
    have hApart := OnGrid.add_le hGrid (onGrid_ten_zpow (by omega)) hHigh
    linarith
  rcases le_or_gt (10 ^ d.leading) x.value with hInside | hOutside
  · rw [hDecade.unique ⟨hInside, hUnder⟩] at hRounds
    exact hRounds.eq_of_close hGrid hError
  · have hPower : d.value = 10 ^ d.leading := by
      refine le_antisymm (not_lt.mp fun hMore => ?_) hLow
      have hApart := OnGrid.add_le (onGrid_ten_zpow (by omega)) hGrid hMore
      linarith
    have hBefore : x.leading = d.leading - 1 := by
      refine hDecade.unique ⟨by linarith [ten_zpow_pos (d.leading - 1)], ?_⟩
      rwa [show d.leading - 1 + 1 = d.leading by omega]
    have hFiner := abs_value_sub_lt hRead (le_of_eq hPower) hLarge
    have hFinerStep := ten_zpow_le (show d.leading - 15 ≤ d.leading - 1 - count + 1 by omega)
    rw [hBefore] at hRounds
    refine hRounds.eq_of_close ?_ (by linarith)
    rw [hPower]
    exact onGrid_ten_zpow (by omega)

end Printed

end Decimal

/-! ## Significant figures -/

namespace Magnitude

variable {m x : Magnitude} {s : Bool} {count : Nat} {text : String}

/-- The form that the rounded decimal asks for, of the number that it is read as. -/
def figuresNumeral (platform : Platform) (m : Magnitude) (count : Nat) (x : Magnitude) : Numeral :=
  if -4 ≤ (m.rounded platform count).leading ∧ (m.rounded platform count).leading < count then
    x.fixedNumeral platform (count - 1 - (m.rounded platform count).leading).toNat
  else x.scientificNumeral (count - 1)

theorem significant_eq_figuresNumeral (hText : m.significant platform s count = .ok text)
    (hRead : (m.rounded platform count).toBinary64 s = .finite s x) :
    text = String.ofList (Layout.signed s (m.figuresNumeral platform count x).chars) := by
  unfold significant at hText
  dsimp only at hText
  rw [← rounded, hRead] at hText
  unfold figuresNumeral
  split at hText
  · cases hText
  · split at hText
    · rename_i hFixed
      rw [if_pos hFixed, chars_fixedNumeral]
      exact (Except.ok.inj hText).symm
    · rename_i hScientific
      rw [if_neg hScientific, chars_scientificNumeral]
      exact (Except.ok.inj hText).symm

/-- A rounded decimal that is zero is written as a zero. -/
theorem value_figuresNumeral_zero (hZero : (m.rounded platform count).coefficient = 0)
    (hRead : (m.rounded platform count).toBinary64 s = .finite s x) :
    (m.figuresNumeral platform count x).decimal.value = 0 := by
  rw [Decimal.toBinary64, if_pos hZero] at hRead
  obtain rfl : Magnitude.zero = x := (Binary64.finite.inj hRead).2
  unfold figuresNumeral
  split
  · have hValue : zero.value = 0 := value_eq_zero rfl
    have hCounted (places : Nat) : ¬ zero.OverflowsPlaces platform places := not_overflowsPlaces_of_units rfl places
    have hRounds := roundsTo_fixedNumeral (hCounted (count - 1 - (m.rounded platform count).leading).toNat)
    rw [hValue] at hRounds
    rw [hRounds.eq_self (OnGrid.zero _)]
  · exact value_scientificNumeral_zero rfl _

/-- Up to fifteen figures, the text of a magnitude from `2 ^ -1022` on denotes the rounded decimal. -/
theorem value_figuresNumeral (hNonzero : m.units ≠ 0) (hLarge : -308 ≤ m.leading) (hCount : 0 < count)
    (hFew : count ≤ 15) (hRead : (m.rounded platform count).toBinary64 s = .finite s x) :
    (m.figuresNumeral platform count x).decimal.value = (m.rounded platform count).value := by
  by_cases hZero : (m.rounded platform count).coefficient = 0
  · rw [value_figuresNumeral_zero hZero hRead, Decimal.coefficient_eq_zero_iff.mp hZero]
  · obtain ⟨hLeading, hGrid⟩ := rounded_bounds platform hNonzero hCount hZero
    have hLarge' : -308 ≤ (m.rounded platform count).leading := by omega
    unfold figuresNumeral
    split
    · exact Decimal.value_fixedNumeral hRead hZero hLarge' hFew hGrid (by omega)
    · exact Decimal.value_scientificNumeral hRead hZero hLarge' hCount hFew hGrid

end Magnitude

end UnitConversion
