import UnitConversion.Proofs.Rendering.LaidOut
import UnitConversion.Proofs.Rendering.Places

/-!
# The general form

Without a precision a finite number is written in fifteen significant digits, rounded half to even, with no zeros
at the end of the fraction. The exponent of the leading digit decides after rounding whether the point is in place
or an exponent is written. Fifteen digits are few enough for the binary64 numbers from `2 ^ -1022` on: a decimal of
so many digits comes back from the number that it is read as.

* `Numeral.isGeneral_general`: the layout by the leading exponent.
* `Magnitude.exists_isGeneral`: what is written of a magnitude.
* `Magnitude.value_generalNumeral_of_read`: decimals that come back.
* `Binary64.format_general`: the form of a number, and the decimals that survive it.
-/

namespace UnitConversion

variable {platform : Platform}

/-! ## The layout -/

theorem Decimal.getLast?_digits {d : Decimal} (hNonzero : d.coefficient ≠ 0) : d.digits.getLast? ≠ some '0' := by
  intro hLast
  have hHead := d.head?_digits hNonzero
  unfold digits at hLast hHead
  split at hLast
  · rename_i hEmpty
    rw [hEmpty] at hHead
    exact hHead rfl
  · have hKept := List.head?_dropWhile_not (· == '0') (Nat.toDigits 10 d.coefficient).reverse
    rw [List.getLast?_reverse] at hLast
    simp [hLast] at hKept

namespace Numeral

/-- There are no superfluous zeros, neither in front nor at the end of the fraction, and an exponent is written
exactly if `e` lies outside of the range from -4 up to the limit. -/
structure IsGeneral (n : Numeral) (limit e : Int) : Prop where
  trim : n.IsTrim
  bare : n.fraction.getLast? ≠ some '0'
  point : n.exponent = none ↔ -4 ≤ e ∧ e < limit
  scientific : ¬ (-4 ≤ e ∧ e < limit) → n.IsScientific e

section Digits

variable {ds : List Char} (leading : Int) (hNonempty : ds ≠ []) (hDigits : ∀ c ∈ ds, c.isDigit = true)
  (hLast : ds.getLast? ≠ some '0')

include hLast

theorem getLast?_drop_ne (k : Nat) : (ds.drop k).getLast? ≠ some '0' := by
  rw [List.getLast?_drop]
  split
  · simp
  · exact hLast

theorem getLast?_fraction_positional :
    (positional ds leading hNonempty hDigits).fraction.getLast? ≠ some '0' := by
  unfold positional
  split
  · dsimp only
    rw [List.getLast?_append_of_ne_nil _ hNonempty]
    exact hLast
  · exact getLast?_drop_ne hLast _

end Digits

theorem exponent_positional {ds : List Char} (leading : Int) (hNonempty : ds ≠ [])
    (hDigits : ∀ c ∈ ds, c.isDigit = true) : (positional ds leading hNonempty hDigits).exponent = none := by
  unfold positional
  split
  · rfl
  · rfl

theorem isGeneral_general {d : Decimal} (hNonzero : d.coefficient ≠ 0) (limit : Int) :
    (general d limit).IsGeneral limit d.leading := by
  have hTrim := isTrim_general hNonzero limit
  have hLast := Decimal.getLast?_digits hNonzero
  unfold general at hTrim ⊢
  split
  · rename_i hPoint
    rw [if_pos hPoint] at hTrim
    exact ⟨hTrim, getLast?_fraction_positional _ _ _ hLast, iff_of_true (exponent_positional _ _ _) hPoint,
      fun hOutside => absurd hPoint hOutside⟩
  · rename_i hOutside
    rw [if_neg hOutside] at hTrim
    exact ⟨hTrim, getLast?_drop_ne hLast 1, iff_of_false (Option.some_ne_none _) hOutside,
      fun _ => isScientific_scientific _ _ _⟩

end Numeral

/-! ## Fifteen digits -/

/-- The number `v` is `q` in so many significant digits, a half going to the even neighbour. The digits are counted
from the leading digit of `q`; the leading exponent of `v` is `e`. Zero has the leading exponent zero. -/
inductive RoundsToFigures (count : Nat) : ℚ → ℚ → Int → Prop
  | zero : RoundsToFigures count 0 0 0
  | leading {q v : ℚ} {e e' : Int} (hDecade : InDecade q e) (hRounds : RoundsHalfEven (e - count + 1) q v)
      (hRounded : InDecade v e') : RoundsToFigures count q v e'

namespace Magnitude

variable {m x : Magnitude} {s : Bool}

theorem value_generalNumeral (hNonzero : m.units ≠ 0) :
    m.generalNumeral.decimal.value = (Decimal.significant m.units oneUnits 15).value := by
  rw [generalNumeral, if_neg hNonzero, Numeral.value_general]

theorem exists_isGeneral (m : Magnitude) :
    ∃ e, RoundsToFigures 15 m.value m.generalNumeral.decimal.value e ∧ m.generalNumeral.IsGeneral 15 e := by
  by_cases hZero : m.units = 0
  · obtain rfl : m = .zero := ext_units hZero
    refine ⟨0, ?_, fun _ => rfl, by decide, by decide, fun hOutside => absurd (by decide) hOutside⟩
    have hValue : zero.generalNumeral.decimal.value = 0 := Decimal.coefficient_eq_zero_iff.mp rfl
    rw [value_eq_zero rfl, hValue]
    exact .zero
  · obtain ⟨hRounds, hCount⟩ := Decimal.roundsHalfEven_significant (Nat.pos_of_ne_zero hZero) oneUnits_pos
      (show 0 < 15 by decide)
    have hCoefficient : (Decimal.significant m.units oneUnits 15).coefficient ≠ 0 := by
      intro hNone
      rw [hNone] at hCount
      exact absurd hCount (by decide)
    refine ⟨(Decimal.significant m.units oneUnits 15).leading, ?_, ?_⟩
    · rw [value_generalNumeral hZero]
      exact .leading (inDecade_leading hZero) hRounds (Decimal.inDecade_leading hCoefficient)
    · rw [generalNumeral, if_neg hZero]
      exact Numeral.isGeneral_general hCoefficient 15

/-! ## Decimals that come back -/

section Read

variable {d : Decimal} (hRead : d.toBinary64 s = .finite s x) (hNormal : 2 ^ 52 ≤ x.units)

include hRead hNormal

/-- A decimal below `10 ^ -308` is not read as a number from `2 ^ -1022` on. -/
theorem le_leading_of_read (hNonzero : d.coefficient ≠ 0) : -308 ≤ d.leading := by
  refine Int.not_lt.mp fun hLess => ?_
  have hPower : (Decimal.mk 1 (-308)).value = 10 ^ (-308 : Int) := by rw [Decimal.value, Nat.cast_one, one_mul]
  have hBelow : d.value ≤ (Decimal.mk 1 (-308)).value := by
    rw [hPower]
    exact le_trans (le_of_lt (Decimal.inDecade_leading hNonzero).2) (ten_zpow_le (by omega))
  have hSmall : (Decimal.mk 1 (-308)).readUnits < 2 ^ 52 := by decide +kernel
  have hFinite : 2 ^ 52 < overflowUnits := by decide +kernel
  obtain ⟨y, hy⟩ := Decimal.exists_toBinary64_of_readUnits (Nat.lt_trans hSmall hFinite) s
  have hMost := Decimal.value_mono hRead hy hBelow
  rw [Decimal.toBinary64_eq_finite_iff_readUnits.mp hy] at hSmall
  rw [value, value, div_le_div_iff_of_pos_right (Nat.cast_pos.mpr oneUnits_pos)] at hMost
  have hUnits : x.units ≤ y.units := Nat.cast_le.mp hMost
  omega

/-- A decimal of at most fifteen digits comes back from the number that it is read as. -/
theorem value_generalNumeral_of_read (hFew : d.coefficient < 10 ^ 15) :
    x.generalNumeral.decimal.value = d.value := by
  have hNonzero : x.units ≠ 0 := by omega
  have hCoefficient : d.coefficient ≠ 0 := by
    intro hZero
    rw [Decimal.toBinary64, if_pos hZero] at hRead
    obtain rfl : zero = x := (Binary64.finite.inj hRead).2
    exact hNonzero rfl
  have hDigits : digitCount d.coefficient ≤ 15 := (digitCount_le_iff (by decide)).mpr hFew
  have hGrid : OnGrid (d.leading - (15 : Nat) + 1) d.value := d.onGrid.finer (by unfold Decimal.leading; omega)
  have hBack := Decimal.value_scientificNumeral hRead hCoefficient (le_leading_of_read hRead hNormal hCoefficient)
    (by decide) (Nat.le_refl 15) hGrid
  rw [value_generalNumeral hNonzero, ← hBack, value_scientificNumeral hNonzero]

end Read

theorem two_pow_le_value_iff : 1 / 2 ^ 1022 ≤ m.value ↔ 2 ^ 52 ≤ m.units := by
  have hBits : fractionBits = 1022 + 52 := rfl
  have hOne : (oneUnits : ℚ) = 2 ^ 1022 * 2 ^ 52 := by
    rw [oneUnits, Nat.cast_pow, Nat.cast_ofNat, hBits, pow_add]
  have hPower : (0 : ℚ) < 2 ^ 1022 := by positivity
  rw [value, le_div_iff₀ (Nat.cast_pos.mpr oneUnits_pos), hOne, one_div, inv_mul_cancel_left₀ (ne_of_gt hPower)]
  exact_mod_cast Iff.rfl

end Magnitude

theorem Decimal.value_nonneg (d : Decimal) : 0 ≤ d.value :=
  mul_nonneg (Nat.cast_nonneg _) (le_of_lt (ten_zpow_pos _))

theorem abs_signedValue (s : Bool) {q : ℚ} (hNonneg : 0 ≤ q) : |signedValue s q| = q := by
  cases s with
  | false => exact abs_of_nonneg hNonneg
  | true => exact (abs_neg q).trans (abs_of_nonneg hNonneg)

theorem Denotes.unique {text : String} {q q' : ℚ} (h : Denotes text q) (h' : Denotes text q') : q = q' := by
  obtain ⟨s, n, rfl, rfl⟩ := h
  exact Numeral.denotes_signed_iff.mp h'

namespace Binary64

/-- The text is a numeral for `q`, a number of at most fifteen significant digits, and it is read as `x`, which is
finite and lies from `2 ^ -1022` on. -/
structure ReadsNormal (text : String) (q : ℚ) (x : Binary64) : Prop where
  denotes : Denotes text q
  few : ∃ (s : Bool) (d : Decimal), d.coefficient < 10 ^ 15 ∧ q = signedValue s d.value
  reads : ofText? text.toList = some x
  finite : x.isFinite = true
  normal : 1 / 2 ^ 1022 ≤ |x.exactValue|

/-- What is read so is written as the same number. -/
theorem ReadsNormal.prints {text : String} {q : ℚ} {x : Binary64} (h : ReadsNormal text q x) :
    x.Prints platform {} q := by
  obtain ⟨⟨s, n, rfl, rfl⟩, ⟨t, d, hFew, hDecimal⟩, hReads, hFinite, hNormal⟩ := h
  have hValue : n.decimal.value = d.value := by
    rw [← abs_signedValue s n.decimal.value_nonneg, hDecimal, abs_signedValue t d.value_nonneg]
  rw [String.toList_ofList, ofText?_signed, Decimal.toBinary64_congr hValue] at hReads
  obtain rfl := Option.some.inj hReads
  obtain ⟨m, hRead⟩ := d.exists_toBinary64_eq_finite ((d.isFinite_toBinary64_iff s).mp hFinite) s
  rw [hRead, abs_exactValue_finite, ← Magnitude.value, Magnitude.two_pow_le_value_iff] at hNormal
  rw [hRead]
  refine ⟨String.ofList (Layout.signed s m.generalNumeral.chars), ?_, ?_⟩
  · rw [m.chars_generalNumeral]
    rfl
  · rw [Numeral.denotes_signed_iff, Magnitude.value_generalNumeral_of_read hRead hNormal hFew, hValue]

/-- **The general form.** Without a precision a finite number is written in fifteen significant digits, rounded half
to even, in the layout that their leading exponent asks for. A numeral of at most fifteen significant digits that is
read as a normal number is written as the same number, so that different ones are written differently. -/
theorem format_general :
    (∀ (s : Bool) (m : Magnitude), ∃ (n : Numeral) (e : Int),
      (Binary64.finite s m).format platform {} = .ok (String.ofList (Layout.signed s n.chars)) ∧
        RoundsToFigures 15 m.value n.decimal.value e ∧ n.IsGeneral 15 e) ∧
      (∀ (text : String) (q : ℚ) (x : Binary64), ReadsNormal text q x → x.Prints platform {} q) ∧
      ∀ (text text' written written' : String) (q q' : ℚ) (x x' : Binary64),
        ReadsNormal text q x → ReadsNormal text' q' x' → x.format platform {} = .ok written →
        x'.format platform {} = .ok written' → q ≠ q' → written ≠ written' := by
  refine ⟨?_, fun text q x => ReadsNormal.prints, ?_⟩
  · intro s m
    obtain ⟨e, hRounds, hGeneral⟩ := m.exists_isGeneral
    refine ⟨m.generalNumeral, e, ?_, hRounds, hGeneral⟩
    rw [m.chars_generalNumeral]
    rfl
  · rintro text text' written written' q q' x x' h h' hWritten hWritten' hOther rfl
    obtain ⟨out, hOut, hDenotes⟩ := h.prints
    obtain ⟨out', hOut', hDenotes'⟩ := h'.prints
    rw [hWritten] at hOut
    rw [hWritten'] at hOut'
    obtain rfl := Except.ok.inj hOut
    obtain rfl := Except.ok.inj hOut'
    exact hOther (hDenotes.unique hDenotes')

/-- The binary64 number nearest to a tenth. -/
def tenth : Magnitude :=
  ⟨3602879701896397 * 2 ^ (fractionBits - 55), representable_mul_pow (by decide) (by decide +kernel)⟩

theorem readsNormal_tenth : ReadsNormal "0.1" (1 / 10) (.finite false tenth) where
  denotes := ⟨false, .fixed 1 1, by decide +kernel, by
    rw [Numeral.ofDigits_fixed, signedValue, Decimal.value]
    norm_num⟩
  few := ⟨false, ⟨1, -1⟩, by decide, by
    rw [signedValue, Decimal.value]
    norm_num⟩
  reads := by decide +kernel
  finite := rfl
  normal := by
    rw [abs_exactValue_finite, ← Magnitude.value, Magnitude.two_pow_le_value_iff]
    decide +kernel

/-- A tenth is written as it was read. -/
theorem format_general_tenth :
    ReadsNormal "0.1" (1 / 10) (.finite false tenth) ∧
      (Binary64.finite false tenth).Prints Standard.platform {} (1 / 10) :=
  ⟨readsNormal_tenth, format_general.2.1 _ _ _ readsNormal_tenth⟩

end Binary64

end UnitConversion
