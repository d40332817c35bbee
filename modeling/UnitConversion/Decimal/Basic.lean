import UnitConversion.Binary64.Nearest

/-!
# Decimal magnitudes

A decimal magnitude is a coefficient and a power of ten. This module rounds quotients and decimals
to a decimal place, finds the exponent of the leading digit, and reads a decimal as the nearest
binary64 number.

* `digitCount_le_iff`: a number has at most `k` digits exactly when it is below `10 ^ k`.
* `leadingExponent_mono`: the leading digit of a greater number stands no lower.
* `Decimal.toBinary64`: the nearest binary64 number, with overflow to infinity.
-/

namespace UnitConversion

/-- The number of decimal digits; zero has one. -/
def digitCount (n : Nat) : Nat := (Nat.toDigits 10 n).length

theorem digitCount_le_iff {n k : Nat} (hk : 0 < k) : digitCount n ≤ k ↔ n < 10 ^ k :=
  Nat.length_toDigits_le_iff (by omega) hk

theorem digitCount_pos (n : Nat) : 0 < digitCount n := Nat.length_toDigits_pos

/-- The exponent of the leading decimal digit of the positive quotient `num / den`. Below one, it is
`-j` for the least `j` with `den ≤ num * 10 ^ j`. -/
def leadingExponent (num den : Nat) : Int :=
  if den ≤ num then (digitCount (num / den) : Int) - 1 else -(digitCount ((den - 1) / num) : Int)

theorem leadingExponent_mono {num num' den : Nat} (hPos : 0 < num) (hLe : num ≤ num') :
    leadingExponent num den ≤ leadingExponent num' den := by
  have hCount {a b : Nat} (hLess : a ≤ b) : digitCount a ≤ digitCount b := by
    have hOwn := (digitCount_le_iff (digitCount_pos b)).mp (Nat.le_refl _)
    exact (digitCount_le_iff (digitCount_pos b)).mpr (by omega)
  unfold leadingExponent
  by_cases hBelow : den ≤ num
  · have hCounts := hCount (Nat.div_le_div_right (c := den) hLe)
    rw [if_pos hBelow, if_pos (Nat.le_trans hBelow hLe)]
    omega
  · rw [if_neg hBelow]
    split
    · have hPositive := digitCount_pos (num' / den)
      omega
    · have hCounts := hCount (Nat.div_le_div_left (a := den - 1) hLe hPos)
      omega

theorem natAbs_leadingExponent_le {num den k : Nat} (hk : 0 < k) (hNum : num < 10 ^ k) (hDen : den ≤ 10 ^ k) :
    (leadingExponent num den).natAbs ≤ k := by
  have hCount {n : Nat} (hLess : n < 10 ^ k) : digitCount n ≤ k := (digitCount_le_iff hk).mpr hLess
  unfold leadingExponent
  split
  · have hWhole := hCount (Nat.lt_of_le_of_lt (Nat.div_le_self num den) hNum)
    omega
  · have hPower : 0 < 10 ^ k := Nat.pow_pos (by decide)
    have hParts := hCount (Nat.lt_of_le_of_lt (Nat.div_le_self (den - 1) num) (by omega))
    omega

/-- The quotient `num / den` counted in steps of `10 ^ place`, made an integer by `round`. -/
def roundAtPlace (round : Nat → Nat → Nat) (num den : Nat) (place : Int) : Nat :=
  if 0 ≤ place then round num (den * 10 ^ place.toNat)
  else round (num * 10 ^ (-place).toNat) den

/-- The magnitude `coefficient * 10 ^ exponent`. -/
structure Decimal where
  coefficient : Nat
  exponent : Int
deriving DecidableEq, Repr

namespace Decimal

/-- The exponent of the leading digit. -/
def leading (d : Decimal) : Int := d.exponent + digitCount d.coefficient - 1

/-- The multiple of `10 ^ place` nearest to the decimal; a half goes up. -/
def roundHalfUp (d : Decimal) (place : Int) : Decimal :=
  if place ≤ d.exponent then ⟨d.coefficient * 10 ^ (d.exponent - place).toNat, place⟩
  else ⟨divHalfUp d.coefficient (10 ^ (place - d.exponent).toNat), place⟩

/-- The binary64 number nearest to the decimal, with the given sign.

A positive decimal with an exponent above 310 is at least `10 ^ 310` and so infinite; one below
`10 ^ -330` is less than half of the smallest positive magnitude. These two are decided first, so
that no power of ten is larger than the coefficient's own size calls for. -/
def toBinary64 (negative : Bool) (d : Decimal) : Binary64 :=
  if d.coefficient = 0 then .zero negative
  else if 310 < d.exponent then .infinite negative
  else if d.exponent + d.coefficient.log2 + 1 < -330 then .zero negative
  else if 0 ≤ d.exponent then
    .nearest negative (d.coefficient * 10 ^ d.exponent.toNat * oneUnits) 1
  else
    .nearest negative (d.coefficient * oneUnits) (10 ^ (-d.exponent).toNat)

/-- The decimal of exactly `count` digits nearest to the positive quotient `num / den`; a half goes
to the even neighbour. Rounding up to a power of ten moves the leading digit. -/
def significant (num den count : Nat) : Decimal :=
  let place := leadingExponent num den - count + 1
  let coefficient := roundAtPlace divHalfEven num den place
  if coefficient = 10 ^ count then ⟨10 ^ (count - 1), place + 1⟩ else ⟨coefficient, place⟩

/-- The decimal without the trailing zeros of its coefficient. -/
def digits (d : Decimal) : List Char :=
  match ((Nat.toDigits 10 d.coefficient).reverse.dropWhile (· == '0')).reverse with
  | [] => ['0']
  | ds => ds

end Decimal

end UnitConversion
