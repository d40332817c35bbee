import UnitConversion.Binary64.Arithmetic
import UnitConversion.Decimal.Basic

/-!
# A rounded logarithm

The decimal logarithm of a magnitude is computed with binary64 numbers. The magnitude is a power of
two times a mantissa, which lies between one and two, or between a half and one for a power below
one. The logarithm of two has a short upper part, whose multiples by exponents are exact, and a lower
part; the natural logarithm of the mantissa is rounded once. Sum and products are rounded as they are
formed.

The result can reach an integer that the exact logarithm stays below.

* `naturalLog`: the natural logarithm near one.
* `Magnitude.logarithm`: the rounded decimal logarithm.
-/

namespace UnitConversion

/-! ## The natural logarithm near one -/

/-- The number of binary digits behind the point in the sum of a series. -/
def seriesBits : Nat := 160

/-- The terms `power / (2 * k + 1)` of a series with the given next power, of which each is `square`
times the one before. All of them are counted in units of `2 ^ -seriesBits`. -/
def oddSeries (square : Int) : (terms k : Nat) → (power : Int) → Int
  | 0, _, _ => 0
  | terms + 1, k, power =>
    power / (2 * k + 1) + oddSeries square terms (k + 1) (power * square / 2 ^ seriesBits)

/-- The natural logarithm of `num / den`, in units of `2 ^ -seriesBits`: twice the inverse hyperbolic
tangent of `(num - den) / (num + den)`. Between a half and two, every term is at most a ninth of the
one before. -/
def naturalLog (num den : Nat) : Int :=
  let ratio := ((num : Int) - den) * 2 ^ seriesBits / (num + den)
  2 * oddSeries (ratio * ratio / 2 ^ seriesBits) 60 0 ratio

/-! ## The decimal logarithm -/

namespace Binary64

/-- The binary64 number nearest to `count / 2 ^ bits`. -/
def ofScaled (count : Int) (bits : Nat) : Binary64 :=
  nearest (decide (count < 0)) (count.natAbs * oneUnits) (2 ^ bits)

/-- The decimal logarithm of Euler's number. -/
def logE : Binary64 := ofScaled 0x1BCB7B1526E50E 54

/-- The upper part of the decimal logarithm of two. -/
def logTwoUpper : Binary64 := ofScaled 0x134413509F6000 54

/-- The lower part of the decimal logarithm of two. -/
def logTwoLower : Binary64 := ofScaled 0x19FEF311F12B36 94

end Binary64

namespace Magnitude

/-- The decimal logarithm of a positive magnitude, as binary64 numbers give it. -/
def logarithm (m : Magnitude) : Binary64 :=
  let exponent : Int := m.units.log2 - fractionBits
  let up := if exponent < 0 then 1 else 0
  let mantissa := Binary64.ofScaled (naturalLog m.units (2 ^ (m.units.log2 + up))) seriesBits
  let power := Binary64.ofInt (exponent + up)
  power * Binary64.logTwoLower + Binary64.logE * mantissa + power * Binary64.logTwoUpper

end Magnitude

end UnitConversion
