import UnitConversion.Decimal.Basic

/-!
# Layouts of decimal digits

A numeral is laid out from its digits and the exponent of the first digit, either positionally or
with one digit before the point and an exponent. An exponent has a sign and at least two digits.
-/

namespace UnitConversion.Layout

/-- Zeros in front, up to `width` characters. -/
def padLeft (width : Nat) (cs : List Char) : List Char :=
  List.replicate (width - cs.length) '0' ++ cs

/-- A point and the digits, or nothing if there are none. -/
def fraction : List Char → List Char
  | [] => []
  | ds => '.' :: ds

/-- The digits in place, with the zeros that lie between them and the point. -/
def positional (ds : List Char) (leading : Int) : List Char :=
  if leading < 0 then
    '0' :: '.' :: (List.replicate (-leading - 1).toNat '0' ++ ds)
  else
    let whole := leading.toNat + 1
    ds.take whole ++ List.replicate (whole - ds.length) '0' ++ fraction (ds.drop whole)

/-- The exponent part of a numeral. -/
def exponentPart (exponent : Int) : List Char :=
  'e' :: (if exponent < 0 then '-' else '+') :: padLeft 2 (Nat.toDigits 10 exponent.natAbs)

/-- One digit before the point, the others behind it, and the exponent. -/
def scientific (ds : List Char) (leading : Int) : List Char :=
  ds.take 1 ++ fraction (ds.drop 1) ++ exponentPart leading

/-- The number `count / 10 ^ places` with exactly that many places. -/
def fixed (count places : Nat) : List Char :=
  Nat.toDigits 10 (count / 10 ^ places) ++
    if places = 0 then [] else '.' :: padLeft places (Nat.toDigits 10 (count % 10 ^ places))

/-- The sign of a numeral. -/
def signed (negative : Bool) (cs : List Char) : List Char :=
  if negative then '-' :: cs else cs

end UnitConversion.Layout
