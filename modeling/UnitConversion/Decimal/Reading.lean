import UnitConversion.Decimal.Basic

/-!
# Reading numerals

A numeral is an optional sign and either a word for infinity or for the value that is not a number,
or decimal digits with an optional point and an optional exponent. There are digits on at least one
side of the point. Only the digits `0` to `9` count.

* `Decimal.ofText?`: an unsigned decimal, the whole text.
* `Binary64.ofText?`: the nearest binary64 number to a numeral.
-/

namespace UnitConversion

/-- The digits at the start of a text, and what follows them. -/
def spanDigits (cs : List Char) : List Char × List Char := (cs.takeWhile Char.isDigit, cs.dropWhile Char.isDigit)

/-- A sign at the start of a text: whether it is negative, and what follows. -/
def splitSign : List Char → Bool × List Char
  | '-' :: cs => (true, cs)
  | '+' :: cs => (false, cs)
  | cs => (false, cs)

/-- The decimal with the digits `whole` before the point and `frac` behind it, times a power of
ten. -/
def Decimal.ofDigits (whole frac : List Char) (exponent : Int) : Decimal :=
  ⟨Nat.ofDigitChars 10 (whole ++ frac) 0, exponent - frac.length⟩

/-- The exponent that a text consists of: none, or `e`, a sign and digits. -/
def exponentOf? : List Char → Option Int
  | [] => some 0
  | c :: cs =>
    let (negative, digits) := splitSign cs
    if (c == 'e' || c == 'E') && !digits.isEmpty && digits.all Char.isDigit then
      let size := Nat.ofDigitChars 10 digits 0
      some (if negative then -(size : Int) else size)
    else none

/-- The unsigned decimal that a text consists of. -/
def Decimal.ofText? (cs : List Char) : Option Decimal :=
  let (whole, afterWhole) := spanDigits cs
  let (frac, rest) := match afterWhole with
    | '.' :: afterPoint => spanDigits afterPoint
    | _ => ([], afterWhole)
  if whole.isEmpty && frac.isEmpty then none
  else (exponentOf? rest).map (Decimal.ofDigits whole frac)

/-- The binary64 number that a text denotes. -/
def Binary64.ofText? (cs : List Char) : Option Binary64 :=
  let (negative, body) := splitSign cs
  match String.ofList (body.map Char.toLower) with
  | "inf" | "infinity" => some (.infinite negative)
  | "nan" => some .nan
  | _ => (Decimal.ofText? body).map (Decimal.toBinary64 negative)

end UnitConversion
