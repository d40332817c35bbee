import UnitConversion.Decimal.Shortest
import UnitConversion.Decimal.Layout
import UnitConversion.Platform
import UnitConversion.Text.Integer

/-!
# Rendering numbers as text

The ways to write a binary64 number. The sign is that of the number, also for zero. Fixed, scientific
and general form write the exact decimal expansion, rounded half to even. In fixed form this is so only as long
as the platform counts the digits; with more of them all digits are zeros.

* `fixed`: a given number of places behind the point.
* `scientific`: a given number of places behind the first digit, and an exponent.
* `general`: fifteen significant digits without trailing zeros.
* `shortest`: the fewest digits that read back, always with a point or an exponent.
* `significant`: a given number of significant figures of the shortest decimal, rounded half up.
* `format`: the form that a request for precision asks for, or why it cannot be had.
-/

namespace UnitConversion

open Layout

namespace Magnitude

/-- The digits of the magnitude up to the last of so many places are more than are counted. A whole number
of at most fifteen digits is written without counting them. -/
def OverflowsPlaces (platform : Platform) (m : Magnitude) (places : Nat) : Prop :=
  m.units ≠ 0 ∧ ¬ (oneUnits ∣ m.units ∧ m.units < 10 ^ 15 * oneUnits) ∧
    platform.digitsLimit < places + leadingExponent m.units oneUnits + 1

instance (platform : Platform) (m : Magnitude) (places : Nat) : Decidable (m.OverflowsPlaces platform places) :=
  inferInstanceAs (Decidable (_ ∧ _))

/-- The multiples of the last of so many places in the rounded magnitude. Where the digits are not counted there
are none. -/
def fixedCount (platform : Platform) (m : Magnitude) (places : Nat) : Nat :=
  if m.OverflowsPlaces platform places then 0 else divHalfEven (m.units * 10 ^ places) oneUnits

/-- The magnitude rounded to `places` digits behind the point. -/
def fixedText (platform : Platform) (places : Nat) (m : Magnitude) : List Char :=
  fixed (m.fixedCount platform places) places

/-- The magnitude rounded to `places` digits behind its first digit. -/
def scientificText (places : Nat) (m : Magnitude) : List Char :=
  if m.units = 0 then scientific (List.replicate (places + 1) '0') 0
  else
    let d := Decimal.significant m.units oneUnits (places + 1)
    scientific (Nat.toDigits 10 d.coefficient) d.leading

/-- Digits without trailing zeros, positional for a leading exponent from -4 up to `limit`. -/
def generalLayout (d : Decimal) (limit : Int) : List Char :=
  if -4 ≤ d.leading ∧ d.leading < limit then positional d.digits d.leading
  else scientific d.digits d.leading

/-- The magnitude rounded to fifteen significant digits. -/
def generalText (m : Magnitude) : List Char :=
  if m.units = 0 then ['0'] else generalLayout (.significant m.units oneUnits 15) 15

/-- The shortest decimal that reads back. -/
def shortestText (m : Magnitude) : List Char :=
  if m.units = 0 then ['0', '.', '0']
  else
    let text := generalLayout m.shortest 16
    if text.all Char.isDigit then text ++ ['.', '0'] else text

end Magnitude

namespace Binary64

/-- The text of a number, given the text of finite magnitudes. -/
def renderWith (render : Magnitude → List Char) : Binary64 → String
  | .nan => "nan"
  | .infinite s => String.ofList (signed s ['i', 'n', 'f'])
  | .finite s m => String.ofList (signed s (render m))

def fixed (platform : Platform) (places : Nat) : Binary64 → String := renderWith (·.fixedText platform places)

def scientific (places : Nat) : Binary64 → String := renderWith (·.scientificText places)

def general : Binary64 → String := renderWith (·.generalText)

def shortest : Binary64 → String := renderWith (·.shortestText)

end Binary64

/-- The significant figures asked for put the last digit below the range of decimal exponents. -/
def figuresOutOfRange (last : Int) : Bool := decide (last < -2000054)

/-- Why a number cannot be written. The first two are mistakes of the caller that are checked for, the
others are limits. -/
inductive FormatError where
  | negativeDecimals
  | nonPositiveFigures
  | decimalsUnwritable
  | decimalsUnreadable
  | decimalsTooMany
  | figuresOutOfRange
  | zerosUncountable
  | outOfMemory
deriving DecidableEq, Repr

namespace FormatError

def message : FormatError → String
  | .negativeDecimals => "Decimal precision must be non-negative."
  | .nonPositiveFigures => "Significant figures must be positive."
  | .decimalsUnwritable => Text.unwritableMessage
  | .decimalsUnreadable => "Too many decimal digits in format string"
  | .decimalsTooMany => "precision too big"
  | .figuresOutOfRange => "[<class 'decimal.InvalidOperation'>]"
  | .zerosUncountable => "cannot fit 'int' into an index-sized integer"
  | .outOfMemory => ""

/-- The precision is one that no caller may ask for. -/
def isBadInput : FormatError → Bool
  | .negativeDecimals | .nonPositiveFigures => true
  | _ => false

end FormatError

/-- A positive magnitude in `count` significant figures: its shortest decimal is rounded half up at
the place that the rounded logarithm gives, the result is taken as a binary64 number, and that
number is written with the digits that the leading exponent of the decimal leaves room for. -/
def Magnitude.significant (platform : Platform) (negative : Bool) (m : Magnitude) (count : Nat) :
    Except FormatError String :=
  let place := platform.logFloor m - count + 1
  if figuresOutOfRange place then .error .figuresOutOfRange
  else
    let rounded := m.shortest.roundHalfUp place
    let value := rounded.toBinary64 negative
    -- A carry moves the leading digit, so that its place is not that of the logarithm.
    let leading := rounded.leading
    if -4 ≤ leading ∧ leading < count then .ok (value.fixed platform (count - 1 - leading).toNat)
    else .ok (value.scientific (count - 1))

/-- Zero in `count` significant figures. It is written without a sign. -/
def zeroFigures (platform : Platform) (count : Nat) : Except FormatError String :=
  if 2 ^ 63 < count then .error .zerosUncountable
  else if platform.zerosLimit < count then .error .outOfMemory
  else .ok (String.ofList (Layout.fixed 0 (count - 1)))

/-- A number in `count` significant figures. -/
def Binary64.significant (platform : Platform) (x : Binary64) (count : Nat) : Except FormatError String :=
  match x with
  | .finite s m => if m.units = 0 then zeroFigures platform count else m.significant platform s count
  | _ => .ok (x.renderWith fun _ => [])

/-- How a result is to be written. Decimals win over significant figures. -/
structure Precision where
  decimals : Option Int := none
  figures : Option Int := none
deriving DecidableEq, Repr

/-- The number in the precision asked for; without one, in general form. -/
def Binary64.format (platform : Platform) (x : Binary64) (precision : Precision) : Except FormatError String :=
  match precision.decimals, precision.figures with
  | some places, _ =>
    if places < 0 then .error .negativeDecimals
    else if !Text.isWritable places then .error .decimalsUnwritable
    else if 2 ^ 63 ≤ places then .error .decimalsUnreadable
    else if 2 ^ 31 ≤ places then .error .decimalsTooMany
    else .ok (x.fixed platform places.toNat)
  | none, some count =>
    if count ≤ 0 then .error .nonPositiveFigures else x.significant platform count.toNat
  | none, none => .ok x.general

end UnitConversion
