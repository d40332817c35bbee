import UnitConversion.Association
import UnitConversion.Catalog.Standard
import UnitConversion.Transform.Basic

/-!
# Declared conversions

The table of conversions holds a factor and an offset for pairs of a primary unit and a minor unit,
and beside it the pairs whose formula is written from the primary side. Pairs are compared by all
fields of their units.
-/

namespace UnitConversion

/-- A primary unit and one of its minor units. -/
abbrev UnitPair := MeasureUnit × MeasureUnit

/-- The table of declared conversions. -/
structure Declarations (α : Type) where
  /-- Factor and offset of a pair. -/
  formulas : List (UnitPair × (α × α))
  /-- Pairs with a formula that is written from the primary side. -/
  swapped : List UnitPair

namespace Declarations

variable {α : Type}

/-- Sets the declaration of a pair and its orientation. -/
def declare (d : Declarations α) (pair : UnitPair) (factor offset : α) (isSwapped : Bool) :
    Declarations α where
  formulas := Association.put d.formulas pair (factor, offset)
  swapped :=
    let others := d.swapped.filter fun p => !(p == pair)
    if isSwapped then pair :: others else others

/-- Takes the declaration of a pair out. Its orientation stays. -/
def undeclare (d : Declarations α) (pair : UnitPair) : Declarations α :=
  { d with formulas := Association.remove d.formulas pair }

/-- The number of declared pairs. -/
def size (d : Declarations α) : Nat := d.formulas.length

/-- The transform that is declared for a pair. -/
def build [Scalar α] (d : Declarations α) (pair : UnitPair) :
    Except (TransformError α) (Transform α) :=
  match d.formulas.lookup pair with
  | none => .error (.undeclared pair.1.signature pair.2.signature)
  | some (factor, offset) => Transform.build (d.swapped.contains pair) factor offset

end Declarations

namespace Standard

/-- The binary64 number nearest to `coefficient * 10 ^ exponent`. -/
def constant (coefficient : Nat) (exponent : Int) : Binary64 :=
  Decimal.toBinary64 false ⟨coefficient, exponent⟩

/-- The conversions of the built-in catalog. -/
def declarations : Declarations Binary64 where
  formulas :=
    [((gram, pound), (constant 453592 (-3), .zero false)),
      ((gram, pood), (constant 163807 (-1), .zero false)),
      ((meter, mile), (constant 160934 (-2), .zero false)),
      ((meter, verst), (constant 10668 (-1), .zero false)),
      ((celsius, fahrenheit), (constant 18 (-1), constant 32 0)),
      ((celsius, kelvin), (constant 1 0, constant 27315 (-2)))]
  swapped := [(celsius, fahrenheit), (celsius, kelvin)]

end Standard

end UnitConversion
