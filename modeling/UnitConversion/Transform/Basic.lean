import UnitConversion.Binary64.Arithmetic
import UnitConversion.Rendering
import UnitConversion.Text.Basic

/-!
# Affine transforms between a minor unit and its primary unit

A transform is declared by a factor and an offset. In the usual orientation `factor * x + offset`
takes a magnitude in the minor unit to the primary unit; a swapped transform is written from the
primary side, so the two directions are exchanged. The inverse direction multiplies by the reciprocal
of the factor, which is computed once.

Everything is generic over the kind of number. Conversions are computed with binary64 numbers; the
same definitions over rational numbers give their exact reading.
-/

namespace UnitConversion

/-- Numbers that magnitudes can be measured in. -/
class Scalar (α : Type) extends Add α, Sub α, Mul α, Inv α where
  /-- The number is too close to zero for a factor: below `1e-10` in magnitude. -/
  negligible : α → Bool

/-- The binary64 number nearest to `1e-10`. -/
def epsilon : Binary64 := Decimal.toBinary64 false ⟨1, -10⟩

/-- The magnitude of a finite number is below that of another finite number. -/
def Binary64.smallerThan : Binary64 → Binary64 → Bool
  | .finite _ a, .finite _ b => decide (a.units < b.units)
  | _, _ => false

instance : Scalar Binary64 where
  negligible x := x.smallerThan epsilon

instance : Scalar Rat where
  negligible q := decide (-(1 / 10000000000) < q ∧ q < 1 / 10000000000)

/-- Why a transform cannot be had. -/
inductive TransformError (α : Type) where
  | negligibleFactor (factor : α)
  | undeclared (primary minor : Text)
deriving DecidableEq

def TransformError.message : TransformError Binary64 → Text
  | .negligibleFactor factor =>
    s!"Conversion factor {factor.shortest} is too small (must be >= {epsilon.shortest})."
  | .undeclared primary minor =>
    "No conversion declared between '" ++ primary ++ "' and '" ++ minor ++ "'."

/-- A transform between a minor unit and its primary unit. -/
structure Transform (α : Type) where
  factor : α
  offset : α
  reciprocal : α
  swapped : Bool
deriving DecidableEq

namespace Transform

variable {α : Type} [Scalar α]

/-- The transform with the given factor and offset. A negligible factor has no usable reciprocal. -/
def build (swapped : Bool) (factor offset : α) : Except (TransformError α) (Transform α) :=
  if Scalar.negligible factor then .error (.negligibleFactor factor)
  else .ok ⟨factor, offset, factor⁻¹, swapped⟩

/-- The declared formula. -/
def apply (t : Transform α) (x : α) : α := t.factor * x + t.offset

/-- The declared formula, solved for its argument. -/
def solve (t : Transform α) (x : α) : α := (x - t.offset) * t.reciprocal

/-- From the minor unit to the primary unit. -/
def forward (t : Transform α) (x : α) : α := if t.swapped then t.solve x else t.apply x

/-- From the primary unit to the minor unit. -/
def backward (t : Transform α) (x : α) : α := if t.swapped then t.apply x else t.solve x

end Transform

/-- A transform in words. -/
def Transform.summary (t : Transform Binary64) : String :=
  let kind := if t.swapped then "SwappedLinearTransform" else "LinearTransform"
  s!"{kind}(factor={t.factor.shortest}, offset={t.offset.shortest})"

end UnitConversion
