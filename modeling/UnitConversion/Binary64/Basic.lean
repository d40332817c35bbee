import UnitConversion.Power
import UnitConversion.Rounding

/-!
# Binary64 numbers

A binary64 number is a signed magnitude, a signed infinity or the one value that is not a number.
Finite magnitudes are counted in units of `2 ^ -1074`, the smallest positive magnitude, so that
every exact question about them is a question about natural numbers.

* `Representable`: which counts of units are binary64 magnitudes.
* `representable_mul_pow`: a count of at most 53 binary digits, shifted left, is one of them.
* `Binary64.units`, `Binary64.toRat?`: the exact value of a finite number.
-/

namespace UnitConversion

/-- The number of binary digits behind the point that a finite magnitude can have. -/
def fractionBits : Nat := 1074

/-- One, counted in units of `2 ^ -1074`. -/
def oneUnits : Nat := 2 ^ fractionBits

/-- The count of units from which on a magnitude overflows, `2 ^ 1024`. -/
def overflowUnits : Nat := 2 ^ (1024 + fractionBits)

theorem oneUnits_pos : 0 < oneUnits := Nat.two_pow_pos _

/-- Binary digits after the leading 53 are zero, and the magnitude is below `2 ^ 1024`. -/
def Representable (units : Nat) : Prop :=
  units < overflowUnits ∧ 2 ^ (units.log2 - 52) ∣ units

instance (units : Nat) : Decidable (Representable units) :=
  inferInstanceAs (Decidable (_ ∧ _))

theorem representable_zero : Representable 0 :=
  ⟨Nat.two_pow_pos _, ⟨0, by simp⟩⟩

/-- A count of at most 53 binary digits keeps its trailing zeros when it is shifted left. -/
theorem pow_log2_dvd_mul_pow {count shift : Nat} (hcount : count ≤ 2 ^ 53) :
    2 ^ ((count * 2 ^ shift).log2 - 52) ∣ count * 2 ^ shift := by
  rcases Nat.eq_zero_or_pos count with rfl | hpos
  · simp
  rcases Nat.lt_or_ge count (2 ^ 53) with hlt | hge
  · refine Nat.dvd_trans (Nat.pow_dvd_pow 2 ?_) (Nat.dvd_mul_left _ _)
    have hne : count * 2 ^ shift ≠ 0 :=
      Nat.ne_of_gt (Nat.mul_pos hpos (Nat.two_pow_pos _))
    have hlog : (count * 2 ^ shift).log2 < 53 + shift := by
      rw [Nat.log2_lt hne, Nat.pow_add]
      exact Nat.mul_lt_mul_of_pos_right hlt (Nat.two_pow_pos _)
    omega
  · obtain rfl : count = 2 ^ 53 := Nat.le_antisymm hcount hge
    rw [← Nat.pow_add, Nat.log2_two_pow]
    exact Nat.pow_dvd_pow 2 (by omega)

theorem representable_mul_pow {count shift : Nat} (hcount : count ≤ 2 ^ 53)
    (hlt : count * 2 ^ shift < overflowUnits) : Representable (count * 2 ^ shift) :=
  ⟨hlt, pow_log2_dvd_mul_pow hcount⟩

/-- A finite magnitude. -/
structure Magnitude where
  /-- The magnitude in units of `2 ^ -1074`. -/
  units : Nat
  representable : Representable units
deriving DecidableEq

namespace Magnitude

/-- The magnitude of zero. -/
def zero : Magnitude := ⟨0, representable_zero⟩

theorem ext_units {a b : Magnitude} (h : a.units = b.units) : a = b := by
  cases a
  cases b
  cases h
  rfl

end Magnitude

/-- A binary64 number. Zero has a sign; there is one value that is not a number. -/
inductive Binary64 where
  | nan
  | infinite (negative : Bool)
  | finite (negative : Bool) (magnitude : Magnitude)
deriving DecidableEq

namespace Binary64

/-- The zero of the given sign. -/
def zero (negative : Bool) : Binary64 := .finite negative .zero

instance : Inhabited Binary64 := ⟨zero false⟩

/-- The number is neither infinite nor the value that is not a number. -/
def isFinite : Binary64 → Bool
  | .finite _ _ => true
  | _ => false

def isNaN : Binary64 → Bool
  | .nan => true
  | _ => false

/-- The number is a zero of either sign. -/
def isZero : Binary64 → Bool
  | .finite _ m => m.units == 0
  | _ => false

def neg : Binary64 → Binary64
  | .nan => .nan
  | .infinite s => .infinite !s
  | .finite s m => .finite (!s) m

instance : Neg Binary64 := ⟨neg⟩

/-- An integer that counts units, with its sign. -/
def signedUnits (negative : Bool) (units : Nat) : Int :=
  if negative then -(units : Int) else units

/-- The exact value of a finite number. -/
def toRat? : Binary64 → Option Rat
  | .finite s m => some (mkRat (signedUnits s m.units) oneUnits)
  | _ => none

/-- The integer part, dropping the fraction toward zero; an infinite number has none. -/
def truncate? : Binary64 → Option Int
  | .finite s m => some (signedUnits s (m.units / oneUnits))
  | _ => none

/-- The greatest integer that is not above the number; an infinite number has none. -/
def floor? : Binary64 → Option Int
  | .finite s m => some (signedUnits s m.units / oneUnits)
  | _ => none

/-- A finite number without a fraction. -/
def isIntegral : Binary64 → Bool
  | .finite _ m => m.units % oneUnits == 0
  | _ => false

end Binary64

end UnitConversion
