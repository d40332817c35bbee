import UnitConversion.Binary64.Nearest

/-!
# Binary64 arithmetic

Each operation takes the exact rational result and rounds it once, to the nearest binary64 number.
An operation that has no value gives `nan`: the difference of two infinities of one sign, the
product of an infinity and a zero.

A zero sum of two numbers is negative only when both are, and a zero product has the sign of the
product of the signs.
-/

namespace UnitConversion.Binary64

def add : Binary64 → Binary64 → Binary64
  | .nan, _ => .nan
  | _, .nan => .nan
  | .infinite s, .infinite t => if s = t then .infinite s else .nan
  | .infinite s, .finite _ _ => .infinite s
  | .finite _ _, .infinite t => .infinite t
  | .finite s a, .finite t b =>
    let sum := signedUnits s a.units + signedUnits t b.units
    if sum = 0 then zero (s && t) else nearest (decide (sum < 0)) sum.natAbs 1

def sub (x y : Binary64) : Binary64 := add x (-y)

def mul : Binary64 → Binary64 → Binary64
  | .nan, _ => .nan
  | _, .nan => .nan
  | .infinite s, .infinite t => .infinite (s ^^ t)
  | .infinite s, .finite t b => if b.units = 0 then .nan else .infinite (s ^^ t)
  | .finite s a, .infinite t => if a.units = 0 then .nan else .infinite (s ^^ t)
  | .finite s a, .finite t b => nearest (s ^^ t) (a.units * b.units) oneUnits

/-- The reciprocal. That of a zero is infinite. -/
def inv : Binary64 → Binary64
  | .nan => .nan
  | .infinite s => zero s
  | .finite s a =>
    if a.units = 0 then .infinite s else nearest s (oneUnits * oneUnits) a.units

instance : Add Binary64 := ⟨add⟩
instance : Sub Binary64 := ⟨sub⟩
instance : Mul Binary64 := ⟨mul⟩
instance : Inv Binary64 := ⟨inv⟩

end UnitConversion.Binary64
