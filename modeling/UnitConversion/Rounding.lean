/-!
# Rounding a quotient to an integer

The two rules by which this library turns a nonnegative quotient into an integer. Both give the
integer part when the remainder is below one half and the next integer when it is above; they
differ on a remainder of exactly one half.

* `divHalfEven`: a half goes to the even neighbour.
* `divHalfUp`: a half goes up.
* `divHalfEven_le`, `le_divHalfEven`: the result is the integer part or one more.
-/

namespace UnitConversion

/-- The integer nearest to `num / den`; a half goes to the even neighbour. -/
def divHalfEven (num den : Nat) : Nat :=
  let whole := num / den
  let rest := 2 * (num % den)
  if rest < den then whole
  else if den < rest then whole + 1
  else whole + whole % 2

/-- The integer nearest to `num / den`; a half goes up. -/
def divHalfUp (num den : Nat) : Nat :=
  if 2 * (num % den) < den then num / den else num / den + 1

theorem le_divHalfEven (num den : Nat) : num / den ≤ divHalfEven num den := by
  unfold divHalfEven
  dsimp only
  split
  · exact Nat.le_refl _
  · split <;> omega

theorem divHalfEven_le (num den : Nat) : divHalfEven num den ≤ num / den + 1 := by
  unfold divHalfEven
  dsimp only
  split
  · omega
  · split <;> omega

theorem divHalfEven_mul_right {den : Nat} (hden : 0 < den) (whole : Nat) :
    divHalfEven (whole * den) den = whole := by
  simp [divHalfEven, Nat.mul_div_cancel _ hden, hden]

end UnitConversion
