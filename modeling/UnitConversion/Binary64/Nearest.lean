import UnitConversion.Binary64.Basic

/-!
# The nearest binary64 number

A nonnegative quotient of units is rounded to the nearest representable magnitude, a tie going to
the magnitude whose last of 53 binary digits is even. A magnitude of `2 ^ 1024` or more after
rounding becomes infinite.

* `nearestUnits`: the rounded count of units.
* `nearestUnits_dvd`: it has at most 53 significant binary digits.
* `nearestUnits_of_representable`: a representable count is its own nearest count.
* `Binary64.nearest`: the binary64 number.
-/

namespace UnitConversion

/-- The binary digits of the quotient `num / den` that do not fit into the leading 53. -/
def excessBits (num den : Nat) : Nat := (num / den).log2 - 52

/-- The representable count nearest to `num / den`, as if there were no overflow. -/
def nearestUnits (num den : Nat) : Nat :=
  let step := 2 ^ excessBits num den
  divHalfEven num (den * step) * step

/-- The leading 53 binary digits of a quotient, rounded, are at most `2 ^ 53`. -/
theorem divHalfEven_excess_le (num den : Nat) :
    divHalfEven num (den * 2 ^ excessBits num den) ≤ 2 ^ 53 := by
  refine Nat.le_trans (divHalfEven_le _ _) ?_
  rw [← Nat.div_div_eq_div_mul]
  have hlt : num / den < 2 ^ (53 + excessBits num den) := by
    refine Nat.lt_of_lt_of_le Nat.lt_log2_self (Nat.pow_le_pow_right (by omega) ?_)
    unfold excessBits
    omega
  have : num / den / 2 ^ excessBits num den < 2 ^ 53 := by
    rw [Nat.div_lt_iff_lt_mul (Nat.two_pow_pos _), ← Nat.pow_add]
    exact hlt
  omega

theorem nearestUnits_dvd (num den : Nat) :
    2 ^ ((nearestUnits num den).log2 - 52) ∣ nearestUnits num den :=
  pow_log2_dvd_mul_pow (divHalfEven_excess_le num den)

/-- A representable count is its own nearest count. -/
theorem nearestUnits_of_representable {units den : Nat} (hden : 0 < den)
    (h : Representable units) : nearestUnits (units * den) den = units := by
  obtain ⟨count, hcount⟩ := h.2
  have hdiv : units * den / den = units := Nat.mul_div_cancel _ hden
  unfold nearestUnits excessBits
  rw [hdiv]
  dsimp only
  generalize 2 ^ (units.log2 - 52) = step at hcount ⊢
  subst hcount
  rcases Nat.eq_zero_or_pos step with rfl | hstep
  · simp
  · rw [show step * count * den = count * (den * step) by
      rw [Nat.mul_comm step, Nat.mul_assoc, Nat.mul_comm den],
      divHalfEven_mul_right (Nat.mul_pos hden hstep), Nat.mul_comm]

namespace Binary64

/-- The binary64 number nearest to `num / den` units, with the given sign. -/
def nearest (negative : Bool) (num den : Nat) : Binary64 :=
  if h : nearestUnits num den < overflowUnits then
    .finite negative ⟨nearestUnits num den, h, nearestUnits_dvd num den⟩
  else
    .infinite negative

theorem nearest_representable (negative : Bool) {m : Magnitude} {den : Nat} (hden : 0 < den) :
    nearest negative (m.units * den) den = .finite negative m := by
  have h := nearestUnits_of_representable hden m.representable
  have hlt : nearestUnits (m.units * den) den < overflowUnits := by
    rw [h]
    exact m.representable.1
  unfold nearest
  rw [dif_pos hlt]
  exact congrArg _ (Magnitude.ext_units h)

/-- The binary64 number nearest to an integer. -/
def ofInt (n : Int) : Binary64 := nearest (decide (n < 0)) (n.natAbs * oneUnits) 1

/-- A small integer is a number without rounding. -/
theorem exists_ofInt_eq {n : Int} (hSmall : n.natAbs ≤ 2 ^ 53) :
    ∃ h : Representable (n.natAbs * oneUnits), ofInt n = .finite (decide (n < 0)) ⟨n.natAbs * oneUnits, h⟩ := by
  have hLess : n.natAbs * oneUnits < overflowUnits :=
    Nat.lt_of_le_of_lt (Nat.mul_le_mul_right _ hSmall) (by decide +kernel)
  have hRepresentable : Representable (n.natAbs * oneUnits) := representable_mul_pow hSmall hLess
  have hOwn := nearest_representable (decide (n < 0)) (m := ⟨_, hRepresentable⟩) (show 0 < 1 by decide)
  rw [Nat.mul_one] at hOwn
  exact ⟨hRepresentable, hOwn⟩

theorem signedUnits_natAbs (n : Int) (units : Nat) :
    signedUnits (decide (n < 0)) (n.natAbs * units) = n * units := by
  unfold signedUnits
  split
  · rename_i hNegative
    have hAbs : (n.natAbs : Int) = -n := by
      have := of_decide_eq_true hNegative
      omega
    rw [Int.natCast_mul, hAbs, Int.neg_mul, Int.neg_neg]
  · rename_i hNonneg
    have hAbs : (n.natAbs : Int) = n := by
      have := mt decide_eq_true hNonneg
      omega
    rw [Int.natCast_mul, hAbs]

/-- A small integer is its own greatest integer. -/
theorem floor?_ofInt {n : Int} (hSmall : n.natAbs ≤ 2 ^ 53) : (ofInt n).floor? = some n := by
  obtain ⟨hRepresentable, hOwn⟩ := exists_ofInt_eq hSmall
  have hOne : (oneUnits : Int) ≠ 0 := Int.natCast_ne_zero.mpr (Nat.ne_of_gt oneUnits_pos)
  rw [hOwn, floor?, signedUnits_natAbs, Int.mul_ediv_cancel _ hOne]

end Binary64

end UnitConversion
