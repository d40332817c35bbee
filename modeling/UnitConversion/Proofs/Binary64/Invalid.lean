import UnitConversion.Proofs.Binary64.Exact

/-!
# Invalid operations

Rounding gives a number or an infinity. So an operation on numbers is invalid only when an infinity is
added to its opposite, or multiplied by a zero.

* `add_eq_nan_iff`, `sub_eq_nan_iff`: which sums and differences are not numbers.
* `mul_eq_nan_iff_of_pos`: a factor that is neither zero nor infinite loses nothing.
* `mul_largest`: a factor above one takes the largest magnitude beyond the overflow.
-/

namespace UnitConversion

namespace Binary64

variable {x y : Binary64} {s : Bool} {b : Magnitude}

theorem nearest_ne_nan (s : Bool) (num den : Nat) : nearest s num den ≠ .nan := by
  unfold nearest
  split
  · intro h
    cases h
  · intro h
    cases h

/-! ## Sums and differences -/

theorem add_finite_ne_nan (s t : Bool) (a b : Magnitude) :
    Binary64.finite s a + Binary64.finite t b ≠ .nan := by
  show add _ _ ≠ _
  rw [add]
  split
  · intro h
    cases h
  · exact nearest_ne_nan _ _ _

/-- A sum of numbers is invalid when it is that of two opposite infinities. -/
theorem add_eq_nan_iff :
    x + y = .nan ↔ x = .nan ∨ y = .nan ∨ ∃ s, x = .infinite s ∧ y = .infinite !s := by
  cases x with
  | nan => exact iff_of_true rfl (Or.inl rfl)
  | infinite s =>
    cases y with
    | nan => exact iff_of_true rfl (Or.inr (Or.inl rfl))
    | infinite t =>
      show (if s = t then Binary64.infinite s else .nan) = .nan ↔ _
      cases s <;> cases t <;> simp
    | finite t b => exact iff_of_false (by intro h; cases h) (by simp)
  | finite s a =>
    cases y with
    | nan => exact iff_of_true rfl (Or.inr (Or.inl rfl))
    | infinite t => exact iff_of_false (by intro h; cases h) (by simp)
    | finite t b => exact iff_of_false (add_finite_ne_nan s t a b) (by simp)

theorem neg_eq_nan_iff : -x = .nan ↔ x = .nan := by
  cases x with
  | nan => exact iff_of_true rfl rfl
  | infinite s => exact iff_of_false (by intro h; cases h) (by intro h; cases h)
  | finite s a => exact iff_of_false (by intro h; cases h) (by intro h; cases h)

theorem neg_eq_infinite_iff : -x = .infinite s ↔ x = .infinite !s := by
  cases x with
  | nan => exact iff_of_false (by intro h; cases h) (by intro h; cases h)
  | infinite t =>
    show Binary64.infinite (!t) = _ ↔ _
    cases s <;> cases t <;> simp
  | finite t a => exact iff_of_false (by intro h; cases h) (by intro h; cases h)

/-- A difference of numbers is invalid when it is that of one infinity from itself. -/
theorem sub_eq_nan_iff :
    x - y = .nan ↔ x = .nan ∨ y = .nan ∨ ∃ s, x = .infinite s ∧ y = .infinite s := by
  show x + -y = .nan ↔ _
  simp only [add_eq_nan_iff, neg_eq_nan_iff, neg_eq_infinite_iff, Bool.not_not]

/-! ## Products -/

theorem infinite_mul_of_pos (hPos : 0 < b.units) (s t : Bool) :
    Binary64.infinite s * Binary64.finite t b = .infinite (s ^^ t) := by
  show mul _ _ = _
  rw [mul, if_neg (Nat.ne_of_gt hPos)]

theorem mul_zero_eq_nan_iff (t : Bool) : x * zero t = .nan ↔ x.isFinite = false := by
  cases x with
  | nan => exact iff_of_true rfl rfl
  | infinite s => exact iff_of_true rfl rfl
  | finite s a =>
    refine iff_of_false ?_ (by simp [isFinite])
    rw [zero, mul_finite]
    exact nearest_ne_nan _ _ _

/-- A factor that is neither zero nor infinite makes no number invalid. -/
theorem mul_eq_nan_iff_of_pos (hPos : 0 < b.units) (t : Bool) :
    x * Binary64.finite t b = .nan ↔ x = .nan := by
  cases x with
  | nan => exact iff_of_true rfl rfl
  | infinite s =>
    rw [infinite_mul_of_pos hPos]
    exact iff_of_false (by intro h; cases h) (by intro h; cases h)
  | finite s a =>
    rw [mul_finite]
    exact iff_of_false (nearest_ne_nan _ _ _) (by intro h; cases h)

/-! ## Products that overflow -/

/-- The distance between one and the next magnitude, in units. -/
def oneStep : Nat := 2 ^ (fractionBits - 52)

theorem oneUnits_eq : oneUnits = 2 ^ 52 * oneStep := by
  unfold oneUnits oneStep
  rw [← Nat.pow_add]
  congr 1

/-- A magnitude above one exceeds it by a step. -/
theorem next_after_one {a : Magnitude} (hOne : oneUnits < a.units) :
    (2 ^ 52 + 1) * oneStep ≤ a.units := by
  have hNonzero : a.units ≠ 0 := Nat.ne_of_gt (Nat.lt_trans oneUnits_pos hOne)
  have hLog : fractionBits ≤ a.units.log2 := (Nat.le_log2 hNonzero).mpr (Nat.le_of_lt hOne)
  have hDivides : oneStep ∣ a.units :=
    Nat.dvd_trans (Nat.pow_dvd_pow 2 (Nat.sub_le_sub_right hLog 52)) a.representable.2
  obtain ⟨count, hCount⟩ := hDivides
  rw [Nat.mul_comm] at hCount
  rw [oneUnits_eq, hCount] at hOne
  rw [hCount]
  exact Nat.mul_le_mul_right _ (Nat.lt_of_mul_lt_mul_right hOne)

/-- A factor above one takes the largest magnitude beyond the overflow. -/
theorem mul_largest {a : Magnitude} (hOne : oneUnits < a.units) (s t : Bool) :
    Binary64.finite s a * Binary64.finite t .largest = .infinite (s ^^ t) := by
  rw [mul_finite]
  refine nearest_eq_infinite oneUnits_pos ?_
  calc overflowMiddle * oneUnits = ((2 ^ 54 - 1) * 2 ^ 52) * (lastHalfStep * oneStep) := by
        rw [overflowMiddle, oneUnits_eq, Nat.mul_mul_mul_comm]
    _ ≤ ((2 ^ 52 + 1) * (2 ^ 54 - 2)) * (lastHalfStep * oneStep) :=
        Nat.mul_le_mul_right _ (by decide)
    _ = ((2 ^ 52 + 1) * oneStep) * ((2 ^ 54 - 2) * lastHalfStep) := by
        rw [Nat.mul_comm lastHalfStep, Nat.mul_mul_mul_comm]
    _ ≤ a.units * Magnitude.largest.units := by
        rw [Magnitude.units_largest]
        exact Nat.mul_le_mul_right _ (next_after_one hOne)

end Binary64

end UnitConversion
