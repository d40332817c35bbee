import UnitConversion.Binary64.Arithmetic
import UnitConversion.Proofs.Decimal.Value

/-!
# Exact results and rounded results

An operation rounds its exact result once. So the result is finite exactly when the exact result lies
below the middle between the largest magnitude and `2 ^ 1024`, and it stays within any magnitude that the
exact result stays within.

* `Binary64.exactValue`: the exact value of a finite number.
* `Magnitude.units_le_largest`: the largest magnitude.
* `isFinite_add_iff`, `isFinite_mul_iff`: which results are finite.
* `isFinite_of_add`, `isFinite_of_mul`: finite results come from finite numbers.
* `Magnitude.Bounds`: the finite numbers up to a magnitude.
* `bounds_add`, `bounds_mul`: bounds on the exact result are bounds on the result.
* `inv_eq_finite`: the reciprocal of a number that is not too small is finite and not zero.
-/

namespace UnitConversion

/-! ## The largest magnitude -/

namespace Magnitude

/-- The largest magnitude, of 53 binary ones. -/
def largest : Magnitude :=
  ⟨(2 ^ 53 - 1) * 2 ^ (971 + fractionBits), representable_mul_pow (by decide) (by
    rw [pow_lastStep, overflowUnits_eq, ← Nat.mul_assoc]
    exact Nat.mul_lt_mul_of_pos_right (by decide) lastHalfStep_pos)⟩

theorem units_largest : largest.units = (2 ^ 54 - 2) * lastHalfStep := by
  show (2 ^ 53 - 1) * 2 ^ (971 + fractionBits) = _
  rw [pow_lastStep, ← Nat.mul_assoc]

theorem units_le_largest (m : Magnitude) : m.units ≤ largest.units := by
  rw [units_largest]
  rcases Nat.lt_or_ge m.units (2 ^ (1023 + fractionBits)) with hSmall | hLarge
  · rw [half_overflowUnits_eq] at hSmall
    exact Nat.le_trans (Nat.le_of_lt hSmall) (Nat.mul_le_mul_right _ (by decide))
  · have hNonzero : m.units ≠ 0 := Nat.ne_of_gt (Nat.lt_of_lt_of_le (Nat.two_pow_pos _) hLarge)
    have hLog : 1023 + fractionBits ≤ m.units.log2 := (Nat.le_log2 hNonzero).mpr hLarge
    -- The last of the binary digits stands for two half steps.
    have hDivides : 2 * lastHalfStep ∣ m.units := by
      rw [← pow_lastStep]
      exact Nat.dvd_trans (Nat.pow_dvd_pow 2 (by omega)) m.representable.2
    obtain ⟨count, hCount⟩ := hDivides
    have hLess := m.representable.1
    rw [overflowUnits_eq, hCount, Nat.mul_comm 2, Nat.mul_assoc, Nat.mul_comm lastHalfStep] at hLess
    have hBound := Nat.lt_of_mul_lt_mul_right hLess
    calc m.units = (2 * count) * lastHalfStep := by
          rw [hCount]
          ring
      _ ≤ (2 ^ 54 - 2) * lastHalfStep := Nat.mul_le_mul_right _ (by omega)

end Magnitude

/-! ## Exact values -/

namespace Binary64

variable {x y : Binary64}

/-- The exact value of a finite number, and zero for the others. -/
def exactValue (x : Binary64) : Rat := x.toRat?.getD 0

theorem isFinite_iff : x.isFinite = true ↔ ∃ s m, x = .finite s m := by
  cases x with
  | nan => simp [isFinite]
  | infinite s => simp [isFinite]
  | finite s m => simp [isFinite]

theorem exactValue_finite (s : Bool) (m : Magnitude) :
    (Binary64.finite s m).exactValue = (signedUnits s m.units : ℚ) / oneUnits := by
  unfold exactValue toRat?
  generalize oneUnits = den
  exact Rat.mkRat_eq_div (signedUnits s m.units) den

theorem signedUnits_not (s : Bool) (n : Nat) : signedUnits (!s) n = -signedUnits s n := by
  cases s with
  | false => rfl
  | true => exact (Int.neg_neg n).symm

theorem natAbs_signedUnits (s : Bool) (n : Nat) : (signedUnits s n).natAbs = n := by
  cases s with
  | false => rfl
  | true => exact Int.natAbs_neg n

theorem abs_exactValue_finite (s : Bool) (m : Magnitude) :
    |(Binary64.finite s m).exactValue| = (m.units : ℚ) / oneUnits := by
  have hOne : (0 : ℚ) ≤ oneUnits := Nat.cast_nonneg oneUnits
  rw [exactValue_finite, abs_div, abs_of_nonneg hOne, ← Int.cast_abs, Int.abs_eq_natAbs,
    natAbs_signedUnits, Int.cast_natCast]

theorem exactValue_zero (s : Bool) : (zero s).exactValue = 0 := by
  rw [← abs_eq_zero, zero, abs_exactValue_finite]
  show ((0 : ℕ) : ℚ) / oneUnits = 0
  rw [Nat.cast_zero, zero_div]

@[simp] theorem isFinite_neg : (-x).isFinite = x.isFinite := by cases x <;> rfl

theorem exactValue_neg : (-x).exactValue = -x.exactValue := by
  cases x with
  | nan => exact neg_zero.symm
  | infinite s => exact neg_zero.symm
  | finite s m =>
    show (Binary64.finite (!s) m).exactValue = _
    rw [exactValue_finite, exactValue_finite, signedUnits_not, Int.cast_neg, neg_div]

/-! ## Finite results -/

theorem isFinite_nearest_iff_value {s : Bool} {num den : Nat} (hDen : 0 < den) :
    (nearest s num den).isFinite = true ↔ (num : ℚ) / den / oneUnits < 2 ^ 1024 - 2 ^ 970 := by
  have hDenCast : (0 : ℚ) < den := Nat.cast_pos.mpr hDen
  have hUnits : (0 : ℚ) < oneUnits := Nat.cast_pos.mpr oneUnits_pos
  rw [isFinite_nearest_iff hDen, ← Decimal.value_overflowMiddle, div_lt_div_iff_of_pos_right hUnits,
    div_lt_iff₀ hDenCast]
  exact_mod_cast Iff.rfl

theorem mul_finite (s t : Bool) (a b : Magnitude) :
    Binary64.finite s a * Binary64.finite t b = nearest (s ^^ t) (a.units * b.units) oneUnits := by
  show mul (.finite s a) (.finite t b) = _
  rw [mul]

/-- A sum is finite exactly when the exact sum is below the overflow. -/
theorem isFinite_add_iff (hx : x.isFinite = true) (hy : y.isFinite = true) :
    (x + y).isFinite = true ↔ |x.exactValue + y.exactValue| < 2 ^ 1024 - 2 ^ 970 := by
  obtain ⟨s, a, rfl⟩ := isFinite_iff.mp hx
  obtain ⟨t, b, rfl⟩ := isFinite_iff.mp hy
  have hOne : (0 : ℚ) ≤ oneUnits := Nat.cast_nonneg oneUnits
  have hExact : |(Binary64.finite s a).exactValue + (Binary64.finite t b).exactValue| =
      ((signedUnits s a.units + signedUnits t b.units).natAbs : ℚ) / (1 : Nat) / oneUnits := by
    rw [exactValue_finite, exactValue_finite, ← add_div, ← Int.cast_add, abs_div, abs_of_nonneg hOne,
      ← Int.cast_abs, Int.abs_eq_natAbs, Int.cast_natCast, Nat.cast_one, div_one]
  show (add _ _).isFinite = true ↔ _
  rw [hExact, ← isFinite_nearest_iff_value (s := decide
    (signedUnits s a.units + signedUnits t b.units < 0)) Nat.one_pos, add]
  split
  · rename_i hZero
    rw [hZero, isFinite_nearest_iff Nat.one_pos]
    refine iff_of_true rfl ?_
    exact Nat.mul_pos (Nat.mul_pos (by decide) lastHalfStep_pos) Nat.one_pos
  · exact Iff.rfl

theorem mul_comm (x y : Binary64) : x * y = y * x := by
  show mul x y = mul y x
  cases x <;> cases y <;> simp only [mul, Bool.xor_comm, Nat.mul_comm]

/-- A product is finite exactly when the exact product is below the overflow. -/
theorem isFinite_mul_iff (hx : x.isFinite = true) (hy : y.isFinite = true) :
    (x * y).isFinite = true ↔ |x.exactValue * y.exactValue| < 2 ^ 1024 - 2 ^ 970 := by
  obtain ⟨s, a, rfl⟩ := isFinite_iff.mp hx
  obtain ⟨t, b, rfl⟩ := isFinite_iff.mp hy
  have hExact : |(Binary64.finite s a).exactValue * (Binary64.finite t b).exactValue| =
      ((a.units * b.units : Nat) : ℚ) / oneUnits / oneUnits := by
    rw [abs_mul, abs_exactValue_finite, abs_exactValue_finite, Nat.cast_mul, div_mul_div_comm, div_div]
  rw [mul_finite, hExact]
  exact isFinite_nearest_iff_value oneUnits_pos

/-- The terms of a finite sum are finite. -/
theorem isFinite_of_add (h : (x + y).isFinite = true) : x.isFinite = true ∧ y.isFinite = true := by
  change (add x y).isFinite = true at h
  cases x with
  | nan => cases h
  | infinite s =>
    cases y with
    | nan => cases h
    | infinite t =>
      rw [add] at h
      split at h
      · cases h
      · cases h
    | finite t b => cases h
  | finite s a =>
    cases y with
    | nan => cases h
    | infinite t => cases h
    | finite t b => exact ⟨rfl, rfl⟩

/-- The factors of a finite product are finite. -/
theorem isFinite_of_mul (h : (x * y).isFinite = true) : x.isFinite = true ∧ y.isFinite = true := by
  change (mul x y).isFinite = true at h
  cases x with
  | nan => cases h
  | infinite s =>
    cases y with
    | nan => cases h
    | infinite t => cases h
    | finite t b =>
      rw [mul] at h
      split at h
      · cases h
      · cases h
  | finite s a =>
    cases y with
    | nan => cases h
    | infinite t =>
      rw [mul] at h
      split at h
      · cases h
      · cases h
    | finite t b => exact ⟨rfl, rfl⟩

/-! ## Bounded results -/

end Binary64

namespace Magnitude

/-- The exact value of a magnitude. -/
def value (m : Magnitude) : ℚ := (m.units : ℚ) / oneUnits

/-- The magnitude of one. -/
def one : Magnitude :=
  ⟨oneUnits, by
    rw [oneUnits, ← Nat.one_mul (2 ^ fractionBits)]
    refine representable_mul_pow (by decide) ?_
    rw [Nat.one_mul]
    exact Nat.pow_lt_pow_right (by decide) (by decide)⟩

theorem units_one : one.units = oneUnits := rfl

/-- The smallest positive magnitude, of one unit. -/
def smallest : Magnitude := ⟨1, by decide +kernel⟩

theorem units_smallest : smallest.units = 1 := rfl

/-- The number is finite and at most as large as the magnitude. -/
def Bounds (m : Magnitude) (x : Binary64) : Prop := x.isFinite = true ∧ |x.exactValue| ≤ m.value

theorem value_one : one.value = 1 :=
  div_self (Nat.cast_ne_zero.mpr (Nat.ne_of_gt oneUnits_pos))

/-- The middle between the largest magnitude and the overflow, in half steps. -/
theorem overflow_eq : (2 : ℚ) ^ 1024 - 2 ^ 970 = (2 ^ 54 - 1) * 2 ^ 970 := by
  have hPow : (2 : ℚ) ^ 1024 = 2 ^ 54 * 2 ^ 970 := by rw [← pow_add]
  rw [hPow, sub_mul, one_mul]

/-- The exact value of a count that is shifted left by at least the digits behind the point. -/
theorem units_div_oneUnits (count k : Nat) :
    ((count * 2 ^ (k + fractionBits) : Nat) : ℚ) / oneUnits = count * 2 ^ k := by
  have hUnits : (oneUnits : ℚ) ≠ 0 := Nat.cast_ne_zero.mpr (Nat.ne_of_gt oneUnits_pos)
  have hSplit : 2 ^ (k + fractionBits) = 2 ^ k * oneUnits := by rw [oneUnits, Nat.pow_add]
  rw [hSplit, ← Nat.mul_assoc, Nat.cast_mul, mul_div_cancel_right₀ _ hUnits, Nat.cast_mul,
    Nat.cast_pow, Nat.cast_ofNat]

theorem value_largest : largest.value = (2 ^ 54 - 2) * 2 ^ 970 := by
  have hLargest := units_div_oneUnits (2 ^ 53 - 1) 971
  have hPow : (2 : ℚ) ^ 971 = 2 * 2 ^ 970 := pow_succ' 2 970
  rw [hPow, ← mul_assoc] at hLargest
  rw [value, largest, hLargest]
  norm_num

variable {m : Magnitude} {x y : Binary64}

theorem bounds_largest (hx : x.isFinite = true) : largest.Bounds x := by
  obtain ⟨s, a, rfl⟩ := Binary64.isFinite_iff.mp hx
  refine ⟨rfl, ?_⟩
  rw [Binary64.abs_exactValue_finite]
  exact div_le_div_of_nonneg_right (Nat.cast_le.mpr a.units_le_largest) (Nat.cast_nonneg _)

theorem bounds_nearest {num den : Nat} (hDen : 0 < den) (hNum : num ≤ m.units * den) (s : Bool) :
    m.Bounds (.nearest s num den) := by
  have hUnits : nearestUnits num den ≤ m.units := nearestUnits_le hDen hNum
  have hLess : nearestUnits num den < overflowUnits := Nat.lt_of_le_of_lt hUnits m.representable.1
  rw [Binary64.nearest, dif_pos hLess]
  refine ⟨rfl, ?_⟩
  rw [Binary64.abs_exactValue_finite]
  exact div_le_div_of_nonneg_right (Nat.cast_le.mpr hUnits) (Nat.cast_nonneg _)

/-- A bound on the exact sum is a bound on the sum. -/
theorem bounds_add (hx : x.isFinite = true) (hy : y.isFinite = true)
    (hExact : |x.exactValue + y.exactValue| ≤ m.value) : m.Bounds (x + y) := by
  obtain ⟨s, a, rfl⟩ := Binary64.isFinite_iff.mp hx
  obtain ⟨t, b, rfl⟩ := Binary64.isFinite_iff.mp hy
  have hUnits : (0 : ℚ) < oneUnits := Nat.cast_pos.mpr oneUnits_pos
  have hNum : (Binary64.signedUnits s a.units + Binary64.signedUnits t b.units).natAbs ≤
      m.units * 1 := by
    rw [Binary64.exactValue_finite, Binary64.exactValue_finite, ← add_div, abs_div,
      abs_of_pos hUnits, value, div_le_div_iff_of_pos_right hUnits, ← Int.cast_add, ← Int.cast_abs,
      Int.abs_eq_natAbs] at hExact
    rw [Nat.mul_one]
    exact_mod_cast hExact
  show m.Bounds (Binary64.add _ _)
  rw [Binary64.add]
  split
  · have hZero := bounds_nearest (s := s && t) Nat.one_pos (Nat.zero_le (m.units * 1))
    rwa [Binary64.nearest_eq_zero (by decide)] at hZero
  · exact bounds_nearest Nat.one_pos hNum _

/-- A bound on the exact product is a bound on the product. -/
theorem bounds_mul (hx : x.isFinite = true) (hy : y.isFinite = true)
    (hExact : |x.exactValue * y.exactValue| ≤ m.value) : m.Bounds (x * y) := by
  obtain ⟨s, a, rfl⟩ := Binary64.isFinite_iff.mp hx
  obtain ⟨t, b, rfl⟩ := Binary64.isFinite_iff.mp hy
  have hUnits : (0 : ℚ) < oneUnits := Nat.cast_pos.mpr oneUnits_pos
  have hNum : a.units * b.units ≤ m.units * oneUnits := by
    rw [abs_mul, Binary64.abs_exactValue_finite, Binary64.abs_exactValue_finite, div_mul_div_comm,
      value, ← div_div, div_le_div_iff_of_pos_right hUnits, div_le_iff₀ hUnits] at hExact
    exact_mod_cast hExact
  rw [Binary64.mul_finite]
  exact bounds_nearest oneUnits_pos hNum _

/-- A factor of at most one keeps every bound. -/
theorem bounds_mul_of_le_one (hx : m.Bounds x) (hy : one.Bounds y) : m.Bounds (x * y) := by
  refine bounds_mul hx.1 hy.1 ?_
  have hFactor := hy.2
  rw [value_one] at hFactor
  rw [abs_mul]
  calc |x.exactValue| * |y.exactValue| ≤ |x.exactValue| * 1 :=
        mul_le_mul_of_nonneg_left hFactor (abs_nonneg _)
    _ ≤ m.value := by
        rw [mul_one]
        exact hx.2

end Magnitude

namespace Binary64

variable {x y : Binary64}

/-- A summand that is less than half of the last step does not lead to an overflow. -/
theorem isFinite_add_of_small (hx : x.isFinite = true) (hy : y.isFinite = true)
    (hSmall : |y.exactValue| < 2 ^ 970) : (x + y).isFinite = true := by
  have hLargest := (Magnitude.bounds_largest hx).2
  have hSum := abs_add_le x.exactValue y.exactValue
  rw [Magnitude.value_largest] at hLargest
  rw [isFinite_add_iff hx hy, Magnitude.overflow_eq]
  generalize (2 : ℚ) ^ 970 = halfStep at *
  linarith

/-! ## Reciprocals -/

theorem inv_finite {a : Magnitude} (hPos : 0 < a.units) (s : Bool) :
    (Binary64.finite s a)⁻¹ = nearest s (oneUnits * oneUnits) a.units := by
  show inv (.finite s a) = _
  rw [inv, if_neg (Nat.ne_of_gt hPos)]

/-- The reciprocal of a number of at least one is at most one. -/
theorem bounds_inv (hx : x.isFinite = true) (hOne : 1 ≤ |x.exactValue|) :
    Magnitude.one.Bounds x⁻¹ := by
  obtain ⟨s, a, rfl⟩ := isFinite_iff.mp hx
  have hUnits : (0 : ℚ) < oneUnits := Nat.cast_pos.mpr oneUnits_pos
  have hLarge : oneUnits ≤ a.units := by
    rw [abs_exactValue_finite, one_le_div hUnits] at hOne
    exact Nat.cast_le.mp hOne
  have hPos : 0 < a.units := Nat.lt_of_lt_of_le oneUnits_pos hLarge
  have hNum : oneUnits * oneUnits ≤ Magnitude.one.units * a.units := by
    rw [Magnitude.units_one]
    exact Nat.mul_le_mul_left oneUnits hLarge
  rw [inv_finite hPos]
  exact Magnitude.bounds_nearest hPos hNum s

/-- The reciprocal of a number that is not too small is finite and not zero. -/
theorem inv_eq_finite {a : Magnitude} (hLarge : 2 ^ 1040 ≤ a.units) (s : Bool) :
    ∃ b : Magnitude, 0 < b.units ∧ (Binary64.finite s a)⁻¹ = .finite s b := by
  have hPos : 0 < a.units := Nat.lt_of_lt_of_le (Nat.two_pow_pos _) hLarge
  have hFinite : nearestUnits (oneUnits * oneUnits) a.units < overflowUnits := by
    rw [nearestUnits_lt_overflowUnits_iff hPos]
    have hConstants : oneUnits * oneUnits < overflowMiddle * 2 ^ 1040 := by decide +kernel
    exact Nat.lt_of_lt_of_le hConstants (Nat.mul_le_mul_left _ hLarge)
  have hNonzero : 1 ≤ nearestUnits (oneUnits * oneUnits) a.units := by
    have hConstants : overflowUnits ≤ oneUnits * oneUnits := by decide +kernel
    have hLess := Nat.le_trans (Nat.le_of_lt a.representable.1) hConstants
    refine le_nearestUnits (m := .smallest) hPos ?_
    rwa [Magnitude.units_smallest, Nat.one_mul]
  refine ⟨⟨_, hFinite, nearestUnits_dvd _ _⟩, hNonzero, ?_⟩
  rw [inv_finite hPos, nearest, dif_pos hFinite]

end Binary64

end UnitConversion
