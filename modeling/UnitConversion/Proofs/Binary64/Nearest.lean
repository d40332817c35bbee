import Mathlib.Tactic.Linarith
import Mathlib.Tactic.Ring
import Mathlib.Tactic.SplitIfs
import UnitConversion.Binary64.Nearest

/-!
# The nearest number of a quotient

The nearest binary64 number depends on the value of a quotient only, and not on its terms. It is
infinite from the middle between the largest magnitude and `2 ^ 1024` on, for in 53 binary digits the
largest magnitude is odd and the tie goes up.

* `nearestUnits_congr`: quotients of one value have one nearest count.
* `nearestUnits_mono`: a larger quotient has no smaller nearest count.
* `nearestUnits_lt_overflowUnits_iff`: which quotients stay below the overflow.
* `Binary64.nearest_eq_finite_iff`: which quotients are rounded to a given magnitude.
-/

namespace UnitConversion

theorem divHalfEven_mul_left {factor : Nat} (hFactor : 0 < factor) (num den : Nat) :
    divHalfEven (factor * num) (factor * den) = divHalfEven num den := by
  have hRest : 2 * (factor * num % (factor * den)) = factor * (2 * (num % den)) := by
    rw [Nat.mul_mod_mul_left, Nat.mul_left_comm]
  unfold divHalfEven
  simp only [Nat.mul_div_mul_left _ _ hFactor, hRest, Nat.mul_lt_mul_left hFactor]

/-- The quotient is rounded to less than an even bound when it lies below the middle of the step under
the bound. In the middle the bound is the even neighbour. -/
theorem divHalfEven_lt_iff {num den bound : Nat} (hDen : 0 < den) (hEven : bound % 2 = 0)
    (hBound : 0 < bound) : divHalfEven num den < bound ↔ 2 * num < (2 * bound - 1) * den := by
  have hSplit : num = den * (num / den) + num % den := (Nat.div_add_mod num den).symm
  have hRest : num % den < den := Nat.mod_lt num hDen
  unfold divHalfEven
  dsimp only
  generalize num / den = whole at *
  generalize num % den = rest at *
  subst hSplit
  obtain ⟨below, rfl⟩ : ∃ below, bound = below + 1 := ⟨bound - 1, by omega⟩
  have hMiddle : (2 * (below + 1) - 1) * den = 2 * (den * below) + den := by
    rw [show 2 * (below + 1) - 1 = 2 * below + 1 by omega]
    ring
  rw [hMiddle]
  -- Only the step under the bound is split by its middle.
  rcases Nat.lt_trichotomy whole below with hLess | rfl | hMore
  · have hStep : den * whole + den ≤ den * below := by
      rw [← Nat.mul_succ]
      exact Nat.mul_le_mul_left den hLess
    split
    · omega
    · split <;> omega
  · split
    · omega
    · split <;> omega
  · have hStep : den * below + den ≤ den * whole := by
      rw [← Nat.mul_succ]
      exact Nat.mul_le_mul_left den hMore
    split
    · omega
    · split <;> omega

theorem nearestUnits_mul_left {factor : Nat} (hFactor : 0 < factor) (num den : Nat) :
    nearestUnits (factor * num) (factor * den) = nearestUnits num den := by
  unfold nearestUnits excessBits
  simp only [Nat.mul_div_mul_left _ _ hFactor, Nat.mul_assoc, divHalfEven_mul_left hFactor]

/-- Quotients of one value have one nearest count. -/
theorem nearestUnits_congr {num den num' den' : Nat} (hDen : 0 < den) (hDen' : 0 < den')
    (hValue : num * den' = num' * den) : nearestUnits num den = nearestUnits num' den' :=
  calc nearestUnits num den = nearestUnits (den' * num) (den' * den) :=
        (nearestUnits_mul_left hDen' num den).symm
    _ = nearestUnits (den * num') (den * den') := by
        rw [Nat.mul_comm den' num, hValue, Nat.mul_comm num' den, Nat.mul_comm den' den]
    _ = nearestUnits num' den' := nearestUnits_mul_left hDen num' den'

/-! ## Rounding is monotone -/

theorem divHalfEven_mono {num num' den : Nat} (hNum : num ≤ num') :
    divHalfEven num den ≤ divHalfEven num' den := by
  have hWhole : num / den ≤ num' / den := Nat.div_le_div_right hNum
  rcases Nat.lt_or_eq_of_le hWhole with hLess | hSame
  · calc divHalfEven num den ≤ num / den + 1 := divHalfEven_le num den
      _ ≤ num' / den := hLess
      _ ≤ divHalfEven num' den := le_divHalfEven num' den
  · have hRest : num % den ≤ num' % den := by
      have hSplit := Nat.div_add_mod num den
      have hSplit' := Nat.div_add_mod num' den
      rw [hSame] at hSplit
      omega
    unfold divHalfEven
    dsimp only
    rw [hSame]
    split_ifs <;> omega

/-- A quotient with excess bits keeps its leading binary digit. -/
theorem pow_le_divHalfEven_excess {num den : Nat} (hExcess : 0 < excessBits num den) :
    2 ^ 52 ≤ divHalfEven num (den * 2 ^ excessBits num den) := by
  have hNonzero : num / den ≠ 0 := by
    intro hZero
    simp [excessBits, hZero] at hExcess
  refine Nat.le_trans ?_ (le_divHalfEven _ _)
  rw [← Nat.div_div_eq_div_mul, Nat.le_div_iff_mul_le (Nat.two_pow_pos _), ← Nat.pow_add]
  refine (Nat.le_log2 hNonzero).mp ?_
  unfold excessBits at hExcess ⊢
  omega

theorem excessBits_mono {num num' : Nat} (hNum : num ≤ num') (den : Nat) :
    excessBits num den ≤ excessBits num' den := by
  have hWhole : num / den ≤ num' / den := Nat.div_le_div_right hNum
  have hLog : (num / den).log2 ≤ (num' / den).log2 := by
    rcases Nat.eq_zero_or_pos (num / den) with hZero | hPos
    · simp [hZero]
    · have hPos' : num' / den ≠ 0 := by omega
      have hSelf := Nat.log2_self_le (Nat.ne_of_gt hPos)
      exact (Nat.le_log2 hPos').mpr (Nat.le_trans hSelf hWhole)
  unfold excessBits
  omega

/-- A larger quotient has no smaller nearest count. -/
theorem nearestUnits_mono {num num' : Nat} (hNum : num ≤ num') (den : Nat) :
    nearestUnits num den ≤ nearestUnits num' den := by
  rcases Nat.lt_or_eq_of_le (excessBits_mono hNum den) with hLess | hSame
  · -- The smaller quotient ends, rounded, at most where the larger one has its leading digit.
    have hLeading := pow_le_divHalfEven_excess (Nat.lt_of_le_of_lt (Nat.zero_le _) hLess)
    calc nearestUnits num den ≤ 2 ^ 53 * 2 ^ excessBits num den :=
          Nat.mul_le_mul_right _ (divHalfEven_excess_le num den)
      _ ≤ 2 ^ 52 * 2 ^ excessBits num' den := by
          rw [← Nat.pow_add, ← Nat.pow_add]
          exact Nat.pow_le_pow_right (by decide) (by omega)
      _ ≤ nearestUnits num' den := Nat.mul_le_mul_right _ hLeading
  · unfold nearestUnits
    rw [hSame]
    exact Nat.mul_le_mul_right _ (divHalfEven_mono hNum)

/-- A quotient up to a magnitude is rounded to at most that magnitude. -/
theorem nearestUnits_le {num den : Nat} {m : Magnitude} (hDen : 0 < den)
    (hNum : num ≤ m.units * den) : nearestUnits num den ≤ m.units :=
  calc nearestUnits num den ≤ nearestUnits (m.units * den) den := nearestUnits_mono hNum den
    _ = m.units := nearestUnits_of_representable hDen m.representable

/-- A quotient from a magnitude on is rounded to at least that magnitude. -/
theorem le_nearestUnits {num den : Nat} {m : Magnitude} (hDen : 0 < den)
    (hNum : m.units * den ≤ num) : m.units ≤ nearestUnits num den :=
  calc m.units = nearestUnits (m.units * den) den :=
        (nearestUnits_of_representable hDen m.representable).symm
    _ ≤ nearestUnits num den := nearestUnits_mono hNum den

/-! ## The overflow -/

/-- Half of the distance between the largest magnitudes, in units. -/
def lastHalfStep : Nat := 2 ^ (970 + fractionBits)

/-- The middle between the largest magnitude and `2 ^ 1024`, in units. -/
def overflowMiddle : Nat := (2 ^ 54 - 1) * lastHalfStep

theorem lastHalfStep_pos : 0 < lastHalfStep := Nat.two_pow_pos _

theorem lastHalfStep_eq : lastHalfStep = 2 ^ 970 * oneUnits := by
  rw [lastHalfStep, oneUnits, Nat.pow_add]

theorem pow_lastStep : 2 ^ (971 + fractionBits) = 2 * lastHalfStep := by
  unfold lastHalfStep
  rw [Nat.mul_comm, ← Nat.pow_succ]
  congr 1

theorem overflowUnits_eq : overflowUnits = 2 ^ 54 * lastHalfStep := by
  unfold overflowUnits lastHalfStep
  rw [← Nat.pow_add]
  congr 1

theorem half_overflowUnits_eq : 2 ^ (1023 + fractionBits) = 2 ^ 53 * lastHalfStep := by
  unfold lastHalfStep
  rw [← Nat.pow_add]
  congr 1

theorem overflowMiddle_lt : overflowMiddle < overflowUnits := by
  rw [overflowUnits_eq]
  exact Nat.mul_lt_mul_of_pos_right (by decide) lastHalfStep_pos

/-- With as many excess bits as the largest magnitudes have, the nearest count is compared with the
overflow in its leading digits. -/
theorem nearestUnits_lt_overflowUnits_iff_of_excessBits {num den : Nat} (hDen : 0 < den)
    (hExcess : excessBits num den = 971 + fractionBits) :
    nearestUnits num den < overflowUnits ↔ num < overflowMiddle * den := by
  have hStep : 0 < 2 * lastHalfStep := Nat.mul_pos (by decide) lastHalfStep_pos
  have hBound : (2 * 2 ^ 53 - 1) * (den * (2 * lastHalfStep)) = 2 * (overflowMiddle * den) := by
    unfold overflowMiddle
    ring
  have hEven : 2 ^ 53 % 2 = 0 := by decide
  have hLeading : overflowUnits = 2 ^ 53 * (2 * lastHalfStep) := by
    rw [overflowUnits_eq]
    ring
  unfold nearestUnits
  rw [hExcess, pow_lastStep, hLeading]
  dsimp only
  rw [Nat.mul_lt_mul_right hStep,
    divHalfEven_lt_iff (Nat.mul_pos hDen hStep) hEven (Nat.two_pow_pos 53), hBound,
    Nat.mul_lt_mul_left Nat.two_pos]

/-- A quotient is rounded to a magnitude below the overflow exactly when it lies below the middle between
the largest magnitude and the overflow. -/
theorem nearestUnits_lt_overflowUnits_iff {num den : Nat} (hDen : 0 < den) :
    nearestUnits num den < overflowUnits ↔ num < overflowMiddle * den := by
  -- Below half of the threshold both sides hold and from the threshold on neither does. Only between the two is
  -- the last step known, and with it the number that is rounded up.
  rcases Nat.lt_or_ge (num / den) (2 ^ (1023 + fractionBits)) with hSmall | hLarge
  · have hHalf : 2 ^ (1023 + fractionBits) ≤ overflowMiddle := by
      rw [half_overflowUnits_eq]
      exact Nat.mul_le_mul_right _ (by decide)
    have hNum : num < overflowMiddle * den :=
      Nat.lt_of_lt_of_le ((Nat.div_lt_iff_lt_mul hDen).mp hSmall)
        (Nat.mul_le_mul_right den hHalf)
    have hExcess : excessBits num den ≤ 970 + fractionBits := by
      unfold excessBits
      rcases Nat.eq_zero_or_pos (num / den) with hZero | hPos
      · rw [hZero]
        simp
      · have hLog := (Nat.log2_lt (Nat.ne_of_gt hPos)).mpr hSmall
        omega
    refine iff_of_true ?_ hNum
    calc nearestUnits num den ≤ 2 ^ 53 * 2 ^ excessBits num den :=
          Nat.mul_le_mul_right _ (divHalfEven_excess_le num den)
      _ ≤ 2 ^ 53 * lastHalfStep :=
          Nat.mul_le_mul_left _ (Nat.pow_le_pow_right (by decide) hExcess)
      _ < overflowUnits := by
          rw [overflowUnits_eq]
          exact Nat.mul_lt_mul_of_pos_right (by decide) lastHalfStep_pos
  · have hNonzero : num / den ≠ 0 := Nat.ne_of_gt (Nat.lt_of_lt_of_le (Nat.two_pow_pos _) hLarge)
    have hLog : 1023 + fractionBits ≤ (num / den).log2 := (Nat.le_log2 hNonzero).mpr hLarge
    rcases Nat.lt_or_ge (num / den).log2 (1024 + fractionBits) with hLess | hMore
    · refine nearestUnits_lt_overflowUnits_iff_of_excessBits hDen ?_
      unfold excessBits
      omega
    · have hWhole : overflowUnits ≤ num / den := (Nat.le_log2 hNonzero).mp hMore
      have hNum : overflowMiddle * den ≤ num :=
        calc overflowMiddle * den ≤ overflowUnits * den :=
              Nat.mul_le_mul_right den (Nat.le_of_lt overflowMiddle_lt)
          _ ≤ num := (Nat.le_div_iff_mul_le hDen).mp hWhole
      refine iff_of_false (Nat.not_lt.mpr ?_) (Nat.not_lt.mpr hNum)
      have hExcess : 0 < excessBits num den := by
        unfold excessBits
        omega
      have hLeading := pow_le_divHalfEven_excess hExcess
      calc overflowUnits ≤ 2 ^ 52 * 2 ^ excessBits num den := by
            unfold overflowUnits
            rw [← Nat.pow_add]
            refine Nat.pow_le_pow_right (by decide) ?_
            unfold excessBits
            omega
        _ ≤ nearestUnits num den := Nat.mul_le_mul_right _ hLeading

namespace Binary64

variable {s : Bool} {num den : Nat}

theorem nearest_eq_finite_iff {m : Magnitude} :
    nearest s num den = .finite s m ↔ nearestUnits num den = m.units := by
  unfold nearest
  constructor
  · intro hNearest
    split at hNearest
    · cases hNearest
      rfl
    · cases hNearest
  · intro hUnits
    rw [dif_pos (hUnits ▸ m.representable.1)]
    exact congrArg _ (Magnitude.ext_units hUnits)

theorem nearest_congr {num' den' : Nat} (hDen : 0 < den) (hDen' : 0 < den')
    (hValue : num * den' = num' * den) (s : Bool) : nearest s num den = nearest s num' den' := by
  unfold nearest
  simp only [nearestUnits_congr hDen hDen' hValue]

theorem isFinite_nearest_iff (hDen : 0 < den) :
    (nearest s num den).isFinite = true ↔ num < overflowMiddle * den := by
  rw [← nearestUnits_lt_overflowUnits_iff hDen]
  unfold nearest
  split
  · rename_i hLess
    exact iff_of_true rfl hLess
  · rename_i hNotLess
    exact iff_of_false (by simp [isFinite]) hNotLess

theorem nearest_eq_infinite (hDen : 0 < den) (hLarge : overflowMiddle * den ≤ num) :
    nearest s num den = .infinite s := by
  have hOverflow : ¬ nearestUnits num den < overflowUnits := by
    rw [nearestUnits_lt_overflowUnits_iff hDen]
    exact Nat.not_lt.mpr hLarge
  exact dif_neg hOverflow

/-- Below half a unit the nearest number is zero. -/
theorem nearest_eq_zero (hSmall : 2 * num < den) : nearest s num den = .zero s := by
  have hWhole : num / den = 0 := Nat.div_eq_of_lt (by omega)
  have hRest : num % den = num := Nat.mod_eq_of_lt (by omega)
  refine nearest_eq_finite_iff.mpr ?_
  simp [nearestUnits, excessBits, hWhole, divHalfEven, hRest, hSmall, Magnitude.zero]

end Binary64

end UnitConversion
