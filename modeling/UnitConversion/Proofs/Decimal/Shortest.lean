import UnitConversion.Proofs.Decimal.HalfEven
import UnitConversion.Proofs.Rendering.Precision

/-!
# The digits of the shortest decimal

The search goes down the decimal grids from the leading digit of a magnitude, and the seventeenth digit is
its last: there the nearest decimal reads back. It stops on the first grid with a neighbour of the value that
reads back, so no later than any grid whose nearest decimal is known to. A neighbour stays within the decade
of the value, up to its end: the shortest decimal can be the next power of ten.

* `readsBack_near`: on which grids the nearest decimal reads back.
* `le_exponent_shortest`: the search stops there at the latest.
* `shortest_bounds`, `leading_shortest`: the decade of the shortest decimal.
* `value_shortest_of_close`: magnitudes whose shortest decimal is the next power of ten.
-/

namespace UnitConversion

namespace Magnitude

variable {m : Magnitude}

def leading (m : Magnitude) : Int := leadingExponent m.units oneUnits

theorem inDecade_leading (hNonzero : m.units ≠ 0) : InDecade m.value m.leading :=
  inDecade_leadingExponent (Nat.pos_of_ne_zero hNonzero) oneUnits_pos

/-- No positive magnitude lies below `10 ^ -324`. -/
theorem neg_le_leading (hNonzero : m.units ≠ 0) : -324 ≤ m.leading :=
  neg_le_leadingExponent (Nat.pos_of_ne_zero hNonzero) (by decide) (by decide +kernel)

/-! ## Neighbours -/

def near (m : Magnitude) (place : Int) : Decimal := ⟨roundAtPlace divHalfEven m.units oneUnits place, place⟩

theorem near_mem (m : Magnitude) (place : Int) : m.near place ∈ m.neighbours place :=
  List.mem_cons_self

theorem roundsHalfEven_near (m : Magnitude) (place : Int) :
    RoundsHalfEven place m.value (m.near place).value :=
  roundsHalfEven_roundAtPlace m.units oneUnits_pos place

theorem roundsTo_near (m : Magnitude) (place : Int) : RoundsTo place m.value (m.near place).value :=
  (m.roundsHalfEven_near place).roundsTo

/-- The two neighbours are the multiples around the value. -/
theorem exists_floor (m : Magnitude) (place : Int) :
    ∃ below : Nat, (below : ℚ) * 10 ^ place ≤ m.value ∧ m.value < (below + 1 : Nat) * 10 ^ place ∧
      ∀ d ∈ m.neighbours place, d.exponent = place ∧ (d.coefficient = below ∨ d.coefficient = below + 1) := by
  have hStep := ten_zpow_pos place
  obtain ⟨num, den, hDen, hValue, hRound⟩ := exists_roundAtPlace m.units oneUnits_pos place
  have hDenCast : (0 : ℚ) < den := Nat.cast_pos.mpr hDen
  have hNear := le_divHalfEven num den
  have hNear' := divHalfEven_le num den
  have hFloor : ((num / den : Nat) : ℚ) ≤ num / den := Nat.cast_div_le
  have hCeil : (num : ℚ) / den < (num / den + 1 : Nat) := by
    rw [div_lt_iff₀ hDenCast]
    exact_mod_cast (Nat.div_lt_iff_lt_mul hDen).mp (Nat.lt_succ_self (num / den))
  refine ⟨num / den, ?_, ?_, fun d hd => ?_⟩
  · rw [← le_div_iff₀ hStep, value, ← hValue]
    exact hFloor
  · rw [← div_lt_iff₀ hStep, value, ← hValue]
    exact hCeil
  · simp only [neighbours, hRound, List.mem_cons, List.not_mem_nil, or_false] at hd
    rcases hd with rfl | rfl
    · exact ⟨rfl, by dsimp only; omega⟩
    · refine ⟨rfl, ?_⟩
      dsimp only
      split
      · exact Or.inr rfl
      · exact Or.inl rfl

section Neighbours

variable {place : Int} {d : Decimal} {w : ℚ} (hd : d ∈ m.neighbours place) (hw : OnGrid place w)

include hd hw

/-- No multiple lies between the value and a neighbour below it. -/
theorem le_of_mem_neighbours (hLess : w ≤ m.value) : w ≤ d.value := by
  obtain ⟨below, -, hCeil, hMembers⟩ := m.exists_floor place
  obtain ⟨hExponent, hCoefficient⟩ := hMembers d hd
  have hLeast : (below : ℚ) * 10 ^ place ≤ d.value := by
    rw [Decimal.value, hExponent]
    refine mul_le_mul_of_nonneg_right (Nat.cast_le.mpr ?_) (le_of_lt (ten_zpow_pos place))
    omega
  refine le_trans (not_lt.mp fun hBetween => ?_) hLeast
  have hApart := OnGrid.add_le ⟨below, rfl⟩ hw hBetween
  rw [Nat.cast_add, Nat.cast_one, add_one_mul] at hCeil
  linarith

/-- No multiple lies between the value and a neighbour above it. -/
theorem ge_of_mem_neighbours (hMore : m.value < w) : d.value ≤ w := by
  obtain ⟨below, hFloor, -, hMembers⟩ := m.exists_floor place
  obtain ⟨hExponent, hCoefficient⟩ := hMembers d hd
  have hMost : d.value ≤ below * 10 ^ place + 10 ^ place := by
    rw [Decimal.value, hExponent, ← add_one_mul]
    refine mul_le_mul_of_nonneg_right ?_ (le_of_lt (ten_zpow_pos place))
    exact_mod_cast (show d.coefficient ≤ below + 1 by omega)
  exact le_trans hMost (OnGrid.add_le ⟨below, rfl⟩ hw (lt_of_le_of_lt hFloor hMore))

end Neighbours

/-- The nearest decimal reads back when half a step is less than what separates the magnitude from others. -/
theorem readsBack_near {place : Int}
    (hFine : (10 : ℚ) ^ place / 2 < max ((1 : ℚ) / 2 / oneUnits) (m.value / 2 ^ 54)) :
    m.ReadsBack (m.near place) :=
  Decimal.toBinary64_eq_of_close (lt_of_le_of_lt (m.roundsTo_near place).abs_sub_le hFine) false

/-! ## The search -/

/-- The search crosses no multiple on the grid that it starts on. -/
theorem bounds_shortestFrom {place : Int} {w : ℚ} (hw : OnGrid place w) (attempts : Nat) :
    (w ≤ m.value → w ≤ (m.shortestFrom place attempts).value) ∧
      (m.value < w → (m.shortestFrom place attempts).value ≤ w) := by
  induction attempts generalizing place with
  | zero =>
    rw [shortestFrom, value_exact]
    exact ⟨id, le_of_lt⟩
  | succ attempts ih =>
    unfold shortestFrom
    split
    · rename_i d hFound
      have hd := List.mem_of_find?_eq_some hFound
      exact ⟨le_of_mem_neighbours hd hw, ge_of_mem_neighbours hd hw⟩
    · exact ih (hw.finer (by omega))

theorem le_exponent_shortestFrom {place bound : Int} (hRead : m.ReadsBack (m.near bound)) (attempts : Nat)
    (hBound : bound ≤ place) (hReach : place < bound + attempts) :
    bound ≤ (m.shortestFrom place attempts).exponent := by
  induction attempts generalizing place with
  | zero => omega
  | succ attempts ih =>
    unfold shortestFrom
    split
    · rename_i d hFound
      obtain ⟨_, -, -, hMembers⟩ := m.exists_floor place
      rw [(hMembers d (List.mem_of_find?_eq_some hFound)).1]
      exact hBound
    · rename_i hNone
      have hMissed := List.find?_eq_none.mp hNone
      have hBelow : bound ≠ place := by
        rintro rfl
        exact hMissed _ (m.near_mem bound) (decide_eq_true hRead)
      exact ih (by omega) (by omega)

/-! ## The shortest decimal -/

theorem le_exponent_shortest {bound : Int} (hRead : m.ReadsBack (m.near bound)) (hLow : m.leading - 16 ≤ bound)
    (hHigh : bound ≤ m.leading) : bound ≤ m.shortest.exponent :=
  le_exponent_shortestFrom hRead 17 hHigh (by show m.leading < _; omega)

theorem half_seventeenth_lt (hNonzero : m.units ≠ 0) :
    (10 : ℚ) ^ (m.leading - 16) / 2 < m.value / 2 ^ 54 := by
  have hLow := (inDecade_leading hNonzero).1
  have hStep := ten_zpow_pos (m.leading - 16)
  rw [ten_zpow_eq_mul (show m.leading - 16 ≤ m.leading by omega),
    show (m.leading - (m.leading - 16)).toNat = 16 by omega] at hLow
  have hPower : (2 : ℚ) ^ 53 < (10 ^ 16 : Nat) := by norm_num
  rw [lt_div_iff₀ (by norm_num)]
  calc (10 : ℚ) ^ (m.leading - 16) / 2 * 2 ^ 54 = 2 ^ 53 * 10 ^ (m.leading - 16) := by ring
    _ < ((10 ^ 16 : Nat) : ℚ) * 10 ^ (m.leading - 16) := mul_lt_mul_of_pos_right hPower hStep
    _ ≤ m.value := hLow

/-- Seventeen digits read back. -/
theorem sub_le_exponent_shortest (hNonzero : m.units ≠ 0) : m.leading - 16 ≤ m.shortest.exponent :=
  le_exponent_shortest (readsBack_near (lt_max_of_lt_right (half_seventeenth_lt hNonzero))) (le_refl _)
    (by omega)

theorem half_ten_zpow_lt {k : Nat} (hUnits : oneUnits < 10 ^ k) :
    (10 : ℚ) ^ (-(k : Int)) / 2 < (1 : ℚ) / 2 / oneUnits := by
  have hOne : (0 : ℚ) < oneUnits := Nat.cast_pos.mpr oneUnits_pos
  have hUnitsCast : (oneUnits : ℚ) < 10 ^ k := by exact_mod_cast hUnits
  rw [zpow_neg, zpow_natCast, div_right_comm, div_lt_div_iff_of_pos_right (by norm_num), one_div]
  exact inv_strictAnti₀ hOne hUnitsCast

/-- Multiples of `10 ^ -324` are closer together than magnitudes. -/
theorem neg_le_exponent_shortest (hNonzero : m.units ≠ 0) : -324 ≤ m.shortest.exponent := by
  have hLeading := neg_le_leading hNonzero
  rcases Int.lt_or_le (-324) (m.leading - 16) with hMore | hLess
  · exact Int.le_trans (Int.le_of_lt hMore) (sub_le_exponent_shortest hNonzero)
  · have hUnits : oneUnits < 10 ^ 324 := by decide +kernel
    have hFine := half_ten_zpow_lt hUnits
    exact le_exponent_shortest (readsBack_near (lt_max_of_lt_left hFine)) hLess hLeading

/-- An integer of up to seventeen digits is its own nearest integer. -/
theorem exponent_shortest_nonneg (hIntegral : OnGrid 0 m.value)
    (hLow : 0 ≤ m.leading) (hHigh : m.leading ≤ 16) : 0 ≤ m.shortest.exponent := by
  refine le_exponent_shortest ?_ (by omega) hLow
  refine Decimal.toBinary64_eq_of_value ?_ false
  exact (m.roundsTo_near 0).eq_self hIntegral

/-- The shortest decimal lies on the side of the value on which it is of a number of one digit. -/
theorem le_shortest {w : ℚ} (hw : OnGrid m.leading w) (hLess : w ≤ m.value) : w ≤ m.shortest.value :=
  (bounds_shortestFrom hw 17).1 hLess

theorem shortest_le {w : ℚ} (hw : OnGrid m.leading w) (hMore : m.value < w) : m.shortest.value ≤ w :=
  (bounds_shortestFrom hw 17).2 hMore

theorem shortest_bounds (hNonzero : m.units ≠ 0) :
    10 ^ m.leading ≤ m.shortest.value ∧ m.shortest.value ≤ 10 ^ (m.leading + 1) := by
  obtain ⟨hLow, hHigh⟩ := inDecade_leading hNonzero
  exact ⟨le_shortest (onGrid_ten_zpow (le_refl _)) hLow, shortest_le (onGrid_ten_zpow (by omega)) hHigh⟩

/-- The leading digit of the shortest decimal is that of the magnitude, unless the decimal is the next power
of ten. -/
theorem leading_shortest (hNonzero : m.units ≠ 0) :
    m.shortest.leading = m.leading ∨
      m.shortest.leading = m.leading + 1 ∧ m.shortest.value = 10 ^ (m.leading + 1) := by
  obtain ⟨hLow, hHigh⟩ := shortest_bounds hNonzero
  rcases lt_or_eq_of_le hHigh with hLess | hEq
  · exact Or.inl (Decimal.leading_eq ⟨hLow, hLess⟩)
  · refine Or.inr ⟨Decimal.leading_eq ⟨le_of_eq hEq.symm, ?_⟩, hEq⟩
    rw [hEq]
    exact ten_zpow_lt_iff.mpr (by omega)

/-- The next power of ten is the shortest decimal of the magnitudes that are close to it. -/
theorem value_shortest_of_close (hNonzero : m.units ≠ 0)
    (hClose : 10 ^ (m.leading + 1) - m.value < m.value / 2 ^ 54) :
    m.shortest.value = 10 ^ (m.leading + 1) := by
  have hStep := ten_zpow_pos m.leading
  obtain ⟨hLow, hHigh⟩ := inDecade_leading hNonzero
  have hNear : (m.near m.leading).value = 10 ^ (m.leading + 1) := by
    refine (m.roundsTo_near m.leading).eq_of_close (onGrid_ten_zpow (by omega)) ?_
    rw [abs_sub_comm, abs_of_pos (by linarith)]
    rw [ten_zpow_succ] at hHigh
    linarith
  have hRead : m.ReadsBack (m.near m.leading) := by
    refine Decimal.toBinary64_eq_of_close ?_ false
    rw [hNear, abs_of_pos (by linarith)]
    exact lt_max_of_lt_right hClose
  have hShortest : m.shortest = m.near m.leading := by
    show m.shortestFrom m.leading 17 = _
    rw [shortestFrom, neighbours, List.find?_cons_of_pos]
    · rfl
    · exact decide_eq_true hRead
  rw [hShortest, hNear]

end Magnitude

end UnitConversion
