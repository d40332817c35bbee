import UnitConversion.Proofs.Conversion.Coherence
import UnitConversion.Proofs.Conversion.Transforms
import UnitConversion.Proofs.Transform.Overflow

/-!
# Conversions that overflow

A conversion between two minors goes over the primary unit, and the magnitude there may overflow where the
result would not. In the built-in catalog that is the only way for a conversion with a moderate exact
result to overflow: the scales of weights and distances multiply on the way to the primary unit, and the
temperatures do not leave the range at all.

* `Transform.ReadsAs`: a transform and its exact reading.
* `Group.Scales`, `Group.Shifts`: the two kinds of groups.
* `isFinite_toScale_iff`: when a magnitude is taken to the primary unit without an overflow.
* `Standard.process_isFinite_iff`: when a conversion with a moderate exact result does not overflow.
-/

namespace UnitConversion

/-! ## Exact readings -/

theorem Declarations.lookup_exact (table : Declarations Binary64) (pair : UnitPair) :
    table.exact.formulas.lookup pair =
      (table.formulas.lookup pair).map fun formula => (formula.1.exactValue, formula.2.exactValue) := by
  exact Association.lookup_map
    (fun formula : Binary64 × Binary64 => (formula.1.exactValue, formula.2.exactValue))
    table.formulas pair

/-- The exact transform has the exact values of the declared numbers. -/
structure Transform.ReadsAs (t : Transform Binary64) (e : Transform Rat) : Prop where
  factor : e.factor = t.factor.exactValue
  offset : e.offset = t.offset.exactValue
  swapped : e.swapped = t.swapped
  reciprocal : e.reciprocal = t.factor.exactValue⁻¹

theorem Declarations.readsAs_of_build {table : Declarations Binary64} {pair : UnitPair}
    {t : Transform Binary64} {e : Transform Rat} (h : table.build pair = .ok t)
    (hExact : table.exact.build pair = .ok e) : t.ReadsAs e := by
  obtain ⟨factor, offset, hLookup, hBuild⟩ := Declarations.build_ok h
  obtain ⟨factor', offset', hLookup', hBuild'⟩ := Declarations.build_ok hExact
  rw [table.lookup_exact, hLookup] at hLookup'
  cases hLookup'
  obtain ⟨-, rfl⟩ := Transform.build_ok hBuild
  obtain ⟨-, rfl⟩ := Transform.build_ok hBuild'
  exact ⟨rfl, rfl, rfl, rfl⟩

/-- On the empty registry a dispatcher is built from the declarations of its table only. -/
theorem Dispatcher.build_eq_of_find? {α : Type} [Scalar α] {table : Declarations α} {r : Registry α}
    {groups : List Group} {result : Except (BuildError α) (Dispatcher α)} {pair : UnitPair}
    {found : Instance α} (h : build table .empty groups = (r, result))
    (hFound : r.find? pair = some found) : table.build pair = .ok found.transform := by
  have hGrown := build_grown table .empty groups
  rw [h] at hGrown
  rcases hGrown.find?_eq hFound with hBefore | ⟨-, hBuild⟩
  · cases hBefore
  · exact hBuild

theorem Binary64.abs_exactValue_lt {x : Binary64} (hx : x.isFinite = true) :
    |x.exactValue| < 2 ^ 1024 - 2 ^ 970 := by
  have hLargest := (Magnitude.bounds_largest hx).2
  have hStep : (0 : ℚ) < 2 ^ 970 := by positivity
  rw [Magnitude.value_largest] at hLargest
  rw [Magnitude.overflow_eq]
  generalize (2 : ℚ) ^ 970 = step at *
  linarith

namespace Transform

variable {t : Transform Binary64} {e : Transform Rat} (hReads : t.ReadsAs e)

include hReads

theorem exact_forward_scale (hScale : t.IsScale) (x : Rat) :
    e.forward x = t.factor.exactValue * x := by
  rw [forward, hReads.swapped, hScale.swapped, if_neg Bool.false_ne_true, apply, hReads.factor,
    hReads.offset, hScale.offset, Binary64.exactValue_zero, add_zero]

theorem exact_forward_shift (hShift : t.IsShift) (x : Rat) :
    e.forward x = (x - t.offset.exactValue) * t.factor.exactValue⁻¹ := by
  rw [forward, hReads.swapped, hShift.swapped, if_pos rfl, solve, hReads.offset, hReads.reciprocal]

theorem exact_backward_shift (hShift : t.IsShift) (x : Rat) :
    e.backward x = t.factor.exactValue * x + t.offset.exactValue := by
  rw [backward, hReads.swapped, hShift.swapped, if_pos rfl, apply, hReads.factor, hReads.offset]

/-- The exact magnitude on the primary scale stays below the overflow as well. -/
theorem abs_exact_forward_shift_lt (hShift : t.IsShift) {x : Binary64} (hx : x.isFinite = true) :
    |e.forward x.exactValue| < 2 ^ 1024 - 2 ^ 970 := by
  have hLargest := (Magnitude.bounds_largest hx).2
  have hInverse : |t.factor.exactValue⁻¹| ≤ 1 := by
    rw [abs_inv, abs_of_nonneg (le_trans zero_le_one hShift.one_le)]
    exact inv_le_one_of_one_le₀ hShift.one_le
  have hDifference : |x.exactValue - t.offset.exactValue| < (2 ^ 54 - 1) * halfStep := by
    have hSum := abs_sub x.exactValue t.offset.exactValue
    have hOffset := lt_of_lt_of_le hShift.offset_small halfStep_large
    rw [Magnitude.value_largest] at hLargest
    change |x.exactValue| ≤ (2 ^ 54 - 2) * halfStep at hLargest
    generalize halfStep = h at *
    linarith
  rw [exact_forward_shift hReads hShift, abs_mul, two_pow_1024]
  calc |x.exactValue - t.offset.exactValue| * |t.factor.exactValue⁻¹| ≤
        |x.exactValue - t.offset.exactValue| * 1 :=
        mul_le_mul_of_nonneg_left hInverse (abs_nonneg _)
    _ < (2 ^ 54 - 1) * halfStep := by rwa [mul_one]

/-- A moderate exact result comes from a moderate magnitude on the primary scale. -/
theorem abs_le_moderate_of_exact_backward (hShift : t.IsShift) (hSteep : 7 / 4 ≤ t.factor.exactValue)
    {x : Rat} (hResult : |e.backward x| < 2 ^ 1023) : |x| ≤ Magnitude.moderate.value := by
  have hLarge := halfStep_large
  have hOffset := hShift.offset_small
  have hProduct : |t.factor.exactValue * x| ≤ |e.backward x| + |t.offset.exactValue| := by
    rw [exact_backward_shift hReads hShift]
    have hSum := abs_sub (t.factor.exactValue * x + t.offset.exactValue) t.offset.exactValue
    rwa [add_sub_cancel_right] at hSum
  have hFactor : 7 / 4 * |x| ≤ |t.factor.exactValue * x| := by
    rw [abs_mul, abs_of_nonneg (le_trans zero_le_one hShift.one_le)]
    exact mul_le_mul_of_nonneg_right hSteep (abs_nonneg x)
  rw [two_pow_1023] at hResult
  rw [Magnitude.value_moderate]
  generalize halfStep = h at *
  linarith

end Transform

/-! ## Groups -/

namespace Group

/-- All minors of the group are scales. -/
def Scales (g : Group) (r : Registry Binary64) : Prop :=
  ∀ m ∈ g.minors, ∀ t, r.find? (g.primary, m) = some t → t.transform.IsScale

/-- All minors of the group are shifts, by a factor of one or a steep one, and no two of them are steep. -/
structure Shifts (g : Group) (r : Registry Binary64) : Prop where
  shift : ∀ m ∈ g.minors, ∀ t, r.find? (g.primary, m) = some t → t.transform.IsShift
  factor : ∀ m ∈ g.minors, ∀ t, r.find? (g.primary, m) = some t →
    t.transform.factor.exactValue ≤ 1 ∨ 7 / 4 ≤ t.transform.factor.exactValue
  oneSteep : ∀ m ∈ g.minors, ∀ n ∈ g.minors, m ≠ n → ∀ t u, r.find? (g.primary, m) = some t →
    r.find? (g.primary, n) = some u →
      t.transform.factor.exactValue ≤ 1 ∨ u.transform.factor.exactValue ≤ 1

section Readings

variable {table : Declarations Binary64} {groups : List Group} {r : Registry Binary64}
  {exactRegistry : Registry Rat} {d : Dispatcher Binary64} {e : Dispatcher Rat}
  (h : Dispatcher.build table .empty groups = (r, .ok d))
  (hExact : Dispatcher.build table.exact .empty groups = (exactRegistry, .ok e))
  {g : Group} (hg : g ∈ groups) {u v : MeasureUnit} {x : Binary64}

include h hExact hg

/-- The two registries hold a transform of each minor and its exact reading. -/
theorem exists_readsAs {m : MeasureUnit} (hm : m ∈ g.minors) :
    ∃ t te, r.find? (g.primary, m) = some t ∧ exactRegistry.find? (g.primary, m) = some te ∧
      t.transform.ReadsAs te.transform := by
  obtain ⟨t, hFound⟩ := (Dispatcher.build_ok h).builtIn g hg m hm
  obtain ⟨te, hFound'⟩ := (Dispatcher.build_ok hExact).builtIn g hg m hm
  refine ⟨t, te, hFound, hFound', ?_⟩
  exact Declarations.readsAs_of_build (Dispatcher.build_eq_of_find? h hFound)
    (Dispatcher.build_eq_of_find? hExact hFound')

theorem isFinite_toScale_of_shifts (hShifts : g.Shifts r) (hu : u ∈ g.units)
    (hx : x.isFinite = true) : (g.toScale r u x).isFinite = true := by
  rcases List.mem_cons.mp hu with rfl | hMinor
  · rwa [g.toScale_primary]
  · obtain ⟨t, -, hFound, -, -⟩ := exists_readsAs h hExact hg hMinor
    rw [toScale_minor hMinor hFound]
    exact Transform.isFinite_forward_shift (hShifts.shift u hMinor t hFound) hx

/-- A magnitude is taken to the primary unit without an overflow when the exact one is below it. -/
theorem isFinite_toScale_iff (hShape : g.Scales r ∨ g.Shifts r) (hu : u ∈ g.units)
    (hx : x.isFinite = true) : (g.toScale r u x).isFinite = true ↔
      |g.toScale exactRegistry u x.exactValue| < 2 ^ 1024 - 2 ^ 970 := by
  rcases List.mem_cons.mp hu with rfl | hMinor
  · rw [g.toScale_primary, g.toScale_primary]
    exact iff_of_true hx (Binary64.abs_exactValue_lt hx)
  · obtain ⟨t, te, hFound, hFound', hReads⟩ := exists_readsAs h hExact hg hMinor
    rw [toScale_minor hMinor hFound, toScale_minor hMinor hFound']
    rcases hShape with hScales | hShifts
    · have hScale := hScales u hMinor t hFound
      rw [Transform.exact_forward_scale hReads hScale]
      exact Transform.isFinite_forward_scale_iff hScale hx
    · have hShift := hShifts.shift u hMinor t hFound
      exact iff_of_true (Transform.isFinite_forward_shift hShift hx)
        (Transform.abs_exact_forward_shift_lt hReads hShift hx)

/-- A magnitude on the primary scale of shifts is moderate when the exact one is, if it comes from a unit
that is not steep. -/
theorem bounds_toScale (hShifts : g.Shifts r) (hu : u ∈ g.units) (hx : x.isFinite = true)
    (hFlat : ∀ t, u ∈ g.minors → r.find? (g.primary, u) = some t →
      t.transform.factor.exactValue ≤ 1) {m : Magnitude}
    (hModerate : |g.toScale exactRegistry u x.exactValue| ≤ m.value) :
    m.Bounds (g.toScale r u x) := by
  rcases List.mem_cons.mp hu with rfl | hMinor
  · rw [g.toScale_primary] at hModerate ⊢
    exact ⟨hx, hModerate⟩
  · obtain ⟨t, te, hFound, hFound', hReads⟩ := exists_readsAs h hExact hg hMinor
    have hShift := hShifts.shift u hMinor t hFound
    have hOne : t.transform.factor.exactValue = 1 :=
      le_antisymm (hFlat t hMinor hFound) hShift.one_le
    rw [toScale_minor hMinor hFound', Transform.exact_forward_shift hReads hShift, hOne, inv_one,
      mul_one] at hModerate
    rw [toScale_minor hMinor hFound]
    exact Transform.bounds_forward_shift hShift hx hModerate

/-- A magnitude that was taken to the primary unit is taken from there to another unit without an
overflow, if the exact result is moderate. -/
theorem isFinite_fromScale_iff (hShape : g.Scales r ∨ g.Shifts r) (hu : u ∈ g.units)
    (hv : v ∈ g.units) (hne : u ≠ v) (hx : x.isFinite = true)
    (hModerate : |g.fromScale exactRegistry v (g.toScale exactRegistry u x.exactValue)| < 2 ^ 1023) :
    (g.fromScale r v (g.toScale r u x)).isFinite = true ↔ (g.toScale r u x).isFinite = true := by
  rcases List.mem_cons.mp hv with rfl | hMinor
  · rw [g.fromScale_primary]
  · obtain ⟨t, te, hFound, hFound', hReads⟩ := exists_readsAs h hExact hg hMinor
    rw [fromScale_minor hMinor hFound]
    rw [fromScale_minor hMinor hFound'] at hModerate
    rcases hShape with hScales | hShifts
    · exact Transform.isFinite_backward_scale_iff (hScales v hMinor t hFound)
    · have hShift := hShifts.shift v hMinor t hFound
      have hScale := isFinite_toScale_of_shifts h hExact hg hShifts hu hx
      refine iff_of_true ?_ hScale
      rcases hShifts.factor v hMinor t hFound with hFlat | hSteep
      · exact Transform.isFinite_backward_shift_of_le_one hShift hFlat hScale
      · apply Transform.isFinite_backward_shift hShift
        refine bounds_toScale h hExact hg hShifts hu hx (fun tu hMinor' hFound' => ?_)
          (Transform.abs_le_moderate_of_exact_backward hReads hShift hSteep hModerate)
        -- The other unit is steep, so that this one is not.
        rcases hShifts.oneSteep u hMinor' v hMinor hne tu t hFound' hFound with hOne | hOne
        · exact hOne
        · exact absurd (le_trans hSteep hOne) (by norm_num)

end Readings

end Group

/-! ## The built-in catalog -/

theorem Declarations.mem_formulas_of_build {α : Type} [Scalar α] {table : Declarations α}
    {pair : UnitPair} {t : Transform α} (h : table.build pair = .ok t) :
    (pair, t.factor, t.offset) ∈ table.formulas ∧ t.reciprocal = t.factor⁻¹ ∧
      t.swapped = table.swapped.contains pair := by
  obtain ⟨factor, offset, hLookup, hBuild⟩ := Declarations.build_ok h
  obtain ⟨-, rfl⟩ := Transform.build_ok hBuild
  exact ⟨Association.mem_of_lookup hLookup, rfl, rfl⟩

namespace Standard

theorem scale_of_mem : ∀ entry ∈ declarations.formulas, entry.1.1 ≠ celsius →
    declarations.swapped.contains entry.1 = false ∧ entry.2.1.isFinite = true ∧
      1 ≤ entry.2.1.exactValue ∧ entry.2.2 = .zero false := by
  decide +kernel

theorem shift_of_mem : ∀ entry ∈ declarations.formulas, entry.1.1 = celsius →
    declarations.swapped.contains entry.1 = true ∧ entry.2.1.isFinite = true ∧
      1 ≤ entry.2.1.exactValue ∧ entry.2.1.exactValue ≤ 2 ∧ entry.2.2.isFinite = true ∧
        |entry.2.2.exactValue| < 2 ^ 10 := by
  decide +kernel

theorem steep_of_mem : ∀ entry ∈ declarations.formulas, entry.1.1 = celsius →
    (entry.2.1.exactValue ≤ 1 ∨ 7 / 4 ≤ entry.2.1.exactValue) ∧
      ∀ other ∈ declarations.formulas, other.1.1 = celsius → entry.1.2 ≠ other.1.2 →
        entry.2.1.exactValue ≤ 1 ∨ other.2.1.exactValue ≤ 1 := by
  decide +kernel

/-- Weights and distances are scales, and temperatures are shifts. -/
theorem scales_or_shifts {r : Registry Binary64}
    (h : Dispatcher.build declarations .empty catalog = (r, .ok dispatcher)) (g : Group) :
    g.Scales r ∨ g.Shifts r := by
  have hDeclared {m : MeasureUnit} {t : Instance Binary64} (hFound : r.find? (g.primary, m) = some t) :=
    Declarations.mem_formulas_of_build (Dispatcher.build_eq_of_find? h hFound)
  by_cases hCelsius : g.primary = celsius
  · refine Or.inr ⟨fun m hm t hFound => ?_, fun m hm t hFound => ?_,
      fun m hm n hn hne t u hFound hFound' => ?_⟩
    · obtain ⟨hEntry, hReciprocal, hSwapped⟩ := hDeclared hFound
      obtain ⟨hContains, hFactor, hOne, hTwo, hOffset, hSmall⟩ := shift_of_mem _ hEntry hCelsius
      exact ⟨hSwapped.trans hContains, hFactor, hOne, hTwo, hOffset, hSmall, hReciprocal⟩
    · exact (steep_of_mem _ (hDeclared hFound).1 hCelsius).1
    · exact (steep_of_mem _ (hDeclared hFound).1 hCelsius).2 _ (hDeclared hFound').1 hCelsius hne
  · refine Or.inl fun m hm t hFound => ?_
    obtain ⟨hEntry, hReciprocal, hSwapped⟩ := hDeclared hFound
    obtain ⟨hContains, hFactor, hOne, hOffset⟩ := scale_of_mem _ hEntry hCelsius
    exact ⟨hSwapped.trans hContains, hFactor, hOne, hOffset, hReciprocal⟩

/-- A conversion between different units with a moderate exact result overflows exactly when the exact
magnitude in the primary unit does. -/
theorem process_isFinite_iff {exactRegistry : Registry Rat} {e : Dispatcher Rat}
    (hExact : Dispatcher.build declarations.exact .empty catalog = (exactRegistry, .ok e)) {g : Group}
    (hg : g ∈ catalog) {u v : MeasureUnit} (hu : u ∈ g.units) (hv : v ∈ g.units) (hne : u ≠ v)
    {x : Binary64} (hx : x.isFinite = true) {result : Rat}
    (hResult : e.process u.signature v.signature x.exactValue = some result)
    (hModerate : |result| < 2 ^ 1023) :
    ∃ y middle, dispatcher.process u.signature v.signature x = some y ∧
      e.process u.signature g.primary.signature x.exactValue = some middle ∧
      (y.isFinite = true ↔ |middle| < 2 ^ 1024 - 2 ^ 970) := by
  obtain ⟨r, hBuild⟩ := build_dispatcher
  have hServes := Dispatcher.build_ok hBuild
  have hServesExact := Dispatcher.build_ok hExact
  have hGrown := Dispatcher.build_grown declarations.exact .empty catalog
  rw [hExact] at hGrown
  have hReachable : exactRegistry.Reachable := Registry.reachable_empty.grown hGrown
  have hShape := scales_or_shifts hBuild g
  rw [hServesExact.process_eq hg hu hv hne, Option.some.injEq] at hResult
  subst hResult
  refine ⟨_, g.toScale exactRegistry u x.exactValue, hServes.process_eq hg hu hv hne x, ?_, ?_⟩
  · rw [process_eq_scales hServesExact hReachable hg hu g.primary_mem, g.fromScale_primary]
  · rw [Group.isFinite_fromScale_iff hBuild hExact hg hShape hu hv hne hx hModerate,
      Group.isFinite_toScale_iff hBuild hExact hg hShape hu hx]

end Standard

end UnitConversion
