import UnitConversion.Proofs.Binary64.Invalid
import UnitConversion.Proofs.Conversion.Transforms

/-!
# Conversions without invalid operations

The only check of a declaration, that its factor is not negligible, is a comparison, and a factor that is
not a number passes every comparison. Nor are infinite factors and offsets kept out. So a dispatcher can be
built whose conversions of finite numbers are not numbers, and which declarations lead to that is said
here: a formula must be free of invalid operations (`Transform.IsSound`), and on the way from one minor to
another no infinity may meet an offset that cancels it (`Group.IsSound`).

* `Transform.apply_ne_nan_iff`: which formulas give numbers.
* `Transform.backward_infinite_eq_nan_iff`: which infinity an offset cancels.
* `conversions_ne_nan_iff`: which groups have conversions that stay numbers.
* `Standard.process_undefinedPound`: a dispatcher with a factor that is not a number.
-/

namespace UnitConversion

theorem Binary64.smallerThan_finite (s t : Bool) (a b : Magnitude) :
    (Binary64.finite s a).smallerThan (.finite t b) = decide (a.units < b.units) := rfl

/-! ## Formulas -/

namespace Transform

/-- The formula gives a number for every finite number: its factor is finite, its offset is a number, and
an infinite offset does not meet a product that overflows. -/
structure IsSound (t : Transform Binary64) : Prop where
  factor_finite : t.factor.isFinite = true
  offset_ne_nan : t.offset ≠ .nan
  factor_le_one : t.offset.isFinite = false → |t.factor.exactValue| ≤ 1

/-- The sign of the infinity on the scale of the primary unit that an infinite offset cancels on the way to
the minor. -/
def cancelled? (t : Transform Binary64) : Option Bool :=
  match t.factor, t.offset with
  | .finite negative _, .infinite s => some (if t.swapped then !(s ^^ negative) else s)
  | _, _ => none

theorem isSound_of_isFinite {t : Transform Binary64} (hFactor : t.factor.isFinite = true)
    (hOffset : t.offset.isFinite = true) : t.IsSound := by
  refine ⟨hFactor, ?_, ?_⟩
  · intro hNan
    rw [hNan] at hOffset
    cases hOffset
  · intro hInfinite
    rw [hInfinite] at hOffset
    cases hOffset

theorem cancelled?_of_isFinite {t : Transform Binary64} (hOffset : t.offset.isFinite = true) :
    t.cancelled? = none := by
  obtain ⟨s, m, hEq⟩ := Binary64.isFinite_iff.mp hOffset
  rw [cancelled?, hEq]
  cases t.factor <;> rfl

theorem abs_exactValue_le_one_iff {s : Bool} {m : Magnitude} :
    |(Binary64.finite s m).exactValue| ≤ 1 ↔ m.units ≤ oneUnits := by
  have hUnits : (0 : ℚ) < oneUnits := Nat.cast_pos.mpr oneUnits_pos
  rw [Binary64.abs_exactValue_finite, div_le_one hUnits]
  exact Nat.cast_le

/-- A formula gives numbers for all finite numbers exactly when it is free of invalid operations. -/
theorem apply_ne_nan_iff (t : Transform Binary64) :
    (∀ x : Binary64, x.isFinite = true → t.apply x ≠ .nan) ↔ t.IsSound := by
  constructor
  · intro hApply
    have hFactor : t.factor.isFinite = true := by
      by_contra hInfinite
      apply hApply (.zero false) rfl
      refine Binary64.add_eq_nan_iff.mpr (Or.inl ?_)
      exact (Binary64.mul_zero_eq_nan_iff false).mpr (by simpa using hInfinite)
    have hOffset : t.offset ≠ .nan := by
      intro hNan
      apply hApply (.zero false) rfl
      exact Binary64.add_eq_nan_iff.mpr (Or.inr (Or.inl hNan))
    refine ⟨hFactor, hOffset, fun hInfinite => ?_⟩
    obtain ⟨s, f, hFactorEq⟩ := Binary64.isFinite_iff.mp hFactor
    obtain ⟨negative, hOffsetEq⟩ : ∃ negative, t.offset = .infinite negative := by
      cases hCase : t.offset with
      | nan => exact absurd hCase hOffset
      | infinite negative => exact ⟨negative, rfl⟩
      | finite negative m =>
        rw [hCase] at hInfinite
        cases hInfinite
    rw [hFactorEq, abs_exactValue_le_one_iff]
    by_contra hLarge
    -- The largest magnitude overflows, with the sign that is opposite to that of the offset.
    have hProduct : t.factor * .finite (s ^^ !negative) .largest = .infinite !negative := by
      rw [hFactorEq, Binary64.mul_largest (Nat.not_le.mp hLarge)]
      simp
    apply hApply (.finite (s ^^ !negative) .largest) rfl
    refine Binary64.add_eq_nan_iff.mpr (Or.inr (Or.inr ⟨!negative, hProduct, ?_⟩))
    rw [hOffsetEq, Bool.not_not]
  · intro hSound x hx hNan
    obtain ⟨s, f, hFactorEq⟩ := Binary64.isFinite_iff.mp hSound.factor_finite
    obtain ⟨t', a, rfl⟩ := Binary64.isFinite_iff.mp hx
    rcases Binary64.add_eq_nan_iff.mp hNan with hProduct | hOffset | ⟨sign, hProduct, hOffset⟩
    · rw [hFactorEq, Binary64.mul_finite] at hProduct
      exact Binary64.nearest_ne_nan _ _ _ hProduct
    · exact hSound.offset_ne_nan hOffset
    · have hOne := hSound.factor_le_one (by rw [hOffset]; rfl)
      have hBounds : Magnitude.largest.Bounds (Binary64.finite t' a * t.factor) := by
        refine Magnitude.bounds_mul_of_le_one (Magnitude.bounds_largest rfl) ?_
        refine ⟨hSound.factor_finite, ?_⟩
        rwa [Magnitude.value_one]
      have hFinite := hBounds.1
      rw [Binary64.mul_comm, hProduct] at hFinite
      cases hFinite

/-! ## Transforms that were built -/

section Built

variable {swapped : Bool} {factor offset : Binary64} {t : Transform Binary64}

/-- A magnitude that is less than any factor may be. -/
def tiny : Magnitude := ⟨1 * 2 ^ 1040, representable_mul_pow (by decide) (by decide +kernel)⟩

/-- A finite factor that is not negligible is far from the smallest magnitudes. -/
theorem two_pow_le_units {s : Bool} {m : Magnitude}
    (h : Scalar.negligible (Binary64.finite s m) = false) : 2 ^ 1040 ≤ m.units := by
  have hFinite : epsilon.isFinite = true := by decide +kernel
  have hTiny : epsilon.smallerThan (.finite false tiny) = false := by decide +kernel
  obtain ⟨negative, e, hEpsilon⟩ := Binary64.isFinite_iff.mp hFinite
  have hFactor : (Binary64.finite s m).smallerThan epsilon = false := h
  rw [hEpsilon, Binary64.smallerThan_finite, decide_eq_false_iff_not, Nat.not_lt] at hTiny hFactor
  have hUnits : tiny.units = 2 ^ 1040 := by simp only [tiny, Nat.one_mul]
  rw [← hUnits]
  exact Nat.le_trans hTiny hFactor

/-- The factor of a transform that was built and its reciprocal are neither zero nor infinite. -/
theorem reciprocal_of_build (h : build swapped factor offset = .ok t) (hSound : t.IsSound) :
    ∃ s f b, t.factor = .finite s f ∧ 0 < f.units ∧ t.reciprocal = .finite s b ∧ 0 < b.units := by
  obtain ⟨hFactor, rfl⟩ := build_ok h
  obtain ⟨s, f, hEq⟩ := Binary64.isFinite_iff.mp hSound.factor_finite
  have hEq' : factor = .finite s f := hEq
  subst hEq'
  have hLarge := two_pow_le_units hFactor
  obtain ⟨b, hPos, hInv⟩ := Binary64.inv_eq_finite hLarge s
  exact ⟨s, f, b, rfl, Nat.lt_of_lt_of_le (Nat.two_pow_pos _) hLarge, hInv, hPos⟩

theorem solve_eq_nan_iff (h : build swapped factor offset = .ok t) (hSound : t.IsSound)
    (x : Binary64) : t.solve x = .nan ↔ x = .nan ∨ ∃ s, x = .infinite s ∧ t.offset = .infinite s := by
  obtain ⟨s, f, b, -, -, hReciprocal, hPos⟩ := reciprocal_of_build h hSound
  have hOffset := hSound.offset_ne_nan
  rw [solve, hReciprocal, Binary64.mul_eq_nan_iff_of_pos hPos, Binary64.sub_eq_nan_iff]
  simp [hOffset]

theorem solve_ne_nan (h : build swapped factor offset = .ok t) (hSound : t.IsSound) {x : Binary64}
    (hx : x.isFinite = true) : t.solve x ≠ .nan := by
  obtain ⟨s, m, rfl⟩ := Binary64.isFinite_iff.mp hx
  rw [ne_eq, solve_eq_nan_iff h hSound]
  rintro (hNan | ⟨_, hInfinite, -⟩)
  · cases hNan
  · cases hInfinite

theorem forward_ne_nan (h : build swapped factor offset = .ok t) (hSound : t.IsSound) {x : Binary64}
    (hx : x.isFinite = true) : t.forward x ≠ .nan := by
  unfold forward
  split
  · exact solve_ne_nan h hSound hx
  · exact t.apply_ne_nan_iff.mpr hSound x hx

theorem backward_ne_nan (h : build swapped factor offset = .ok t) (hSound : t.IsSound) {x : Binary64}
    (hx : x.isFinite = true) : t.backward x ≠ .nan := by
  unfold backward
  split
  · exact t.apply_ne_nan_iff.mpr hSound x hx
  · exact solve_ne_nan h hSound hx

theorem apply_infinite_eq_nan_iff (h : build swapped factor offset = .ok t) (hSound : t.IsSound)
    (s : Bool) : t.apply (.infinite s) = .nan ↔
      ∃ negative f, t.factor = .finite negative f ∧ t.offset = .infinite !(s ^^ negative) := by
  obtain ⟨negative, f, b, hFactor, hPos, -, -⟩ := reciprocal_of_build h hSound
  have hOffset := hSound.offset_ne_nan
  rw [apply, Binary64.mul_comm, hFactor, Binary64.infinite_mul_of_pos hPos, Binary64.add_eq_nan_iff]
  simp [hOffset]

/-- On the way to the minor, an infinity is taken to no number exactly when the offset cancels it. -/
theorem backward_infinite_eq_nan_iff (h : build swapped factor offset = .ok t) (hSound : t.IsSound)
    (s : Bool) : t.backward (.infinite s) = .nan ↔ t.cancelled? = some s := by
  obtain ⟨negative, f, b, hFactor, -, -, -⟩ := reciprocal_of_build h hSound
  have hApply := apply_infinite_eq_nan_iff h hSound s
  have hSolve := solve_eq_nan_iff h hSound (.infinite s)
  unfold backward cancelled?
  rw [hFactor] at hApply ⊢
  cases hOffset : t.offset with
  | nan => exact absurd hOffset hSound.offset_ne_nan
  | finite sign m =>
    rw [hOffset] at hApply hSolve
    cases t.swapped <;> simp [hApply, hSolve]
  | infinite sign =>
    rw [hOffset] at hApply hSolve
    cases t.swapped with
    | false =>
      show t.solve _ = _ ↔ some sign = some s
      rw [hSolve]
      simp [eq_comm]
    | true =>
      show t.apply _ = _ ↔ some (!(sign ^^ negative)) = some s
      rw [hApply]
      constructor
      · rintro ⟨_, _, hFactorEq, hOffsetEq⟩
        cases hFactorEq
        cases hOffsetEq
        simp
      · intro hSign
        obtain rfl := Option.some.inj hSign
        exact ⟨negative, f, rfl, by simp⟩

end Built

end Transform

/-! ## Groups -/

/-- All formulas of the group are free of invalid operations, and on the way from one minor to another no
finite number is taken to an infinity that the second offset cancels. -/
structure Group.IsSound (g : Group) (r : Registry Binary64) : Prop where
  formulas : ∀ m ∈ g.minors, ∀ t, r.find? (g.primary, m) = some t → t.transform.IsSound
  routes : ∀ m ∈ g.minors, ∀ n ∈ g.minors, m ≠ n → ∀ t u, r.find? (g.primary, m) = some t →
    r.find? (g.primary, n) = some u → ∀ x s, x.isFinite = true →
      t.transform.forward x = .infinite s → u.transform.cancelled? ≠ some s

theorem Group.isSound_of_isFinite {g : Group} {r : Registry Binary64}
    (hFinite : ∀ m ∈ g.minors, ∀ t, r.find? (g.primary, m) = some t →
      t.transform.factor.isFinite = true ∧ t.transform.offset.isFinite = true) : g.IsSound r := by
  refine ⟨fun m hm t ht => ?_, fun m hm n hn hne t u ht hu x s hx hInfinite => ?_⟩
  · obtain ⟨hFactor, hOffset⟩ := hFinite m hm t ht
    exact Transform.isSound_of_isFinite hFactor hOffset
  · obtain ⟨-, hOffset⟩ := hFinite n hn u hu
    rw [Transform.cancelled?_of_isFinite hOffset]
    intro hSome
    cases hSome

/-- A transform of a reachable registry was built from a factor and an offset. -/
theorem Registry.Reachable.exists_build {α : Type} [Scalar α] {r : Registry α} (hReachable : r.Reachable)
    {pair : UnitPair} {found : Instance α} (hFound : r.find? pair = some found) :
    ∃ swapped factor offset, Transform.build swapped factor offset = .ok found.transform := by
  obtain ⟨table, hTable⟩ := hReachable.build_eq hFound
  obtain ⟨factor, offset, -, hBuild⟩ := Declarations.build_ok hTable
  exact ⟨_, factor, offset, hBuild⟩

namespace Dispatcher.Serves

variable {d : Dispatcher Binary64} {groups : List Group} {r : Registry Binary64}
  (hServes : d.Serves groups r) (hReachable : r.Reachable) {g : Group} (hg : g ∈ groups)

include hServes hReachable hg

/-- In a sound group no finite number is converted into something that is not a number. -/
theorem process_ne_nan (hSound : g.IsSound r) {a b : Text} (ha : a ∈ signatures g.units)
    (hb : b ∈ signatures g.units) {x : Binary64} (hx : x.isFinite = true) :
    ∃ y, d.process a b x = some y ∧ y ≠ .nan := by
  obtain ⟨u, hu, rfl⟩ := mem_signatures.mp ha
  obtain ⟨v, hv, rfl⟩ := mem_signatures.mp hb
  by_cases hSame : u = v
  · subst hSame
    refine ⟨x, hServes.process_self (signature_mem (mem_catalogUnits.mpr ⟨g, hg, hu⟩)) x, ?_⟩
    rintro rfl
    cases hx
  rcases List.mem_cons.mp hu with rfl | hMinor
  · rcases List.mem_cons.mp hv with rfl | hMinor'
    · exact absurd rfl hSame
    · obtain ⟨target, hTarget⟩ := hServes.builtIn g hg v hMinor'
      obtain ⟨_, _, _, hBuild⟩ := hReachable.exists_build hTarget
      refine ⟨_, hServes.process_fromPrimary hg hMinor' hTarget x, ?_⟩
      exact Transform.backward_ne_nan hBuild (hSound.formulas v hMinor' target hTarget) hx
  · obtain ⟨source, hSource⟩ := hServes.builtIn g hg u hMinor
    obtain ⟨_, _, _, hBuild⟩ := hReachable.exists_build hSource
    have hForward := Transform.forward_ne_nan hBuild (hSound.formulas u hMinor source hSource) hx
    rcases List.mem_cons.mp hv with rfl | hMinor'
    · exact ⟨_, hServes.process_toPrimary hg hMinor hSource x, hForward⟩
    · obtain ⟨target, hTarget⟩ := hServes.builtIn g hg v hMinor'
      obtain ⟨_, _, _, hBuild'⟩ := hReachable.exists_build hTarget
      have hTargetSound := hSound.formulas v hMinor' target hTarget
      refine ⟨_, hServes.process_betweenMinors hg hMinor hMinor' hSame hSource hTarget x, ?_⟩
      -- What arrives at the primary unit is finite, or an infinity that is not cancelled.
      cases hMiddle : source.transform.forward x with
      | nan => exact absurd hMiddle hForward
      | finite s m => exact Transform.backward_ne_nan hBuild' hTargetSound rfl
      | infinite s =>
        rw [ne_eq, Transform.backward_infinite_eq_nan_iff hBuild' hTargetSound]
        exact hSound.routes u hMinor v hMinor' hSame source target hSource hTarget x s hx hMiddle

/-- A group of which no finite number is converted into something that is not a number is sound. -/
theorem isSound_of_process (hNumbers : ∀ a ∈ signatures g.units, ∀ b ∈ signatures g.units,
      ∀ x : Binary64, x.isFinite = true → ∃ y, d.process a b x = some y ∧ y ≠ .nan) :
    g.IsSound r := by
  have hResult : ∀ {a b x y}, a ∈ signatures g.units → b ∈ signatures g.units →
      x.isFinite = true → d.process a b x = some y → y ≠ .nan := by
    intro a b x y ha hb hx hProcess
    obtain ⟨y', hProcess', hNumber⟩ := hNumbers a ha b hb x hx
    rw [hProcess] at hProcess'
    cases hProcess'
    exact hNumber
  have hPrimary : g.primary.signature ∈ signatures g.units := signature_mem g.primary_mem
  have hFormulas : ∀ m ∈ g.minors, ∀ t, r.find? (g.primary, m) = some t → t.transform.IsSound := by
    intro m hm t ht
    have hMinor : m.signature ∈ signatures g.units := signature_mem (Group.minor_mem hm)
    apply t.transform.apply_ne_nan_iff.mp
    intro x hx
    -- The formula stands in one of the two directions.
    have hForward := hResult hMinor hPrimary hx (hServes.process_toPrimary hg hm ht x)
    have hBackward := hResult hPrimary hMinor hx (hServes.process_fromPrimary hg hm ht x)
    unfold Transform.forward at hForward
    unfold Transform.backward at hBackward
    cases hSwapped : t.transform.swapped with
    | false => simpa [hSwapped] using hForward
    | true => simpa [hSwapped] using hBackward
  refine ⟨hFormulas, fun m hm n hn hne t u ht hu x s hx hInfinite hCancelled => ?_⟩
  obtain ⟨_, _, _, hBuild⟩ := hReachable.exists_build hu
  have hNan := (Transform.backward_infinite_eq_nan_iff hBuild (hFormulas n hn u hu) s).mpr hCancelled
  have hProcess := hServes.process_betweenMinors hg hm hn hne ht hu x
  rw [hInfinite, hNan] at hProcess
  exact hResult (signature_mem (Group.minor_mem hm)) (signature_mem (Group.minor_mem hn)) hx
    hProcess rfl

end Dispatcher.Serves

/-- **Conversions that stay numbers.** The conversions of a group take every finite number to a number,
finite or infinite, exactly when the group is sound, which it is if all factors and offsets are finite. A
transform that was not there before has the factor and the offset that the table declares; that is any
factor that is not negligible, and any offset. -/
theorem conversions_ne_nan_iff {table : Declarations Binary64} {r r' : Registry Binary64}
    {groups : List Group} {d : Dispatcher Binary64} (hReachable : r.Reachable)
    (h : Dispatcher.build table r groups = (r', .ok d)) {g : Group} (hg : g ∈ groups) :
    ((∀ a ∈ signatures g.units, ∀ b ∈ signatures g.units, ∀ x : Binary64, x.isFinite = true →
        ∃ y, d.process a b x = some y ∧ y ≠ .nan) ↔ g.IsSound r') ∧
    ((∀ m ∈ g.minors, ∀ t, r'.find? (g.primary, m) = some t →
        t.transform.factor.isFinite = true ∧ t.transform.offset.isFinite = true) → g.IsSound r') ∧
    ∀ m ∈ g.minors, ∃ t, r'.find? (g.primary, m) = some t ∧
      (r.find? (g.primary, m) = none →
        table.formulas.lookup (g.primary, m) = some (t.transform.factor, t.transform.offset) ∧
          Scalar.negligible t.transform.factor = false) := by
  have hServes := Dispatcher.build_ok h
  have hGrown := Dispatcher.build_grown table r groups
  rw [h] at hGrown
  have hReachable' : r'.Reachable := hReachable.grown hGrown
  refine ⟨⟨hServes.isSound_of_process hReachable' hg, fun hSound a ha b hb x hx =>
    hServes.process_ne_nan hReachable' hg hSound ha hb hx⟩, Group.isSound_of_isFinite, fun m hm => ?_⟩
  obtain ⟨t, hFound⟩ := hServes.builtIn g hg m hm
  refine ⟨t, hFound, fun hNone => ?_⟩
  rcases hGrown.find?_eq hFound with hBefore | ⟨-, hBuild⟩
  · rw [hNone] at hBefore
    cases hBefore
  · obtain ⟨factor, offset, hLookup, hTransform⟩ := Declarations.build_ok hBuild
    obtain ⟨hFactor, hEq⟩ := Transform.build_ok hTransform
    rw [hEq]
    exact ⟨hLookup, hFactor⟩

namespace Standard

theorem isFinite_declarations : ∀ entry ∈ declarations.formulas,
    entry.2.1.isFinite = true ∧ entry.2.2.isFinite = true := by
  decide +kernel

/-- The built-in temperatures stay numbers, also on the way over the primary unit. -/
theorem conversions_ne_nan_temperatures :
    ∃ r, Dispatcher.build declarations .empty catalog = (r, .ok dispatcher) ∧
      ∀ x : Binary64, x.isFinite = true → ∃ y, dispatcher.process "f" "k" x = some y ∧ y ≠ .nan := by
  obtain ⟨r, hBuild⟩ := build_dispatcher
  obtain ⟨hNumbers, hFinite, hDeclared⟩ := conversions_ne_nan_iff Registry.reachable_empty hBuild
    (g := temperature) (by decide)
  have hSound : temperature.IsSound r := by
    apply hFinite
    intro m hm t ht
    obtain ⟨t', ht', hTable⟩ := hDeclared m hm
    obtain rfl := Option.some.inj (ht.symm.trans ht')
    obtain ⟨hLookup, -⟩ := hTable rfl
    exact isFinite_declarations _ (Association.mem_of_lookup hLookup)
  exact ⟨r, hBuild, hNumbers.mpr hSound "f" (by decide) "k" (by decide)⟩

/-- The built-in declarations with a factor for the pound that is not a number. -/
def undefinedPound : Declarations Binary64 :=
  declarations.declare (gram, pound) .nan (.zero false) false

/-- A factor that is not a number passes the check of factors, and the dispatcher that is built with it
converts no pounds into something that is not a number. -/
theorem process_undefinedPound :
    ∃ r d, Dispatcher.build undefinedPound .empty catalog = (r, .ok d) ∧
      d.process "lb" "g" (.zero false) = some .nan := by
  have hResult : (Dispatcher.build undefinedPound .empty catalog).2.toOption.bind
      (·.process "lb" "g" (.zero false)) = some .nan := by decide +kernel
  cases hBuild : Dispatcher.build undefinedPound .empty catalog with
  | mk r result =>
    rw [hBuild] at hResult
    cases result with
    | error e => cases hResult
    | ok d => exact ⟨r, d, rfl, hResult⟩

end Standard

end UnitConversion
