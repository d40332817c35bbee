import UnitConversion.Proofs.Binary64.Exact
import UnitConversion.Proofs.Conversion.Process
import UnitConversion.Proofs.Transform.Formula

/-!
# Exact conversions are coherent

Over the rationals every unit of a group has a scale of its own that stands in one-to-one correspondence
with the scale of the primary unit (`toScale_fromScale`, `fromScale_toScale`). All conversions of the
group are changes between such scales, those of a unit into itself included (`process_eq_scales`). So a
chain of conversions depends on its two ends only, and each conversion is undone by the opposite one.

* `processAlong`: a chain of conversions.
* `Declarations.exact`: the exact reading of declarations in binary64 numbers.
* `exact_conversions_cohere`: the triangle law, the round trip and the law of chains.
-/

namespace UnitConversion

/-- The exact reading of a table of declarations. -/
def Declarations.exact (table : Declarations Binary64) : Declarations Rat where
  formulas := table.formulas.map fun (pair, factor, offset) =>
    (pair, factor.exactValue, offset.exactValue)
  swapped := table.swapped

/-- Converts along a list of signatures, one after the other. -/
def Dispatcher.processAlong {α : Type} [Scalar α] (d : Dispatcher α) : Text → List Text → α → Option α
  | _, [], x => some x
  | a, b :: rest, x => (d.process a b x).bind (d.processAlong b rest)

/-! ## Scales -/

section Scales

variable {g : Group} {r : Registry Rat} {u : MeasureUnit}

theorem toScale_fromScale (hReachable : r.Reachable) (hBuilt : g.BuiltIn r) (hu : u ∈ g.units)
    (x : Rat) : g.toScale r u (g.fromScale r u x) = x := by
  rcases List.mem_cons.mp hu with rfl | hMinor
  · rw [g.fromScale_primary, g.toScale_primary]
  · obtain ⟨found, hFound⟩ := hBuilt u hMinor
    obtain ⟨table, hTable⟩ := hReachable.build_eq hFound
    obtain ⟨factor, offset, -, hBuild⟩ := Declarations.build_ok hTable
    rw [Group.fromScale_minor hMinor hFound, Group.toScale_minor hMinor hFound]
    exact Transform.forward_backward hBuild x

theorem fromScale_toScale (hReachable : r.Reachable) (hBuilt : g.BuiltIn r) (hu : u ∈ g.units)
    (x : Rat) : g.fromScale r u (g.toScale r u x) = x := by
  rcases List.mem_cons.mp hu with rfl | hMinor
  · rw [g.toScale_primary, g.fromScale_primary]
  · obtain ⟨found, hFound⟩ := hBuilt u hMinor
    obtain ⟨table, hTable⟩ := hReachable.build_eq hFound
    obtain ⟨factor, offset, -, hBuild⟩ := Declarations.build_ok hTable
    rw [Group.toScale_minor hMinor hFound, Group.fromScale_minor hMinor hFound]
    exact Transform.backward_forward hBuild x

end Scales

/-! ## Conversions -/

section Conversions

variable {d : Dispatcher Rat} {groups : List Group} {r : Registry Rat}
  (hServes : d.Serves groups r) (hReachable : r.Reachable) {g : Group} (hg : g ∈ groups)

include hServes hReachable hg

/-- Every conversion of a group is a change of scale, that of a unit into itself included. -/
theorem process_eq_scales {u v : MeasureUnit} (hu : u ∈ g.units) (hv : v ∈ g.units) (x : Rat) :
    d.process u.signature v.signature x = some (g.fromScale r v (g.toScale r u x)) := by
  by_cases hEq : u = v
  · subst hEq
    rw [fromScale_toScale hReachable (hServes.builtIn g hg) hu]
    exact hServes.process_self (signature_mem (mem_catalogUnits.mpr ⟨g, hg, hu⟩)) x
  · exact hServes.process_eq hg hu hv hEq x

theorem process_triangle {a b c : Text} (ha : a ∈ signatures g.units) (hb : b ∈ signatures g.units)
    (hc : c ∈ signatures g.units) (x : Rat) :
    (d.process a b x).bind (d.process b c) = d.process a c x := by
  obtain ⟨u, hu, rfl⟩ := mem_signatures.mp ha
  obtain ⟨v, hv, rfl⟩ := mem_signatures.mp hb
  obtain ⟨w, hw, rfl⟩ := mem_signatures.mp hc
  have hScales := fun {u v} => process_eq_scales hServes hReachable hg (u := u) (v := v)
  rw [hScales hu hv, hScales hu hw, Option.bind_some, hScales hv hw,
    toScale_fromScale hReachable (hServes.builtIn g hg) hv]

theorem processAlong_eq {a : Text} (ha : a ∈ signatures g.units) {path : List Text}
    (hPath : ∀ s ∈ path, s ∈ signatures g.units) (x : Rat) :
    d.processAlong a path x = d.process a (path.getLastD a) x := by
  induction path generalizing a x with
  | nil =>
    obtain ⟨u, hu, rfl⟩ := mem_signatures.mp ha
    exact (hServes.process_self (signature_mem (mem_catalogUnits.mpr ⟨g, hg, hu⟩)) x).symm
  | cons b rest ih =>
    obtain ⟨hb, hRest⟩ := List.forall_mem_cons.mp hPath
    -- The end of the rest lies in the group, so that the triangle law joins the first step to it.
    have hLast : rest.getLastD b ∈ signatures g.units := by
      rw [List.getLastD_eq_getLast?]
      cases hEnd : rest.getLast? with
      | none => exact hb
      | some s => exact hRest s (List.mem_of_getLast? hEnd)
    have hFrom : d.processAlong b rest = d.process b (rest.getLastD b) := funext (ih hb hRest)
    rw [Dispatcher.processAlong, hFrom, List.getLastD_cons]
    exact process_triangle hServes hReachable hg ha hb hLast x

end Conversions

/-- **Coherence of exact conversions.** Between units of one group, a conversion over a third unit is the
direct conversion, each conversion is undone by the opposite one, and a chain of conversions depends on
its two ends only. -/
theorem exact_conversions_cohere {table : Declarations Rat} {r r' : Registry Rat}
    {groups : List Group} {d : Dispatcher Rat} (hReachable : r.Reachable)
    (h : Dispatcher.build table r groups = (r', .ok d)) {g : Group} (hg : g ∈ groups) {a : Text}
    (ha : a ∈ signatures g.units) (x : Rat) :
    (∀ b ∈ signatures g.units, ∀ c ∈ signatures g.units, ∃ y z, d.process a b x = some y ∧
      d.process b c y = some z ∧ d.process a c x = some z) ∧
    (∀ b ∈ signatures g.units, ∃ y, d.process a b x = some y ∧ d.process b a y = some x) ∧
    ∀ path : List Text, (∀ s ∈ path, s ∈ signatures g.units) →
      d.processAlong a path x = d.process a (path.getLastD a) x := by
  have hServes := Dispatcher.build_ok h
  have hGrown := Dispatcher.build_grown table r groups
  rw [h] at hGrown
  have hReachable' : r'.Reachable := hReachable.grown hGrown
  have hTriangle : ∀ b ∈ signatures g.units, ∀ c ∈ signatures g.units, ∃ y z,
      d.process a b x = some y ∧ d.process b c y = some z ∧ d.process a c x = some z := by
    intro b hb c hc
    obtain ⟨y, hy⟩ := hServes.process_isSome hg ha hb x
    obtain ⟨z, hz⟩ := hServes.process_isSome hg ha hc x
    have hOver := process_triangle hServes hReachable' hg ha hb hc x
    rw [hy, hz] at hOver
    exact ⟨y, z, hy, hOver, hz⟩
  refine ⟨hTriangle, fun b hb => ?_, fun path hPath => ?_⟩
  · obtain ⟨y, z, hy, hz, hSelf⟩ := hTriangle b hb a ha
    obtain ⟨u, hu, rfl⟩ := mem_signatures.mp ha
    rw [hServes.process_self (signature_mem (mem_catalogUnits.mpr ⟨g, hg, hu⟩))] at hSelf
    cases hSelf
    exact ⟨y, hy, hz⟩
  · exact processAlong_eq hServes hReachable' hg ha hPath x

/-- The built-in temperatures, of which both formulas are written from the primary side. -/
theorem exact_temperatures_cohere :
    ∃ r d, Dispatcher.build Standard.declarations.exact .empty Standard.catalog = (r, .ok d) ∧
      ∀ x, (∃ y z, d.process "f" "k" x = some y ∧ d.process "k" "c" y = some z ∧
        d.process "f" "c" x = some z) ∧
        d.processAlong "f" ["c", "k", "k", "f"] x = d.process "f" "f" x := by
  have hOk : (Dispatcher.build Standard.declarations.exact .empty Standard.catalog).2.isOk = true := by
    decide +kernel
  cases hBuild : Dispatcher.build Standard.declarations.exact .empty Standard.catalog with
  | mk r result =>
    rw [hBuild] at hOk
    cases result with
    | error e => cases hOk
    | ok d =>
      refine ⟨r, d, rfl, fun x => ?_⟩
      obtain ⟨hTriangle, -, hChain⟩ := exact_conversions_cohere Registry.reachable_empty hBuild
        (g := Standard.temperature) (by decide) (a := "f") (by decide) x
      exact ⟨hTriangle "k" (by decide) "c" (by decide), hChain ["c", "k", "k", "f"] (by decide)⟩

end UnitConversion
