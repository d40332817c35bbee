import UnitConversion.Proofs.Conversion.Process
import UnitConversion.Proofs.Transform.Formula
import UnitConversion.Workspace

/-!
# Conversions by the transforms of the registry

A dispatcher converts by the transforms that the registry holds after it was built: from the primary
unit backward, to the primary unit forward, and between two minors forward and then backward. Such a
transform was in the registry before, or it computes what the table declares for its pair. All
equations are between numbers as they are computed, so that no error bound is involved.

* `process_by_transforms`: what a dispatcher makes of any two signatures and any number.
* `Standard.build_dispatcher`: the built-in dispatcher is one that was built.
-/

namespace UnitConversion

/-- A transform that the registry holds after a dispatcher was built on it was there before, or it is
built from the table. -/
theorem Dispatcher.declares_of_find? {α : Type} [Scalar α] {table : Declarations α}
    {r r' : Registry α} {groups : List Group} {result : Except (BuildError α) (Dispatcher α)}
    {pair : UnitPair} {found : Instance α} (h : build table r groups = (r', result))
    (hFound : r'.find? pair = some found) :
    r.find? pair = some found ∨ (r.find? pair = none ∧ table.Declares pair found.transform) := by
  have hGrown := build_grown table r groups
  rw [h] at hGrown
  rcases hGrown.find?_eq hFound with hBefore | ⟨hNone, hBuild⟩
  · exact Or.inl hBefore
  · exact Or.inr ⟨hNone, Declarations.declares_of_build hBuild⟩

/-- Two known signatures of which no group has both belong to different groups. -/
theorem not_exists_group_iff {groups : List Group} (hNodup : (signatures (catalogUnits groups)).Nodup)
    {a b : Text} :
    (¬ ∃ g ∈ groups, a ∈ signatures g.units ∧ b ∈ signatures g.units) ↔
      a ∉ signatures (catalogUnits groups) ∨ b ∉ signatures (catalogUnits groups) ∨
        ∃ g ∈ groups, ∃ g' ∈ groups, g ≠ g' ∧ a ∈ signatures g.units ∧ b ∈ signatures g'.units := by
  have hKnown : ∀ s, s ∈ signatures (catalogUnits groups) ↔ ∃ g ∈ groups, s ∈ signatures g.units := by
    intro s
    simp only [mem_signatures, mem_catalogUnits]
    constructor
    · rintro ⟨u, ⟨g, hg, hu⟩, rfl⟩
      exact ⟨g, hg, u, hu, rfl⟩
    · rintro ⟨g, hg, u, hu, rfl⟩
      exact ⟨u, ⟨g, hg, hu⟩, rfl⟩
  rw [hKnown, hKnown]
  constructor
  · intro hApart
    by_cases ha : ∃ g ∈ groups, a ∈ signatures g.units
    · by_cases hb : ∃ g ∈ groups, b ∈ signatures g.units
      · obtain ⟨g, hg, haMem⟩ := ha
        obtain ⟨g', hg', hbMem⟩ := hb
        refine Or.inr (Or.inr ⟨g, hg, g', hg', ?_, haMem, hbMem⟩)
        rintro rfl
        exact hApart ⟨g, hg, haMem, hbMem⟩
      · exact Or.inr (Or.inl hb)
    · exact Or.inl ha
  · rintro (ha | hb | ⟨g, hg, g', hg', hne, haMem, hbMem⟩) ⟨h, hh, ha', hb'⟩
    · exact ha ⟨h, hh, ha'⟩
    · exact hb ⟨h, hh, hb'⟩
    · refine hne ?_
      rw [group_eq_of_mem hNodup hg hh haMem ha', group_eq_of_mem hNodup hg' hh hbMem hb']

/-- **Conversions by transforms.** There is no conversion exactly when a signature is unknown or the two
belong to different groups; a known signature converts into itself without any arithmetic; all other
conversions of a group are those of the transforms that the registry holds for its minors. Such a
transform is the one that was there before, or else what the table declares; in a reachable registry
it is what some table declared. -/
theorem process_by_transforms {table : Declarations Binary64} {r r' : Registry Binary64}
    {groups : List Group} {d : Dispatcher Binary64}
    (h : Dispatcher.build table r groups = (r', .ok d)) :
    (∀ a b x, d.process a b x = none ↔
      a ∉ signatures (catalogUnits groups) ∨ b ∉ signatures (catalogUnits groups) ∨
        ∃ g ∈ groups, ∃ g' ∈ groups, g ≠ g' ∧ a ∈ signatures g.units ∧ b ∈ signatures g'.units) ∧
    (∀ a ∈ signatures (catalogUnits groups), ∀ x, d.process a a x = some x) ∧
    ∀ g ∈ groups, ∀ m ∈ g.minors, ∃ t : Instance Binary64, r'.find? (g.primary, m) = some t ∧
      (∀ x, d.process g.primary.signature m.signature x = some (t.transform.backward x)) ∧
      (∀ x, d.process m.signature g.primary.signature x = some (t.transform.forward x)) ∧
      (∀ n ∈ g.minors, n ≠ m → ∃ u : Instance Binary64, r'.find? (g.primary, n) = some u ∧ ∀ x,
        d.process m.signature n.signature x =
          some (u.transform.backward (t.transform.forward x)) ∧
        d.process m.signature n.signature x =
          (d.process m.signature g.primary.signature x).bind
            (d.process g.primary.signature n.signature)) ∧
      (r.find? (g.primary, m) = some t ∨
        (r.find? (g.primary, m) = none ∧ table.Declares (g.primary, m) t.transform)) ∧
      (r.Reachable → ∃ declared : Declarations Binary64,
        declared.Declares (g.primary, m) t.transform) := by
  have hServes := Dispatcher.build_ok h
  refine ⟨fun a b x => ?_, fun a ha x => hServes.process_self ha x, fun g hg m hm => ?_⟩
  · rw [hServes.process_eq_none_iff, not_exists_group_iff hServes.nodup]
  · obtain ⟨t, hFound⟩ := hServes.builtIn g hg m hm
    have hDeclared := Dispatcher.declares_of_find? h hFound
    refine ⟨t, hFound, hServes.process_fromPrimary hg hm hFound, hServes.process_toPrimary hg hm hFound,
      fun n hn hne => ?_, hDeclared, fun hReachable => ?_⟩
    · obtain ⟨u, hTarget⟩ := hServes.builtIn g hg n hn
      refine ⟨u, hTarget, fun x => ?_⟩
      rw [hServes.process_betweenMinors hg hm hn hne.symm hFound hTarget,
        hServes.process_toPrimary hg hm hFound]
      exact ⟨rfl, (hServes.process_fromPrimary hg hn hTarget _).symm⟩
    -- A transform that was there was built when its pair was fetched first, as declared at that time.
    · rcases hDeclared with hBefore | ⟨-, hNow⟩
      · obtain ⟨declared, hBuild⟩ := hReachable.build_eq hBefore
        exact ⟨declared, Declarations.declares_of_build hBuild⟩
      · exact ⟨table, hNow⟩

/-! ## The built-in dispatcher -/

namespace Standard

/-- The built-in dispatcher was built on the empty registry. -/
theorem build_dispatcher :
    ∃ r, Dispatcher.build declarations .empty catalog = (r, .ok dispatcher) := by
  have hOk : (Dispatcher.build declarations .empty catalog).2.isOk = true := by decide +kernel
  unfold dispatcher Dispatcher.ofGroups
  generalize Dispatcher.build declarations .empty catalog = result at hOk ⊢
  obtain ⟨r, built⟩ := result
  cases built with
  | error e => cases hOk
  | ok d => exact ⟨r, rfl⟩

/-- Between the two temperatures besides the primary one, the built-in dispatcher goes over it. -/
theorem process_by_transforms_standard :
    ∃ r, Dispatcher.build declarations .empty catalog = (r, .ok dispatcher) ∧
      (∀ x, dispatcher.process "f" "k" x =
        (dispatcher.process "f" "c" x).bind (dispatcher.process "c" "k")) ∧
      (∀ x, dispatcher.process "g" "m" x = none) ∧ ∀ x, dispatcher.process "p" "p" x = some x := by
  obtain ⟨r, hBuild⟩ := build_dispatcher
  obtain ⟨hNone, hSelf, hMinors⟩ := process_by_transforms hBuild
  obtain ⟨_, -, -, -, hBetween, -⟩ := hMinors temperature (by decide) fahrenheit (by decide)
  obtain ⟨_, -, hOver⟩ := hBetween kelvin (by decide) (by decide)
  refine ⟨r, hBuild, fun x => (hOver x).2, fun x => (hNone _ _ x).mpr (Or.inr (Or.inr ?_)),
    fun x => hSelf _ (by decide) x⟩
  exact ⟨weight, by decide, distance, by decide, by decide, by decide, by decide⟩

end Standard

end UnitConversion
