import UnitConversion.Proofs.Conversion.Transforms

/-!
# Quantities and conversions

A dispatcher converts inside of groups, while requests and lookups speak of quantities. Building a
dispatcher checks that no signature comes twice; it does not check that no quantity does. So a quantity
stands for a group, and quantities decide which units convert into each other, exactly when no two
groups have the same quantity.

* `Serves.process_isSome_iff`: two units convert into each other when they belong to one group.
* `Serves.groupFor_eq_some_iff`: with distinct quantities, each is looked up as its only group.
* `quantities_decide_iff`: when quantities decide convertibility and lookups.
* `Standard.process_separated`: two groups of one quantity.
-/

namespace UnitConversion

namespace Dispatcher

variable {α : Type} {d : Dispatcher α} {groups : List Group} {r : Registry α}

/-- The lookup of a quantity gives a group of that quantity, if there is one. -/
theorem mem_of_groupFor {quantity : Text} {g : Group} (h : d.groupFor quantity = some g) :
    g ∈ d.groups ∧ g.quantity = quantity := by
  constructor
  · exact List.mem_of_find?_eq_some h
  · have hSatisfies := List.find?_some h
    simpa using hSatisfies

namespace Serves

variable (hServes : d.Serves groups r)

include hServes

theorem exists_group_of_unit? {s : Text} {u : MeasureUnit} (h : d.unit? s = some u) :
    ∃ g ∈ groups, u ∈ g.units ∧ u.signature = s := by
  obtain ⟨hu, hSignature⟩ := hServes.unit?_eq_some_iff.mp h
  obtain ⟨g, hg, hMem⟩ := mem_catalogUnits.mp hu
  exact ⟨g, hg, hMem, hSignature⟩

theorem unit?_of_mem {g : Group} (hg : g ∈ groups) {u : MeasureUnit} (hu : u ∈ g.units) :
    d.unit? u.signature = some u :=
  hServes.unit?_eq_some_iff.mpr ⟨mem_catalogUnits.mpr ⟨g, hg, hu⟩, rfl⟩

/-- With distinct quantities, the lookup of a quantity gives its only group. -/
theorem groupFor_eq_some_iff (hDistinct : (groups.map (·.quantity)).Nodup) {quantity : Text}
    {g : Group} : d.groupFor quantity = some g ↔ g ∈ groups ∧ g.quantity = quantity := by
  constructor
  · intro h
    have hFound := mem_of_groupFor h
    rwa [hServes.groups_eq] at hFound
  · rintro ⟨hg, hQuantity⟩
    have hSome : (d.groups.find? fun h => h.quantity == quantity).isSome = true := by
      rw [List.find?_isSome, hServes.groups_eq]
      exact ⟨g, hg, by simpa using hQuantity⟩
    obtain ⟨h, hFound⟩ := Option.isSome_iff_exists.mp hSome
    have hLookup : d.groupFor quantity = some h := hFound
    obtain ⟨hh, hSame⟩ := mem_of_groupFor hLookup
    rw [hServes.groups_eq] at hh
    rw [hLookup, group_eq_of_quantity_eq hDistinct hh hg (hSame.trans hQuantity.symm)]

/-- Units convert into each other exactly when they belong to one group. -/
theorem process_isSome_iff [Scalar α] {g h : Group} (hg : g ∈ groups) (hh : h ∈ groups)
    {u v : MeasureUnit} (hu : u ∈ g.units) (hv : v ∈ h.units) (x : α) :
    (∃ y, d.process u.signature v.signature x = some y) ↔ g = h := by
  constructor
  · rintro ⟨y, hProcess⟩
    by_contra hne
    have hNone : d.process u.signature v.signature x = none := by
      rw [hServes.process_eq_none_iff]
      rintro ⟨k, hk, hSource, hTarget⟩
      apply hne
      rw [group_eq_of_mem hServes.nodup hg hk (signature_mem hu) hSource,
        group_eq_of_mem hServes.nodup hh hk (signature_mem hv) hTarget]
    rw [hNone] at hProcess
    cases hProcess
  · rintro rfl
    exact hServes.process_isSome hg (signature_mem hu) (signature_mem hv) x

/-- With distinct quantities, there is no conversion between two units exactly when they differ in their
quantities. -/
theorem process_eq_none_iff_quantity_ne [Scalar α] (hDistinct : (groups.map (·.quantity)).Nodup)
    {s t : Text} {u v : MeasureUnit} (hs : d.unit? s = some u) (ht : d.unit? t = some v) (x : α) :
    d.process s t x = none ↔ u.quantity ≠ v.quantity := by
  obtain ⟨g, hg, hu, rfl⟩ := hServes.exists_group_of_unit? hs
  obtain ⟨h, hh, hv, rfl⟩ := hServes.exists_group_of_unit? ht
  have hSome := hServes.process_isSome_iff hg hh hu hv x
  rw [← Option.ne_none_iff_exists'] at hSome
  have hGroups : g = h ↔ u.quantity = v.quantity := by
    rw [quantity_of_mem hu, quantity_of_mem hv]
    exact ⟨congrArg _, group_eq_of_quantity_eq hDistinct hg hh⟩
  rw [ne_eq, ← hGroups, ← hSome, ne_eq, not_not]

/-- No two groups have the same quantity as soon as groups of one quantity are one group: no group comes
twice, because its primary unit would. -/
theorem nodup_quantities_of_inj
    (hInj : ∀ g ∈ groups, ∀ h ∈ groups, g.quantity = h.quantity → g = h) :
    (groups.map (·.quantity)).Nodup := by
  have hGroups : groups.Nodup := by
    refine (pairwise_disjoint_signatures hServes.nodup).imp fun {g h} hDisjoint hEq => ?_
    subst hEq
    have hPrimary := signature_mem g.primary_mem
    exact hDisjoint hPrimary hPrimary
  exact hGroups.map_on hInj

end Serves

end Dispatcher

/-- **Quantities decide convertibility.** For a dispatcher that was built, the following say the same:
any two known units of one quantity convert into each other, in both directions and whatever the
magnitude; each known unit belongs to the group that is found for its quantity; no two groups have the
same quantity. Conversions between known units then fail for different quantities and for nothing
else. -/
theorem quantities_decide_iff {table : Declarations Binary64} {r r' : Registry Binary64}
    {groups : List Group} {d : Dispatcher Binary64}
    (h : Dispatcher.build table r groups = (r', .ok d)) :
    ((∀ s t u v, d.unit? s = some u → d.unit? t = some v → u.quantity = v.quantity → ∀ x,
        (∃ y, d.process s t x = some y) ∧ ∃ y, d.process t s x = some y) ↔
      (groups.map (·.quantity)).Nodup) ∧
    ((∀ s u, d.unit? s = some u → ∃ g, d.groupFor u.quantity = some g ∧ u ∈ g.units) ↔
      (groups.map (·.quantity)).Nodup) ∧
    ((groups.map (·.quantity)).Nodup → ∀ s t u v, d.unit? s = some u → d.unit? t = some v → ∀ x,
      (d.process s t x = none ↔ u.quantity ≠ v.quantity)) := by
  have hServes := Dispatcher.build_ok h
  refine ⟨⟨fun hConvert => ?_, fun hDistinct s t u v hs ht hQuantity x => ?_⟩,
    ⟨fun hLookup => ?_, fun hDistinct s u hs => ?_⟩,
    fun hDistinct s t u v hs ht x => hServes.process_eq_none_iff_quantity_ne hDistinct hs ht x⟩
  · apply hServes.nodup_quantities_of_inj
    intro g hg k hk hQuantity
    have hPrimary : g.primary.quantity = k.primary.quantity := by
      rw [quantity_of_mem g.primary_mem, quantity_of_mem k.primary_mem, hQuantity]
    obtain ⟨hSome, -⟩ := hConvert _ _ _ _ (hServes.unit?_of_mem hg g.primary_mem)
      (hServes.unit?_of_mem hk k.primary_mem) hPrimary (.zero false)
    exact (hServes.process_isSome_iff hg hk g.primary_mem k.primary_mem _).mp hSome
  · have hThere := hServes.process_eq_none_iff_quantity_ne hDistinct hs ht x
    have hBack := hServes.process_eq_none_iff_quantity_ne hDistinct ht hs x
    constructor
    · apply Option.ne_none_iff_exists'.mp
      intro hNone
      exact hThere.mp hNone hQuantity
    · apply Option.ne_none_iff_exists'.mp
      intro hNone
      exact hBack.mp hNone hQuantity.symm
  · apply hServes.nodup_quantities_of_inj
    intro g hg k hk hQuantity
    -- One group is found for both quantities, and it has the primary units of both groups.
    obtain ⟨m, hFound, hMem⟩ := hLookup _ _ (hServes.unit?_of_mem hg g.primary_mem)
    obtain ⟨n, hFound', hMem'⟩ := hLookup _ _ (hServes.unit?_of_mem hk k.primary_mem)
    rw [quantity_of_mem g.primary_mem] at hFound
    rw [quantity_of_mem k.primary_mem, ← hQuantity, hFound] at hFound'
    obtain rfl := Option.some.inj hFound'
    have hm : m ∈ groups := by
      have hThere := (Dispatcher.mem_of_groupFor hFound).1
      rwa [hServes.groups_eq] at hThere
    rw [group_eq_of_mem hServes.nodup hg hm (signature_mem g.primary_mem) (signature_mem hMem),
      group_eq_of_mem hServes.nodup hk hm (signature_mem k.primary_mem) (signature_mem hMem')]
  · obtain ⟨g, hg, hu, -⟩ := hServes.exists_group_of_unit? hs
    refine ⟨g, ?_, hu⟩
    exact (hServes.groupFor_eq_some_iff hDistinct).mpr ⟨hg, (quantity_of_mem hu).symm⟩

namespace Standard

/-- In the built-in catalog quantities decide convertibility: a pound is converted into poods, and it
belongs to the group of its quantity. -/
theorem quantities_decide_pound :
    (∀ x, ∃ y, dispatcher.process pound.signature pood.signature x = some y) ∧
      ∃ g, dispatcher.groupFor pound.quantity = some g ∧ pound ∈ g.units := by
  obtain ⟨r, hBuild⟩ := build_dispatcher
  obtain ⟨hConvert, hLookup, -⟩ := quantities_decide_iff hBuild
  have hServes := Dispatcher.build_ok hBuild
  have hDistinct : (catalog.map (·.quantity)).Nodup := by decide
  have hWeight : weight ∈ catalog := by decide
  have hPound := hServes.unit?_of_mem hWeight (u := pound) (by decide)
  have hPood := hServes.unit?_of_mem hWeight (u := pood) (by decide)
  refine ⟨fun x => ?_, hLookup.mpr hDistinct _ _ hPound⟩
  exact (hConvert.mpr hDistinct _ _ _ _ hPound hPood rfl x).1

/-- A group of weights with a gram only. -/
def gramAlone : Group := ⟨"weight", gram, [], by decide, by decide⟩

/-- A group of weights with a pound only. -/
def poundAlone : Group := ⟨"weight", pound, [], by decide, by decide⟩

/-- A dispatcher is built for two groups of one quantity, yet it converts nothing from one into the other,
and one of the units does not belong to the group that is found for its quantity. -/
theorem process_separated :
    ∃ r d, Dispatcher.build declarations .empty [gramAlone, poundAlone] = (r, .ok d) ∧
      d.unit? "g" = some gram ∧ d.unit? "lb" = some pound ∧ gram.quantity = pound.quantity ∧
      (∀ x, d.process "g" "lb" x = none) ∧
      ∃ u g, d.unit? u.signature = some u ∧ d.groupFor u.quantity = some g ∧ u ∉ g.units := by
  have hOk : (Dispatcher.build declarations .empty [gramAlone, poundAlone]).2.isOk = true := by
    decide +kernel
  obtain ⟨r, d, hBuild⟩ := Dispatcher.exists_build_of_isOk hOk
  have hServes := Dispatcher.build_ok hBuild
  have hGram := hServes.unit?_of_mem (g := gramAlone) (by simp) gramAlone.primary_mem
  have hPound := hServes.unit?_of_mem (g := poundAlone) (by simp) poundAlone.primary_mem
  have hApart : gramAlone ≠ poundAlone := by decide
  refine ⟨r, d, hBuild, hGram, hPound, rfl, fun x => ?_, pound, gramAlone, hPound, ?_, by decide⟩
  · rw [← Option.not_isSome_iff_eq_none, Option.isSome_iff_exists]
    intro hSome
    apply hApart
    exact (hServes.process_isSome_iff (by simp) (by simp) gramAlone.primary_mem
      poundAlone.primary_mem x).mp hSome
  · rw [Dispatcher.groupFor, hServes.groups_eq]
    rfl

end Standard

end UnitConversion
