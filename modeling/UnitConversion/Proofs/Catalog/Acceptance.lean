import UnitConversion.Proofs.Catalog.Index

/-!
# What is accepted as a catalog

Units form a group, and groups form a catalog, or else the first thing that is wrong with them is
reported. Here this is said without the order in which anything is looked at: what a list of units has
to be, and which of its units is to blame if it is not (`Group.Verdict`, `UnitIndex.Verdict`).

* `Group.ofUnits?_eq_iff`: the units that form a group, and the errors of those that do not.
* `unitIndex_eq_iff`: the groups that have an index, and the error of those that do not.
* `catalog_accepted`: both, and what the index gives for a signature.
-/

namespace UnitConversion

/-! ## Units of another quantity -/

/-- The unit is the first one of another quantity. -/
def FirstForeign (quantity : Text) (units : List MeasureUnit) (u : MeasureUnit) : Prop :=
  ∃ before after, units = before ++ u :: after ∧ (∀ v ∈ before, v.quantity = quantity) ∧
    u.quantity ≠ quantity

theorem find?_foreign_eq_some_iff {quantity : Text} {units : List MeasureUnit} {u : MeasureUnit} :
    units.find? (fun v => v.quantity ≠ quantity) = some u ↔ FirstForeign quantity units u := by
  rw [List.find?_eq_some_iff_append, FirstForeign]
  constructor
  · rintro ⟨hForeign, before, after, hSplit, hBefore⟩
    exact ⟨before, after, hSplit, by simpa using hBefore, by simpa using hForeign⟩
  · rintro ⟨before, after, hSplit, hBefore, hForeign⟩
    exact ⟨by simpa using hForeign, before, after, hSplit, by simpa using hBefore⟩

theorem find?_foreign_eq_none_iff {quantity : Text} {units : List MeasureUnit} :
    units.find? (fun v => v.quantity ≠ quantity) = none ↔ ∀ v ∈ units, v.quantity = quantity := by
  rw [List.find?_eq_none]
  simp

/-! ## Groups -/

namespace Group

/-- What becomes of a primary unit and minors that are to form a group. -/
inductive Verdict (quantity : Text) (primary : MeasureUnit) (minors : List MeasureUnit) :
    Except CatalogError Group → Prop where
  | formed (hDistinct : (signatures (primary :: minors)).Nodup)
      (hSame : ∀ u ∈ primary :: minors, u.quantity = quantity) :
      Verdict quantity primary minors (.ok ⟨quantity, primary, minors, hDistinct, hSame⟩)
  | repeated (hTwice : ¬ (signatures (primary :: minors)).Nodup) :
      Verdict quantity primary minors (.error (.duplicateInGroup quantity))
  | foreign {u : MeasureUnit} (hDistinct : (signatures (primary :: minors)).Nodup)
      (hFirst : FirstForeign quantity (primary :: minors) u) :
      Verdict quantity primary minors (.error (.foreignUnit u.signature u.quantity quantity))

variable {quantity : Text} {primary : MeasureUnit} {minors : List MeasureUnit}

theorem verdict_ofUnits? : Verdict quantity primary minors (ofUnits? quantity primary minors) := by
  unfold ofUnits?
  split
  · rename_i hDistinct
    split
    · rename_i u hForeign
      exact .foreign hDistinct (find?_foreign_eq_some_iff.mp hForeign)
    · rename_i hNone
      exact .formed hDistinct (find?_foreign_eq_none_iff.mp hNone)
  · rename_i hTwice
    exact .repeated hTwice

/-- Units have one verdict only. -/
theorem Verdict.unique {result other : Except CatalogError Group}
    (h : Verdict quantity primary minors result) (h' : Verdict quantity primary minors other) :
    result = other := by
  cases h with
  | formed hDistinct hSame =>
    have hNone := find?_foreign_eq_none_iff.mpr hSame
    cases h' with
    | formed => rfl
    | repeated hTwice => exact absurd hDistinct hTwice
    | foreign _ hFirst =>
      rw [find?_foreign_eq_some_iff.mpr hFirst] at hNone
      cases hNone
  | repeated hTwice =>
    cases h' with
    | formed hDistinct => exact absurd hDistinct hTwice
    | repeated => rfl
    | foreign hDistinct => exact absurd hDistinct hTwice
  | foreign hDistinct hFirst =>
    have hSome := find?_foreign_eq_some_iff.mpr hFirst
    cases h' with
    | formed _ hSame =>
      rw [find?_foreign_eq_none_iff.mpr hSame] at hSome
      cases hSome
    | repeated hTwice => exact absurd hDistinct hTwice
    | foreign _ hFirst' =>
      rw [find?_foreign_eq_some_iff.mpr hFirst'] at hSome
      cases hSome
      rfl

theorem ofUnits?_eq_iff {result : Except CatalogError Group} :
    ofUnits? quantity primary minors = result ↔ Verdict quantity primary minors result := by
  constructor
  · rintro rfl
    exact verdict_ofUnits?
  · exact verdict_ofUnits?.unique

end Group

/-! ## Catalogs -/

theorem not_nodup_of_repeated {before after : List MeasureUnit} {u : MeasureUnit}
    (hThere : u.signature ∈ signatures before) :
    ¬ (signatures (before ++ u :: after)).Nodup := by
  intro hDistinct
  rw [signatures, List.map_append, List.map_cons] at hDistinct
  exact (List.nodup_append.mp hDistinct).2.2 _ hThere _ List.mem_cons_self rfl

namespace FirstRepeated

variable {units : List MeasureUnit} {u v : MeasureUnit}

theorem not_nodup (h : FirstRepeated units u) : ¬ (signatures units).Nodup := by
  obtain ⟨before, after, rfl, -, hThere⟩ := h
  exact not_nodup_of_repeated hThere

/-- A list has one first unit only whose signature comes before: if another one stood behind it, the
signatures before that one would not be distinct. -/
theorem unique (hu : FirstRepeated units u) (hv : FirstRepeated units v) : u = v := by
  obtain ⟨before, after, hSplit, hDistinct, hThere⟩ := hu
  obtain ⟨before', after', hSplit', hDistinct', hThere'⟩ := hv
  rw [hSplit, List.append_eq_append_iff] at hSplit'
  rcases hSplit' with ⟨between, rfl, hRest⟩ | ⟨between, rfl, hRest⟩
  · cases between with
    | nil => exact (List.cons.inj hRest).1
    | cons w between =>
      obtain ⟨rfl, -⟩ := List.cons.inj hRest
      exact absurd hDistinct' (not_nodup_of_repeated hThere)
  · cases between with
    | nil => exact (List.cons.inj hRest).1.symm
    | cons w between =>
      obtain ⟨rfl, -⟩ := List.cons.inj hRest
      exact absurd hDistinct (not_nodup_of_repeated hThere')

end FirstRepeated

namespace UnitIndex

/-- What becomes of units that are to be indexed. -/
inductive Verdict (units : List MeasureUnit) : Except CatalogError UnitIndex → Prop where
  | indexed (hDistinct : (signatures units).Nodup) : Verdict units (.ok (ofUnits units))
  | repeated {u : MeasureUnit} (hFirst : FirstRepeated units u) :
      Verdict units (.error (.declaredTwice u.signature))

end UnitIndex

theorem unitIndex_eq_iff {groups : List Group} {result : Except CatalogError UnitIndex} :
    unitIndex groups = result ↔ UnitIndex.Verdict (catalogUnits groups) result := by
  constructor
  · rintro rfl
    by_cases hDistinct : (signatures (catalogUnits groups)).Nodup
    · rw [unitIndex_eq_ok_iff.mpr ⟨hDistinct, rfl⟩]
      exact .indexed hDistinct
    · obtain ⟨u, hFirst, hError⟩ := unitIndex_of_repeated hDistinct
      rw [hError]
      exact .repeated hFirst
  · intro h
    cases h with
    | indexed hDistinct => exact unitIndex_eq_ok_iff.mpr ⟨hDistinct, rfl⟩
    | repeated hFirst =>
      obtain ⟨u, hFirst', hError⟩ := unitIndex_of_repeated hFirst.not_nodup
      rw [hError, hFirst'.unique hFirst]

/-- **Accepted catalogs.** For any name of a quantity and any units, a group is formed exactly when the
signatures are distinct and all units are of that quantity; a repeated signature is reported before a unit
of another quantity, and of those the first. For any groups there is an index exactly when all of their
signatures are distinct; it holds the units in the order of the groups, each primary unit before its
minors, and gives each signature its unit. Otherwise the first signature that comes twice is reported. -/
theorem catalog_accepted :
    (∀ quantity primary minors result,
      Group.ofUnits? quantity primary minors = result ↔
        Group.Verdict quantity primary minors result) ∧
    ∀ groups, (∀ result, unitIndex groups = result ↔
        UnitIndex.Verdict (groups.flatMap fun g => g.primary :: g.minors) result) ∧
      ∀ index, unitIndex groups = .ok index → ∀ s u,
        index.lookup s = some u ↔ (∃ g ∈ groups, u ∈ g.primary :: g.minors) ∧ u.signature = s := by
  refine ⟨fun _ _ _ _ => Group.ofUnits?_eq_iff, fun groups => ⟨fun _ => unitIndex_eq_iff, ?_⟩⟩
  intro index hIndex s u
  obtain ⟨hDistinct, rfl⟩ := unitIndex_eq_ok_iff.mp hIndex
  rw [UnitIndex.lookup_ofUnits_eq_some_iff hDistinct, mem_catalogUnits]
  rfl

/-- A second pound among weights, a pound among distances and the weights twice are refused, and the
built-in catalog has an index. -/
theorem Standard.catalog_accepted_pound :
    Group.ofUnits? "weight" gram [pound, ⟨"lb", "libra", "mass"⟩] =
        .error (.duplicateInGroup "weight") ∧
      Group.ofUnits? "distance" meter [mile, pound] =
        .error (.foreignUnit "lb" "weight" "distance") ∧
      unitIndex [distance, weight, weight] = .error (.declaredTwice "g") ∧
      ∃ index, unitIndex catalog = .ok index ∧ index.lookup pound.signature = some pound := by
  obtain ⟨hGroups, hCatalogs⟩ := catalog_accepted
  refine ⟨?_, ?_, ?_, ?_⟩
  · exact (hGroups _ _ _ _).mpr (.repeated (by decide))
  · exact (hGroups _ _ _ _).mpr (.foreign (by decide) ⟨[meter, mile], [], rfl, by decide, by decide⟩)
  · refine ((hCatalogs _).1 _).mpr (.repeated (u := gram) ?_)
    exact ⟨[meter, mile, verst, gram, pound, pood], [pound, pood], rfl, by decide, by decide⟩
  · have hIndex := ((hCatalogs catalog).1 _).mpr (.indexed (by decide))
    have hFound := (hCatalogs catalog).2 _ hIndex pound.signature pound
    exact ⟨_, hIndex, hFound.mpr ⟨⟨weight, by decide, by decide⟩, rfl⟩⟩

end UnitConversion
