import Mathlib.Data.List.Nodup
import Mathlib.Data.List.Pairwise
import UnitConversion.Association
import UnitConversion.Catalog.Standard

/-!
# The index of a catalog

A list of groups has an index exactly when no signature comes twice in it, within a group or across
groups. The index then holds all units under their signatures, and nothing else.

* `unitIndex_eq_ok_iff`: when there is an index, and which one it is.
* `lookup_ofUnits_eq_some_iff`: what the index gives for a signature.
* `unitIndex_of_repeated`: the first signature that comes twice is reported.
* `group_eq_of_mem`: of distinct signatures each belongs to one group.
-/

namespace UnitConversion

theorem mem_signatures {units : List MeasureUnit} {s : Text} :
    s ∈ signatures units ↔ ∃ u ∈ units, u.signature = s := by
  simp [signatures]

theorem signature_mem {units : List MeasureUnit} {u : MeasureUnit} (h : u ∈ units) :
    u.signature ∈ signatures units := mem_signatures.mpr ⟨u, h, rfl⟩

theorem eq_of_signature_eq {units : List MeasureUnit} (hNodup : (signatures units).Nodup)
    {u v : MeasureUnit} (hu : u ∈ units) (hv : v ∈ units) (h : u.signature = v.signature) :
    u = v := List.inj_on_of_nodup_map hNodup hu hv h

theorem mem_catalogUnits {groups : List Group} {u : MeasureUnit} :
    u ∈ catalogUnits groups ↔ ∃ g ∈ groups, u ∈ g.units := by
  simp [catalogUnits]

theorem Group.primary_mem (g : Group) : g.primary ∈ g.units := List.mem_cons_self

theorem Group.minor_mem {g : Group} {m : MeasureUnit} (h : m ∈ g.minors) : m ∈ g.units :=
  List.mem_cons_of_mem _ h

theorem Group.nodup_minors (g : Group) : (signatures g.minors).Nodup := (List.nodup_cons.mp g.nodup).2

theorem Group.primary_signature_ne {g : Group} {m : MeasureUnit} (h : m ∈ g.minors) :
    g.primary.signature ≠ m.signature := by
  intro hEq
  refine (List.nodup_cons.mp g.nodup).1 ?_
  show g.primary.signature ∈ signatures g.minors
  rw [hEq]
  exact signature_mem h

theorem quantity_of_mem {g : Group} {u : MeasureUnit} (hu : u ∈ g.units) : u.quantity = g.quantity :=
  g.homogeneous u hu

theorem group_eq_of_quantity_eq {groups : List Group} (hDistinct : (groups.map (·.quantity)).Nodup)
    {g h : Group} (hg : g ∈ groups) (hh : h ∈ groups) (hQuantity : g.quantity = h.quantity) :
    g = h := List.inj_on_of_nodup_map hDistinct hg hh hQuantity

/-! ## Groups of a catalog without a repeated signature -/

section Distinct

variable {groups : List Group} (hNodup : (signatures (catalogUnits groups)).Nodup)

include hNodup

theorem pairwise_disjoint_signatures :
    groups.Pairwise fun g h => (signatures g.units).Disjoint (signatures h.units) := by
  have hFlat : (groups.flatMap fun g => signatures g.units).Nodup := by
    simpa [signatures, catalogUnits, List.map_flatMap] using hNodup
  exact (List.nodup_flatMap.mp hFlat).2

/-- A signature belongs to one group. -/
theorem group_eq_of_mem {g h : Group} (hg : g ∈ groups) (hh : h ∈ groups) {s : Text}
    (hs : s ∈ signatures g.units) (hs' : s ∈ signatures h.units) : g = h := by
  by_contra hne
  have hSymm : Std.Symm fun g h : Group => (signatures g.units).Disjoint (signatures h.units) :=
    ⟨fun _ _ hDisjoint => List.disjoint_symm hDisjoint⟩
  exact (pairwise_disjoint_signatures hNodup).forall hg hh hne hs hs'

end Distinct

/-! ## The index -/

namespace UnitIndex

/-- Units under their signatures. -/
def ofUnits (units : List MeasureUnit) : UnitIndex := units.map fun u => (u.signature, u)

theorem eq_of_lookup_ofUnits {units : List MeasureUnit} {s : Text} {u : MeasureUnit}
    (h : (ofUnits units).lookup s = some u) : u ∈ units ∧ u.signature = s := by
  obtain ⟨v, hv, hPair⟩ := List.mem_map.mp (Association.mem_of_lookup h)
  simp only [Prod.mk.injEq] at hPair
  obtain ⟨rfl, rfl⟩ := hPair
  exact ⟨hv, rfl⟩

theorem lookup_ofUnits_isSome {units : List MeasureUnit} {s : Text} :
    ((ofUnits units).lookup s).isSome = true ↔ s ∈ signatures units := by
  induction units with
  | nil => simp [ofUnits, signatures]
  | cons u rest ih =>
    rw [ofUnits, signatures] at *
    by_cases hEq : s = u.signature
    · simp [hEq]
    · have hKey : (s == u.signature) = false := by simpa using hEq
      simp only [List.map_cons, List.lookup_cons, hKey, List.mem_cons, hEq, false_or]
      exact ih

theorem lookup_ofUnits_eq_some_iff {units : List MeasureUnit} (hNodup : (signatures units).Nodup)
    {s : Text} {u : MeasureUnit} :
    (ofUnits units).lookup s = some u ↔ u ∈ units ∧ u.signature = s := by
  constructor
  · exact eq_of_lookup_ofUnits
  · rintro ⟨hu, rfl⟩
    obtain ⟨v, hFound⟩ := Option.isSome_iff_exists.mp (lookup_ofUnits_isSome.mpr (signature_mem hu))
    obtain ⟨hv, hEq⟩ := eq_of_lookup_ofUnits hFound
    rw [hFound, eq_of_signature_eq hNodup hv hu hEq]

theorem nodup_signatures_concat {before : List MeasureUnit} {u : MeasureUnit} :
    (signatures (before ++ [u])).Nodup ↔
      (signatures before).Nodup ∧ u.signature ∉ signatures before := by
  rw [signatures, List.map_append, List.map_singleton, List.nodup_append_comm,
    List.singleton_append, List.nodup_cons, and_comm, signatures]

/-- Adding units to an index succeeds as long as all signatures are different. -/
theorem extend_eq_ok_iff {before units : List MeasureUnit} {index : UnitIndex}
    (hBefore : (signatures before).Nodup) :
    extend (ofUnits before) units = .ok index ↔
      (signatures (before ++ units)).Nodup ∧ index = ofUnits (before ++ units) := by
  induction units generalizing before with
  | nil => simp [extend, hBefore, eq_comm]
  | cons u rest ih =>
    have hAppend : ofUnits before ++ [(u.signature, u)] = ofUnits (before ++ [u]) := by
      simp [ofUnits]
    have hAssoc : before ++ u :: rest = before ++ [u] ++ rest := by simp
    unfold extend
    rw [hAssoc]
    by_cases hThere : u.signature ∈ signatures before
    · rw [if_pos (lookup_ofUnits_isSome.mpr hThere)]
      constructor
      · intro h
        cases h
      · rintro ⟨hAll, -⟩
        rw [signatures, List.map_append] at hAll
        exact absurd hThere (nodup_signatures_concat.mp hAll.of_append_left).2
    · rw [if_neg (fun h => hThere (lookup_ofUnits_isSome.mp h)), hAppend]
      exact ih (nodup_signatures_concat.mpr ⟨hBefore, hThere⟩)

end UnitIndex

/-- There is an index exactly when no signature comes twice, and it holds all units. -/
theorem unitIndex_eq_ok_iff {groups : List Group} {index : UnitIndex} :
    unitIndex groups = .ok index ↔
      (signatures (catalogUnits groups)).Nodup ∧ index = .ofUnits (catalogUnits groups) := by
  have hEmpty : (signatures []).Nodup := List.nodup_nil
  have hExtend := @UnitIndex.extend_eq_ok_iff _ (catalogUnits groups) index hEmpty
  simpa [unitIndex, UnitIndex.ofUnits] using hExtend

/-! ## Repeated signatures -/

/-- The unit is the first one whose signature an earlier unit has. -/
def FirstRepeated (units : List MeasureUnit) (u : MeasureUnit) : Prop :=
  ∃ before after, units = before ++ u :: after ∧ (signatures before).Nodup ∧
    u.signature ∈ signatures before

theorem UnitIndex.extend_of_repeated {before units : List MeasureUnit}
    (hBefore : (signatures before).Nodup) (hTwice : ¬ (signatures (before ++ units)).Nodup) :
    ∃ u, FirstRepeated (before ++ units) u ∧
      extend (ofUnits before) units = .error (.declaredTwice u.signature) := by
  induction units generalizing before with
  | nil =>
    rw [List.append_nil] at hTwice
    exact absurd hBefore hTwice
  | cons u rest ih =>
    unfold extend
    by_cases hThere : u.signature ∈ signatures before
    · rw [if_pos (lookup_ofUnits_isSome.mpr hThere)]
      exact ⟨u, ⟨before, rest, rfl, hBefore, hThere⟩, rfl⟩
    · have hAppend : ofUnits before ++ [(u.signature, u)] = ofUnits (before ++ [u]) := by
        simp [ofUnits]
      have hAssoc : before ++ u :: rest = before ++ [u] ++ rest := by simp
      rw [if_neg (fun h => hThere (lookup_ofUnits_isSome.mp h)), hAppend, hAssoc]
      rw [hAssoc] at hTwice
      exact ih (nodup_signatures_concat.mpr ⟨hBefore, hThere⟩) hTwice

theorem unitIndex_of_repeated {groups : List Group}
    (hTwice : ¬ (signatures (catalogUnits groups)).Nodup) :
    ∃ u, FirstRepeated (catalogUnits groups) u ∧
      unitIndex groups = .error (.declaredTwice u.signature) := by
  have hNone : (signatures []).Nodup := List.nodup_nil
  exact UnitIndex.extend_of_repeated hNone hTwice

end UnitConversion
