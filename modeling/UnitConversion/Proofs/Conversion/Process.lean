import UnitConversion.Proofs.Conversion.Entries

/-!
# What a dispatcher converts

A dispatcher that was built for some groups converts between two signatures exactly when one group has
both (`process_eq_none_iff`). What it computes is given by the transforms of the registry: the magnitude
is taken onto the scale of the primary unit and from there to the other unit, where a step that starts
or ends at the primary unit is left out (`process_eq`).

* `Dispatcher.Serves`: what building a dispatcher establishes.
* `build_ok`: a dispatcher that was built serves its groups.
* `process_self`: a known unit converts into itself without any arithmetic.
* `process_fromPrimary`, `process_toPrimary`, `process_betweenMinors`: the three kinds of conversions.
-/

namespace UnitConversion

variable {α : Type}

namespace Dispatcher

/-- The dispatcher has the units and entries of the groups, with the instances of the registry. -/
structure Serves (d : Dispatcher α) (groups : List Group) (r : Registry α) : Prop where
  groups_eq : d.groups = groups
  nodup : (signatures (catalogUnits groups)).Nodup
  builtIn : ∀ g ∈ groups, g.BuiltIn r
  units_eq : d.units = .ofUnits (catalogUnits groups)
  entries_eq : d.entries = catalogEntries groups r
  index_eq : d.index = entryIndex d.entries

section Build

variable [Scalar α] {table : Declarations α} {r r' : Registry α} {groups : List Group}
  {d : Dispatcher α}

theorem build_grown (table : Declarations α) (r : Registry α) (groups : List Group) :
    Registry.Grown table r (build table r groups).1 := by
  have hGrown := expandCatalog_grown table r groups
  unfold build
  cases unitIndex groups with
  | error e => exact Relation.ReflTransGen.refl
  | ok units =>
    cases hExpand : expandCatalog table r groups with
    | mk r₁ result =>
      rw [hExpand] at hGrown
      cases result with
      | error e => exact hGrown
      | ok entries => exact hGrown

theorem exists_build_of_isOk (h : (build table r groups).2.isOk = true) :
    ∃ r' d, build table r groups = (r', .ok d) := by
  cases hBuild : build table r groups with
  | mk r' result =>
    rw [hBuild] at h
    cases result with
    | error e => cases h
    | ok d => exact ⟨r', d, rfl⟩

/-- A dispatcher that was built serves its groups. -/
theorem build_ok (h : build table r groups = (r', .ok d)) : d.Serves groups r' := by
  unfold build at h
  cases hIndex : unitIndex groups with
  | error e =>
    rw [hIndex] at h
    cases h
  | ok units =>
    rw [hIndex] at h
    obtain ⟨hNodup, rfl⟩ := unitIndex_eq_ok_iff.mp hIndex
    cases hExpand : expandCatalog table r groups with
    | mk r₁ result =>
      simp only [hExpand] at h
      cases result with
      | error e => cases h
      | ok entries =>
        cases h
        obtain ⟨hBuilt, rfl⟩ := expandCatalog_ok hExpand
        exact ⟨rfl, hNodup, hBuilt, rfl, rfl, rfl⟩

end Build

/-! ## Units and entries -/

namespace Serves

variable {d : Dispatcher α} {groups : List Group} {r : Registry α} (hServes : d.Serves groups r)

include hServes

theorem unit?_eq_some_iff {s : Text} {u : MeasureUnit} :
    d.unit? s = some u ↔ u ∈ catalogUnits groups ∧ u.signature = s := by
  rw [unit?, hServes.units_eq]
  exact UnitIndex.lookup_ofUnits_eq_some_iff hServes.nodup

theorem unit?_isSome_iff {s : Text} :
    (d.unit? s).isSome = true ↔ s ∈ signatures (catalogUnits groups) := by
  rw [unit?, hServes.units_eq]
  exact UnitIndex.lookup_ofUnits_isSome

theorem unit?_eq_none_iff {s : Text} :
    d.unit? s = none ↔ s ∉ signatures (catalogUnits groups) := by
  rw [← hServes.unit?_isSome_iff, Option.isSome_iff_ne_none, not_not]

theorem describe_eq_some_iff {source target : Text} {e : Entry α} :
    d.describe source target = some e ↔
      (∃ g ∈ groups, e ∈ g.entriesIn r) ∧ e.key = (source, target) := by
  have hNodup := nodup_keys_catalogEntries hServes.nodup r
  rw [describe, hServes.index_eq, hServes.entries_eq, lookup_entryIndex_eq_some_iff hNodup,
    mem_catalogEntries]

/-! ## Conversions -/

variable [Scalar α]

/-- A known unit converts into itself without any arithmetic. -/
theorem process_self {s : Text} (hs : s ∈ signatures (catalogUnits groups)) (x : α) :
    d.process s s x = some x := if_pos ⟨rfl, hServes.unit?_isSome_iff.mpr hs⟩

theorem process_of_mem {g : Group} (hg : g ∈ groups) {e : Entry α} (he : e ∈ g.entriesIn r) (x : α) :
    d.process e.source e.target x = some (e.route.convert x) := by
  have hDescribe : d.describe e.source e.target = some e :=
    hServes.describe_eq_some_iff.mpr ⟨⟨g, hg, he⟩, rfl⟩
  rw [process, if_neg (fun h => Group.source_ne_target he h.1), hDescribe]
  rfl

section Transforms

variable {g : Group} (hg : g ∈ groups) {m n : MeasureUnit} {source target : Instance α}

include hg

theorem process_fromPrimary (hm : m ∈ g.minors) (hTarget : r.find? (g.primary, m) = some target)
    (x : α) :
    d.process g.primary.signature m.signature x = some (target.transform.backward x) := by
  have hBuilt := Group.mem_builtMinors.mpr ⟨hm, hTarget⟩
  exact hServes.process_of_mem hg (Group.mem_entriesIn_iff.mpr (Or.inl ⟨_, hBuilt, rfl⟩)) x

theorem process_toPrimary (hm : m ∈ g.minors) (hSource : r.find? (g.primary, m) = some source)
    (x : α) :
    d.process m.signature g.primary.signature x = some (source.transform.forward x) := by
  have hBuilt := Group.mem_builtMinors.mpr ⟨hm, hSource⟩
  exact hServes.process_of_mem hg (Group.mem_entriesIn_iff.mpr (Or.inr (Or.inl ⟨_, hBuilt, rfl⟩))) x

theorem process_betweenMinors (hm : m ∈ g.minors) (hn : n ∈ g.minors) (hne : m ≠ n)
    (hSource : r.find? (g.primary, m) = some source)
    (hTarget : r.find? (g.primary, n) = some target) (x : α) :
    d.process m.signature n.signature x =
      some (target.transform.backward (source.transform.forward x)) := by
  have hFirst := Group.mem_builtMinors.mpr ⟨hm, hSource⟩
  have hSecond := Group.mem_builtMinors.mpr ⟨hn, hTarget⟩
  exact hServes.process_of_mem hg
    (Group.mem_entriesIn_iff.mpr (Or.inr (Or.inr ⟨_, hFirst, _, hSecond, hne, rfl⟩))) x

end Transforms

end Serves

end Dispatcher

/-! ## The scale of the primary unit -/

namespace Group

variable [Scalar α]

/-- The magnitude in a unit of the group, taken onto the scale of the primary unit. -/
def toScale (g : Group) (r : Registry α) (u : MeasureUnit) (x : α) : α :=
  if u = g.primary then x
  else match r.find? (g.primary, u) with
    | some source => source.transform.forward x
    | none => x

/-- A magnitude on the scale of the primary unit, taken to a unit of the group. -/
def fromScale (g : Group) (r : Registry α) (u : MeasureUnit) (x : α) : α :=
  if u = g.primary then x
  else match r.find? (g.primary, u) with
    | some target => target.transform.backward x
    | none => x

variable {g : Group} {r : Registry α} {m : MeasureUnit} {found : Instance α}

theorem toScale_primary (g : Group) (r : Registry α) (x : α) : g.toScale r g.primary x = x :=
  if_pos rfl

theorem fromScale_primary (g : Group) (r : Registry α) (x : α) : g.fromScale r g.primary x = x :=
  if_pos rfl

theorem minor_ne_primary (hm : m ∈ g.minors) : m ≠ g.primary := by
  rintro rfl
  exact primary_signature_ne hm rfl

theorem toScale_minor (hm : m ∈ g.minors) (hFound : r.find? (g.primary, m) = some found) (x : α) :
    g.toScale r m x = found.transform.forward x := by
  rw [toScale, if_neg (minor_ne_primary hm), hFound]

theorem fromScale_minor (hm : m ∈ g.minors) (hFound : r.find? (g.primary, m) = some found) (x : α) :
    g.fromScale r m x = found.transform.backward x := by
  rw [fromScale, if_neg (minor_ne_primary hm), hFound]

end Group

namespace Dispatcher.Serves

variable [Scalar α] {d : Dispatcher α} {groups : List Group} {r : Registry α}
  (hServes : d.Serves groups r)

include hServes

/-- A conversion between different units of a group goes over the scale of its primary unit. -/
theorem process_eq {g : Group} (hg : g ∈ groups) {u v : MeasureUnit} (hu : u ∈ g.units)
    (hv : v ∈ g.units) (hne : u ≠ v) (x : α) :
    d.process u.signature v.signature x = some (g.fromScale r v (g.toScale r u x)) := by
  rcases List.mem_cons.mp hu with rfl | hMinor
  · rcases List.mem_cons.mp hv with rfl | hMinor'
    · exact absurd rfl hne
    · obtain ⟨target, hTarget⟩ := hServes.builtIn g hg v hMinor'
      rw [hServes.process_fromPrimary hg hMinor' hTarget, g.toScale_primary,
        Group.fromScale_minor hMinor' hTarget]
  · obtain ⟨source, hSource⟩ := hServes.builtIn g hg u hMinor
    rcases List.mem_cons.mp hv with rfl | hMinor'
    · rw [hServes.process_toPrimary hg hMinor hSource, g.fromScale_primary,
        Group.toScale_minor hMinor hSource]
    · obtain ⟨target, hTarget⟩ := hServes.builtIn g hg v hMinor'
      rw [hServes.process_betweenMinors hg hMinor hMinor' hne hSource hTarget,
        Group.toScale_minor hMinor hSource, Group.fromScale_minor hMinor' hTarget]

/-- Any two units of a group convert into each other. -/
theorem process_isSome {g : Group} (hg : g ∈ groups) {a b : Text} (ha : a ∈ signatures g.units)
    (hb : b ∈ signatures g.units) (x : α) : ∃ y, d.process a b x = some y := by
  obtain ⟨u, hu, rfl⟩ := mem_signatures.mp ha
  obtain ⟨v, hv, rfl⟩ := mem_signatures.mp hb
  by_cases hEq : u = v
  · subst hEq
    exact ⟨x, hServes.process_self (signature_mem (mem_catalogUnits.mpr ⟨g, hg, hu⟩)) x⟩
  · exact ⟨_, hServes.process_eq hg hu hv hEq x⟩

/-- There is a conversion exactly between the signatures of one group. -/
theorem process_eq_none_iff {a b : Text} {x : α} :
    d.process a b x = none ↔ ¬ ∃ g ∈ groups, a ∈ signatures g.units ∧ b ∈ signatures g.units := by
  constructor
  · rintro hNone ⟨g, hg, ha, hb⟩
    obtain ⟨y, hSome⟩ := hServes.process_isSome hg ha hb x
    rw [hNone] at hSome
    cases hSome
  · intro hApart
    unfold process
    split
    · rename_i hSame
      obtain ⟨u, hu, rfl⟩ := mem_signatures.mp (hServes.unit?_isSome_iff.mp hSame.2)
      obtain ⟨g, hg, hMem⟩ := mem_catalogUnits.mp hu
      exact absurd ⟨g, hg, signature_mem hMem, hSame.1 ▸ signature_mem hMem⟩ hApart
    · rw [Option.map_eq_none_iff]
      refine Option.eq_none_iff_forall_ne_some.mpr fun e hDescribe => hApart ?_
      obtain ⟨⟨g, hg, he⟩, hKey⟩ := hServes.describe_eq_some_iff.mp hDescribe
      obtain ⟨hSource, hTarget⟩ := Group.signatures_of_mem_entriesIn he
      cases hKey
      exact ⟨g, hg, hSource, hTarget⟩

end Dispatcher.Serves

end UnitConversion
