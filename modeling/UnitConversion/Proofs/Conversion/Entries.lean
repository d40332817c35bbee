import Mathlib.Data.List.Nodup
import Mathlib.Data.List.Pairwise
import UnitConversion.Conversion.Dispatcher
import UnitConversion.Proofs.Catalog.Index
import UnitConversion.Proofs.Transform.Registry

/-!
# The table of entries

The entries of a catalog are a function of its groups and of the registry after they were built
(`catalogEntries`, `expandCatalog_ok`). In a catalog without a repeated signature no two entries have
the same key, so that the index gives for a key the one entry that has it.

* `mem_entriesIn_iff`: the three kinds of entries of a group.
* `nodup_keys_catalogEntries`: the keys of a catalog are all different.
* `lookup_entryIndex`: the index gives the first entry with a key.
* `lookup_entryIndex_eq_some_iff`: with different keys, the only one.
-/

namespace UnitConversion

variable {α : Type}

/-! ## Groups whose minors are built -/

namespace Group

/-- All minors of the group are in the registry. -/
def BuiltIn (g : Group) (r : Registry α) : Prop :=
  ∀ m ∈ g.minors, ∃ found, r.find? (g.primary, m) = some found

/-- The minors of the group with their instances in a registry. -/
def builtMinors (g : Group) (r : Registry α) : List (BuiltMinor α) :=
  g.minors.filterMap fun m => (r.find? (g.primary, m)).map fun found => (m, found)

/-- The entries of the group with the instances of a registry. -/
def entriesIn (g : Group) (r : Registry α) : List (Entry α) := g.entries (g.builtMinors r)

theorem mem_builtMinors {g : Group} {r : Registry α} {m : MeasureUnit} {found : Instance α} :
    (m, found) ∈ g.builtMinors r ↔ m ∈ g.minors ∧ r.find? (g.primary, m) = some found := by
  simp [builtMinors]

theorem fst_builtMinors_sublist (g : Group) (r : Registry α) :
    ((g.builtMinors r).map Prod.fst).Sublist g.minors := by
  unfold builtMinors
  induction g.minors with
  | nil => simp
  | cons m rest ih =>
    cases hFound : r.find? (g.primary, m) with
    | none => simpa [hFound] using ih.cons m
    | some found => simpa [hFound] using ih

/-- An entry of the group leads from the primary unit to a minor, from a minor to the primary unit, or
from one minor to another. -/
theorem mem_entriesIn_iff {g : Group} {r : Registry α} {e : Entry α} :
    e ∈ g.entriesIn r ↔
      (∃ m ∈ g.builtMinors r, e = g.fromPrimary m) ∨ (∃ m ∈ g.builtMinors r, e = g.toPrimary m) ∨
        ∃ source ∈ g.builtMinors r, ∃ target ∈ g.builtMinors r, source.1 ≠ target.1 ∧
          e = g.betweenMinors source target := by
  simp only [entriesIn, entries, List.mem_append, List.mem_map, List.mem_flatMap, List.mem_filter,
    decide_eq_true_eq, or_assoc]
  constructor
  · rintro (⟨m, hm, rfl⟩ | ⟨m, hm, rfl⟩ | ⟨target, hTarget, source, ⟨hSource, hne⟩, rfl⟩)
    · exact Or.inl ⟨m, hm, rfl⟩
    · exact Or.inr (Or.inl ⟨m, hm, rfl⟩)
    · exact Or.inr (Or.inr ⟨source, hSource, target, hTarget, hne, rfl⟩)
  · rintro (⟨m, hm, rfl⟩ | ⟨m, hm, rfl⟩ | ⟨source, hSource, target, hTarget, hne, rfl⟩)
    · exact Or.inl ⟨m, hm, rfl⟩
    · exact Or.inr (Or.inl ⟨m, hm, rfl⟩)
    · exact Or.inr (Or.inr ⟨target, hTarget, source, ⟨hSource, hne⟩, rfl⟩)

/-- Both signatures of an entry are those of units of the group. -/
theorem signatures_of_mem_entriesIn {g : Group} {r : Registry α} {e : Entry α}
    (h : e ∈ g.entriesIn r) :
    e.source ∈ signatures g.units ∧ e.target ∈ signatures g.units := by
  have hPrimary : g.primary.signature ∈ signatures g.units := signature_mem g.primary_mem
  have hMinor : ∀ m ∈ g.builtMinors r, m.1.signature ∈ signatures g.units := fun m hm =>
    signature_mem (minor_mem (mem_builtMinors.mp hm).1)
  rcases mem_entriesIn_iff.mp h with ⟨m, hm, rfl⟩ | ⟨m, hm, rfl⟩ | ⟨s, hs, t, ht, -, rfl⟩
  · exact ⟨hPrimary, hMinor m hm⟩
  · exact ⟨hMinor m hm, hPrimary⟩
  · exact ⟨hMinor s hs, hMinor t ht⟩

theorem source_ne_target {g : Group} {r : Registry α} {e : Entry α} (h : e ∈ g.entriesIn r) :
    e.source ≠ e.target := by
  rcases mem_entriesIn_iff.mp h with ⟨m, hm, rfl⟩ | ⟨m, hm, rfl⟩ | ⟨s, hs, t, ht, hne, rfl⟩
  · exact primary_signature_ne (mem_builtMinors.mp hm).1
  · exact (primary_signature_ne (mem_builtMinors.mp hm).1).symm
  · intro hEq
    exact hne (eq_of_signature_eq g.nodup_minors (mem_builtMinors.mp hs).1 (mem_builtMinors.mp ht).1 hEq)

/-! ## Keys -/

theorem nodup_keys_entries {g : Group} {minors : List (BuiltMinor α)}
    (hPrimary : g.primary.signature ∉ minors.map fun m => m.1.signature)
    (hMinors : (minors.map fun m => m.1.signature).Nodup) :
    ((g.entries minors).map Entry.key).Nodup := by
  have hDiffers : ∀ m ∈ minors, m.1.signature ≠ g.primary.signature := fun m hm hEq =>
    hPrimary (hEq ▸ List.mem_map_of_mem hm)
  simp only [entries, List.map_append, List.map_map, List.map_flatMap]
  refine List.nodup_append'.mpr ⟨List.nodup_append'.mpr ⟨?_, ?_, ?_⟩, ?_, ?_⟩
  · exact List.Nodup.of_map Prod.snd (by simpa [Function.comp_def, Entry.key, fromPrimary] using hMinors)
  · exact List.Nodup.of_map Prod.fst (by simpa [Function.comp_def, Entry.key, toPrimary] using hMinors)
  · intro key hFrom hTo
    obtain ⟨m, -, rfl⟩ := List.mem_map.mp hFrom
    obtain ⟨n, hn, hEq⟩ := List.mem_map.mp hTo
    exact hDiffers n hn (congrArg Prod.fst hEq)
  · refine List.nodup_flatMap.mpr ⟨fun target _ => ?_, ?_⟩
    · refine List.Nodup.of_map Prod.fst ?_
      rw [List.map_map]
      exact hMinors.sublist (List.filter_sublist.map _)
    · refine (List.pairwise_map.mp hMinors).imp fun hne key hFirst hSecond => ?_
      obtain ⟨s, -, rfl⟩ := List.mem_map.mp hFirst
      obtain ⟨s', -, hEq⟩ := List.mem_map.mp hSecond
      exact hne (congrArg Prod.snd hEq).symm
  · intro key hFirst hBetween
    obtain ⟨target, hTarget, hKey⟩ := List.mem_flatMap.mp hBetween
    obtain ⟨source, hSource, rfl⟩ := List.mem_map.mp hKey
    rcases List.mem_append.mp hFirst with hFrom | hTo
    · obtain ⟨m, -, hEq⟩ := List.mem_map.mp hFrom
      exact hDiffers source (List.mem_filter.mp hSource).1 (congrArg Prod.fst hEq).symm
    · obtain ⟨m, -, hEq⟩ := List.mem_map.mp hTo
      exact hDiffers target hTarget (congrArg Prod.snd hEq).symm

theorem nodup_keys_entriesIn (g : Group) (r : Registry α) :
    ((g.entriesIn r).map Entry.key).Nodup := by
  have hSublist := (g.fst_builtMinors_sublist r).map (·.signature)
  rw [List.map_map] at hSublist
  refine nodup_keys_entries (fun hThere => ?_) (g.nodup_minors.sublist hSublist)
  exact (List.nodup_cons.mp g.nodup).1 (hSublist.subset hThere)

/-! ## Expanding a group -/

theorem zip_eq_filterMap {β γ : Type} {f : β → Option γ} {xs : List β} {ys : List γ}
    (h : xs.map f = ys.map some) : xs.zip ys = xs.filterMap fun x => (f x).map fun y => (x, y) := by
  induction xs generalizing ys with
  | nil => simp
  | cons x rest ih =>
    cases ys with
    | nil => cases h
    | cons y others =>
      simp only [List.map_cons, List.cons.injEq] at h
      simp [h.1, ih h.2]

variable [Scalar α] {table : Declarations α} {r r' : Registry α}

theorem expand_grown (g : Group) (table : Declarations α) (r : Registry α) :
    Registry.Grown table r (g.expand table r).1 := by
  have hGrown := Registry.fetchAll_grown r table g.pairs
  unfold expand
  split <;> simp_all

/-- An expanded group has all its minors in the registry, and its entries hold their instances. -/
theorem expand_ok {g : Group} {es : List (Entry α)} (h : g.expand table r = (r', .ok es)) :
    g.BuiltIn r' ∧ es = g.entriesIn r' := by
  unfold expand at h
  cases hAll : r.fetchAll table g.pairs with
  | mk r₁ result =>
    rw [hAll] at h
    cases result with
    | error e => cases h
    | ok instances =>
      cases h
      have hFound : g.minors.map (fun m => r'.find? (g.primary, m)) = instances.map some := by
        simpa [pairs, Function.comp_def] using Registry.fetchAll_ok hAll
      refine ⟨fun m hm => ?_, ?_⟩
      · have hMem := List.mem_map_of_mem (f := fun m => r'.find? (g.primary, m)) hm
        rw [hFound] at hMem
        obtain ⟨found, -, hEq⟩ := List.mem_map.mp hMem
        exact ⟨found, hEq.symm⟩
      · rw [zip_eq_filterMap hFound]
        rfl

theorem BuiltIn.grown {g : Group} (h : g.BuiltIn r) (hGrown : Registry.Grown table r r') :
    g.BuiltIn r' := by
  intro m hm
  obtain ⟨found, hFound⟩ := h m hm
  exact ⟨found, hGrown.find? hFound⟩

/-- The entries of a group do not change when other transforms are built. -/
theorem entriesIn_of_grown {g : Group} (h : g.BuiltIn r) (hGrown : Registry.Grown table r r') :
    g.entriesIn r' = g.entriesIn r := by
  have hMinors : g.builtMinors r' = g.builtMinors r := by
    refine List.filterMap_congr fun m hm => ?_
    obtain ⟨found, hFound⟩ := h m hm
    rw [hFound, hGrown.find? hFound]
  rw [entriesIn, entriesIn, hMinors]

end Group

/-! ## Expanding a catalog -/

/-- The entries of a list of groups with the instances of a registry. -/
def catalogEntries (groups : List Group) (r : Registry α) : List (Entry α) :=
  groups.flatMap fun g => g.entriesIn r

theorem mem_catalogEntries {groups : List Group} {r : Registry α} {e : Entry α} :
    e ∈ catalogEntries groups r ↔ ∃ g ∈ groups, e ∈ g.entriesIn r := List.mem_flatMap

theorem nodup_keys_catalogEntries {groups : List Group}
    (hNodup : (signatures (catalogUnits groups)).Nodup) (r : Registry α) :
    ((catalogEntries groups r).map Entry.key).Nodup := by
  rw [catalogEntries, List.map_flatMap]
  refine List.nodup_flatMap.mpr ⟨fun g _ => g.nodup_keys_entriesIn r, ?_⟩
  refine (pairwise_disjoint_signatures hNodup).imp fun hDisjoint key hFirst hSecond => ?_
  obtain ⟨e, he, rfl⟩ := List.mem_map.mp hFirst
  obtain ⟨e', he', hEq⟩ := List.mem_map.mp hSecond
  refine hDisjoint (Group.signatures_of_mem_entriesIn he).1 ?_
  rw [show e.source = e'.source from (congrArg Prod.fst hEq).symm]
  exact (Group.signatures_of_mem_entriesIn he').1

section Expansion

variable [Scalar α] {table : Declarations α} {r r' : Registry α}

theorem expandCatalog_grown (table : Declarations α) (r : Registry α) (groups : List Group) :
    Registry.Grown table r (expandCatalog table r groups).1 := by
  induction groups generalizing r with
  | nil => exact Relation.ReflTransGen.refl
  | cons g rest ih =>
    have hFirst := g.expand_grown table r
    unfold expandCatalog
    cases hExpand : g.expand table r with
    | mk r₁ result =>
      rw [hExpand] at hFirst
      cases result with
      | error e => exact hFirst
      | ok entries =>
        have hRest := Relation.ReflTransGen.trans hFirst (ih r₁)
        cases hAll : expandCatalog table r₁ rest with
        | mk r₂ results =>
          rw [hAll] at hRest
          cases results with
          | error e =>
            simp only [hAll]
            exact hRest
          | ok others =>
            simp only [hAll]
            exact hRest

/-- The entries of an expanded catalog are a function of its groups and of the registry afterwards. -/
theorem expandCatalog_ok {groups : List Group} {es : List (Entry α)}
    (h : expandCatalog table r groups = (r', .ok es)) :
    (∀ g ∈ groups, g.BuiltIn r') ∧ es = catalogEntries groups r' := by
  induction groups generalizing r es with
  | nil =>
    cases h
    exact ⟨by simp, rfl⟩
  | cons g rest ih =>
    unfold expandCatalog at h
    cases hExpand : g.expand table r with
    | mk r₁ result =>
      rw [hExpand] at h
      cases result with
      | error e => cases h
      | ok entries =>
        have hGrown := expandCatalog_grown table r₁ rest
        cases hAll : expandCatalog table r₁ rest with
        | mk r₂ results =>
          rw [hAll] at hGrown
          simp only [hAll] at h
          cases results with
          | error e => cases h
          | ok others =>
            cases h
            obtain ⟨hBuilt, rfl⟩ := Group.expand_ok hExpand
            obtain ⟨hOthers, rfl⟩ := ih hAll
            refine ⟨List.forall_mem_cons.mpr ⟨hBuilt.grown hGrown, hOthers⟩, ?_⟩
            rw [catalogEntries, catalogEntries, List.flatMap_cons, Group.entriesIn_of_grown hBuilt hGrown]

end Expansion

/-! ## The index of entries -/

theorem lookup_foldl_putNew (entries : List (Entry α)) (index : EntryIndex α) (key : Text × Text) :
    (entries.foldl (fun index e => Association.putNew index e.key e) index).lookup key =
      (index.lookup key).or (entries.find? fun e => e.key == key) := by
  induction entries generalizing index with
  | nil => simp
  | cons e rest ih =>
    rw [List.foldl_cons, ih, Association.lookup_putNew, List.lookup_append, Option.or_assoc]
    by_cases hKey : e.key = key
    · simp [hKey]
    · have hOther : (key == e.key) = false := by simpa using Ne.symm hKey
      simp [hKey, List.lookup_cons, hOther]

/-- The index gives the first entry with a key. -/
theorem lookup_entryIndex (entries : List (Entry α)) (key : Text × Text) :
    (entryIndex entries).lookup key = entries.find? fun e => e.key == key := by
  simpa [entryIndex] using lookup_foldl_putNew entries [] key

/-- Where all keys are different, the index gives the only entry with a key. -/
theorem lookup_entryIndex_eq_some_iff {entries : List (Entry α)}
    (hNodup : (entries.map Entry.key).Nodup) {key : Text × Text} {e : Entry α} :
    (entryIndex entries).lookup key = some e ↔ e ∈ entries ∧ e.key = key := by
  rw [lookup_entryIndex]
  constructor
  · intro h
    exact ⟨List.mem_of_find?_eq_some h, by simpa using List.find?_some h⟩
  · rintro ⟨hMem, rfl⟩
    have hSome : (entries.find? fun e' => e'.key == e.key).isSome := by
      rw [List.find?_isSome]
      exact ⟨e, hMem, by simp⟩
    obtain ⟨e', hFound⟩ := Option.isSome_iff_exists.mp hSome
    have hKey : e'.key = e.key := by simpa using List.find?_some hFound
    rw [hFound, List.inj_on_of_nodup_map hNodup (List.mem_of_find?_eq_some hFound) hMem hKey]

end UnitConversion
