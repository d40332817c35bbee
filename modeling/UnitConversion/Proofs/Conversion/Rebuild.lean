import UnitConversion.Proofs.Conversion.Process
import UnitConversion.Proofs.Transform.Lookups

/-!
# What a dispatcher looks up

Building a dispatcher looks up the pairs of its groups, group by group, up to the first that cannot be
had, and nothing at all if a signature comes twice (`fst_build`). A dispatcher that was built is
determined by its groups and its registry (`Serves.eq`), and it stays so when the registry grows. So
building it again gives the same dispatcher, and builds no transform (`Serves.build_eq`).
-/

namespace UnitConversion

variable {α : Type} {r r' : Registry α} {groups : List Group}

/-- A dispatcher is determined by its groups and its registry. -/
theorem Dispatcher.Serves.eq {d d' : Dispatcher α} (h : d.Serves groups r) (h' : d'.Serves groups r) :
    d = d' := by
  have hEntries : d.entries = d'.entries := h.entries_eq.trans h'.entries_eq.symm
  have hIndex : d.index = d'.index := by rw [h.index_eq, h'.index_eq, hEntries]
  have hUnits : d.units = d'.units := h.units_eq.trans h'.units_eq.symm
  have hGroups : d.groups = d'.groups := h.groups_eq.trans h'.groups_eq.symm
  cases d
  cases d'
  cases hGroups
  cases hUnits
  cases hEntries
  cases hIndex
  rfl

/-- The pairs of all groups, in order. -/
def catalogPairs (groups : List Group) : List UnitPair := groups.flatMap Group.pairs

variable [Scalar α] {table : Declarations α}

/-! ## Expansions -/

theorem Group.fst_expand (g : Group) (table : Declarations α) (r : Registry α) :
    (g.expand table r).1 = (r.fetchAll table g.pairs).1 := by
  unfold expand
  cases r.fetchAll table g.pairs with
  | mk r' result => cases result <;> rfl

theorem Group.expand_of_builtIn {g : Group} (hBuilt : g.BuiltIn r) :
    g.expand table r = (r, .ok (g.entriesIn r)) := by
  have hThere : ∀ pair ∈ g.pairs, r.contains pair = true := by
    intro pair hPair
    obtain ⟨m, hm, rfl⟩ := List.mem_map.mp hPair
    exact Registry.contains_iff_find?.mpr (hBuilt m hm)
  obtain ⟨instances, hAll⟩ : ∃ instances, r.fetchAll table g.pairs = (r, .ok instances) :=
    Registry.fetchAll_of_contains hThere
  have hRun : g.expand table r = (r, .ok (g.entries (g.minors.zip instances))) := by
    unfold expand
    rw [hAll]
  rw [hRun, (Group.expand_ok hRun).2]

theorem fst_expandCatalog (table : Declarations α) (r : Registry α) (groups : List Group) :
    (expandCatalog table r groups).1 = (r.fetchAll table (catalogPairs groups)).1 := by
  induction groups generalizing r with
  | nil => rfl
  | cons g rest ih =>
    rw [catalogPairs, List.flatMap_cons, Registry.fst_fetchAll_append]
    unfold expandCatalog Group.expand
    cases r.fetchAll table g.pairs with
    | mk r₁ result =>
      cases result with
      | error e => rfl
      | ok instances =>
        have hRest := ih r₁
        dsimp only
        cases hAll : expandCatalog table r₁ rest with
        | mk r₂ results =>
          rw [hAll] at hRest
          cases results <;> exact hRest

theorem expandCatalog_of_builtIn (hBuilt : ∀ g ∈ groups, g.BuiltIn r) :
    expandCatalog table r groups = (r, .ok (catalogEntries groups r)) := by
  induction groups with
  | nil => rfl
  | cons g rest ih =>
    obtain ⟨hFirst, hRest⟩ := List.forall_mem_cons.mp hBuilt
    unfold expandCatalog
    rw [Group.expand_of_builtIn hFirst]
    dsimp only
    rw [ih hRest]
    rfl

/-! ## Dispatchers -/

namespace Dispatcher

/-- The pairs that building a dispatcher looks up. A catalog in which a signature comes twice is refused
before any lookup. -/
def asks (groups : List Group) : List UnitPair :=
  if (signatures (catalogUnits groups)).Nodup then catalogPairs groups else []

theorem fst_build (table : Declarations α) (r : Registry α) (groups : List Group) :
    (build table r groups).1 = (r.fetchAll table (asks groups)).1 := by
  have hExpand := fst_expandCatalog table r groups
  unfold build asks
  cases hIndex : unitIndex groups with
  | error e =>
    have hTwice : ¬ (signatures (catalogUnits groups)).Nodup := by
      intro hNodup
      rw [unitIndex_eq_ok_iff.mpr ⟨hNodup, rfl⟩] at hIndex
      cases hIndex
    rw [if_neg hTwice]
    rfl
  | ok units =>
    rw [if_pos (unitIndex_eq_ok_iff.mp hIndex).1, ← hExpand]
    dsimp only
    cases expandCatalog table r groups with
    | mk r₁ result => cases result <;> rfl

namespace Serves

variable {d : Dispatcher α}

/-- A dispatcher keeps serving its groups when more transforms are built. -/
theorem grown (h : d.Serves groups r) (hGrown : Registry.Grown table r r') : d.Serves groups r' where
  groups_eq := h.groups_eq
  nodup := h.nodup
  builtIn g hg := (h.builtIn g hg).grown hGrown
  units_eq := h.units_eq
  entries_eq := by
    rw [h.entries_eq]
    refine List.flatMap_congr fun g hg => ?_
    rw [Group.entriesIn_of_grown (h.builtIn g hg) hGrown]
  index_eq := h.index_eq

/-- Building a dispatcher again gives the same one under whatever declarations, and builds nothing. -/
theorem build_eq (h : d.Serves groups r) (table : Declarations α) :
    build table r groups = (r, .ok d) := by
  have hRun : build table r groups =
      (r, .ok ⟨groups, .ofUnits (catalogUnits groups), catalogEntries groups r,
        entryIndex (catalogEntries groups r)⟩) := by
    unfold build
    rw [unitIndex_eq_ok_iff.mpr ⟨h.nodup, rfl⟩]
    dsimp only
    rw [expandCatalog_of_builtIn h.builtIn]
  rw [hRun, (build_ok hRun).eq h]

end Serves

end Dispatcher

end UnitConversion
