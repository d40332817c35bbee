import Mathlib.Data.List.TakeWhile
import UnitConversion.Proofs.Conversion.Rebuild

/-!
# What becomes of building a dispatcher

Building a dispatcher ends in one of three ways (`Dispatcher.build_outcome`). If a signature comes twice,
it ends before any lookup. If the registry lacks a pair, which is neither there nor can be built, it ends
at the first such pair, and the pairs before it stay. Otherwise it succeeds. A pair that is there is never
lacking, whatever has become of its declaration.

* `Declarations.Refuses`: why the declarations give no transform for a pair.
* `Registry.Lacks`: a lookup of the pair fails.
* `Registry.Extends`: a registry with some pairs more.
-/

namespace UnitConversion

variable {α : Type} [Scalar α] {table : Declarations α} {r r' : Registry α} {pair : UnitPair}
  {groups : List Group} {e : TransformError α}

/-! ## Refused pairs -/

/-- The declarations give no transform for the pair: it is not declared, or its factor is negligible. -/
inductive Declarations.Refuses (table : Declarations α) (pair : UnitPair) : TransformError α → Prop
  | undeclared (hNone : table.formulas.lookup pair = none) :
      Refuses table pair (.undeclared pair.1.signature pair.2.signature)
  | negligible {factor offset : α} (hDeclared : table.formulas.lookup pair = some (factor, offset))
      (hFactor : Scalar.negligible factor = true) : Refuses table pair (.negligibleFactor factor)

theorem Declarations.build_eq_error_iff : table.build pair = .error e ↔ table.Refuses pair e := by
  unfold build
  constructor
  · intro h
    split at h
    · rename_i hNone
      cases h
      exact .undeclared hNone
    · rename_i factor offset hDeclared
      unfold Transform.build at h
      split at h
      · rename_i hFactor
        cases h
        exact .negligible hDeclared hFactor
      · cases h
  · rintro (hNone | ⟨hDeclared, hFactor⟩)
    · rw [hNone]
    · rw [hDeclared]
      exact if_pos hFactor

namespace Registry

/-- A lookup of the pair fails: it is not there, and the declarations refuse it. -/
def Lacks (r : Registry α) (table : Declarations α) (pair : UnitPair) : Prop :=
  r.contains pair = false ∧ ∃ e, table.Refuses pair e

theorem lacks_iff_gives_eq_false : r.Lacks table pair ↔ r.gives table pair = false := by
  rw [gives, Bool.or_eq_false_iff, Lacks]
  refine and_congr_right fun _ => ?_
  simp only [← Declarations.build_eq_error_iff]
  cases table.build pair with
  | ok t => simp [Except.isOk, Except.toBool]
  | error e => simp [Except.isOk, Except.toBool]

theorem not_lacks_iff_gives : ¬ r.Lacks table pair ↔ r.gives table pair = true := by
  rw [lacks_iff_gives_eq_false, Bool.not_eq_false]

/-- The registry `r'` is `r` with the given pairs added. What `r` holds is the same instance in `r'`. -/
structure Extends (r : Registry α) (added : List UnitPair) (r' : Registry α) : Prop where
  contains_iff : ∀ pair, r'.contains pair = true ↔ r.contains pair = true ∨ pair ∈ added
  find?_eq : ∀ pair found, r.find? pair = some found → r'.find? pair = some found

/-! ## Lists of lookups -/

variable {before after asked : List UnitPair}

theorem fetchAll_append_of_ok {instances : List (Instance α)}
    (h : r.fetchAll table before = (r', .ok instances)) :
    r.fetchAll table (before ++ after) =
      ((r'.fetchAll table after).1, (r'.fetchAll table after).2.map (instances ++ ·)) := by
  induction before generalizing r instances with
  | nil =>
    cases h
    refine Prod.ext rfl ?_
    rw [List.nil_append]
    cases (r'.fetchAll table after).2 <;> rfl
  | cons p rest ih =>
    cases hFetch : r.fetch table p with
    | mk r₁ result =>
      cases result with
      | error e =>
        rw [fetchAll_cons_of_error hFetch] at h
        cases h
      | ok found =>
        rw [fetchAll_cons_of_ok hFetch] at h
        cases hRest : r₁.fetchAll table rest with
        | mk r₂ results =>
          rw [hRest] at h
          cases results with
          | error e => cases h
          | ok others =>
            cases h
            rw [List.cons_append, fetchAll_cons_of_ok hFetch, ih hRest]
            refine Prod.ext rfl ?_
            dsimp only
            cases (r₂.fetchAll table after).2 <;> rfl

theorem fetchAll_append_of_error (h : r.fetchAll table before = (r', .error e)) :
    r.fetchAll table (before ++ after) = (r', .error e) := by
  induction before generalizing r with
  | nil => cases h
  | cons p rest ih =>
    cases hFetch : r.fetch table p with
    | mk r₁ result =>
      cases result with
      | error e' =>
        rw [fetchAll_cons_of_error hFetch] at h
        rw [List.cons_append, fetchAll_cons_of_error hFetch, h]
      | ok found =>
        rw [fetchAll_cons_of_ok hFetch] at h
        cases hRest : r₁.fetchAll table rest with
        | mk r₂ results =>
          rw [hRest] at h
          cases results with
          | ok others => cases h
          | error e' =>
            cases h
            rw [List.cons_append, fetchAll_cons_of_ok hFetch, ih hRest]
            rfl

theorem fetchAll_of_gives (h : ∀ p ∈ asked, r.gives table p = true) :
    ∃ instances, (r.fetchAll table asked).2 = .ok instances := by
  induction asked generalizing r with
  | nil => exact ⟨[], rfl⟩
  | cons p rest ih =>
    obtain ⟨hFirst, hRest⟩ := List.forall_mem_cons.mp h
    obtain ⟨found, hOk⟩ := fetch_eq_ok_iff.mpr hFirst
    have hRun : r.fetch table p = ((r.fetch table p).1, .ok found) := Prod.ext rfl hOk
    obtain ⟨others, hOthers⟩ := ih fun q hq => gives_fetch.trans (hRest q hq)
    refine ⟨found :: others, ?_⟩
    rw [fetchAll_cons_of_ok hRun, hOthers]
    rfl

/-- The pairs of a list that does not fail are there afterwards. -/
theorem extends_fetchAll (h : ∀ p ∈ asked, r.gives table p = true) :
    r.Extends asked (r.fetchAll table asked).1 where
  contains_iff other := by
    rw [contains_fetchAll, List.takeWhile_eq_self_iff.mpr h]
  find?_eq _ _ hFound := (fetchAll_grown r table asked).find? hFound

theorem fetchAll_of_lacks (hBefore : ∀ p ∈ before, r.gives table p = true)
    (hPair : r.gives table pair = false) (hRefuses : table.Refuses pair e) :
    r.fetchAll table (before ++ pair :: after) = ((r.fetchAll table before).1, .error e) := by
  induction before generalizing r with
  | nil =>
    obtain ⟨e', hBuild, hRun⟩ := fetch_of_gives_eq_false hPair
    rw [Declarations.build_eq_error_iff.mpr hRefuses] at hBuild
    cases hBuild
    exact fetchAll_cons_of_error hRun
  | cons p rest ih =>
    obtain ⟨hFirst, hRest⟩ := List.forall_mem_cons.mp hBefore
    obtain ⟨found, hOk⟩ := fetch_eq_ok_iff.mpr hFirst
    have hRun : r.fetch table p = ((r.fetch table p).1, .ok found) := Prod.ext rfl hOk
    rw [List.cons_append, fetchAll_cons_of_ok hRun, fetchAll_cons_of_ok hRun,
      ih (fun q hq => gives_fetch.trans (hRest q hq)) (gives_fetch.trans hPair)]
    rfl

/-- A list in which some lookup fails is split at the first that does. -/
theorem exists_first_lack (h : ∃ p ∈ asked, r.Lacks table p) :
    ∃ before pair after, asked = before ++ pair :: after ∧ (∀ p ∈ before, ¬ r.Lacks table p) ∧
      r.Lacks table pair := by
  induction asked with
  | nil =>
    obtain ⟨p, hp, -⟩ := h
    cases hp
  | cons p rest ih =>
    by_cases hFirst : r.Lacks table p
    · exact ⟨[], p, rest, rfl, by simp, hFirst⟩
    · obtain ⟨q, hq, hLacks⟩ := h
      have hRest : q ∈ rest := by
        rcases List.mem_cons.mp hq with rfl | hMem
        · exact absurd hLacks hFirst
        · exact hMem
      obtain ⟨before, pair, after, rfl, hBefore, hPair⟩ := ih ⟨q, hRest, hLacks⟩
      exact ⟨p :: before, pair, after, rfl, List.forall_mem_cons.mpr ⟨hFirst, hBefore⟩, hPair⟩

end Registry

/-! ## Expansions -/

/-- Expanding a catalog fails as the lookups of its pairs do. -/
theorem expandCatalog_eq_error_iff :
    (expandCatalog table r groups).2 = .error e ↔
      (r.fetchAll table (catalogPairs groups)).2 = .error e := by
  induction groups generalizing r with
  | nil =>
    constructor <;> intro h <;> cases h
  | cons g rest ih =>
    rw [catalogPairs, List.flatMap_cons]
    unfold expandCatalog Group.expand
    cases hFirst : r.fetchAll table g.pairs with
    | mk r₁ result =>
      cases result with
      | error e' =>
        rw [Registry.fetchAll_append_of_error hFirst]
        simp
      | ok instances =>
        rw [Registry.fetchAll_append_of_ok hFirst]
        have hRest := ih (r := r₁)
        rw [catalogPairs] at hRest
        dsimp only
        cases hExpand : expandCatalog table r₁ rest with
        | mk r₂ results =>
          rw [hExpand] at hRest
          cases hFetch : (r₁.fetchAll table (rest.flatMap Group.pairs)).2 with
          | ok found =>
            rw [hFetch] at hRest
            cases results with
            | error e' => simpa [Except.map] using hRest
            | ok entries => simp [Except.map]
          | error e' =>
            rw [hFetch] at hRest
            cases results with
            | error e'' => simpa [Except.map] using hRest
            | ok entries => simpa [Except.map] using hRest

namespace Dispatcher

theorem build_of_repeated (hTwice : ¬ (signatures (catalogUnits groups)).Nodup) :
    ∃ u, FirstRepeated (catalogUnits groups) u ∧
      build table r groups = (r, .error (.catalog (.declaredTwice u.signature))) := by
  obtain ⟨u, hFirst, hIndex⟩ := unitIndex_of_repeated hTwice
  refine ⟨u, hFirst, ?_⟩
  unfold build
  rw [hIndex]

section Distinct

variable (hNodup : (signatures (catalogUnits groups)).Nodup)

include hNodup

theorem build_eq_transform_error_iff :
    (build table r groups).2 = .error (.transform e) ↔
      (r.fetchAll table (catalogPairs groups)).2 = .error e := by
  rw [← expandCatalog_eq_error_iff]
  unfold build
  rw [unitIndex_eq_ok_iff.mpr ⟨hNodup, rfl⟩]
  dsimp only
  cases expandCatalog table r groups with
  | mk r₁ result => cases result <;> simp

theorem build_of_gives (h : ∀ p ∈ catalogPairs groups, r.gives table p = true) :
    ∃ d, build table r groups = ((r.fetchAll table (catalogPairs groups)).1, .ok d) := by
  obtain ⟨instances, hOk⟩ := Registry.fetchAll_of_gives h
  have hRegistry := fst_build table r groups
  rw [asks, if_pos hNodup] at hRegistry
  have hNoError : ∀ e, (expandCatalog table r groups).2 ≠ .error e := by
    intro e hError
    rw [expandCatalog_eq_error_iff, hOk] at hError
    cases hError
  unfold build at hRegistry ⊢
  rw [unitIndex_eq_ok_iff.mpr ⟨hNodup, rfl⟩] at hRegistry ⊢
  dsimp only at hRegistry ⊢
  cases hExpand : expandCatalog table r groups with
  | mk r₁ result =>
    rw [hExpand] at hNoError hRegistry
    cases result with
    | error e => exact absurd rfl (hNoError e)
    | ok entries => exact ⟨_, Prod.ext hRegistry rfl⟩

/-- Building adds the pairs behind some that are there, if it lacks none of them. -/
theorem build_of_not_lacks {before added : List UnitPair} (hSplit : catalogPairs groups = before ++ added)
    (hThere : ∀ p ∈ before, r.contains p = true) (hNone : ∀ p ∈ added, ¬ r.Lacks table p) :
    ∃ r' d, build table r groups = (r', .ok d) ∧ d.Serves groups r' ∧ r.Extends added r' := by
  have hGives : ∀ p ∈ catalogPairs groups, r.gives table p = true := by
    intro p hp
    rw [hSplit] at hp
    rcases List.mem_append.mp hp with hOld | hNew
    · rw [Registry.gives, hThere p hOld]
      rfl
    · exact Registry.not_lacks_iff_gives.mp (hNone p hNew)
  obtain ⟨d, hBuild⟩ := build_of_gives hNodup hGives
  have hAll := Registry.extends_fetchAll hGives
  refine ⟨_, d, hBuild, build_ok hBuild, ⟨fun p => ?_, hAll.find?_eq⟩⟩
  rw [hAll.contains_iff, hSplit, List.mem_append]
  constructor
  · rintro (hOld | hOld | hNew)
    · exact Or.inl hOld
    · exact Or.inl (hThere p hOld)
    · exact Or.inr hNew
  · rintro (hOld | hNew)
    · exact Or.inl hOld
    · exact Or.inr (Or.inr hNew)

/-- Building ends at the first pair that the registry lacks. -/
theorem build_of_lacks {before after : List UnitPair} (hSplit : catalogPairs groups = before ++ pair :: after)
    (hBefore : ∀ p ∈ before, r.gives table p = true) (hPair : r.gives table pair = false)
    (hRefuses : table.Refuses pair e) :
    build table r groups = ((r.fetchAll table before).1, .error (.transform e)) := by
  have hAll : r.fetchAll table (before ++ pair :: after) = _ :=
    Registry.fetchAll_of_lacks hBefore hPair hRefuses
  rw [← hSplit] at hAll
  have hRegistry := fst_build table r groups
  rw [asks, if_pos hNodup, hAll] at hRegistry
  refine Prod.ext hRegistry ((build_eq_transform_error_iff hNodup).mpr ?_)
  rw [hAll]

end Distinct

/-- Building a dispatcher, on any registry and under any declarations.

A signature that comes twice is reported and leaves the registry as it is. Otherwise the first pair that
the registry lacks is reported, and the pairs before it are added; once the declarations give that pair
and the later ones, whatever has become of the others, building succeeds with the instances that are
there. Where no pair is lacking, building succeeds and adds all pairs. -/
theorem build_outcome (table : Declarations α) (r : Registry α) (groups : List Group) :
    (¬ (signatures (catalogUnits groups)).Nodup →
      ∃ u, FirstRepeated (catalogUnits groups) u ∧
        build table r groups = (r, .error (.catalog (.declaredTwice u.signature)))) ∧
    ((signatures (catalogUnits groups)).Nodup → (∃ pair ∈ catalogPairs groups, r.Lacks table pair) →
      ∃ before pair after e r', catalogPairs groups = before ++ pair :: after ∧
        (∀ p ∈ before, ¬ r.Lacks table p) ∧ r.contains pair = false ∧ table.Refuses pair e ∧
        build table r groups = (r', .error (.transform e)) ∧ r.Extends before r' ∧
        ∀ repaired, (∀ p ∈ pair :: after, ¬ r'.Lacks repaired p) →
          ∃ r'' d, build repaired r' groups = (r'', .ok d) ∧ d.Serves groups r'' ∧
            r'.Extends (pair :: after) r'') ∧
    ((signatures (catalogUnits groups)).Nodup → (∀ pair ∈ catalogPairs groups, ¬ r.Lacks table pair) →
      ∃ r' d, build table r groups = (r', .ok d) ∧ d.Serves groups r' ∧
        r.Extends (catalogPairs groups) r') := by
  refine ⟨build_of_repeated, fun hNodup hSome => ?_, fun hNodup hNone => ?_⟩
  · obtain ⟨before, pair, after, hSplit, hBefore, hPair, e, hRefuses⟩ :=
      Registry.exists_first_lack hSome
    have hGives : ∀ p ∈ before, r.gives table p = true := fun p hp =>
      Registry.not_lacks_iff_gives.mp (hBefore p hp)
    have hExtends := Registry.extends_fetchAll hGives
    have hEnds := build_of_lacks hNodup hSplit hGives
      (Registry.lacks_iff_gives_eq_false.mp ⟨hPair, e, hRefuses⟩) hRefuses
    -- The pairs before the failure are there, so building again asks for the others only.
    exact ⟨before, pair, after, e, _, hSplit, hBefore, hPair, hRefuses, hEnds, hExtends, fun _ hRepaired =>
      build_of_not_lacks hNodup hSplit (fun p hp => (hExtends.contains_iff p).mpr (Or.inr hp)) hRepaired⟩
  · exact build_of_not_lacks hNodup (List.nil_append _).symm (fun _ hp => absurd hp List.not_mem_nil) hNone

end Dispatcher

namespace Standard

theorem not_lacks {r : Registry Binary64} {pair : UnitPair} (h : pair ∈ catalogPairs catalog) :
    ¬ r.Lacks declarations pair := by
  have hBuilds : ∀ p ∈ catalogPairs catalog, (declarations.build p).isOk = true := by decide +kernel
  rw [Registry.not_lacks_iff_gives, Registry.gives, hBuilds pair h, Bool.or_true]

/-- Without the declaration of the pood the catalog cannot be built; with it, it is built from where the
failure left the registry. The same groups twice are refused. -/
theorem build_without_pood :
    (∃ e r' r'' d,
      Dispatcher.build (declarations.undeclare (gram, pood)) .empty catalog = (r', .error (.transform e)) ∧
        Dispatcher.build declarations r' catalog = (r'', .ok d)) ∧
      (∃ u : MeasureUnit, Dispatcher.build declarations .empty (catalog ++ catalog) =
        (.empty, .error (.catalog (.declaredTwice u.signature)))) ∧
      ∃ r' d, Dispatcher.build declarations .empty catalog = (r', .ok d) := by
  have hNodup : (signatures (catalogUnits catalog)).Nodup := by decide
  refine ⟨?_, ?_, ?_⟩
  · obtain ⟨-, hRefused, -⟩ :=
      Dispatcher.build_outcome (declarations.undeclare (gram, pood)) .empty catalog
    have hLacks : ∃ pair ∈ catalogPairs catalog,
        Registry.empty.Lacks (declarations.undeclare (gram, pood)) pair :=
      ⟨(gram, pood), by decide, rfl, _, .undeclared (by decide)⟩
    obtain ⟨before, pair, after, e, r', hSplit, -, -, -, hBuild, -, hAgain⟩ :=
      hRefused hNodup hLacks
    obtain ⟨r'', d, hOk, -⟩ := hAgain declarations fun p hp =>
      not_lacks (hSplit ▸ List.mem_append_right before hp)
    exact ⟨e, r', r'', d, hBuild, hOk⟩
  · obtain ⟨u, -, hBuild⟩ :=
      (Dispatcher.build_outcome declarations .empty (catalog ++ catalog)).1 (by decide)
    exact ⟨u, hBuild⟩
  · obtain ⟨r', d, hBuild, -⟩ := (Dispatcher.build_outcome declarations .empty catalog).2.2 hNodup
      fun pair hPair => not_lacks hPair
    exact ⟨r', d, hBuild⟩

end Standard

end UnitConversion
