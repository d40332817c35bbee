import Mathlib.Data.List.Dedup
import Mathlib.Data.List.Nodup
import UnitConversion.Proofs.Transform.Registry

/-!
# Lists of lookups

A lookup of a pair succeeds if the pair is there or can be built (`gives`), which no other lookup under
the same declarations changes. A list of lookups therefore adds the pairs up to the first that the
registry does not give (`contains_fetchAll`). No two pairs have one place, and in a reachable registry
there are as many places as pairs.

* `fetch_eq_ok_iff`: when a lookup succeeds.
* `contains_fetchAll`: what a list of lookups adds.
* `fetchAll_of_contains`: pairs that are there are found, and nothing is built.
* `eq_of_place_eq`: an instance belongs to one pair.
* `Reachable.size_eq`: the size of a registry is the number of its pairs.
-/

namespace UnitConversion.Registry

variable {α : Type} {r r' : Registry α} {pair other : UnitPair} {found found' : Instance α}

/-! ## Pairs and places -/

/-- The pairs of a registry, in the order in which they were built. -/
def pairs (r : Registry α) : List UnitPair := r.built.map Prod.fst

theorem size_eq_length_pairs (r : Registry α) : r.size = r.pairs.length := by
  rw [size, pairs, List.length_map]

theorem pairs_push (r : Registry α) (pair : UnitPair) (t : Transform α) :
    (r.push pair t).pairs = r.pairs ++ [pair] := by
  simp [pairs, push]

theorem size_push (r : Registry α) (pair : UnitPair) (t : Transform α) :
    (r.push pair t).size = r.size + 1 := by
  simp [size, push]

theorem contains_iff_find? : r.contains pair = true ↔ ∃ found, r.find? pair = some found :=
  Option.isSome_iff_exists

theorem contains_iff_mem_pairs : r.contains pair = true ↔ pair ∈ r.pairs := by
  have hLookup : r.contains pair = true ↔ ¬ r.built.lookup pair = none := by
    rw [← find?_eq_none_iff, contains, Option.isSome_iff_ne_none]
  rw [hLookup, List.lookup_eq_none_iff, pairs, List.mem_map]
  constructor
  · intro h
    push Not at h
    obtain ⟨entry, hEntry, hEq⟩ := h
    have hSame : pair = entry.1 := by simpa using hEq
    exact ⟨entry, hEntry, hSame.symm⟩
  · rintro ⟨entry, hEntry, rfl⟩ h
    simpa using h entry hEntry

theorem contains_eq_false_iff : r.contains pair = false ↔ r.find? pair = none := by
  rw [contains, Option.isSome_eq_false_iff, Option.isNone_iff_eq_none]

/-- At the place of an instance stands its pair. -/
theorem getElem?_place (h : r.find? pair = some found) : r.pairs[found.place]? = some pair := by
  obtain ⟨t, hLookup, rfl⟩ := Option.map_eq_some_iff.mp h
  have hPlace := findIdx_lt_of_lookup hLookup
  have hThere : r.built[r.built.findIdx fun entry => entry.1 == pair].1 = pair := by
    have hSatisfies := List.findIdx_getElem (w := hPlace)
    simpa using hSatisfies
  dsimp only
  rw [pairs, List.getElem?_map, List.getElem?_eq_getElem hPlace, Option.map_some, hThere]

/-- An instance belongs to one pair. -/
theorem eq_of_place_eq (h : r.find? pair = some found) (h' : r.find? other = some found')
    (hPlace : found.place = found'.place) : pair = other := by
  have hPair := getElem?_place h
  rw [hPlace, getElem?_place h'] at hPair
  exact (Option.some.inj hPair).symm

/-! ## One lookup -/

section Lookups

variable [Scalar α] {table : Declarations α}

/-- A lookup of the pair succeeds: it is there or can be built. -/
def gives (r : Registry α) (table : Declarations α) (pair : UnitPair) : Bool :=
  r.contains pair || (table.build pair).isOk

theorem fetch_eq_ok_iff : (∃ found, (r.fetch table pair).2 = .ok found) ↔ r.gives table pair = true := by
  rcases fetch_cases r table pair with ⟨found, hFound, hRun⟩ | ⟨t, hNone, hBuild, hRun⟩ |
    ⟨e, hNone, hBuild, hRun⟩
  · simp [hRun, gives, contains, hFound]
  · simp [hRun, gives, hBuild, Except.isOk, Except.toBool]
  · simp [hRun, gives, contains, hNone, hBuild, Except.isOk, Except.toBool]

/-- A lookup that fails leaves the registry as it is. -/
theorem fetch_of_gives_eq_false (h : r.gives table pair = false) :
    ∃ e, table.build pair = .error e ∧ r.fetch table pair = (r, .error e) := by
  rcases fetch_cases r table pair with ⟨found, hFound, hRun⟩ | ⟨t, hNone, hBuild, hRun⟩ |
    ⟨e, hNone, hBuild, hRun⟩
  · simp [gives, contains, hFound] at h
  · simp [gives, hBuild, Except.isOk, Except.toBool] at h
  · exact ⟨e, hBuild, hRun⟩

theorem fetch_of_find? (h : r.find? pair = some found) : r.fetch table pair = (r, .ok found) := by
  unfold fetch
  rw [h]

/-- A pair that is not there is built by the declarations in force. -/
theorem fetch_of_build {t : Transform α} (hNone : r.find? pair = none)
    (hBuild : table.build pair = .ok t) :
    r.fetch table pair = (r.push pair t, .ok ⟨r.size, t⟩) := by
  unfold fetch
  rw [hNone, hBuild]

theorem contains_fetch :
    (r.fetch table pair).1.contains other = true ↔
      r.contains other = true ∨ (other = pair ∧ r.gives table pair = true) := by
  rcases fetch_cases r table pair with ⟨found, hFound, hRun⟩ | ⟨t, hNone, hBuild, hRun⟩ |
    ⟨e, hNone, hBuild, hRun⟩
  · have hThere : r.contains pair = true := contains_iff_find?.mpr ⟨found, hFound⟩
    rw [hRun]
    constructor
    · exact Or.inl
    · rintro (hOther | ⟨rfl, -⟩)
      · exact hOther
      · exact hThere
  · have hGives : r.gives table pair = true := by simp [gives, hBuild, Except.isOk, Except.toBool]
    rw [hRun, contains_iff_mem_pairs, pairs_push, List.mem_append, List.mem_singleton,
      contains_iff_mem_pairs]
    simp [hGives]
  · have hRefused : r.gives table pair = false := by
      simp [gives, contains, hNone, hBuild, Except.isOk, Except.toBool]
    rw [hRun]
    simp [hRefused]

/-- Whether a lookup succeeds does not depend on the lookups before it under the same declarations. -/
theorem gives_fetch : (r.fetch table pair).1.gives table other = r.gives table other := by
  rw [Bool.eq_iff_iff, gives, gives, Bool.or_eq_true, Bool.or_eq_true, contains_fetch]
  constructor
  · rintro ((hThere | ⟨rfl, hGives⟩) | hBuild)
    · exact Or.inl hThere
    · exact Bool.or_eq_true_iff.mp hGives
    · exact Or.inr hBuild
  · rintro (hThere | hBuild)
    · exact Or.inl (Or.inl hThere)
    · exact Or.inr hBuild

/-! ## Lists of lookups -/

theorem fetchAll_cons_of_ok {rest : List UnitPair} (h : r.fetch table pair = (r', .ok found)) :
    r.fetchAll table (pair :: rest) =
      ((r'.fetchAll table rest).1, (r'.fetchAll table rest).2.map (found :: ·)) := by
  rw [fetchAll, h]
  dsimp only
  cases r'.fetchAll table rest with
  | mk r'' result => cases result <;> rfl

theorem fetchAll_cons_of_error {e : TransformError α} {rest : List UnitPair}
    (h : r.fetch table pair = (r', .error e)) :
    r.fetchAll table (pair :: rest) = (r', .error e) := by
  rw [fetchAll, h]

/-- A list of lookups adds the pairs up to the first that the registry does not give. -/
theorem contains_fetchAll {asked : List UnitPair} :
    (r.fetchAll table asked).1.contains other = true ↔
      r.contains other = true ∨ other ∈ asked.takeWhile (r.gives table) := by
  induction asked generalizing r with
  | nil => simp [fetchAll]
  | cons pair rest ih =>
    cases hGives : r.gives table pair with
    | false =>
      obtain ⟨e, -, hRun⟩ := fetch_of_gives_eq_false hGives
      rw [fetchAll_cons_of_error hRun, List.takeWhile_cons_of_neg (by simp [hGives])]
      simp
    | true =>
      obtain ⟨found, hOk⟩ := fetch_eq_ok_iff.mpr hGives
      have hRun : r.fetch table pair = ((r.fetch table pair).1, .ok found) := Prod.ext rfl hOk
      have hSame : (r.fetch table pair).1.gives table = r.gives table := funext fun _ => gives_fetch
      rw [fetchAll_cons_of_ok hRun, ih, hSame, contains_fetch, List.takeWhile_cons_of_pos hGives,
        List.mem_cons, or_assoc]
      simp [hGives]

/-- Pairs that are there are found, and nothing is built. -/
theorem fetchAll_of_contains {asked : List UnitPair} (h : ∀ pair ∈ asked, r.contains pair = true) :
    ∃ instances, r.fetchAll table asked = (r, .ok instances) := by
  induction asked with
  | nil => exact ⟨[], rfl⟩
  | cons pair rest ih =>
    obtain ⟨hPair, hRest⟩ := List.forall_mem_cons.mp h
    obtain ⟨found, hFound⟩ := contains_iff_find?.mp hPair
    obtain ⟨others, hOthers⟩ := ih hRest
    refine ⟨found :: others, ?_⟩
    rw [fetchAll_cons_of_ok (fetch_of_find? hFound), hOthers]
    rfl

/-- A list of lookups is made in two parts, the second of them only if the first succeeds. -/
theorem fst_fetchAll_append (before after : List UnitPair) :
    (r.fetchAll table (before ++ after)).1 =
      match r.fetchAll table before with
      | (r', .ok _) => (r'.fetchAll table after).1
      | (r', .error _) => r' := by
  induction before generalizing r with
  | nil => rfl
  | cons pair rest ih =>
    cases hFetch : r.fetch table pair with
    | mk r₁ result =>
      cases result with
      | error e => rw [List.cons_append, fetchAll_cons_of_error hFetch, fetchAll_cons_of_error hFetch]
      | ok found =>
        rw [List.cons_append, fetchAll_cons_of_ok hFetch, fetchAll_cons_of_ok hFetch, ih]
        cases r₁.fetchAll table rest with
        | mk r₂ results => cases results <;> rfl

/-! ## Sizes -/

theorem Fetches.size_le (h : Fetches table r r') : r.size ≤ r'.size := by
  obtain ⟨pair, rfl⟩ := h
  rcases fetch_cases r table pair with ⟨_, -, hRun⟩ | ⟨t, -, -, hRun⟩ | ⟨e, -, -, hRun⟩
  · exact Nat.le_of_eq (by rw [hRun])
  · rw [hRun]
    simp [size, push]
  · exact Nat.le_of_eq (by rw [hRun])

theorem Grown.size_le (h : Grown table r r') : r.size ≤ r'.size := by
  induction h with
  | refl => exact Nat.le_refl _
  | tail _ hStep ih => exact Nat.le_trans ih hStep.size_le

/-- Each pair is built once. -/
theorem Reachable.nodup_pairs (h : Reachable r) : r.pairs.Nodup := by
  induction h with
  | refl => exact List.nodup_nil
  | @tail before _ _ hStep ih =>
    obtain ⟨table, pair, rfl⟩ := hStep
    rcases fetch_cases before table pair with ⟨_, -, hRun⟩ | ⟨t, hNone, -, hRun⟩ | ⟨e, -, -, hRun⟩
    · rw [hRun]
      exact ih
    · rw [hRun, pairs_push]
      have hNew : pair ∉ before.pairs := by
        rw [← contains_iff_mem_pairs, contains_eq_false_iff.mpr hNone]
        decide
      exact List.nodup_append_comm.mp (List.nodup_cons.mpr ⟨hNew, ih⟩)
    · rw [hRun]
      exact ih

/-- The size of a registry is the number of its pairs. -/
theorem Reachable.size_eq (h : Reachable r) {asked : List UnitPair}
    (hAsked : ∀ pair, r.contains pair = true ↔ pair ∈ asked) : r.size = asked.dedup.length := by
  rw [size_eq_length_pairs]
  refine List.Perm.length_eq ((List.perm_ext_iff_of_nodup h.nodup_pairs asked.nodup_dedup).mpr ?_)
  intro pair
  rw [List.mem_dedup, ← hAsked, contains_iff_mem_pairs]

end Lookups

end UnitConversion.Registry
