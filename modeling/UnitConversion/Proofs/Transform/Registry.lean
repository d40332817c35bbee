import Mathlib.Logic.Relation
import UnitConversion.Association
import UnitConversion.Transform.Registry

/-!
# Registries over time

A fetch either finds the pair, or builds it, or fails and changes nothing (`fetch_cases`). What a
registry holds therefore stays as it is through all later fetches, under whatever declarations
(`Grown.find?`), and everything in it was built from the declarations that were in force when its pair
was first fetched.

* `Grown`: what fetches under one table of declarations make of a registry.
* `Reachable`: the registries that fetches under any tables lead to, from the empty one.
* `Grown.find?_eq`: a pair of a grown registry was there before or is built from the table.
* `Reachable.build_eq`: a pair of a reachable registry was built from some table.
* `fetchAll_ok`: the instances of a list of pairs are those of the registry afterwards.
-/

namespace UnitConversion.Registry

variable {α : Type}

/-! ## One more transform -/

section Push

variable {r : Registry α} {pair other : UnitPair} {t : Transform α} {found : Instance α}

theorem find?_eq_none_iff : r.find? pair = none ↔ r.built.lookup pair = none := by
  simp [find?]

/-- A pair that is there has a place. -/
theorem findIdx_lt_of_lookup (h : r.built.lookup pair = some t) :
    (r.built.findIdx fun entry => entry.1 == pair) < r.built.length :=
  List.findIdx_lt_length.mpr ⟨(pair, t), Association.mem_of_lookup h, by simp⟩

theorem find?_push_of_some (h : r.find? other = some found) :
    (r.push pair t).find? other = some found := by
  obtain ⟨u, hLookup, rfl⟩ := Option.map_eq_some_iff.mp h
  have hPlace := findIdx_lt_of_lookup hLookup
  simp [find?, push, List.lookup_append, hLookup, List.findIdx_append, hPlace]

theorem find?_push_self (h : r.find? pair = none) :
    (r.push pair t).find? pair = some ⟨r.size, t⟩ := by
  have hLookup := find?_eq_none_iff.mp h
  have hPlace : (r.built.findIdx fun entry => entry.1 == pair) = r.built.length := by
    rw [List.findIdx_eq_length]
    intro entry hEntry
    have hDiffers := List.lookup_eq_none_iff.mp hLookup entry hEntry
    simp only [bne_iff_ne, ne_eq] at hDiffers
    simpa using Ne.symm hDiffers
  simp [find?, push, List.lookup_append, hLookup, List.findIdx_append, hPlace, size]

theorem find?_push_of_ne (h : other ≠ pair) : (r.push pair t).find? other = r.find? other := by
  cases hFound : r.find? other with
  | some found => exact find?_push_of_some hFound
  | none =>
    have hOther : (other == pair) = false := by simpa using h
    rw [find?_eq_none_iff] at hFound ⊢
    simp [push, List.lookup_append, hFound, List.lookup_cons, hOther]

end Push

/-! ## Fetches -/

variable [Scalar α] {table : Declarations α} {r r' : Registry α} {pair other : UnitPair}
  {found : Instance α}

/-- All that a fetch can do. -/
theorem fetch_cases (r : Registry α) (table : Declarations α) (pair : UnitPair) :
    (∃ found, r.find? pair = some found ∧ r.fetch table pair = (r, .ok found)) ∨
    (∃ t, r.find? pair = none ∧ table.build pair = .ok t ∧
      r.fetch table pair = (r.push pair t, .ok ⟨r.size, t⟩)) ∨
    (∃ e, r.find? pair = none ∧ table.build pair = .error e ∧
      r.fetch table pair = (r, .error e)) := by
  unfold fetch
  cases hFound : r.find? pair with
  | some found => exact Or.inl ⟨found, rfl, rfl⟩
  | none =>
    cases hBuild : table.build pair with
    | ok t => exact Or.inr (Or.inl ⟨t, rfl, rfl, rfl⟩)
    | error e => exact Or.inr (Or.inr ⟨e, rfl, rfl, rfl⟩)

/-- A fetched instance is the one that the registry has from then on. -/
theorem find?_of_fetch_ok (h : r.fetch table pair = (r', .ok found)) :
    r'.find? pair = some found := by
  rcases fetch_cases r table pair with ⟨_, hFound, hRun⟩ | ⟨t, hNone, -, hRun⟩ | ⟨e, -, -, hRun⟩
  · rw [hRun] at h
    cases h
    exact hFound
  · rw [hRun] at h
    cases h
    exact find?_push_self hNone
  · rw [hRun] at h
    cases h

/-- A fetch keeps what is there. -/
theorem find?_fetch_of_some (h : r.find? other = some found) :
    (r.fetch table pair).1.find? other = some found := by
  rcases fetch_cases r table pair with ⟨_, -, hRun⟩ | ⟨t, -, -, hRun⟩ | ⟨e, -, -, hRun⟩
  · rw [hRun]
    exact h
  · rw [hRun]
    exact find?_push_of_some h
  · rw [hRun]
    exact h

/-- A fetch adds nothing but its own pair, built from the table. -/
theorem find?_of_find?_fetch (h : (r.fetch table pair).1.find? other = some found) :
    r.find? other = some found ∨ (r.find? other = none ∧ table.build other = .ok found.transform) := by
  rcases fetch_cases r table pair with ⟨_, -, hRun⟩ | ⟨t, hNone, hBuild, hRun⟩ | ⟨e, -, -, hRun⟩
  · rw [hRun] at h
    exact Or.inl h
  · rw [hRun] at h
    by_cases hOther : other = pair
    · subst hOther
      rw [find?_push_self hNone] at h
      cases h
      exact Or.inr ⟨hNone, hBuild⟩
    · rw [find?_push_of_ne hOther] at h
      exact Or.inl h
  · rw [hRun] at h
    exact Or.inl h

/-! ## Growth -/

/-- One fetch under a table of declarations. -/
def Fetches (table : Declarations α) (r r' : Registry α) : Prop :=
  ∃ pair, r' = (r.fetch table pair).1

/-- What fetches under one table of declarations make of a registry. -/
def Grown (table : Declarations α) : Registry α → Registry α → Prop :=
  Relation.ReflTransGen (Fetches table)

/-- The registries that fetches lead to from the empty one, each under declarations of its own. -/
def Reachable (r : Registry α) : Prop :=
  Relation.ReflTransGen (fun r r' => ∃ table, Fetches table r r') empty r

theorem reachable_empty : Reachable (empty : Registry α) := Relation.ReflTransGen.refl

theorem Grown.find? (h : Grown table r r') (hFound : r.find? pair = some found) :
    r'.find? pair = some found := by
  induction h with
  | refl => exact hFound
  | tail _ hStep ih =>
    obtain ⟨other, rfl⟩ := hStep
    exact find?_fetch_of_some ih

/-- A pair of a grown registry was there before, or it is built from the table. -/
theorem Grown.find?_eq (h : Grown table r r') (hFound : r'.find? pair = some found) :
    r.find? pair = some found ∨ (r.find? pair = none ∧ table.build pair = .ok found.transform) := by
  induction h generalizing found with
  | refl => exact Or.inl hFound
  | tail hBefore hStep ih =>
    obtain ⟨other, rfl⟩ := hStep
    rcases find?_of_find?_fetch hFound with hThere | ⟨hNone, hBuild⟩
    · exact ih hThere
    · refine Or.inr ⟨?_, hBuild⟩
      cases hStart : r.find? pair with
      | none => rfl
      | some first => rw [Grown.find? hBefore hStart] at hNone; cases hNone

/-- A pair of a reachable registry was built from some table of declarations. -/
theorem Reachable.build_eq (h : Reachable r) (hFound : r.find? pair = some found) :
    ∃ table : Declarations α, table.build pair = .ok found.transform := by
  induction h generalizing found with
  | refl => simp [find?, empty] at hFound
  | tail _ hStep ih =>
    obtain ⟨table, other, rfl⟩ := hStep
    rcases find?_of_find?_fetch hFound with hThere | ⟨-, hBuild⟩
    · exact ih hThere
    · exact ⟨table, hBuild⟩

theorem Reachable.grown (h : Reachable r) (hGrown : Grown table r r') : Reachable r' :=
  Relation.ReflTransGen.trans h
    (Relation.ReflTransGen.mono (fun _ _ hStep => ⟨table, hStep⟩) _ _ hGrown)

/-! ## Lists of pairs -/

theorem fetchAll_grown (r : Registry α) (table : Declarations α) (pairs : List UnitPair) :
    Grown table r (r.fetchAll table pairs).1 := by
  induction pairs generalizing r with
  | nil => exact Relation.ReflTransGen.refl
  | cons pair rest ih =>
    have hFirst : Fetches table r (r.fetch table pair).1 := ⟨pair, rfl⟩
    unfold fetchAll
    cases hFetch : r.fetch table pair with
    | mk r₁ result =>
      rw [hFetch] at hFirst
      cases result with
      | error e => exact Relation.ReflTransGen.single hFirst
      | ok found =>
        have hRest := ih r₁
        cases hAll : r₁.fetchAll table rest with
        | mk r₂ results =>
          rw [hAll] at hRest
          cases results with
          | error e =>
            simp only [hAll]
            exact Relation.ReflTransGen.head hFirst hRest
          | ok others =>
            simp only [hAll]
            exact Relation.ReflTransGen.head hFirst hRest

/-- The instances of a list of pairs are those that the registry has afterwards. -/
theorem fetchAll_ok {pairs : List UnitPair} {instances : List (Instance α)}
    (h : r.fetchAll table pairs = (r', .ok instances)) :
    pairs.map r'.find? = instances.map some := by
  induction pairs generalizing r instances with
  | nil =>
    cases h
    rfl
  | cons pair rest ih =>
    unfold fetchAll at h
    cases hFetch : r.fetch table pair with
    | mk r₁ result =>
      rw [hFetch] at h
      cases result with
      | error e => cases h
      | ok found =>
        have hGrown := fetchAll_grown r₁ table rest
        cases hAll : r₁.fetchAll table rest with
        | mk r₂ results =>
          rw [hAll] at hGrown
          simp only [hAll] at h
          cases results with
          | error e => cases h
          | ok others =>
            cases h
            rw [List.map_cons, List.map_cons, ih hAll, hGrown.find? (find?_of_fetch_ok hFetch)]

end UnitConversion.Registry
