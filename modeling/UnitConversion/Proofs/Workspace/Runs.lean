import UnitConversion.Proofs.Conversion.Rebuild
import UnitConversion.Proofs.Transform.Formula
import UnitConversion.Workspace

/-!
# Runs on one registry

A run of steps without a new registry acts on one registry. What a step does to it is a list of lookups
under the declarations in force (`step_registry`), whatever else the step does and whether or not it
succeeds. By induction over the run, the registry has the pairs that were ever looked up with success,
each with the transform that was built the first time, and instances keep their numbers.

* `fetchedBy`: the pairs that a run looks up with success.
* `Extends`: what a step, and so a run, keeps.
* `contains_after`: which pairs a registry has after a run.
* `HandsOut`: a pair has been handed out under a number, which no later step changes.
* `run_builds_once`: transforms are built once, and a dispatcher that was built does not change.
-/

namespace UnitConversion

variable {α : Type}

namespace Workspace

variable {w w' w'' : Workspace α} {pair other : UnitPair} {t t' : Transform α} {n n' : Nat}

/-! ## Instances with numbers -/

/-- The instances that were handed out, with that at a place among them. -/
def numbered (w : Workspace α) (place : Nat) : List (Nat × Nat) :=
  if w.handedOut.contains (w.generation, place) then w.handedOut
  else w.handedOut ++ [(w.generation, place)]

theorem handedOut_prefix_numbered (w : Workspace α) (place : Nat) :
    w.handedOut <+: w.numbered place := by
  unfold numbered
  split
  · exact List.prefix_refl _
  · exact List.prefix_append _ _

theorem mem_numbered (w : Workspace α) (place : Nat) :
    (w.generation, place) ∈ w.numbered place := by
  unfold numbered
  split
  · rename_i hThere
    exact List.contains_iff_mem.mp hThere
  · exact List.mem_append_right _ (List.mem_singleton_self _)

theorem numbered_of_mem {place : Nat} (h : (w.generation, place) ∈ w.handedOut) :
    w.numbered place = w.handedOut := if_pos (List.contains_iff_mem.mpr h)

/-- The instances of the first workspace are in the second one as well, under the same numbers. -/
structure Extends (w w' : Workspace α) : Prop where
  keeps : ∀ pair found, w.registry.find? pair = some found → w'.registry.find? pair = some found
  size_le : w.registry.size ≤ w'.registry.size
  generation_eq : w'.generation = w.generation
  handedOut_prefix : w.handedOut <+: w'.handedOut

theorem Extends.refl (w : Workspace α) : w.Extends w :=
  ⟨fun _ _ h => h, Nat.le_refl _, rfl, List.prefix_refl _⟩

theorem Extends.trans (h : w.Extends w') (h' : w'.Extends w'') : w.Extends w'' where
  keeps pair found hFound := h'.keeps pair found (h.keeps pair found hFound)
  size_le := Nat.le_trans h.size_le h'.size_le
  generation_eq := h'.generation_eq.trans h.generation_eq
  handedOut_prefix := h.handedOut_prefix.trans h'.handedOut_prefix

/-- The transform of the pair has been handed out under the number. -/
def HandsOut (w : Workspace α) (pair : UnitPair) (t : Transform α) (n : Nat) : Prop :=
  ∃ place, w.registry.find? pair = some ⟨place, t⟩ ∧ (w.generation, place) ∈ w.handedOut ∧
    w.handedOut.idxOf (w.generation, place) = n

theorem HandsOut.extends (h : w.HandsOut pair t n) (hExtends : w.Extends w') :
    w'.HandsOut pair t n := by
  obtain ⟨place, hFound, hMem, rfl⟩ := h
  obtain ⟨more, hMore⟩ := hExtends.handedOut_prefix
  refine ⟨place, hExtends.keeps _ _ hFound, ?_, ?_⟩
  · rw [hExtends.generation_eq, ← hMore]
    exact List.mem_append_left _ hMem
  · rw [hExtends.generation_eq, ← hMore, List.idxOf_append_of_mem hMem]

/-- A number belongs to one pair. -/
theorem HandsOut.number_eq_iff (h : w.HandsOut pair t n) (h' : w.HandsOut other t' n') :
    n = n' ↔ pair = other := by
  obtain ⟨place, hFound, hMem, rfl⟩ := h
  obtain ⟨place', hFound', hMem', rfl⟩ := h'
  constructor
  · intro hNumber
    have hPlace := (List.idxOf_inj hMem).mp hNumber
    exact Registry.eq_of_place_eq hFound hFound' (congrArg Prod.snd hPlace)
  · rintro rfl
    rw [hFound] at hFound'
    cases hFound'
    rfl

theorem fst_answerFetch (result : Workspace α × Except (TransformError α) (Transform α × Nat))
    (answer : Workspace α → Transform α → Nat → Answer α) :
    (answerFetch result answer).1 = result.1 := by
  obtain ⟨w, result⟩ := result
  cases result <;> rfl

end Workspace

variable [Scalar α]

namespace Declarations

variable {table : Declarations α} {pair : UnitPair}

/-- A declaration is what is built from then on. -/
theorem build_declare (table : Declarations α) (pair : UnitPair) (factor offset : α)
    (swapped : Bool) :
    (table.declare pair factor offset swapped).build pair =
      Transform.build swapped factor offset := by
  have hSwapped : (table.declare pair factor offset swapped).swapped.contains pair = swapped := by
    cases swapped <;> simp [declare]
  have hLookup : (table.declare pair factor offset swapped).formulas.lookup pair =
      some (factor, offset) := Association.lookup_put_self _ _ _
  unfold build
  rw [hLookup, hSwapped]

/-- What is built has the declared formula and orientation. -/
theorem transform_eq_of_build {t : Transform α} (h : table.build pair = .ok t) :
    ∃ factor offset, table.formulas.lookup pair = some (factor, offset) ∧
      t = ⟨factor, offset, factor⁻¹, table.swapped.contains pair⟩ := by
  obtain ⟨factor, offset, hLookup, hBuild⟩ := build_ok h
  exact ⟨factor, offset, hLookup, (Transform.build_ok hBuild).2⟩

end Declarations

/-! ## Lookups of a step -/

/-- The pairs that a step looks up in the registry, in order, until one cannot be had. -/
def Step.asks : Step α → List UnitPair
  | .get pair | .forward pair _ | .backward pair _ => [pair]
  | .expandGroup g => g.pairs
  | .expandCatalog gs => catalogPairs gs
  | .buildDispatcher gs => Dispatcher.asks gs
  | _ => []

namespace Workspace

variable {w w' : Workspace α} {s : Step α} {steps : List (Step α)} {pair : UnitPair}
  {t : Transform α} {n size : Nat}

/-- The pairs that a step looks up with success. -/
def fetched (w : Workspace α) (s : Step α) : List UnitPair :=
  s.asks.takeWhile (w.registry.gives w.table)

/-- The pairs that a run looks up with success. -/
def fetchedBy (w : Workspace α) : List (Step α) → List UnitPair
  | [] => []
  | s :: rest => w.fetched s ++ (w.step s).1.fetchedBy rest

/-- The run acts on one registry. -/
def OnOneRegistry (steps : List (Step α)) : Prop := ∀ s ∈ steps, s ≠ .newRegistry

/-- The workspace after a run. -/
def after (w : Workspace α) (steps : List (Step α)) : Workspace α := (w.run steps).1

theorem after_cons (w : Workspace α) (s : Step α) (rest : List (Step α)) :
    w.after (s :: rest) = (w.step s).1.after rest := rfl

/-! ## Lookups one by one -/

theorem fetch_registry (w : Workspace α) (pair : UnitPair) :
    (w.fetch pair).1.registry = (w.registry.fetch w.table pair).1 := by
  unfold fetch
  cases w.registry.fetch w.table pair with
  | mk r result => cases result <;> rfl

theorem fst_fetchAll_singleton (r : Registry α) (table : Declarations α) (pair : UnitPair) :
    (r.fetchAll table [pair]).1 = (r.fetch table pair).1 := by
  cases hFetch : r.fetch table pair with
  | mk r' result =>
    cases result with
    | error e => rw [Registry.fetchAll_cons_of_error hFetch]
    | ok found => rw [Registry.fetchAll_cons_of_ok hFetch]; rfl

/-- All that a step can do but for a new registry: fetch a pair, or look up what it asks for, set the
declarations and put dispatchers behind those that are there. -/
theorem step_cases (w : Workspace α) (hOne : s ≠ .newRegistry) :
    (∃ pair, s.asks = [pair] ∧ (w.step s).1 = (w.fetch pair).1) ∨
    ∃ table more, (w.step s).1 = { w with
      table := table
      registry := (w.registry.fetchAll w.table s.asks).1
      dispatchers := w.dispatchers ++ more } := by
  have hNoMore : w.dispatchers ++ [] = w.dispatchers := List.append_nil _
  cases s with
  | newRegistry => exact absurd rfl hOne
  | get pair => exact Or.inl ⟨pair, rfl, fst_answerFetch _ _⟩
  | forward pair x => exact Or.inl ⟨pair, rfl, fst_answerFetch _ _⟩
  | backward pair x => exact Or.inl ⟨pair, rfl, fst_answerFetch _ _⟩
  | expandGroup g =>
    refine Or.inr ⟨w.table, [], ?_⟩
    show (w.answerEntries (g.expand w.table w.registry)).1 = _
    rw [answerEntries, g.fst_expand, hNoMore]
    rfl
  | expandCatalog groups =>
    refine Or.inr ⟨w.table, [], ?_⟩
    show (w.answerEntries (UnitConversion.expandCatalog w.table w.registry groups)).1 = _
    rw [answerEntries, fst_expandCatalog, hNoMore]
    rfl
  | buildDispatcher groups =>
    have hBuild := Dispatcher.fst_build w.table w.registry groups
    right
    simp only [step]
    cases hRun : Dispatcher.build w.table w.registry groups with
    | mk r result =>
      rw [hRun] at hBuild
      cases hBuild
      cases result with
      | ok d => exact ⟨w.table, [d], rfl⟩
      | error e => exact ⟨w.table, [], by rw [hNoMore]; rfl⟩
  | resetDispatcher groups =>
    right
    simp only [step]
    cases Dispatcher.ofGroups w.table groups with
    | mk r result =>
      cases result with
      | ok d => exact ⟨w.table, [d], rfl⟩
      | error e => exact ⟨w.table, [], by rw [hNoMore]; rfl⟩
  | build pair =>
    refine Or.inr ⟨w.table, [], ?_⟩
    rw [hNoMore]
    simp only [step]
    cases w.table.build pair <;> rfl
  | _ => exact Or.inr ⟨_, [], by rw [hNoMore]; rfl⟩

theorem step_registry (hOne : s ≠ .newRegistry) :
    (w.step s).1.registry = (w.registry.fetchAll w.table s.asks).1 := by
  rcases w.step_cases hOne with ⟨pair, hAsks, hStep⟩ | ⟨table, more, hStep⟩
  · rw [hStep, hAsks, fetch_registry, fst_fetchAll_singleton]
  · rw [hStep]

theorem step_grown (hOne : s ≠ .newRegistry) :
    Registry.Grown w.table w.registry (w.step s).1.registry := by
  rw [step_registry hOne]
  exact Registry.fetchAll_grown w.registry w.table s.asks

/-- A step adds the pairs that it looks up with success. -/
theorem contains_step (hOne : s ≠ .newRegistry) :
    (w.step s).1.registry.contains pair = true ↔
      w.registry.contains pair = true ∨ pair ∈ w.fetched s := by
  rw [step_registry hOne, Registry.contains_fetchAll]
  rfl

/-! ## What a step keeps -/

theorem fetch_counters (w : Workspace α) (pair : UnitPair) :
    (w.fetch pair).1.generation = w.generation ∧ w.handedOut <+: (w.fetch pair).1.handedOut := by
  unfold fetch
  cases w.registry.fetch w.table pair with
  | mk r result =>
    cases result with
    | error e => exact ⟨rfl, List.prefix_refl _⟩
    | ok found => exact ⟨rfl, w.handedOut_prefix_numbered found.place⟩

theorem step_counters (hOne : s ≠ .newRegistry) :
    (w.step s).1.generation = w.generation ∧ w.handedOut <+: (w.step s).1.handedOut := by
  rcases w.step_cases hOne with ⟨pair, -, hStep⟩ | ⟨table, more, hStep⟩
  · rw [hStep]
    exact w.fetch_counters pair
  · rw [hStep]
    exact ⟨rfl, List.prefix_refl _⟩

theorem step_extends (hOne : s ≠ .newRegistry) : w.Extends (w.step s).1 where
  keeps _ _ hFound := (step_grown hOne).find? hFound
  size_le := (step_grown hOne).size_le
  generation_eq := (step_counters hOne).1
  handedOut_prefix := (step_counters hOne).2

/-! ## What a run keeps -/

theorem after_extends (hOne : OnOneRegistry steps) : w.Extends (w.after steps) := by
  induction steps generalizing w with
  | nil => exact Extends.refl w
  | cons s rest ih =>
    obtain ⟨hStep, hRest⟩ := List.forall_mem_cons.mp hOne
    exact (step_extends hStep).trans (ih hRest)

/-- A run adds the pairs that it looks up with success. -/
theorem contains_after (hOne : OnOneRegistry steps) :
    (w.after steps).registry.contains pair = true ↔
      w.registry.contains pair = true ∨ pair ∈ w.fetchedBy steps := by
  induction steps generalizing w with
  | nil => simp [after, run, fetchedBy]
  | cons s rest ih =>
    obtain ⟨hStep, hRest⟩ := List.forall_mem_cons.mp hOne
    rw [after_cons, ih hRest, contains_step hStep, fetchedBy, List.mem_append, or_assoc]

theorem after_reachable (hOne : OnOneRegistry steps) (hReachable : w.registry.Reachable) :
    (w.after steps).registry.Reachable := by
  induction steps generalizing w with
  | nil => exact hReachable
  | cons s rest ih =>
    obtain ⟨hStep, hRest⟩ := List.forall_mem_cons.mp hOne
    exact ih hRest (hReachable.grown (step_grown hStep))

theorem after_serves {d : Dispatcher α} {groups : List Group} (hOne : OnOneRegistry steps)
    (hServes : d.Serves groups w.registry) : d.Serves groups (w.after steps).registry := by
  induction steps generalizing w with
  | nil => exact hServes
  | cons s rest ih =>
    obtain ⟨hStep, hRest⟩ := List.forall_mem_cons.mp hOne
    exact ih hRest (hServes.grown (step_grown hStep))

/-! ## Dispatchers -/

theorem fetch_dispatchers (w : Workspace α) (pair : UnitPair) : (w.fetch pair).1.dispatchers = w.dispatchers := by
  unfold fetch
  cases w.registry.fetch w.table pair with
  | mk r result => cases result <;> rfl

/-- No step takes a dispatcher away or puts another one in its place. -/
theorem dispatchers_prefix_step (w : Workspace α) (s : Step α) : w.dispatchers <+: (w.step s).1.dispatchers := by
  by_cases hNew : s = .newRegistry
  · rw [hNew]
    exact List.prefix_refl _
  · rcases w.step_cases hNew with ⟨pair, -, hStep⟩ | ⟨table, more, hStep⟩
    · have hSame : (w.step s).1.dispatchers = w.dispatchers := by rw [hStep, fetch_dispatchers]
      exact hSame ▸ List.prefix_refl _
    · rw [hStep]
      exact List.prefix_append _ _

theorem dispatchers_prefix_after (w : Workspace α) (steps : List (Step α)) :
    w.dispatchers <+: (w.after steps).dispatchers := by
  induction steps generalizing w with
  | nil => exact List.prefix_refl _
  | cons s rest ih => exact (w.dispatchers_prefix_step s).trans (ih _)

/-- A dispatcher answers for itself, whatever else is in the workspace. -/
theorem step_ask {d : Dispatcher α} {place : Nat} (hPlace : w.dispatchers[place]? = some d) (q : Question α) :
    w.step (.ask place q) = (w, d.answerTo q) := by
  rw [step, List.getD_eq_getElem?_getD, hPlace]
  rfl

/-- What a dispatcher is asked for is answered the same after any run. -/
theorem step_ask_after {d : Dispatcher α} {place : Nat} (hPlace : w.dispatchers[place]? = some d)
    (steps : List (Step α)) (q : Question α) :
    (w.after steps).step (.ask place q) = (w.after steps, d.answerTo q) := by
  obtain ⟨more, hMore⟩ := w.dispatchers_prefix_after steps
  obtain ⟨hInside, -⟩ := List.getElem?_eq_some_iff.mp hPlace
  apply step_ask
  rw [← hMore, List.getElem?_append_left hInside, hPlace]

theorem built_of_step {groups : List Group} (h : (w.step (.buildDispatcher groups)).2 = .built n size) :
    ∃ d : Dispatcher α, (w.step (.buildDispatcher groups)).1.dispatchers = w.dispatchers ++ [d] ∧
      d.Serves groups (w.step (.buildDispatcher groups)).1.registry := by
  simp only [step] at h ⊢
  cases hRun : Dispatcher.build w.table w.registry groups with
  | mk r result =>
    rw [hRun] at h
    cases result with
    | error e => cases h
    | ok d => exact ⟨d, rfl, Dispatcher.build_ok hRun⟩

/-! ## Lookups of one pair -/

theorem step_get_of_ok {r : Registry α} {found : Instance α}
    (h : w.registry.fetch w.table pair = (r, .ok found)) :
    w.step (.get pair) =
      ({ w with registry := r, handedOut := w.numbered found.place },
        .handedOut found.transform ((w.numbered found.place).idxOf (w.generation, found.place))
          r.size) := by
  simp only [step, fetch, answerFetch, numbered, h]

theorem step_get_of_error {r : Registry α} {e : TransformError α}
    (h : w.registry.fetch w.table pair = (r, .error e)) :
    w.step (.get pair) = ({ w with registry := r }, .failed (.transform e)) := by
  simp only [step, fetch, answerFetch, h]

theorem handsOut_of_get (h : (w.step (.get pair)).2 = .handedOut t n size) :
    (w.step (.get pair)).1.HandsOut pair t n := by
  cases hFetch : w.registry.fetch w.table pair with
  | mk r result =>
    cases result with
    | error e =>
      rw [step_get_of_error hFetch] at h
      cases h
    | ok found =>
      rw [step_get_of_ok hFetch] at h ⊢
      cases h
      exact ⟨found.place, Registry.find?_of_fetch_ok hFetch, w.mem_numbered found.place, rfl⟩

/-- An instance that has been handed out is handed out again, and nothing changes. -/
theorem HandsOut.step_get (h : w.HandsOut pair t n) :
    w.step (.get pair) = (w, .handedOut t n w.registry.size) := by
  obtain ⟨place, hFound, hMem, rfl⟩ := h
  rw [step_get_of_ok (Registry.fetch_of_find? hFound)]
  dsimp only
  rw [numbered_of_mem hMem]

theorem build_of_get (h : (w.step (.get pair)).2 = .handedOut t n size)
    (hNew : w.registry.contains pair = false) : w.table.build pair = .ok t := by
  have hNone := Registry.contains_eq_false_iff.mp hNew
  obtain ⟨place, hFound, -⟩ := handsOut_of_get h
  rcases (step_grown (w := w) (s := .get pair) (by simp)).find?_eq hFound with hBefore | ⟨-, hBuild⟩
  · rw [hNone] at hBefore
    cases hBefore
  · exact hBuild

/-! ## Lookups that fail -/

theorem get_of_failed {e : BuildError α} (h : (w.step (.get pair)).2 = .failed e) :
    (w.step (.get pair)).1 = w ∧ w.registry.contains pair = false := by
  cases hGives : w.registry.gives w.table pair with
  | true =>
    obtain ⟨found, hOk⟩ := Registry.fetch_eq_ok_iff.mpr hGives
    rw [step_get_of_ok (Prod.ext rfl hOk)] at h
    cases h
  | false =>
    obtain ⟨e', -, hFetch⟩ := Registry.fetch_of_gives_eq_false hGives
    rw [step_get_of_error hFetch]
    exact ⟨rfl, (Bool.or_eq_false_iff.mp hGives).1⟩

/-- A pair that is not there can be had as soon as it has a usable declaration. -/
theorem get_of_declare {factor : α} (hNew : w.registry.contains pair = false)
    (hFactor : Scalar.negligible factor = false) (offset : α) (swapped : Bool) :
    ∃ n, ((w.step (.declare pair factor offset swapped)).1.step (.get pair)).2 =
      .handedOut ⟨factor, offset, factor⁻¹, swapped⟩ n (w.registry.size + 1) := by
  have hBuild : (w.table.declare pair factor offset swapped).build pair =
      .ok ⟨factor, offset, factor⁻¹, swapped⟩ := by
    rw [Declarations.build_declare, Transform.build, if_neg (by simp [hFactor])]
  have hFetch := Registry.fetch_of_build (Registry.contains_eq_false_iff.mp hNew) hBuild
  have hGet := step_get_of_ok (w := (w.step (.declare pair factor offset swapped)).1) hFetch
  rw [← Registry.size_push w.registry pair ⟨factor, offset, factor⁻¹, swapped⟩, hGet]
  exact ⟨_, rfl⟩

/-! ## Whole runs -/

/-- A pair that a step looks up with success is there from then on, in the instance that was there
before or is built from the declarations in force. -/
theorem find?_of_fetched (hOne : s ≠ .newRegistry) (hFetched : pair ∈ w.fetched s) :
    ∃ found, (w.registry.contains pair = false → w.table.build pair = .ok found.transform) ∧
      ∀ later, OnOneRegistry later →
        ((w.step s).1.after later).registry.find? pair = some found := by
  obtain ⟨found, hFound⟩ := Registry.contains_iff_find?.mp ((contains_step hOne).mpr (Or.inr hFetched))
  refine ⟨found, fun hNew => ?_, fun later hLater => (after_extends hLater).keeps _ _ hFound⟩
  rcases (step_grown hOne).find?_eq hFound with hBefore | ⟨-, hBuild⟩
  · rw [Registry.contains_eq_false_iff.mp hNew] at hBefore
    cases hBefore
  · exact hBuild

theorem contains_start_after {table : Declarations α} {ds : List (Dispatcher α)}
    (hOne : OnOneRegistry steps) :
    ((start table ds).after steps).registry.contains pair = true ↔
      pair ∈ (start table ds).fetchedBy steps := by
  rw [contains_after hOne]
  constructor
  · rintro (hStart | hFetched)
    · cases hStart
    · exact hFetched
  · exact Or.inr

/-- **Built once.** Along a run on one registry, the registry has exactly the pairs that were ever looked
up with success, and as many instances; the first lookup of a pair gives what is declared at that
moment, and all later ones give the same instance under the same number, which no other pair has. A
lookup that fails changes nothing, and succeeds once there is a usable declaration. A dispatcher that
was built stays where it is and answers as it did at first, whatever is built after it, and it is what would be
built of its groups at any later time. -/
theorem run_builds_once {table : Declarations α} {ds : List (Dispatcher α)} {before : List (Step α)}
    (hBefore : OnOneRegistry before) {w : Workspace α} (hw : (start table ds).after before = w) :
    (∀ pair, w.registry.contains pair = true ↔ pair ∈ (start table ds).fetchedBy before) ∧
    w.registry.size = ((start table ds).fetchedBy before).dedup.length ∧
    (∀ later, OnOneRegistry later → w.registry.size ≤ (w.after later).registry.size) ∧
    (∀ s pair, s ≠ .newRegistry → pair ∈ w.fetched s → ∃ found : Instance α,
      (pair ∉ (start table ds).fetchedBy before →
        ∃ factor offset, w.table.formulas.lookup pair = some (factor, offset) ∧
          found.transform = ⟨factor, offset, factor⁻¹, w.table.swapped.contains pair⟩) ∧
      ∀ later, OnOneRegistry later →
        ((w.step s).1.after later).registry.find? pair = some found) ∧
    (∀ pair t n size, (w.step (.get pair)).2 = .handedOut t n size →
      (pair ∉ (start table ds).fetchedBy before →
        ∃ factor offset, w.table.formulas.lookup pair = some (factor, offset) ∧
          t = ⟨factor, offset, factor⁻¹, w.table.swapped.contains pair⟩) ∧
      ∀ later, OnOneRegistry later → ∀ w', (w.step (.get pair)).1.after later = w' →
        w'.step (.get pair) = (w', .handedOut t n w'.registry.size) ∧
        ∀ other t' n' size', (w'.step (.get other)).2 = .handedOut t' n' size' →
          (n = n' ↔ pair = other)) ∧
    (∀ pair e, (w.step (.get pair)).2 = .failed e →
      (w.step (.get pair)).1 = w ∧
      ∀ later, OnOneRegistry later → pair ∉ w.fetchedBy later → ∀ w', w.after later = w' →
        ∀ factor offset swapped, Scalar.negligible factor = false →
          ∃ n, ((w'.step (.declare pair factor offset swapped)).1.step (.get pair)).2 =
            .handedOut ⟨factor, offset, factor⁻¹, swapped⟩ n (w'.registry.size + 1)) ∧
    ∀ groups n size, (w.step (.buildDispatcher groups)).2 = .built n size → ∃ d : Dispatcher α,
      ∀ w₁, (w.step (.buildDispatcher groups)).1 = w₁ → w₁.dispatchers = w.dispatchers ++ [d] ∧
        (∀ later, OnOneRegistry later → ∀ w', w₁.after later = w' →
          Dispatcher.build w'.table w'.registry groups = (w'.registry, .ok d)) ∧
        ∀ later q, (w₁.after later).step (.ask w.dispatchers.length q) = (w₁.after later, d.answerTo q) := by
  have hContains : ∀ pair, w.registry.contains pair = true ↔
      pair ∈ (start table ds).fetchedBy before := fun pair => hw ▸ contains_start_after hBefore
  have hNew : ∀ pair, pair ∉ (start table ds).fetchedBy before → w.registry.contains pair = false := by
    intro pair hPair
    rw [← Bool.not_eq_true, hContains]
    exact hPair
  have hReachable : w.registry.Reachable :=
    hw ▸ after_reachable hBefore Registry.reachable_empty
  refine ⟨hContains, hReachable.size_eq hContains, fun later hLater => (after_extends hLater).size_le,
    ?_, ?_, ?_, ?_⟩
  · intro s pair hOne hFetched
    obtain ⟨found, hBuild, hLater⟩ := find?_of_fetched hOne hFetched
    exact ⟨found, fun hFirst => Declarations.transform_eq_of_build (hBuild (hNew pair hFirst)), hLater⟩
  · intro pair t n size hGet
    refine ⟨fun hFirst => Declarations.transform_eq_of_build (build_of_get hGet (hNew pair hFirst)), ?_⟩
    rintro later hLater w' rfl
    -- What was handed out keeps its number, so that asking again gives the same.
    have hHands := (handsOut_of_get hGet).extends (after_extends hLater)
    refine ⟨hHands.step_get, fun other t' n' size' hOther => ?_⟩
    have hGetOther : (Step.get other : Step α) ≠ .newRegistry := by simp
    exact (hHands.extends (step_extends hGetOther)).number_eq_iff (handsOut_of_get hOther)
  · intro pair e hGet
    obtain ⟨hSame, hAbsent⟩ := get_of_failed hGet
    refine ⟨hSame, ?_⟩
    rintro later hLater hNever w' rfl factor offset swapped hFactor
    refine get_of_declare ?_ hFactor offset swapped
    rw [← Bool.not_eq_true, contains_after hLater]
    rintro (hThere | hFetched)
    · rw [hAbsent] at hThere
      cases hThere
    · exact hNever hFetched
  · intro groups n size hBuilt
    obtain ⟨d, hAdded, hServes⟩ := built_of_step hBuilt
    refine ⟨d, ?_⟩
    rintro w₁ rfl
    refine ⟨hAdded, ?_, fun later q => step_ask_after (by simp [hAdded]) later q⟩
    rintro later hLater w' rfl
    exact (after_serves hLater hServes).build_eq _

end Workspace

namespace Standard

/-- What is done after a dispatcher of weights is built: pounds are declared anew, and on a new registry another
dispatcher is built. -/
def rebuilding : List (Step Binary64) :=
  [.declare (gram, pound) (constant 1 0) (.zero false) true, .newRegistry, .buildDispatcher [weight]]

/-- A pair that was declared and looked up keeps its transform when it is declared anew and when its
declaration is taken out. A dispatcher answers as at first when another one was built from other declarations. -/
theorem run_builds_once_redeclared :
    (∃ w t n, (Workspace.start ⟨[], []⟩ [] : Workspace Binary64).after
        [.declare (gram, pound) (constant 453592 (-3)) (.zero false) false] = w ∧
      (w.step (.get (gram, pound))).2 = .handedOut t n 1 ∧
      t.factor = constant 453592 (-3) ∧
      ∃ w', (w.step (.get (gram, pound))).1.after
          [.declare (gram, pound) (constant 1 0) (.zero false) true, .undeclare (gram, pound)] = w' ∧
        w'.step (.get (gram, pound)) = (w', .handedOut t n w'.registry.size)) ∧
    ∃ w₁ d, ((Workspace.start declarations []).step (.buildDispatcher [weight])).1 = w₁ ∧ w₁.dispatchers = [d] ∧
      (w₁.after rebuilding).dispatchers.length = 2 ∧
      ∀ q, (w₁.after rebuilding).step (.ask 0 q) = (w₁.after rebuilding, d.answerTo q) := by
  constructor
  · have hFactor : Scalar.negligible (constant 453592 (-3)) = false := by decide +kernel
    generalize constant 453592 (-3) = factor at hFactor ⊢
    have hBefore : Workspace.OnOneRegistry [.declare (gram, pound) factor (.zero false) false] := by
      simp [Workspace.OnOneRegistry]
    have hLater : Workspace.OnOneRegistry
        [.declare (gram, pound) (constant 1 0) (.zero false) true, .undeclare (gram, pound)] := by
      simp [Workspace.OnOneRegistry]
    obtain ⟨w, hw⟩ : ∃ w, (Workspace.start ⟨[], []⟩ [] : Workspace Binary64).after
        [.declare (gram, pound) factor (.zero false) false] = w := ⟨_, rfl⟩
    obtain ⟨n, hGet⟩ : ∃ n, (w.step (.get (gram, pound))).2 =
        .handedOut ⟨factor, .zero false, factor⁻¹, false⟩ n 1 := by
      rw [← hw]
      exact Workspace.get_of_declare rfl hFactor (.zero false) false
    obtain ⟨-, -, -, -, hGets, -⟩ := Workspace.run_builds_once hBefore hw
    obtain ⟨-, hAgain⟩ := hGets _ _ _ _ hGet
    exact ⟨w, _, n, hw, hGet, rfl, _, rfl, (hAgain _ hLater _ rfl).1⟩
  · have hNothing : Workspace.OnOneRegistry ([] : List (Step Binary64)) := by simp [Workspace.OnOneRegistry]
    have hBuilds : (Dispatcher.build declarations .empty [weight]).2.isOk = true := by decide +kernel
    have hTwo : (((Workspace.start declarations []).step (.buildDispatcher [weight])).1.after
        rebuilding).dispatchers.length = 2 := by
      decide +kernel
    obtain ⟨n, size, hBuilt⟩ : ∃ n size,
        ((Workspace.start declarations []).step (.buildDispatcher [weight])).2 = .built n size := by
      simp only [Workspace.step, Workspace.start]
      cases hRun : Dispatcher.build declarations .empty [weight] with
      | mk r result =>
        rw [hRun] at hBuilds
        cases result with
        | error e => cases hBuilds
        | ok d => exact ⟨_, _, rfl⟩
    have hStart : (Workspace.start declarations []).after [] = Workspace.start declarations [] := rfl
    obtain ⟨-, -, -, -, -, -, hDispatchers⟩ := Workspace.run_builds_once hNothing hStart
    obtain ⟨d, hAdded⟩ := hDispatchers [weight] n size hBuilt
    obtain ⟨hAll, -, hSame⟩ := hAdded _ rfl
    exact ⟨_, d, rfl, hAll, hTwo, hSame rebuilding⟩

end Standard

end UnitConversion
