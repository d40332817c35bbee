import Mathlib.Algebra.BigOperators.Group.List.Basic
import Mathlib.Data.List.Nodup
import UnitConversion.Proofs.Conversion.Transforms

/-!
# The shape of the table of entries

The keys of a table of entries are a function of the groups alone: for each group the ordered pairs of
different signatures in it, in an order that is said here by positions (`Group.keysInOrder`). So the
number of entries is known beforehand, and the index of a dispatcher gives the same entry as a search
from the first entry on.

* `Group.map_key_entriesIn`: the keys of a group that was built, in order.
* `Group.length_keysInOrder`: a group of `n` minors has `n * (n + 1)` of them.
* `Group.mem_keysInOrder_iff`: they are the pairs of different signatures.
* `entries_in_order`: the table of a dispatcher that was built.
-/

namespace UnitConversion

/-! ## Pairs by position -/

section Positions

variable {β γ : Type} [DecidableEq β]

/-- In a list without repetition, leaving out a place is leaving out what stands there. -/
theorem eraseIdx_eq_filter {xs : List β} (hNodup : xs.Nodup) {x : β} {i : Nat}
    (hAt : xs[i]? = some x) : xs.eraseIdx i = xs.filter fun y => y ≠ x := by
  obtain ⟨hBound, hGet⟩ := List.getElem?_eq_some_iff.mp hAt
  have hErase : xs.erase x = xs.eraseIdx i := by
    rw [← hGet]
    exact hNodup.erase_getElem i hBound
  rw [← hErase, hNodup.erase_eq_filter]
  refine List.filter_congr fun y _ => ?_
  by_cases hEq : y = x <;> simp [hEq]

theorem flatMap_eraseIdx {xs : List β} (hNodup : xs.Nodup) (f : β → List β → List γ) :
    (xs.zipIdx.flatMap fun p => f p.1 (xs.eraseIdx p.2)) =
      xs.flatMap fun x => f x (xs.filter fun y => y ≠ x) := by
  conv_rhs => rw [← List.zipIdx_map_fst 0 xs, List.flatMap_map]
  rw [List.zipIdx_map_fst]
  refine List.flatMap_congr fun p hp => ?_
  obtain ⟨x, i⟩ := p
  rw [eraseIdx_eq_filter hNodup (List.mem_zipIdx_iff_getElem?.mp hp)]

end Positions

namespace Group

/-- The ordered pairs of different signatures of a group: from the primary unit to each minor, from
each minor to the primary unit, and then, for each minor as the target, from the minors at the other
places. -/
def keysInOrder (g : Group) : List (Text × Text) :=
  let minors := signatures g.minors
  minors.map (fun m => (g.primary.signature, m)) ++ minors.map (fun m => (m, g.primary.signature)) ++
    minors.zipIdx.flatMap fun target =>
      (minors.eraseIdx target.2).map fun source => (source, target.1)

theorem length_keysInOrder (g : Group) :
    g.keysInOrder.length = g.minors.length * (g.minors.length + 1) := by
  have hBetween : (signatures g.minors).zipIdx.map
      (fun target => ((signatures g.minors).eraseIdx target.2).length) =
        List.replicate g.minors.length (g.minors.length - 1) := by
    refine List.eq_replicate_iff.mpr ⟨by simp [signatures], fun n hn => ?_⟩
    obtain ⟨⟨m, i⟩, hm, rfl⟩ := List.mem_map.mp hn
    obtain ⟨hBound, -⟩ := List.getElem?_eq_some_iff.mp (List.mem_zipIdx_iff_getElem?.mp hm)
    rw [List.length_eraseIdx_of_lt hBound]
    simp [signatures]
  have hMinors : (signatures g.minors).length = g.minors.length := List.length_map ..
  unfold keysInOrder
  simp only [List.length_append, List.length_map, List.length_flatMap, hBetween, hMinors,
    List.sum_replicate_nat]
  -- Each minor is a target of all others, and there are two runs for the primary unit.
  cases g.minors.length with
  | zero => rfl
  | succ n =>
    rw [Nat.add_sub_cancel]
    ring

/-! ## The keys of a group that was built -/

variable {α : Type} {g : Group} {r : Registry α}

/-- The minors of a group that was built are all there, in their order. -/
theorem fst_builtMinors (hBuilt : g.BuiltIn r) : (g.builtMinors r).map Prod.fst = g.minors := by
  have hEach : ∀ minors : List MeasureUnit, (∀ m ∈ minors, m ∈ g.minors) →
      (minors.filterMap fun m => (r.find? (g.primary, m)).map fun found => (m, found)).map Prod.fst =
        minors := by
    intro minors hSub
    induction minors with
    | nil => rfl
    | cons m rest ih =>
      obtain ⟨hm, hRest⟩ := List.forall_mem_cons.mp hSub
      obtain ⟨found, hFound⟩ := hBuilt m hm
      rw [List.filterMap_cons_some (by rw [hFound]; rfl), List.map_cons, ih hRest]
  exact hEach g.minors fun _ hm => hm

theorem map_key_entries (g : Group) (minors : List (BuiltMinor α)) :
    (g.entries minors).map Entry.key =
      (minors.map Prod.fst).map (fun m => (g.primary.signature, m.signature)) ++
        (minors.map Prod.fst).map (fun m => (m.signature, g.primary.signature)) ++
        (minors.map Prod.fst).flatMap fun target =>
          ((minors.map Prod.fst).filter fun source => source ≠ target).map fun source =>
            (source.signature, target.signature) := by
  simp only [entries, List.map_append, List.map_map, List.map_flatMap, List.flatMap_map,
    List.filter_map]
  rfl

/-- Units of a group are the same when their signatures are, so that the signatures of all other
minors are all other signatures. -/
theorem filter_signatures {minors : List MeasureUnit} (hNodup : (signatures minors).Nodup)
    {target : MeasureUnit} (hTarget : target ∈ minors) :
    (signatures minors).filter (fun s => s ≠ target.signature) =
      signatures (minors.filter fun source => source ≠ target) := by
  unfold signatures at hNodup ⊢
  rw [List.filter_map]
  congr 1
  refine List.filter_congr fun source hSource => ?_
  have hIff : source.signature = target.signature ↔ source = target :=
    ⟨fun hEq => List.inj_on_of_nodup_map hNodup hSource hTarget hEq, fun hEq => hEq ▸ rfl⟩
  simp [hIff]

/-- The keys of a group that was built, in order. -/
theorem map_key_entriesIn (hBuilt : g.BuiltIn r) : (g.entriesIn r).map Entry.key = g.keysInOrder := by
  rw [entriesIn, map_key_entries, fst_builtMinors hBuilt]
  unfold keysInOrder
  dsimp only
  rw [flatMap_eraseIdx g.nodup_minors fun target others => others.map fun source => (source, target)]
  have hFirst : ∀ f : Text → Text × Text,
      (signatures g.minors).map f = g.minors.map fun m => f m.signature := by
    intro f
    rw [signatures, List.map_map]
    rfl
  rw [hFirst, hFirst]
  congr 1
  conv_rhs => rw [signatures, List.flatMap_map]
  refine List.flatMap_congr fun target hTarget => ?_
  have hOthers := filter_signatures g.nodup_minors hTarget
  unfold signatures at hOthers
  rw [hOthers, List.map_map]
  rfl

theorem quantity_of_mem_entriesIn {e : Entry α} (he : e ∈ g.entriesIn r) : e.quantity = g.quantity := by
  rcases mem_entriesIn_iff.mp he with ⟨m, -, rfl⟩ | ⟨m, -, rfl⟩ | ⟨s, -, t, -, -, rfl⟩ <;> rfl

theorem mem_keysInOrder_iff {g : Group} {a b : Text} :
    (a, b) ∈ g.keysInOrder ↔ a ≠ b ∧ a ∈ signatures g.units ∧ b ∈ signatures g.units := by
  have hUnits : ∀ s, s ∈ signatures g.units ↔ s = g.primary.signature ∨ s ∈ signatures g.minors :=
    fun s => List.mem_cons
  have hPrimary : g.primary.signature ∉ signatures g.minors := (List.nodup_cons.mp g.nodup).1
  unfold keysInOrder
  dsimp only
  rw [flatMap_eraseIdx g.nodup_minors fun target others => others.map fun source => (source, target),
    hUnits, hUnits]
  simp only [List.mem_append, List.mem_map, List.mem_flatMap, List.mem_filter, decide_eq_true_eq,
    Prod.mk.injEq]
  constructor
  · rintro ((⟨m, hm, rfl, rfl⟩ | ⟨m, hm, rfl, rfl⟩) | ⟨t, ht, s, ⟨hs, hne⟩, rfl, rfl⟩)
    · exact ⟨fun hEq => hPrimary (hEq ▸ hm), Or.inl rfl, Or.inr hm⟩
    · exact ⟨fun hEq => hPrimary (hEq ▸ hm), Or.inr hm, Or.inl rfl⟩
    · exact ⟨hne, Or.inr hs, Or.inr ht⟩
  · rintro ⟨hne, rfl | ha, rfl | hb⟩
    · exact absurd rfl hne
    · exact Or.inl (Or.inl ⟨b, hb, rfl, rfl⟩)
    · exact Or.inl (Or.inr ⟨a, ha, rfl, rfl⟩)
    · exact Or.inr ⟨b, hb, a, ⟨ha, hne⟩, rfl, rfl⟩

end Group

/-! ## The table of a dispatcher -/

namespace Dispatcher.Serves

variable {α : Type} {d : Dispatcher α} {groups : List Group} {r : Registry α}
  (hServes : d.Serves groups r)

include hServes

/-- The groups follow each other in the table, each with its keys in order and with its quantity. -/
theorem map_key_quantity_entries :
    (d.entries.map fun e => (e.key, e.quantity)) =
      groups.flatMap fun g => g.keysInOrder.map fun key => (key, g.quantity) := by
  rw [hServes.entries_eq, catalogEntries, List.map_flatMap]
  refine List.flatMap_congr fun g hg => ?_
  rw [← Group.map_key_entriesIn (hServes.builtIn g hg), List.map_map]
  refine List.map_congr_left fun e he => ?_
  rw [Function.comp_apply, Group.quantity_of_mem_entriesIn he]

theorem map_key_entries : d.entries.map Entry.key = groups.flatMap Group.keysInOrder := by
  have hBoth := congrArg (List.map Prod.fst) hServes.map_key_quantity_entries
  simpa [List.map_flatMap, Function.comp_def] using hBoth

theorem length_entries :
    d.entries.length = (groups.map fun g => g.minors.length * (g.minors.length + 1)).sum := by
  have hLength := congrArg List.length hServes.map_key_entries
  simpa [List.length_flatMap, Group.length_keysInOrder] using hLength

theorem nodup_keys : (d.entries.map Entry.key).Nodup := by
  rw [hServes.entries_eq]
  exact nodup_keys_catalogEntries hServes.nodup r

theorem mem_keys_iff {a b : Text} :
    (a, b) ∈ d.entries.map Entry.key ↔
      a ≠ b ∧ ∃ g ∈ groups, a ∈ signatures g.units ∧ b ∈ signatures g.units := by
  rw [hServes.map_key_entries, List.mem_flatMap]
  constructor
  · rintro ⟨g, hg, hKey⟩
    obtain ⟨hne, hUnits⟩ := Group.mem_keysInOrder_iff.mp hKey
    exact ⟨hne, g, hg, hUnits⟩
  · rintro ⟨hne, g, hg, hUnits⟩
    exact ⟨g, hg, Group.mem_keysInOrder_iff.mpr ⟨hne, hUnits⟩⟩

theorem describe_eq_find? (a b : Text) :
    d.describe a b = d.entries.find? fun e => e.key == (a, b) := by
  rw [describe, hServes.index_eq, lookup_entryIndex]

end Dispatcher.Serves

/-- **The table of entries.** The groups follow each other in the order of the catalog; the entries of a
group lead from the primary unit to each minor, from each minor to the primary unit, and to each minor
from the others, and have the quantity of the group. A group of `n` minors has `n * (n + 1)` of them. No
key comes twice, and the keys are the ordered pairs of different signatures of a group. So the index
gives for a key what a search from the first entry on finds. -/
theorem entries_in_order {α : Type} [Scalar α] {table : Declarations α} {r r' : Registry α}
    {groups : List Group} {d : Dispatcher α} (h : Dispatcher.build table r groups = (r', .ok d)) :
    (d.entries.map fun e => (e.key, e.quantity)) =
      (groups.flatMap fun g => g.keysInOrder.map fun key => (key, g.quantity)) ∧
    d.entries.length = (groups.map fun g => g.minors.length * (g.minors.length + 1)).sum ∧
    (d.entries.map Entry.key).Nodup ∧
    (∀ a b, (a, b) ∈ d.entries.map Entry.key ↔
      a ≠ b ∧ ∃ g ∈ groups, a ∈ signatures g.units ∧ b ∈ signatures g.units) ∧
    ∀ a b, d.describe a b = d.entries.find? fun e => e.key == (a, b) := by
  have hServes := Dispatcher.build_ok h
  exact ⟨hServes.map_key_quantity_entries, hServes.length_entries, hServes.nodup_keys,
    fun a b => hServes.mem_keys_iff, hServes.describe_eq_find?⟩

namespace Standard

/-- The built-in dispatcher has six entries for each of its three groups. -/
theorem entries_in_order_standard :
    ∃ r, Dispatcher.build declarations .empty catalog = (r, .ok dispatcher) ∧
      dispatcher.entries.length = 18 ∧
      (dispatcher.entries.map Entry.key).take 6 =
        [("g", "lb"), ("g", "p"), ("lb", "g"), ("p", "g"), ("p", "lb"), ("lb", "p")].map
          (fun key => (Text.ofString key.1, Text.ofString key.2)) ∧
      dispatcher.describe "p" "lb" =
        dispatcher.entries.find? fun e => e.key == (Text.ofString "p", Text.ofString "lb") := by
  obtain ⟨r, hBuild⟩ := build_dispatcher
  obtain ⟨hOrder, hLength, -, -, hScan⟩ := entries_in_order hBuild
  refine ⟨r, hBuild, hLength, ?_, hScan _ _⟩
  have hKeys := congrArg (List.map Prod.fst) hOrder
  rw [List.map_map] at hKeys
  rw [show dispatcher.entries.map Entry.key = _ from hKeys]
  decide

end Standard

end UnitConversion
