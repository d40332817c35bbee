import UnitConversion.Proofs.Json.RoundTrip

/-!
# JSON values with sorted members

Answers have the members of their objects in the order of their names. The order of members is no part of
what a reader finds by name: a value that fits still fits when it is sorted, and each member is found
under its name, sorted in turn.

* `fits_sorted`, `legible_sorted`: a sorted value is read again if the value is.
* `at?_sorted`: the parts of a sorted value.
-/

namespace UnitConversion.Json

theorem sortedMembers_eq_map (ms : List (Text × Json)) :
    sortedMembers ms = ms.map fun m => (m.1, sorted m.2) := by
  induction ms with
  | nil => rfl
  | cons m rest ih => rw [sortedMembers, ih, List.map_cons]

theorem itemsFit_iff {depth : Nat} {items : List Json} :
    ItemsFit depth items ↔ ∀ item ∈ items, item.Fits depth := by
  induction items with
  | nil => simp [ItemsFit]
  | cons item rest ih => simp only [ItemsFit, ih, List.forall_mem_cons]

theorem membersFit_iff {depth : Nat} {ms : List (Text × Json)} :
    MembersFit depth ms ↔ ∀ m ∈ ms, m.1.isWhole = true ∧ m.2.Fits depth := by
  induction ms with
  | nil => simp [MembersFit]
  | cons m rest ih => simp only [MembersFit, ih, List.forall_mem_cons, and_assoc]

theorem itemsLegible_iff {depth : Nat} {items : List Json} :
    ItemsLegible depth items ↔ ∀ item ∈ items, item.Legible depth := by
  induction items with
  | nil => simp [ItemsLegible]
  | cons item rest ih => simp only [ItemsLegible, ih, List.forall_mem_cons]

theorem membersLegible_iff {depth : Nat} {ms : List (Text × Json)} :
    MembersLegible depth ms ↔ ∀ m ∈ ms, m.2.Legible depth := by
  induction ms with
  | nil => simp [MembersLegible]
  | cons m rest ih => simp only [MembersLegible, ih, List.forall_mem_cons]

theorem sortByName_perm (ms : List (Text × Json)) : (sortByName ms).Perm ms :=
  List.mergeSort_perm ms _

theorem names_sortedMembers (ms : List (Text × Json)) :
    (sortedMembers ms).map Prod.fst = ms.map Prod.fst := by
  rw [sortedMembers_eq_map, List.map_map]
  rfl

/-! ## Sorted values are read again -/

mutual

/-- A value that fits still fits when it is sorted. -/
theorem fits_sorted (j : Json) {depth : Nat} (hFits : j.Fits depth) : j.sorted.Fits depth := by
  match j, depth with
  | .null, _ | .bool _, _ | .int _, _ | .float _, _ | .string _, _ => exact hFits
  | .array items, depth + 1 => exact itemsFit_sorted items hFits
  | .object ms, depth + 1 =>
    obtain ⟨hDistinct, hMembers⟩ := hFits
    have hPerm := sortByName_perm (sortedMembers ms)
    constructor
    · rw [(hPerm.map Prod.fst).nodup_iff, names_sortedMembers]
      exact hDistinct
    · rw [membersFit_iff]
      intro m hm
      exact membersFit_iff.mp (membersFit_sorted ms hMembers) m (hPerm.mem_iff.mp hm)

theorem itemsFit_sorted (items : List Json) {depth : Nat} (hFits : ItemsFit depth items) :
    ItemsFit depth (sortedItems items) := by
  match items with
  | [] => trivial
  | item :: rest => exact ⟨fits_sorted item hFits.1, itemsFit_sorted rest hFits.2⟩

theorem membersFit_sorted (ms : List (Text × Json)) {depth : Nat} (hFits : MembersFit depth ms) :
    MembersFit depth (sortedMembers ms) := by
  match ms with
  | [] => trivial
  | (name, value) :: rest =>
    exact ⟨hFits.1, fits_sorted value hFits.2.1, membersFit_sorted rest hFits.2.2⟩

end

mutual

theorem legible_sorted (j : Json) {depth : Nat} (hLegible : j.Legible depth) :
    j.sorted.Legible depth := by
  match j, depth with
  | .null, _ | .bool _, _ | .int _, _ | .float _, _ | .string _, _ => exact hLegible
  | .array items, depth + 1 => exact itemsLegible_sorted items hLegible
  | .object ms, depth + 1 =>
    obtain ⟨hDistinct, hMembers⟩ := hLegible
    have hPerm := sortByName_perm (sortedMembers ms)
    have hNames : (sortedMembers ms).map (·.1.joined) = ms.map (·.1.joined) := by
      rw [sortedMembers_eq_map, List.map_map]
      rfl
    constructor
    · rw [(hPerm.map _).nodup_iff, hNames]
      exact hDistinct
    · rw [membersLegible_iff]
      intro m hm
      exact membersLegible_iff.mp (membersLegible_sorted ms hMembers) m (hPerm.mem_iff.mp hm)

theorem itemsLegible_sorted (items : List Json) {depth : Nat} (hLegible : ItemsLegible depth items) :
    ItemsLegible depth (sortedItems items) := by
  match items with
  | [] => trivial
  | item :: rest => exact ⟨legible_sorted item hLegible.1, itemsLegible_sorted rest hLegible.2⟩

theorem membersLegible_sorted (ms : List (Text × Json)) {depth : Nat}
    (hLegible : MembersLegible depth ms) : MembersLegible depth (sortedMembers ms) := by
  match ms with
  | [] => trivial
  | (name, value) :: rest =>
    exact ⟨legible_sorted value hLegible.1, membersLegible_sorted rest hLegible.2⟩

end

/-! ## Members are found by name -/

/-- The value behind members of the given names, each inside of the one before. -/
def at? : Json → List Text → Option Json
  | j, [] => some j
  | j, name :: path => (j.get? name).bind (·.at? path)

/-- The text that a value is. -/
def text? : Json → Option Text
  | .string t => some t
  | _ => none

theorem text?_sorted (j : Json) : j.sorted.text? = j.text? := by
  cases j <;> rfl

variable {j : Json} {depth : Nat} (hFits : j.Fits depth)

include hFits

theorem get?_sorted (name : Text) : j.sorted.get? name = (j.get? name).map sorted := by
  match j, depth with
  | .null, _ | .bool _, _ | .int _, _ | .float _, _ | .string _, _ => rfl
  | .array items, _ => rfl
  | .object ms, depth + 1 =>
    show (sortByName (sortedMembers ms)).lookup name = (ms.lookup name).map sorted
    have hDistinct : ((sortedMembers ms).map Prod.fst).Nodup := by
      rw [names_sortedMembers]
      exact hFits.1
    rw [Association.lookup_perm (sortByName_perm _) hDistinct, sortedMembers_eq_map,
      Association.lookup_map]

theorem fits_of_get? {name : Text} {value : Json} (hMember : j.get? name = some value) :
    ∃ inner, value.Fits inner := by
  cases j with
  | object ms =>
    cases depth with
    | zero => cases hFits
    | succ depth =>
      have hMem : (name, value) ∈ ms := Association.mem_of_lookup hMember
      exact ⟨depth, (membersFit_iff.mp hFits.2 _ hMem).2⟩
  | _ => cases hMember

/-- A path leads to the same in a sorted value, sorted in turn. -/
theorem at?_sorted (path : List Text) : j.sorted.at? path = (j.at? path).map sorted := by
  induction path generalizing j depth with
  | nil => rfl
  | cons name path ih =>
    rw [at?, at?, get?_sorted hFits]
    cases hMember : j.get? name with
    | none => rfl
    | some value =>
      obtain ⟨inner, hInner⟩ := fits_of_get? hFits hMember
      exact ih hInner

end UnitConversion.Json
