import Mathlib.Data.List.Nodup
import Mathlib.Data.List.Perm.Subperm
import UnitConversion.Proofs.Json.Nesting

/-!
# The same value up to the order of members

Objects are the same if they have as many members and each of one is found under its name in the other
(`Json.Same`). Sorting the members of all objects leaves a value the same, and is the same for all values
that are: names are ordered by their code points, and no two of them are equal in this order.

* `sortByName_of_perm`: members with distinct names are sorted alike, whatever their order.
* `same_sorted`: a value is the same when it is sorted.
* `sorted_eq_of_same`: values that are the same are sorted alike.
-/

namespace UnitConversion

/-! ## The order of texts -/

theorem CodePoint.ofNat_code (p : CodePoint) : ofNat p.code = p := by
  cases p with
  | char c => exact ofNat_toNat c
  | half n => exact ofNat_code_half n

theorem CodePoint.code_injective : Function.Injective code :=
  Function.LeftInverse.injective ofNat_code

namespace Text

theorem precedes_cons {p q : CodePoint} {s t : Text} :
    precedes (p :: s) (q :: t) = true ↔
      p.code < q.code ∨ p.code = q.code ∧ precedes s t = true := by
  simp [precedes]

theorem precedes_total (s t : Text) : (precedes s t || precedes t s) = true := by
  rw [Bool.or_eq_true]
  induction s generalizing t with
  | nil => exact Or.inl rfl
  | cons p s ih =>
    cases t with
    | nil => exact Or.inr rfl
    | cons q t =>
      rw [precedes_cons, precedes_cons]
      rcases Nat.lt_trichotomy p.code q.code with hLess | hSame | hMore
      · exact Or.inl (Or.inl hLess)
      · exact (ih t).imp (fun h => Or.inr ⟨hSame, h⟩) fun h => Or.inr ⟨hSame.symm, h⟩
      · exact Or.inr (Or.inl hMore)

theorem precedes_trans {s t u : Text} (hst : precedes s t = true) (htu : precedes t u = true) :
    precedes s u = true := by
  induction s generalizing t u with
  | nil => rfl
  | cons p s ih =>
    cases t with
    | nil => cases hst
    | cons q t =>
      cases u with
      | nil => cases htu
      | cons r u =>
        rw [precedes_cons] at hst htu ⊢
        rcases hst with hpq | ⟨hpq, hst⟩
        · exact Or.inl (htu.elim hpq.trans fun h => h.1 ▸ hpq)
        · rw [hpq]
          exact htu.imp_right fun h => ⟨h.1, ih hst h.2⟩

theorem precedes_antisymm {s t : Text} (hst : precedes s t = true) (hts : precedes t s = true) :
    s = t := by
  induction s generalizing t with
  | nil =>
    cases t with
    | nil => rfl
    | cons q t => cases hts
  | cons p s ih =>
    cases t with
    | nil => cases hst
    | cons q t =>
      rw [precedes_cons] at hst hts
      rcases hst with hpq | ⟨hpq, hst⟩
      · omega
      · obtain rfl := CodePoint.code_injective hpq
        rw [ih hst (hts.resolve_left (Nat.lt_irrefl _)).2]

end Text

namespace Json

/-- Members with distinct names are sorted alike, whatever their order. -/
theorem sortByName_of_perm {ms others : List (Text × Json)} (hPerm : ms.Perm others)
    (hDistinct : (others.map Prod.fst).Nodup) : sortByName ms = sortByName others := by
  have hSorted (list : List (Text × Json)) :
      (sortByName list).Pairwise fun a b => a.1.precedes b.1 = true := by
    apply List.pairwise_mergeSort
    · exact fun a b c hab hbc => Text.precedes_trans hab hbc
    · exact fun a b => Text.precedes_total a.1 b.1
  have hBoth := (sortByName_perm ms).trans hPerm
  refine List.Perm.eq_of_pairwise ?_ (hSorted ms) (hSorted others)
    (hBoth.trans (sortByName_perm others).symm)
  intro a b ha hb hab hba
  exact List.inj_on_of_nodup_map hDistinct (hBoth.mem_iff.mp ha)
    ((sortByName_perm others).mem_iff.mp hb) (Text.precedes_antisymm hab hba)

/-! ## Values that are the same -/

mutual

/-- The values are the same up to the order of members. -/
def Same : Json → Json → Prop
  | .array items, k => ∃ others, k = .array others ∧ ItemsSame items others
  | .object ms, k => ∃ others, k = .object others ∧ ms.length = others.length ∧ MembersSame ms others
  | j, k => j = k

/-- The items are the same one by one. -/
def ItemsSame : List Json → List Json → Prop
  | [], others => others = []
  | item :: rest, others => ∃ other more, others = other :: more ∧ Same item other ∧ ItemsSame rest more

/-- Each of the members is found under its name. -/
def MembersSame : List (Text × Json) → List (Text × Json) → Prop
  | [], _ => True
  | (name, value) :: rest, others =>
    (∃ other, others.lookup name = some other ∧ Same value other) ∧ MembersSame rest others

end

theorem membersSame_iff {ms others : List (Text × Json)} :
    MembersSame ms others ↔ ∀ m ∈ ms, ∃ other, others.lookup m.1 = some other ∧ m.2.Same other := by
  induction ms with
  | nil => simp [MembersSame]
  | cons m rest ih => rw [MembersSame, ih, List.forall_mem_cons]

mutual

/-- Sorting the members leaves a value the same. -/
theorem same_sorted (j : Json) (hPortable : j.IsPortable) : j.Same j.sorted := by
  match j with
  | .null | .bool _ | .int _ | .float _ | .string _ => rfl
  | .array items => exact ⟨_, rfl, itemsSame_sorted items hPortable⟩
  | .object ms =>
    have hPerm := sortByName_perm (sortedMembers ms)
    refine ⟨_, rfl, ?_, membersSame_iff.mpr fun m hm => ⟨m.2.sorted, ?_, ?_⟩⟩
    · rw [hPerm.length_eq, sortedMembers_eq_map, List.length_map]
    · have hMember := get?_sorted ((fits_iff _).mpr ⟨hPortable, Nat.le_refl _⟩) m.1
      have hFound : ms.lookup m.1 = some m.2 :=
        (Association.lookup_eq_some_iff_mem hPortable.1).mpr hm
      exact hMember.trans (congrArg (Option.map sorted) hFound)
    · exact forall_same_sorted ms hPortable.2 m hm

theorem itemsSame_sorted (items : List Json) (hPortable : ItemsPortable items) :
    ItemsSame items (sortedItems items) := by
  match items with
  | [] => rfl
  | item :: rest =>
    exact ⟨_, _, rfl, same_sorted item hPortable.1, itemsSame_sorted rest hPortable.2⟩

theorem forall_same_sorted (ms : List (Text × Json)) (hPortable : MembersPortable ms) :
    ∀ m ∈ ms, m.2.Same m.2.sorted := by
  match ms with
  | [] => exact List.forall_mem_nil _
  | (name, value) :: rest =>
    exact List.forall_mem_cons.mpr
      ⟨same_sorted value hPortable.2.1, forall_same_sorted rest hPortable.2.2⟩

end

/-! ## What is the same is sorted alike -/

theorem memberPortable_of_lookup {ms : List (Text × Json)} (hPortable : MembersPortable ms)
    {name : Text} {value : Json} (hMember : ms.lookup name = some value) : value.IsPortable := by
  have hFit := (membersFit_iff_portable ms).mpr ⟨hPortable, Nat.le_refl _⟩
  have hMem := membersFit_iff.mp hFit _ (Association.mem_of_lookup hMember)
  exact ((fits_iff value).mp hMem.2).1

/-- As many members with distinct names, each of them found among the others, are the others. -/
theorem perm_of_forall_mem {ms others : List (Text × Json)} (hDistinct : (ms.map Prod.fst).Nodup)
    (hLength : ms.length = others.length) (hFound : ∀ m ∈ ms, m ∈ others) : ms.Perm others :=
  (hDistinct.of_map.subperm hFound).perm_of_length_le hLength.ge

mutual

/-- Values that are the same are sorted alike. -/
theorem sorted_eq_of_same (j : Json) {k : Json} (hj : j.IsPortable) (hk : k.IsPortable)
    (hSame : j.Same k) : j.sorted = k.sorted := by
  match j with
  | .null | .bool _ | .int _ | .float _ | .string _ => exact congrArg sorted hSame
  | .array items =>
    obtain ⟨others, rfl, hItems⟩ := hSame
    exact congrArg Json.array (sortedItems_eq_of_same items hj hk hItems)
  | .object ms =>
    obtain ⟨others, rfl, hLength, hMembers⟩ := hSame
    have hDistinct : ((sortedMembers ms).map Prod.fst).Nodup := by
      rw [names_sortedMembers]
      exact hj.1
    have hOtherDistinct : ((sortedMembers others).map Prod.fst).Nodup := by
      rw [names_sortedMembers]
      exact hk.1
    refine congrArg Json.object (sortByName_of_perm (perm_of_forall_mem hDistinct ?_ ?_) hOtherDistinct)
    · simpa [sortedMembers_eq_map] using hLength
    · exact mem_sortedMembers_of_same ms hj.2 hk.2 hMembers

theorem sortedItems_eq_of_same (items : List Json) {others : List Json} (hItems : ItemsPortable items)
    (hOthers : ItemsPortable others) (hSame : ItemsSame items others) :
    sortedItems items = sortedItems others := by
  match items with
  | [] =>
    obtain rfl := hSame
    rfl
  | item :: rest =>
    obtain ⟨other, more, rfl, hItem, hRest⟩ := hSame
    rw [sortedItems, sortedItems, sorted_eq_of_same item hItems.1 hOthers.1 hItem,
      sortedItems_eq_of_same rest hItems.2 hOthers.2 hRest]

theorem mem_sortedMembers_of_same (ms : List (Text × Json)) {others : List (Text × Json)}
    (hMembers : MembersPortable ms) (hOthers : MembersPortable others) (hSame : MembersSame ms others) :
    ∀ m ∈ sortedMembers ms, m ∈ sortedMembers others := by
  match ms with
  | [] => exact List.forall_mem_nil _
  | (name, value) :: rest =>
    obtain ⟨⟨other, hFound, hValue⟩, hRest⟩ := hSame
    refine List.forall_mem_cons.mpr
      ⟨?_, mem_sortedMembers_of_same rest hMembers.2.2 hOthers hRest⟩
    rw [sorted_eq_of_same value hMembers.2.1 (memberPortable_of_lookup hOthers hFound) hValue,
      sortedMembers_eq_map]
    exact List.mem_map.mpr ⟨_, Association.mem_of_lookup hFound, rfl⟩

end

end Json

end UnitConversion
