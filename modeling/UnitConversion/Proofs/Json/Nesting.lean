import UnitConversion.Proofs.Json.Sorted

/-!
# How deep values are nested

Two things keep a value from being read again from its text: something in it that no reader takes as it
is, and arrays and objects that are nested deeper than the reader allows. Here they are taken apart, into
what can be written and read at all (`Json.IsPortable`) and the depth that this takes (`Json.nesting`).
A reader refuses the text of a value that is nested too deep for just that: whatever comes before the
first part that is too deep is read, so that nothing else is the matter before it.

* `fits_iff`: the values that are read again where so many arrays and objects may be nested.
* `readValue_tooDeep`, `ofText_tooDeep`: all other portable values are refused for their depth.
* `portable_sorted`, `nesting_sorted`: the order of members is of no account.
-/

namespace UnitConversion.Json

mutual

/-- The value can be written and read: strings and names are whole, integers have few enough digits,
numbers are finite, and the names of members are distinct. -/
def IsPortable : Json → Prop
  | .null => True
  | .bool _ => True
  | .int n => n.natAbs < 10 ^ integerDigitLimit
  | .float x => x.isFinite = true
  | .string t => t.isWhole = true
  | .array items => ItemsPortable items
  | .object ms => (ms.map Prod.fst).Nodup ∧ MembersPortable ms

/-- All of the items are portable. -/
def ItemsPortable : List Json → Prop
  | [] => True
  | item :: rest => IsPortable item ∧ ItemsPortable rest

/-- All of the members have whole names and portable values. -/
def MembersPortable : List (Text × Json) → Prop
  | [] => True
  | (name, value) :: rest => name.isWhole = true ∧ IsPortable value ∧ MembersPortable rest

end

mutual

/-- The largest number of arrays and objects inside of each other. -/
def nesting : Json → Nat
  | .array items => itemsNesting items + 1
  | .object ms => membersNesting ms + 1
  | _ => 0

def itemsNesting : List Json → Nat
  | [] => 0
  | item :: rest => max (nesting item) (itemsNesting rest)

def membersNesting : List (Text × Json) → Nat
  | [] => 0
  | (_, value) :: rest => max (nesting value) (membersNesting rest)

end

/-! ## Values that are read again -/

mutual

/-- A value is read again if it is portable and not nested too deep. -/
theorem fits_iff (j : Json) {depth : Nat} : j.Fits depth ↔ j.IsPortable ∧ j.nesting ≤ depth := by
  match j, depth with
  | .null, _ | .bool _, _ | .int _, _ | .float _, _ | .string _, _ => simp [Fits, IsPortable, nesting]
  | .array items, 0 => simp [Fits, nesting]
  | .object ms, 0 => simp [Fits, nesting]
  | .array items, depth + 1 =>
    rw [Fits, IsPortable, nesting, itemsFit_iff_portable items, Nat.add_le_add_iff_right]
  | .object ms, depth + 1 =>
    rw [Fits, IsPortable, nesting, membersFit_iff_portable ms, Nat.add_le_add_iff_right, and_assoc]

theorem itemsFit_iff_portable (items : List Json) {depth : Nat} :
    ItemsFit depth items ↔ ItemsPortable items ∧ itemsNesting items ≤ depth := by
  match items with
  | [] => simp [ItemsFit, ItemsPortable, itemsNesting]
  | item :: rest =>
    rw [ItemsFit, ItemsPortable, itemsNesting, fits_iff item, itemsFit_iff_portable rest,
      Nat.max_le, and_and_and_comm]

theorem membersFit_iff_portable (ms : List (Text × Json)) {depth : Nat} :
    MembersFit depth ms ↔ MembersPortable ms ∧ membersNesting ms ≤ depth := by
  match ms with
  | [] => simp [MembersFit, MembersPortable, membersNesting]
  | (name, value) :: rest =>
    rw [MembersFit, MembersPortable, membersNesting, fits_iff value, membersFit_iff_portable rest,
      Nat.max_le, and_and_and_comm]
    simp only [and_assoc]

end

/-! ## Values that are nested too deep -/

section Steps

variable {words : Bool} {steps depth : Nat} {e : ReadError}

theorem readItems_refused {t : Text} (hItem : readValue words steps depth t = .error e) :
    readItems words (steps + 1) depth t = .error e := by
  rw [readItems, hItem]
  rfl

theorem readMembers_refused (before : List (Text × Json)) (name : Text) {cs : List Char}
    {following : Text} (hOpens : Opens cs)
    (hValue : readValue words steps depth (Text.ofChars cs ++ following) = .error e) :
    readMembers words (steps + 1) depth before
        (Text.ofChars (memberText (name, cs)) ++ following) = .error e := by
  rw [readMembers_member before name hOpens, hValue]
  rfl

/-- What is read before the first part that is too deep. -/
theorem readValue_of_portable {j : Json} {rest : Text} (hPortable : j.IsPortable)
    (hDepth : j.nesting ≤ depth) (hSteps : j.chars.length ≤ steps) (hRest : EndsNumber rest) :
    readValue words steps depth (Text.ofChars j.chars ++ rest) = .ok (j, rest) := by
  obtain ⟨hLegible, hJoined⟩ := legible_of_fits j ((fits_iff j).mpr ⟨hPortable, hDepth⟩)
  rw [readValue_chars words steps j hLegible hSteps hRest, hJoined]

end Steps

theorem exists_separated (item : List Char) (items : List (List Char)) :
    ∃ tail, separated (item :: items) = item ++ tail := by
  cases items with
  | nil => exact ⟨[], (List.append_nil item).symm⟩
  | cons next items => exact ⟨_, rfl⟩

mutual

/-- The text of a portable value that is nested too deep is refused, whatever follows it. -/
theorem readValue_tooDeep (words : Bool) (steps : Nat) (j : Json) {depth : Nat} (rest : Text)
    (hPortable : j.IsPortable) (hDeep : depth < j.nesting) (hSteps : j.chars.length ≤ steps) :
    ∃ inArray, readValue words steps depth (Text.ofChars j.chars ++ rest) =
      .error (.tooDeep inArray) := by
  match j, depth with
  | .null, _ | .bool _, _ | .int _, _ | .float _, _ | .string _, _ => simp [nesting] at hDeep
  | .array items, depth =>
    simp only [chars, List.length_cons, List.length_append] at hSteps
    obtain ⟨steps, rfl⟩ : ∃ k, steps = k + 1 := ⟨steps - 1, by omega⟩
    match items, depth with
    | _, 0 => exact ⟨true, rfl⟩
    | [], depth + 1 => simp [nesting, itemsNesting] at hDeep
    | item :: items, depth + 1 =>
      have hDeepItems := Nat.lt_of_succ_lt_succ hDeep
      obtain ⟨inArray, hItems⟩ :=
        readItems_tooDeep words steps (item :: items) rest hPortable hDeepItems (by omega)
      exact ⟨inArray,
        (readValue_array (opens_items item items)).trans (congrArg (Except.map _) hItems)⟩
  | .object ms, depth =>
    simp only [chars, List.length_cons, List.length_append] at hSteps
    obtain ⟨steps, rfl⟩ : ∃ k, steps = k + 1 := ⟨steps - 1, by omega⟩
    match ms, depth with
    | _, 0 => exact ⟨false, rfl⟩
    | [], depth + 1 => simp [nesting, membersNesting] at hDeep
    | m :: ms, depth + 1 =>
      have hDeepMembers := Nat.lt_of_succ_lt_succ hDeep
      obtain ⟨inArray, hMembers⟩ := readMembers_tooDeep words steps [] (m :: ms) rest hPortable.2
        hPortable.1 hDeepMembers (by omega)
      refine ⟨inArray, (readValue_object ?_).trans (congrArg (Except.map _) hMembers)⟩
      exact exists_separated_members m ms

theorem readItems_tooDeep (words : Bool) (steps : Nat) (items : List Json) {depth : Nat} (rest : Text)
    (hPortable : ItemsPortable items) (hDeep : depth < itemsNesting items)
    (hSteps : (separated (itemChars items)).length < steps) :
    ∃ inArray, readItems words steps depth
      (Text.ofChars (separated (itemChars items)) ++ .char ']' :: rest) =
        .error (.tooDeep inArray) := by
  obtain ⟨steps, rfl⟩ : ∃ k, steps = k + 1 := ⟨steps - 1, by omega⟩
  match items with
  | [] => simp [itemsNesting] at hDeep
  | item :: items =>
    by_cases hItem : depth < item.nesting
    · obtain ⟨tail, hText⟩ := exists_separated item.chars (itemChars items)
      rw [itemChars, hText, List.length_append] at hSteps
      rw [itemChars, hText, ofChars_append, List.append_assoc]
      obtain ⟨inArray, hRefused⟩ := readValue_tooDeep words steps item
        (Text.ofChars tail ++ .char ']' :: rest) hPortable.1 hItem (by omega)
      exact ⟨inArray, readItems_refused hRefused⟩
    · have hMoreDeep : depth < itemsNesting items := by
        rw [itemsNesting] at hDeep
        omega
      match items with
      | [] => simp [itemsNesting] at hMoreDeep
      | next :: items =>
        rw [separated_items, List.length_append, List.length_cons] at hSteps
        rw [separated_items, ofChars_append, List.append_assoc]
        obtain ⟨inArray, hRefused⟩ := readItems_tooDeep words steps (next :: items) rest hPortable.2
          hMoreDeep (by omega)
        refine ⟨inArray, (readItems_more (readValue_of_portable hPortable.1
          (Nat.le_of_not_lt hItem) (by omega) (endsNumber_cons ?_ _))).trans ?_⟩
        · decide
        · have hBlanks := skipBlanks_of_opens (opens_items next items) (.char ']' :: rest)
          exact congrArg (Except.map _) ((congrArg _ hBlanks).trans hRefused)

theorem readMembers_tooDeep (words : Bool) (steps : Nat) (before ms : List (Text × Json)) {depth : Nat}
    (rest : Text) (hPortable : MembersPortable ms) (hDistinct : ((before ++ ms).map Prod.fst).Nodup)
    (hDeep : depth < membersNesting ms)
    (hSteps : (separated ((memberChars ms).map memberText)).length < steps) :
    ∃ inArray, readMembers words steps depth before
      (Text.ofChars (separated ((memberChars ms).map memberText)) ++ .char '\x7d' :: rest) =
        .error (.tooDeep inArray) := by
  obtain ⟨steps, rfl⟩ : ∃ k, steps = k + 1 := ⟨steps - 1, by omega⟩
  match ms with
  | [] => simp [membersNesting] at hDeep
  | (name, value) :: ms =>
    have hLength := length_lt_memberText name value.chars
    -- Either this value is refused, or it is read and a later one is too deep.
    by_cases hValue : depth < value.nesting
    · obtain ⟨tail, hText⟩ :=
        exists_separated (memberText (name, value.chars)) ((memberChars ms).map memberText)
      rw [memberChars, List.map_cons, hText, List.length_append] at hSteps
      rw [memberChars, List.map_cons, hText, ofChars_append, List.append_assoc]
      obtain ⟨inArray, hRefused⟩ := readValue_tooDeep words steps value
        (Text.ofChars tail ++ .char '\x7d' :: rest) hPortable.2.1 hValue (by omega)
      exact ⟨inArray, readMembers_refused before name (opens_chars value) hRefused⟩
    · have hMoreDeep : depth < membersNesting ms := by
        rw [membersNesting] at hDeep
        omega
      match ms with
      | [] => simp [membersNesting] at hMoreDeep
      | next :: ms =>
        have hJoined : name.joined = name := joined_of_isWhole hPortable.1
        have hNew : name.joined ∉ before.map Prod.fst := by
          rw [hJoined]
          exact Association.not_mem_of_nodup hDistinct
        rw [separated_members, List.length_append, List.length_cons] at hSteps
        rw [separated_members, ofChars_append, List.append_assoc]
        obtain ⟨inArray, hRefused⟩ := readMembers_tooDeep words steps
          (before ++ [(name.joined, value)]) (next :: ms) rest hPortable.2.2
          (by rw [hJoined]; simpa using hDistinct) hMoreDeep (by omega)
        refine ⟨inArray, (readMembers_more hNew (opens_chars value) (readValue_of_portable
          hPortable.2.1 (Nat.le_of_not_lt hValue) (by omega) (endsNumber_cons ?_ _))).trans ?_⟩
        · decide
        · have hBlanks := skipBlanks_of_opens (opens_members next ms) (.char '\x7d' :: rest)
          exact (congrArg _ hBlanks).trans hRefused

end

/-- The text of a portable value that is nested too deep is refused for that. -/
theorem ofText_tooDeep (d : Dialect) {j : Json} (hPortable : j.IsPortable)
    (hDeep : d.depth < j.nesting) (rest : Text) :
    ∃ inArray, ofText d (Text.ofChars j.chars ++ rest) = .error (.tooDeep inArray) := by
  have hSteps : j.chars.length ≤ (Text.ofChars j.chars ++ rest).length + 1 := by
    simp only [Text.ofChars, List.length_append, List.length_map]
    omega
  obtain ⟨inArray, hRefused⟩ := readValue_tooDeep d.words _ j rest hPortable hDeep hSteps
  refine ⟨inArray, ?_⟩
  rw [ofText, skipBlanks_of_opens (opens_chars j), hRefused]
  rfl

/-! ## Sorted values -/

theorem membersNesting_le_iff {ms : List (Text × Json)} {depth : Nat} :
    membersNesting ms ≤ depth ↔ ∀ m ∈ ms, m.2.nesting ≤ depth := by
  induction ms with
  | nil => simp [membersNesting]
  | cons m rest ih => rw [membersNesting, Nat.max_le, ih, List.forall_mem_cons]

theorem membersNesting_perm {ms others : List (Text × Json)} (hPerm : ms.Perm others) :
    membersNesting ms = membersNesting others := by
  refine Nat.le_antisymm ?_ ?_
  · refine membersNesting_le_iff.mpr fun m hm => ?_
    exact membersNesting_le_iff.mp (Nat.le_refl _) m (hPerm.mem_iff.mp hm)
  · refine membersNesting_le_iff.mpr fun m hm => ?_
    exact membersNesting_le_iff.mp (Nat.le_refl _) m (hPerm.mem_iff.mpr hm)

mutual

theorem nesting_sorted (j : Json) : j.sorted.nesting = j.nesting := by
  match j with
  | .null | .bool _ | .int _ | .float _ | .string _ => rfl
  | .array items => exact congrArg (· + 1) (itemsNesting_sorted items)
  | .object ms =>
    refine congrArg (· + 1) ?_
    rw [membersNesting_perm (sortByName_perm _), membersNesting_sorted ms]

theorem itemsNesting_sorted (items : List Json) :
    itemsNesting (sortedItems items) = itemsNesting items := by
  match items with
  | [] => rfl
  | item :: rest =>
    rw [sortedItems, itemsNesting, itemsNesting, nesting_sorted item, itemsNesting_sorted rest]

theorem membersNesting_sorted (ms : List (Text × Json)) :
    membersNesting (sortedMembers ms) = membersNesting ms := by
  match ms with
  | [] => rfl
  | (name, value) :: rest =>
    rw [sortedMembers, membersNesting, membersNesting, nesting_sorted value,
      membersNesting_sorted rest]

end

theorem portable_sorted {j : Json} (hPortable : j.IsPortable) : j.sorted.IsPortable :=
  ((fits_iff _).mp (fits_sorted j ((fits_iff j).mpr ⟨hPortable, Nat.le_refl _⟩))).1

end UnitConversion.Json
