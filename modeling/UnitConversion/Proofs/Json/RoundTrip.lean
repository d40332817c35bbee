import UnitConversion.Proofs.Json.Numbers

/-!
# JSON texts round trip

The text of a value can be read if its integers have few enough digits, its numbers are finite, the members
of an object are read with different names, and arrays and objects are not nested too deep
(`Json.Legible`). What is read is the value with the halves of surrogate pairs joined in its strings, which is
the value itself if its strings have no halves (`Json.Fits`).

The readers of values, items and members share a number of steps. Each takes at most as many steps as the
text that it reads has characters, so that the induction is on the value, with the text that follows it
and the number of steps left open.

* `readValue_chars`: the text of a value is read as that value, whatever follows it.
* `ofText_chars_joined`: the text of a legible value, with blanks behind it, is read.
* `ofText_chars_append`: a text with blanks behind it is read as the value that it was written for.
-/

namespace UnitConversion.Json

mutual

/-- The value is read again from its text where so many arrays and objects may be nested. -/
def Fits : (depth : Nat) → Json → Prop
  | _, .null => True
  | _, .bool _ => True
  | _, .int n => n.natAbs < 10 ^ integerDigitLimit
  | _, .float x => x.isFinite = true
  | _, .string t => t.isWhole = true
  | 0, .array _ => False
  | depth + 1, .array items => ItemsFit depth items
  | 0, .object _ => False
  | depth + 1, .object ms => (ms.map Prod.fst).Nodup ∧ MembersFit depth ms

/-- All of the items fit. -/
def ItemsFit : (depth : Nat) → List Json → Prop
  | _, [] => True
  | depth, item :: rest => Fits depth item ∧ ItemsFit depth rest

/-- All of the members have whole names and values that fit. -/
def MembersFit : (depth : Nat) → List (Text × Json) → Prop
  | _, [] => True
  | depth, (name, value) :: rest => name.isWhole = true ∧ Fits depth value ∧ MembersFit depth rest

end

mutual

/-- The value with the halves of surrogate pairs joined in all strings and names. -/
def joined : Json → Json
  | .string t => .string t.joined
  | .array items => .array (joinedItems items)
  | .object ms => .object (joinedMembers ms)
  | j => j

def joinedItems : List Json → List Json
  | [] => []
  | item :: rest => joined item :: joinedItems rest

def joinedMembers : List (Text × Json) → List (Text × Json)
  | [] => []
  | (name, value) :: rest => (name.joined, joined value) :: joinedMembers rest

end

mutual

/-- The text of the value can be read where so many arrays and objects may be nested. -/
def Legible : (depth : Nat) → Json → Prop
  | _, .null => True
  | _, .bool _ => True
  | _, .int n => n.natAbs < 10 ^ integerDigitLimit
  | _, .float x => x.isFinite = true
  | _, .string _ => True
  | 0, .array _ => False
  | depth + 1, .array items => ItemsLegible depth items
  | 0, .object _ => False
  | depth + 1, .object ms => (ms.map (·.1.joined)).Nodup ∧ MembersLegible depth ms

/-- All of the items are legible. -/
def ItemsLegible : (depth : Nat) → List Json → Prop
  | _, [] => True
  | depth, item :: rest => Legible depth item ∧ ItemsLegible depth rest

/-- All of the members have legible values. -/
def MembersLegible : (depth : Nat) → List (Text × Json) → Prop
  | _, [] => True
  | depth, m :: rest => Legible depth m.2 ∧ MembersLegible depth rest

end

theorem names_joinedMembers (ms : List (Text × Json)) :
    (joinedMembers ms).map Prod.fst = ms.map (·.1.joined) := by
  induction ms with
  | nil => rfl
  | cons m rest ih => rw [joinedMembers, List.map_cons, List.map_cons, ih]

/-! ## The start of a text -/

theorem exists_ofChars {t : Text} (hWhole : t.isWhole = true) : ∃ cs, t = Text.ofChars cs := by
  obtain ⟨cs, hChars⟩ := Option.isSome_iff_exists.mp hWhole
  refine ⟨cs, ?_⟩
  unfold Text.chars? at hChars
  induction t generalizing cs with
  | nil =>
    cases hChars
    rfl
  | cons p t ih =>
    cases p with
    | half n => simp [CodePoint.char?] at hChars
    | char c =>
      rw [List.mapM_cons] at hChars
      cases hRest : t.mapM CodePoint.char? with
      | none => simp [CodePoint.char?, hRest] at hChars
      | some rest =>
        obtain rfl : c :: rest = cs := by simpa [CodePoint.char?, hRest] using hChars
        rw [ih (by simp [Text.isWhole, Text.chars?, hRest]) rest hRest]
        rfl

/-- The character is neither a blank nor one that ends an array. -/
def IsOpening (c : Char) : Prop := isBlank (.char c) = false ∧ c ≠ ']'

instance (c : Char) : Decidable (IsOpening c) :=
  inferInstanceAs (Decidable (isBlank (.char c) = false ∧ c ≠ ']'))

/-- The characters start with one that a value or a name may start with. -/
def Opens (cs : List Char) : Prop := ∃ c tail, cs = c :: tail ∧ IsOpening c

theorem Opens.append {cs : List Char} (hOpens : Opens cs) (ds : List Char) : Opens (cs ++ ds) := by
  obtain ⟨c, tail, rfl, hOpening⟩ := hOpens
  exact ⟨c, tail ++ ds, rfl, hOpening⟩

theorem skipBlanks_cons {c : Char} (hBlank : isBlank (.char c) = false) (t : Text) :
    skipBlanks (.char c :: t) = .char c :: t := by
  simp [skipBlanks, hBlank]

theorem skipBlanks_of_opens {cs : List Char} (hOpens : Opens cs) (rest : Text) :
    skipBlanks (Text.ofChars cs ++ rest) = Text.ofChars cs ++ rest := by
  obtain ⟨c, tail, rfl, hBlank, -⟩ := hOpens
  exact skipBlanks_cons hBlank _

theorem isOpening_of_isDigit {c : Char} (hDigit : c.isDigit = true) : IsOpening c := by
  have hBracket := ne_of_isDigit hDigit (d := ']') (by decide)
  have hSpace := ne_of_isDigit hDigit (d := ' ') (by decide)
  have hTab := ne_of_isDigit hDigit (d := '\t') (by decide)
  have hLineFeed := ne_of_isDigit hDigit (d := '\n') (by decide)
  have hReturn := ne_of_isDigit hDigit (d := '\r') (by decide)
  exact ⟨by simp [isBlank, hSpace, hTab, hLineFeed, hReturn], hBracket⟩

theorem exists_head_signed (s : Bool) (n : Numeral) :
    ∃ c cs, Layout.signed s n.chars = c :: cs ∧ IsOpening c ∧ c ≠ '[' ∧ c ≠ '\x7b' := by
  cases s with
  | true => exact ⟨'-', n.chars, rfl, ⟨by decide, by decide⟩, by decide, by decide⟩
  | false =>
    obtain ⟨c, cs, hChars, hDigit⟩ := n.exists_digit_head
    exact ⟨c, cs, hChars, isOpening_of_isDigit hDigit, ne_of_isDigit hDigit (by decide),
      ne_of_isDigit hDigit (by decide)⟩

/-- A value without parts is read as what it is scanned as. -/
theorem readValue_of_scanAtom {words : Bool} {steps depth : Nat} {cs : List Char} {rest : Text}
    {j : Json} (hHead : ∃ c cs', cs = c :: cs' ∧ IsOpening c ∧ c ≠ '[' ∧ c ≠ '\x7b')
    (hSteps : cs.length ≤ steps) (hScan : scanAtom words (Text.ofChars cs ++ rest) = some (j, rest)) :
    readValue words steps depth (Text.ofChars cs ++ rest) = .ok (j, rest) := by
  obtain ⟨c, cs', rfl, -, hBracket, hBrace⟩ := hHead
  obtain ⟨steps, rfl⟩ : ∃ k, steps = k + 1 := ⟨steps - 1, by simp at hSteps; omega⟩
  simp only [Text.ofChars, List.map_cons, List.cons_append] at hScan ⊢
  rw [readValue]
  · rw [hScan]
    rfl
  all_goals
    intros
    simp_all

/-! ## Steps of the readers -/

section Steps

variable {words : Bool} {steps depth : Nat} {rest : Text}

/-- An array is read item by item. -/
theorem readValue_array {cs : List Char} (hOpens : Opens cs) :
    readValue words (steps + 1) (depth + 1) (Text.ofChars ('[' :: (cs ++ [']'])) ++ rest) =
      (readItems words steps depth (Text.ofChars cs ++ .char ']' :: rest)).map
        fun (items, rest') => (.array items, rest') := by
  obtain ⟨c, tail, rfl, hBlank, hBracket⟩ := hOpens
  simp [Text.ofChars, readValue, skipBlanks_cons hBlank, hBracket]

/-- An object is read member by member. -/
theorem readValue_object {cs : List Char} (hQuote : ∃ tail, cs = '"' :: tail) :
    readValue words (steps + 1) (depth + 1) (Text.ofChars ('\x7b' :: (cs ++ ['\x7d'])) ++ rest) =
      (readMembers words steps depth [] (Text.ofChars cs ++ .char '\x7d' :: rest)).map
        fun (ms, rest') => (.object ms, rest') := by
  obtain ⟨tail, rfl⟩ := hQuote
  have hBlank : isBlank (.char '"') = false := by decide
  simp [Text.ofChars, readValue, skipBlanks_cons hBlank]

theorem readItems_last {t : Text} {item : Json}
    (hItem : readValue words steps depth t = .ok (item, .char ']' :: rest)) :
    readItems words (steps + 1) depth t = .ok ([item], rest) := by
  have hBlank : isBlank (.char ']') = false := by decide
  rw [readItems, hItem]
  simp only [bind, Except.bind, skipBlanks_cons hBlank]
  rfl

theorem readItems_more {t more : Text} {item : Json}
    (hItem : readValue words steps depth t = .ok (item, .char ',' :: more)) :
    readItems words (steps + 1) depth t =
      (readItems words steps depth (skipBlanks more)).map
        fun (items, rest') => (item :: items, rest') := by
  have hBlank : isBlank (.char ',') = false := by decide
  rw [readItems, hItem]
  simp only [bind, Except.bind, skipBlanks_cons hBlank]
  rfl

/-- The name of a member is read, and then its value. -/
theorem readMembers_member (before : List (Text × Json)) (name : Text) {cs : List Char}
    {following : Text} (hOpens : Opens cs) :
    readMembers words (steps + 1) depth before
        (Text.ofChars (memberText (name, cs)) ++ following) =
      (readValue words steps depth (Text.ofChars cs ++ following)).bind fun (value, rest) =>
        match skipBlanks rest with
        | .char '\x7d' :: rest' => .ok (insertMember before name.joined value, rest')
        | .char ',' :: rest' =>
          readMembers words steps depth (insertMember before name.joined value) (skipBlanks rest')
        | _ => .error .malformed := by
  have hBlank : isBlank (.char ':') = false := by decide
  have hName := scanText_escaped name (.char ':' :: (Text.ofChars cs ++ following))
  have hText : Text.ofChars (memberText (name, cs)) ++ following =
      .char '"' :: (Text.ofChars (name.flatMap escapePoint ++ ['"']) ++
        .char ':' :: (Text.ofChars cs ++ following)) := by
    rw [memberText, quote]
    simp [Text.ofChars]
  rw [hText, readMembers]
  simp only [hName, orMalformed, bind, Except.bind, skipBlanks_cons hBlank,
    skipBlanks_of_opens hOpens]
  rfl

section Member

variable {before : List (Text × Json)} {name : Text} {cs : List Char} {value : Json}
  (hNew : name.joined ∉ before.map Prod.fst) (hOpens : Opens cs)

include hNew hOpens

theorem readMembers_last
    (hValue : readValue words steps depth (Text.ofChars cs ++ .char '\x7d' :: rest) =
      .ok (value, .char '\x7d' :: rest)) :
    readMembers words (steps + 1) depth before
        (Text.ofChars (memberText (name, cs)) ++ .char '\x7d' :: rest) =
      .ok (before ++ [(name.joined, value)], rest) := by
  have hBlank : isBlank (.char '\x7d') = false := by decide
  rw [readMembers_member before name hOpens, hValue]
  simp only [Except.bind, skipBlanks_cons hBlank, insertMember, Association.put_of_not_mem value hNew]

theorem readMembers_more {more : Text}
    (hValue : readValue words steps depth (Text.ofChars cs ++ .char ',' :: more) =
      .ok (value, .char ',' :: more)) :
    readMembers words (steps + 1) depth before
        (Text.ofChars (memberText (name, cs)) ++ .char ',' :: more) =
      readMembers words steps depth (before ++ [(name.joined, value)]) (skipBlanks more) := by
  have hBlank : isBlank (.char ',') = false := by decide
  rw [readMembers_member before name hOpens, hValue]
  simp only [Except.bind, skipBlanks_cons hBlank, insertMember, Association.put_of_not_mem value hNew]

end Member

end Steps

/-! ## Values -/

theorem opens_chars (j : Json) : Opens j.chars := by
  have hCons {c : Char} (cs : List Char) (hOpening : IsOpening c) : Opens (c :: cs) :=
    ⟨c, cs, rfl, hOpening⟩
  cases j with
  | null => exact hCons _ (by decide)
  | bool b => cases b <;> exact hCons _ (by decide)
  | int n =>
    obtain ⟨c, cs, hChars, hOpening, -⟩ := exists_head_signed (decide (n < 0)) (natNumeral n.natAbs)
    rw [chars_natNumeral] at hChars
    exact ⟨c, cs, hChars, hOpening⟩
  | float x =>
    cases x with
    | nan => exact hCons _ (by decide)
    | infinite s => cases s <;> exact hCons _ (by decide)
    | finite s m =>
      obtain ⟨c, cs, hChars, hOpening, -⟩ := exists_head_signed s m.shortestNumeral
      rw [m.chars_shortestNumeral] at hChars
      exact ⟨c, cs, hChars, hOpening⟩
  | string t => exact hCons _ (by decide)
  | array items => exact hCons _ (by decide)
  | object ms => exact hCons _ (by decide)

theorem opens_separated {item : List Char} (hOpens : Opens item) (items : List (List Char)) :
    Opens (separated (item :: items)) := by
  cases items with
  | nil => exact hOpens
  | cons next items => exact hOpens.append _

theorem exists_separated_members (m : Text × Json) (ms : List (Text × Json)) :
    ∃ tail, separated ((memberChars (m :: ms)).map memberText) = '"' :: tail := by
  cases ms with
  | nil => exact ⟨_, rfl⟩
  | cons next ms => exact ⟨_, rfl⟩

theorem opens_items (item : Json) (items : List Json) :
    Opens (separated (itemChars (item :: items))) :=
  opens_separated (opens_chars item) (itemChars items)

theorem opens_members (m : Text × Json) (ms : List (Text × Json)) :
    Opens (separated ((memberChars (m :: ms)).map memberText)) := by
  obtain ⟨tail, hTail⟩ := exists_separated_members m ms
  exact ⟨'"', tail, hTail, by decide⟩

/-- The text of items starts with that of the first, and a comma if there are more. -/
theorem separated_items (item next : Json) (items : List Json) :
    separated (itemChars (item :: next :: items)) =
      item.chars ++ ',' :: separated (itemChars (next :: items)) := rfl

theorem separated_members (name : Text) (value : Json) (next : Text × Json)
    (ms : List (Text × Json)) :
    separated ((memberChars ((name, value) :: next :: ms)).map memberText) =
      memberText (name, value.chars) ++
        ',' :: separated ((memberChars (next :: ms)).map memberText) := rfl

theorem scanAtom_null (words : Bool) (rest : Text) :
    scanAtom words (Text.ofChars Json.null.chars ++ rest) = some (.null, rest) := by
  cases words <;>
    simp [chars, Text.ofChars, scanAtom, scanNumber, scanWhole, scanDigits, scanWord, afterWord?]

theorem scanAtom_bool (words b : Bool) (rest : Text) :
    scanAtom words (Text.ofChars (Json.bool b).chars ++ rest) = some (.bool b, rest) := by
  cases b <;> cases words <;>
    simp [chars, Text.ofChars, scanAtom, scanNumber, scanWhole, scanDigits, scanWord, afterWord?]

theorem scanAtom_string (words : Bool) (t rest : Text) :
    scanAtom words (Text.ofChars (Json.string t).chars ++ rest) = some (.string t.joined, rest) := by
  have hScan := scanText_escaped t rest
  have hChars : Text.ofChars (Json.string t).chars ++ rest =
      .char '"' :: (Text.ofChars (t.flatMap escapePoint ++ ['"']) ++ rest) := rfl
  rw [hChars, scanAtom, hScan]
  rfl

theorem length_lt_memberText (name : Text) (cs : List Char) :
    cs.length < (memberText (name, cs)).length := by
  simp only [memberText, List.length_append, List.length_cons]
  omega

mutual

/-- The text of a legible value is read, whatever follows it. -/
theorem readValue_chars (words : Bool) (steps : Nat) (j : Json) {depth : Nat} {rest : Text}
    (hLegible : j.Legible depth) (hSteps : j.chars.length ≤ steps) (hRest : EndsNumber rest) :
    readValue words steps depth (Text.ofChars j.chars ++ rest) = .ok (j.joined, rest) := by
  match j, depth with
  | .null, _ => exact readValue_of_scanAtom ⟨'n', _, rfl, by decide⟩ hSteps (scanAtom_null words rest)
  | .bool true, _ =>
    exact readValue_of_scanAtom ⟨'t', _, rfl, by decide⟩ hSteps (scanAtom_bool words true rest)
  | .bool false, _ =>
    exact readValue_of_scanAtom ⟨'f', _, rfl, by decide⟩ hSteps (scanAtom_bool words false rest)
  | .int n, _ =>
    have hHead := exists_head_signed (decide (n < 0)) (natNumeral n.natAbs)
    rw [chars_natNumeral] at hHead
    exact readValue_of_scanAtom hHead hSteps (scanAtom_int words hLegible hRest)
  | .float (.finite s m), _ =>
    have hHead := exists_head_signed s m.shortestNumeral
    rw [m.chars_shortestNumeral] at hHead
    exact readValue_of_scanAtom hHead hSteps (scanAtom_float words s m hRest)
  | .float .nan, _ => cases hLegible
  | .float (.infinite s), _ => cases hLegible
  | .string t, _ =>
    exact readValue_of_scanAtom ⟨'"', _, rfl, by decide⟩ hSteps (scanAtom_string words t rest)
  | .array items, depth + 1 =>
    simp only [chars, List.length_cons, List.length_append] at hSteps
    obtain ⟨steps, rfl⟩ : ∃ k, steps = k + 1 := ⟨steps - 1, by omega⟩
    match items with
    | [] => rfl
    | item :: items =>
      have hItems := readItems_chars words steps (item :: items) rest (by simp) hLegible (by omega)
      exact (readValue_array (opens_items item items)).trans (congrArg (Except.map _) hItems)
  | .object ms, depth + 1 =>
    simp only [chars, List.length_cons, List.length_append] at hSteps
    obtain ⟨steps, rfl⟩ : ∃ k, steps = k + 1 := ⟨steps - 1, by omega⟩
    match ms with
    | [] => rfl
    | m :: ms =>
      have hMembers :=
        readMembers_chars words steps [] (m :: ms) rest (by simp) hLegible.2 hLegible.1 (by omega)
      refine (readValue_object (exists_separated_members m ms)).trans ?_
      exact congrArg (Except.map _) hMembers

theorem readItems_chars (words : Bool) (steps : Nat) (items : List Json) {depth : Nat} (rest : Text)
    (hNonempty : items ≠ []) (hLegible : ItemsLegible depth items)
    (hSteps : (separated (itemChars items)).length < steps) :
    readItems words steps depth (Text.ofChars (separated (itemChars items)) ++ .char ']' :: rest) =
      .ok (joinedItems items, rest) := by
  obtain ⟨steps, rfl⟩ : ∃ k, steps = k + 1 := ⟨steps - 1, by omega⟩
  match items with
  | [item] =>
    have hEnds : EndsNumber (.char ']' :: rest) := endsNumber_cons (by decide) rest
    exact readItems_last (readValue_chars words steps item hLegible.1 (Nat.le_of_lt_succ hSteps) hEnds)
  | item :: next :: items =>
    rw [separated_items] at hSteps ⊢
    simp only [List.length_append, List.length_cons] at hSteps
    have hMore := readItems_chars words steps (next :: items) rest (by simp) hLegible.2 (by omega)
    rw [ofChars_append, List.append_assoc]
    refine (readItems_more (readValue_chars words steps item hLegible.1 (by omega) ?_)).trans ?_
    · exact endsNumber_cons (by decide) _
    · have hBlanks := skipBlanks_of_opens (opens_items next items) (.char ']' :: rest)
      exact congrArg (Except.map _) ((congrArg _ hBlanks).trans hMore)

theorem readMembers_chars (words : Bool) (steps : Nat) (before ms : List (Text × Json)) {depth : Nat}
    (rest : Text) (hNonempty : ms ≠ []) (hLegible : MembersLegible depth ms)
    (hDistinct : (before.map Prod.fst ++ ms.map (·.1.joined)).Nodup)
    (hSteps : (separated ((memberChars ms).map memberText)).length < steps) :
    readMembers words steps depth before
        (Text.ofChars (separated ((memberChars ms).map memberText)) ++ .char '\x7d' :: rest) =
      .ok (before ++ joinedMembers ms, rest) := by
  obtain ⟨steps, rfl⟩ : ∃ k, steps = k + 1 := ⟨steps - 1, by omega⟩
  match ms with
  | [(name, value)] =>
    have hNew : name.joined ∉ before.map Prod.fst := by
      intro hMem
      exact (List.nodup_append.mp hDistinct).2.2 _ hMem _ List.mem_cons_self rfl
    have hEnds : EndsNumber (.char '\x7d' :: rest) := endsNumber_cons (by decide) rest
    have hLength := length_lt_memberText name value.chars
    have hTotal : (memberText (name, value.chars)).length < steps + 1 := hSteps
    exact readMembers_last hNew (opens_chars value)
      (readValue_chars words steps value hLegible.1 (by omega) hEnds)
  | (name, value) :: next :: ms =>
    have hNew : name.joined ∉ before.map Prod.fst := by
      intro hMem
      exact (List.nodup_append.mp hDistinct).2.2 _ hMem _ List.mem_cons_self rfl
    have hLength := length_lt_memberText name value.chars
    rw [separated_members, List.length_append, List.length_cons] at hSteps
    have hMore := readMembers_chars words steps (before ++ [(name.joined, value.joined)]) (next :: ms)
      rest (by simp) hLegible.2 (by simpa using hDistinct) (by omega)
    rw [List.append_assoc, List.singleton_append] at hMore
    rw [separated_members, ofChars_append, List.append_assoc]
    refine (readMembers_more hNew (opens_chars value)
      (readValue_chars words steps value hLegible.1 (by omega) ?_)).trans ?_
    · exact endsNumber_cons (by decide) _
    · have hBlanks := skipBlanks_of_opens (opens_members next ms) (.char '\x7d' :: rest)
      exact (congrArg _ hBlanks).trans hMore

end

theorem endsNumber_of_blanks {rest : Text} (hBlanks : ∀ p ∈ rest, isBlank p = true) :
    EndsNumber rest := by
  intro c hHead
  have hBlank : isBlank (.char c) = true := hBlanks _ (List.mem_of_head? hHead)
  simp only [isBlank, Bool.or_eq_true, beq_iff_eq] at hBlank
  rcases hBlank with ((rfl | rfl) | rfl) | rfl
  all_goals decide

/-- The text of a legible value is read, with blanks behind it. -/
theorem ofText_chars_joined (d : Dialect) {j : Json} (hLegible : j.Legible d.depth) {rest : Text}
    (hBlanks : ∀ p ∈ rest, isBlank p = true) :
    ofText d (Text.ofChars j.chars ++ rest) = .ok j.joined := by
  have hSteps : j.chars.length ≤ (Text.ofChars j.chars ++ rest).length + 1 := by
    simp only [Text.ofChars, List.length_append, List.length_map]
    omega
  have hRead := readValue_chars d.words _ j hLegible hSteps (endsNumber_of_blanks hBlanks)
  have hNothing : skipBlanks rest = [] := by simpa [skipBlanks] using hBlanks
  rw [ofText, skipBlanks_of_opens (opens_chars j), hRead]
  simp [bind, Except.bind, pure, Except.pure, hNothing]

/-! ## Values without halves -/

theorem joined_of_isWhole {t : Text} (hWhole : t.isWhole = true) : t.joined = t := by
  obtain ⟨cs, rfl⟩ := exists_ofChars hWhole
  exact Text.joined_ofChars cs

mutual

/-- A value that fits is legible, and there is nothing to join in it. -/
theorem legible_of_fits (j : Json) {depth : Nat} (hFits : j.Fits depth) :
    j.Legible depth ∧ j.joined = j := by
  match j, depth with
  | .null, _ | .bool _, _ | .int _, _ | .float _, _ => exact ⟨hFits, rfl⟩
  | .string t, _ => exact ⟨trivial, congrArg Json.string (joined_of_isWhole hFits)⟩
  | .array items, depth + 1 =>
    obtain ⟨hLegible, hJoined⟩ := itemsLegible_of_fit items hFits
    exact ⟨hLegible, congrArg Json.array hJoined⟩
  | .object ms, depth + 1 =>
    obtain ⟨hDistinct, hMembers⟩ := hFits
    obtain ⟨hLegible, hJoined⟩ := membersLegible_of_fit ms hMembers
    refine ⟨⟨?_, hLegible⟩, congrArg Json.object hJoined⟩
    rw [← names_joinedMembers, hJoined]
    exact hDistinct

theorem itemsLegible_of_fit (items : List Json) {depth : Nat} (hFit : ItemsFit depth items) :
    ItemsLegible depth items ∧ joinedItems items = items := by
  match items with
  | [] => exact ⟨trivial, rfl⟩
  | item :: rest =>
    obtain ⟨hItem, hItemJoined⟩ := legible_of_fits item hFit.1
    obtain ⟨hRest, hRestJoined⟩ := itemsLegible_of_fit rest hFit.2
    exact ⟨⟨hItem, hRest⟩, by rw [joinedItems, hItemJoined, hRestJoined]⟩

theorem membersLegible_of_fit (ms : List (Text × Json)) {depth : Nat} (hFit : MembersFit depth ms) :
    MembersLegible depth ms ∧ joinedMembers ms = ms := by
  match ms with
  | [] => exact ⟨trivial, rfl⟩
  | (name, value) :: rest =>
    obtain ⟨hName, hValue, hRest⟩ := hFit
    obtain ⟨hLegible, hJoined⟩ := legible_of_fits value hValue
    obtain ⟨hRestLegible, hRestJoined⟩ := membersLegible_of_fit rest hRest
    exact ⟨⟨hLegible, hRestLegible⟩,
      by rw [joinedMembers, joined_of_isWhole hName, hJoined, hRestJoined]⟩

end

/-- The text of a value that fits is read as that value, with blanks behind it. -/
theorem ofText_chars_append (d : Dialect) {j : Json} (hFits : j.Fits d.depth) {rest : Text}
    (hBlanks : ∀ p ∈ rest, isBlank p = true) :
    ofText d (Text.ofChars j.chars ++ rest) = .ok j := by
  obtain ⟨hLegible, hJoined⟩ := legible_of_fits j hFits
  rw [ofText_chars_joined d hLegible hBlanks, hJoined]

/-- The text of a value that fits is read as that value. -/
theorem ofText_chars (d : Dialect) {j : Json} (hFits : j.Fits d.depth) :
    ofText d (Text.ofChars j.chars) = .ok j := by
  have hRead := ofText_chars_append d hFits (List.forall_mem_nil _)
  rwa [List.append_nil] at hRead

end UnitConversion.Json
