import UnitConversion.Json.Reader

/-!
# JSON strings round trip

Every character is spelled by parts that a reader of JSON joins to that character again, whatever comes
behind them: by itself, by a short escape, by the escape of a code unit, or by those of a surrogate pair.
A half of a surrogate pair is spelled by its escape, and a reader joins it to the other half if that is
spelled next. So what is read is the text with such halves joined, and a text without halves as it is.

* `Spells`: the parts that a character is spelled by.
* `exists_spells`: the escape of a character spells it.
* `Text.joined`: a text with the halves of surrogate pairs joined.
* `scanText_escaped`: a text between quotation marks is read as that text, its halves joined.
-/

namespace UnitConversion

theorem CodePoint.ofNat_toNat (c : Char) : ofNat c.toNat = .char c := by
  have hScalar : ¬ (0xD800 ≤ c.toNat ∧ c.toNat < 0xE000) := by
    have hValid : c.toNat.isValidChar := c.valid
    rcases hValid with hLow | hHigh <;> omega
  rw [ofNat, dif_neg hScalar, Char.ofNat_toNat]

theorem CodePoint.ofNat_code_half (n : Fin 0x800) : ofNat (CodePoint.half n).code = .half n := by
  have hBound : n.val < 0x800 := n.isLt
  have hSurrogate : 0xD800 ≤ (CodePoint.half n).code ∧ (CodePoint.half n).code < 0xE000 := by
    simp only [code]
    omega
  rw [ofNat, dif_pos hSurrogate]
  simp [code]

open Encoding (isHighSurrogate isLowSurrogate joinSurrogates)

/-- The text in which the halves of surrogate pairs that stand side by side are joined. -/
def Text.joined : Text → Text
  | .half a :: .half b :: rest =>
    let high := (CodePoint.half a).code
    let low := (CodePoint.half b).code
    if isHighSurrogate high && isLowSurrogate low then
      .ofNat (joinSurrogates high low) :: joined rest
    else .half a :: joined (.half b :: rest)
  | p :: rest => p :: joined rest
  | [] => []

/-- In a text of characters there is nothing to join. -/
theorem Text.joined_ofChars (cs : List Char) : (ofChars cs).joined = ofChars cs := by
  induction cs with
  | nil => rfl
  | cons c cs ih =>
    have hCons : joined (.char c :: ofChars cs) = .char c :: joined (ofChars cs) := by simp [joined]
    exact hCons.trans (congrArg _ ih)

namespace Json

/-! ## Code units -/

theorem hexValue?_digitChar {n : Nat} (hn : n < 16) : Text.hexValue? (Nat.digitChar n) = some n := by
  have hAll : ∀ k : Fin 16, Text.hexValue? (Nat.digitChar k) = some k.val := by decide
  exact hAll ⟨n, hn⟩

theorem unitOf?_hexFour {n : Nat} (hn : n < 0x10000) :
    unitOf? (.char (Nat.digitChar (n / 4096 % 16))) (.char (Nat.digitChar (n / 256 % 16)))
      (.char (Nat.digitChar (n / 16 % 16))) (.char (Nat.digitChar (n % 16))) = some n := by
  have hDigit (k : Nat) : digitOf? (.char (Nat.digitChar (k % 16))) = some (k % 16) :=
    hexValue?_digitChar (Nat.mod_lt k (by decide))
  have hValue : ((n / 4096 % 16 * 16 + n / 256 % 16) * 16 + n / 16 % 16) * 16 + n % 16 = n := by omega
  simp [unitOf?, hDigit, hValue]

/-- The escape of a code unit is read as that unit. -/
theorem scanString_escapeUnit {n : Nat} (hn : n < 0x10000) (rest : Text) :
    scanString (Text.ofChars (escapeUnit n) ++ rest) =
      (scanString rest).map fun r => (.unit n :: r.1, r.2) := by
  have hUnit := unitOf?_hexFour hn
  simp only [escapeUnit, hexFour, List.map_cons, List.map_nil, Text.ofChars, List.cons_append,
    List.nil_append, scanString, hUnit]
  cases scanString rest <;> rfl

/-- A code unit stands for itself unless it forms a surrogate pair with the next one. -/
theorem joinParts_unit {n : Nat} {more : List StringPart}
    (hAlone : ∀ low rest, more = .unit low :: rest →
      (isHighSurrogate n && isLowSurrogate low) = false) :
    joinParts (.unit n :: more) = .ofNat n :: joinParts more := by
  cases more with
  | nil => simp [joinParts]
  | cons part more =>
    cases part with
    | point p => simp [joinParts]
    | unit low => simp [joinParts, hAlone low more rfl]

/-! ## Characters -/

theorem ofChars_append (cs ds : List Char) :
    Text.ofChars (cs ++ ds) = Text.ofChars cs ++ Text.ofChars ds := List.map_append

/-- The parts start with the escape of a low surrogate. -/
def StartsLow (parts : List StringPart) : Prop :=
  ∃ n rest, parts = .unit n :: rest ∧ isLowSurrogate n = true

theorem not_startsLow_point (p : CodePoint) (rest : List StringPart) :
    ¬ StartsLow (.point p :: rest) := by
  rintro ⟨n, more, hEq, -⟩
  cases hEq

theorem not_startsLow_unit {n : Nat} (hn : isLowSurrogate n = false) (rest : List StringPart) :
    ¬ StartsLow (.unit n :: rest) := by
  rintro ⟨m, more, hEq, hLow⟩
  cases hEq
  rw [hn] at hLow
  cases hLow

/-- The parts are those of the escaped character, and are joined to it. They are joined to nothing in
front of them. -/
structure Spells (parts : List StringPart) (c : Char) : Prop where
  scan : ∀ rest : Text, scanString (Text.ofChars (escapeChar c) ++ rest) =
    (scanString rest).map fun r => (parts ++ r.1, r.2)
  join : ∀ more : List StringPart, joinParts (parts ++ more) = .char c :: joinParts more
  apart : ∀ more : List StringPart, ¬ StartsLow (parts ++ more)

theorem spells_short {c e : Char} (hEscape : escapeChar c = ['\\', e]) (hNotUnit : e ≠ 'u')
    (hShort : shortEscape? (.char e) = some c) : Spells [.point (.char c)] c where
  scan := fun rest => by
    rw [hEscape]
    simp only [Text.ofChars, List.map_cons, List.map_nil, List.cons_append, List.nil_append]
    rw [scanString]
    · rw [hShort]
      cases scanString rest <;> rfl
    · intro a b c' d rest' hEq
      exact absurd (CodePoint.char.inj hEq) hNotUnit
  join := fun more => rfl
  apart := not_startsLow_point _

/-- A character that is neither a control character nor a quotation mark nor a backslash spells itself. -/
theorem spells_self {c : Char} (hEscape : escapeChar c = [c]) (hQuote : c ≠ '"')
    (hBackslash : c ≠ '\\') (hControl : 0x20 ≤ c.toNat) : Spells [.point (.char c)] c where
  scan := fun rest => by
    rw [hEscape]
    simp only [Text.ofChars, List.map_cons, List.map_nil, List.cons_append, List.nil_append]
    rw [scanString]
    · have hCode : ¬ (CodePoint.char c).code < 0x20 := Nat.not_lt.mpr hControl
      rw [if_neg hCode]
      cases scanString rest <;> rfl
    · exact fun hEq => hQuote (CodePoint.char.inj hEq)
    · intro _ _ _ _ _ hEq
      exact absurd (CodePoint.char.inj hEq) hBackslash
    · intro _ _ hEq
      exact absurd (CodePoint.char.inj hEq) hBackslash
  join := fun more => rfl
  apart := not_startsLow_point _

/-- No character is a surrogate. -/
theorem isSurrogate_toNat (c : Char) :
    isHighSurrogate c.toNat = false ∧ isLowSurrogate c.toNat = false := by
  have hValid : c.toNat.isValidChar := c.valid
  simp only [isHighSurrogate, isLowSurrogate, Bool.and_eq_false_iff, decide_eq_false_iff_not]
  rcases hValid with hLow | hHigh <;> omega

/-- A character of one code unit is spelled by its escape. -/
theorem spells_unit {c : Char} (hEscape : escapeChar c = escapeUnit c.toNat)
    (hSmall : c.toNat < 0x10000) : Spells [.unit c.toNat] c where
  scan := fun rest => by
    rw [hEscape]
    exact scanString_escapeUnit hSmall rest
  join := fun more => by
    have hAlone (low : Nat) : (isHighSurrogate c.toNat && isLowSurrogate low) = false := by
      rw [(isSurrogate_toNat c).1, Bool.false_and]
    rw [List.singleton_append, joinParts_unit fun low _ _ => hAlone low, CodePoint.ofNat_toNat]
  apart := not_startsLow_unit (isSurrogate_toNat c).2

/-- Any other character is spelled by the escapes of its surrogate pair. -/
theorem spells_pair {c : Char} (hEscape : escapeChar c =
      escapeUnit (0xD800 + (c.toNat - 0x10000) / 0x400) ++
        escapeUnit (0xDC00 + (c.toNat - 0x10000) % 0x400)) (hLarge : 0x10000 ≤ c.toNat) :
    Spells [.unit (0xD800 + (c.toNat - 0x10000) / 0x400),
      .unit (0xDC00 + (c.toNat - 0x10000) % 0x400)] c := by
  have hBound : c.toNat < 0x110000 := by
    have hValid : c.toNat.isValidChar := c.valid
    rcases hValid with hLow | hHigh <;> omega
  constructor
  · intro rest
    rw [hEscape, ofChars_append, List.append_assoc, scanString_escapeUnit (by omega),
      scanString_escapeUnit (by omega)]
    cases scanString rest <;> rfl
  · intro more
    have hHigh : isHighSurrogate (0xD800 + (c.toNat - 0x10000) / 0x400) = true := by
      simp only [isHighSurrogate, Bool.and_eq_true, decide_eq_true_eq]
      omega
    have hLow : isLowSurrogate (0xDC00 + (c.toNat - 0x10000) % 0x400) = true := by
      simp only [isLowSurrogate, Bool.and_eq_true, decide_eq_true_eq]
      omega
    have hJoin : joinSurrogates (0xD800 + (c.toNat - 0x10000) / 0x400)
        (0xDC00 + (c.toNat - 0x10000) % 0x400) = c.toNat := by
      unfold joinSurrogates
      omega
    simp only [List.cons_append, List.nil_append, joinParts, hHigh, hLow, Bool.and_self, if_true,
      hJoin, CodePoint.ofNat_toNat]
  · intro more
    apply not_startsLow_unit
    rw [isLowSurrogate, Bool.and_eq_false_iff, decide_eq_false_iff_not]
    omega

/-- The escape of a character spells it. -/
theorem exists_spells (c : Char) : ∃ parts, Spells parts c := by
  by_cases hQuote : c = '"'
  · subst hQuote
    exact ⟨_, spells_short rfl (by decide) rfl⟩
  by_cases hBackslash : c = '\\'
  · subst hBackslash
    exact ⟨_, spells_short rfl (by decide) rfl⟩
  by_cases hLineFeed : c = '\n'
  · subst hLineFeed
    exact ⟨_, spells_short rfl (by decide) rfl⟩
  by_cases hReturn : c = '\r'
  · subst hReturn
    exact ⟨_, spells_short rfl (by decide) rfl⟩
  by_cases hTab : c = '\t'
  · subst hTab
    exact ⟨_, spells_short rfl (by decide) rfl⟩
  by_cases hBackspace : c.toNat = 8
  · obtain rfl : c = Char.ofNat 8 := by rw [← hBackspace, Char.ofNat_toNat]
    exact ⟨_, spells_short rfl (by decide) rfl⟩
  by_cases hFormFeed : c.toNat = 12
  · obtain rfl : c = Char.ofNat 12 := by rw [← hFormFeed, Char.ofNat_toNat]
    exact ⟨_, spells_short rfl (by decide) rfl⟩
  have hEscape : escapeChar c =
      if 0x20 ≤ c.toNat ∧ c.toNat < 0x7F then [c]
      else if c.toNat < 0x10000 then escapeUnit c.toNat
      else escapeUnit (0xD800 + (c.toNat - 0x10000) / 0x400) ++
        escapeUnit (0xDC00 + (c.toNat - 0x10000) % 0x400) := by
    simp only [escapeChar, hQuote, hBackslash, hLineFeed, hReturn, hTab, hBackspace, hFormFeed,
      if_false]
  by_cases hPrintable : 0x20 ≤ c.toNat ∧ c.toNat < 0x7F
  · rw [if_pos hPrintable] at hEscape
    exact ⟨_, spells_self hEscape hQuote hBackslash hPrintable.1⟩
  rw [if_neg hPrintable] at hEscape
  by_cases hSmall : c.toNat < 0x10000
  · rw [if_pos hSmall] at hEscape
    exact ⟨_, spells_unit hEscape hSmall⟩
  · rw [if_neg hSmall] at hEscape
    exact ⟨_, spells_pair hEscape (Nat.not_lt.mp hSmall)⟩

/-! ## Texts -/

/-- The parts are those of the escaped text, and are joined to the text with its halves joined. They start
with the escape of a low surrogate only if the text starts with that half. -/
structure SpellsText (parts : List StringPart) (t : Text) : Prop where
  scan : ∀ rest : Text, scanString (Text.ofChars (t.flatMap escapePoint ++ ['"']) ++ rest) =
    some (parts, rest)
  join : joinParts parts = t.joined
  first : ∀ n more, parts = .unit n :: more → isLowSurrogate n = true →
    ∃ b u, t = .half b :: u ∧ (CodePoint.half b).code = n

section SpellsText

variable {parts : List StringPart} {t : Text}

theorem scanString_half (a : Fin 0x800) (rest : Text) :
    scanString (Text.ofChars (escapePoint (.half a)) ++ rest) =
      (scanString rest).map fun r => (.unit (CodePoint.half a).code :: r.1, r.2) := by
  have hUnit : (CodePoint.half a).code < 0x10000 := by
    have hBound : a.val < 0x800 := a.isLt
    simp only [CodePoint.code]
    omega
  exact scanString_escapeUnit hUnit rest

theorem spellsText_nil : SpellsText [] [] := by
  constructor
  · intro rest
    rfl
  · rfl
  · intro n more hParts
    cases hParts

theorem SpellsText.char {first : List StringPart} {c : Char} (hFirst : Spells first c)
    (h : SpellsText parts t) : SpellsText (first ++ parts) (.char c :: t) := by
  constructor
  · intro rest
    have hEscape : escapePoint (.char c) = escapeChar c := rfl
    rw [List.flatMap_cons, List.append_assoc, ofChars_append, List.append_assoc, hEscape, hFirst.scan,
      h.scan]
    rfl
  · rw [hFirst.join, h.join]
    simp [Text.joined]
  · intro n more hParts hLow
    exact absurd ⟨n, more, hParts, hLow⟩ (hFirst.apart parts)

/-- A half that does not form a pair with what follows stands alone. -/
theorem SpellsText.half {a : Fin 0x800} (h : SpellsText parts t)
    (hAlone : ∀ b u, t = .half b :: u →
      (isHighSurrogate (CodePoint.half a).code && isLowSurrogate (CodePoint.half b).code) = false) :
    SpellsText (.unit (CodePoint.half a).code :: parts) (.half a :: t) := by
  constructor
  · intro rest
    rw [List.flatMap_cons, List.append_assoc, ofChars_append, List.append_assoc, scanString_half,
      h.scan]
    rfl
  · have hApart : ∀ low rest, parts = .unit low :: rest →
        (isHighSurrogate (CodePoint.half a).code && isLowSurrogate low) = false := by
      intro low rest hParts
      cases hLow : isLowSurrogate low with
      | false => exact Bool.and_false _
      | true =>
        obtain ⟨b, u, ht, rfl⟩ := h.first low rest hParts hLow
        rw [← hLow]
        exact hAlone b u ht
    rw [joinParts_unit hApart, h.join, CodePoint.ofNat_code_half]
    cases t with
    | nil => rfl
    | cons p u =>
      cases p with
      | char c => simp [Text.joined]
      | half b => simp [Text.joined, hAlone b u rfl]
  · intro n more hParts hLow
    cases hParts
    exact ⟨a, t, rfl, rfl⟩

/-- Two halves that form a pair are joined. -/
theorem SpellsText.pair {a b : Fin 0x800} (h : SpellsText parts t)
    (hPair : (isHighSurrogate (CodePoint.half a).code && isLowSurrogate (CodePoint.half b).code) = true) :
    SpellsText (.unit (CodePoint.half a).code :: .unit (CodePoint.half b).code :: parts)
      (.half a :: .half b :: t) := by
  constructor
  · intro rest
    rw [List.flatMap_cons, List.flatMap_cons, List.append_assoc, List.append_assoc, ofChars_append,
      ofChars_append, List.append_assoc, List.append_assoc, scanString_half, scanString_half, h.scan]
    rfl
  · simp only [joinParts, Text.joined, hPair, if_true, h.join]
  · intro n more hParts hLow
    cases hParts
    exact ⟨a, .half b :: t, rfl, rfl⟩

/-- The escape of a text spells it. -/
theorem exists_spellsText (t : Text) : ∃ parts, SpellsText parts t := by
  fun_induction Text.joined t with
  | case1 a b rest high low hPair ih =>
    obtain ⟨parts, hParts⟩ := ih
    exact ⟨_, hParts.pair hPair⟩
  | case2 a b rest high low hApart ih =>
    obtain ⟨parts, hParts⟩ := ih
    refine ⟨_, hParts.half fun b' u hEq => ?_⟩
    cases hEq
    exact Bool.eq_false_iff.mpr hApart
  | case3 p rest hOther ih =>
    obtain ⟨parts, hParts⟩ := ih
    cases p with
    | char c =>
      obtain ⟨first, hFirst⟩ := exists_spells c
      exact ⟨_, hParts.char hFirst⟩
    | half a => exact ⟨_, hParts.half fun b u hEq => (hOther a b u rfl hEq).elim⟩
  | case4 => exact ⟨_, spellsText_nil⟩

end SpellsText

/-- The escaped points of a text and a quotation mark are read as that text, its halves joined. -/
theorem scanText_escaped (t rest : Text) :
    scanText (Text.ofChars (t.flatMap escapePoint ++ ['"']) ++ rest) = some (t.joined, rest) := by
  obtain ⟨parts, hParts⟩ := exists_spellsText t
  simp only [scanText, hParts.scan, Option.map_some, hParts.join]

end Json

end UnitConversion
