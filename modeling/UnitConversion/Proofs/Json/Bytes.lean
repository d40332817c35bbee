import UnitConversion.Proofs.Json.RoundTrip
import UnitConversion.Proofs.Text.Utf8

/-!
# The bytes of JSON texts

All characters of a JSON text are printable ones of ASCII, whatever the value is. So its UTF-8 form has
neither zeros nor a byte order mark in it, and is taken for what it is.

* `printable_chars`: the characters of a JSON text.
* `ofBytes_ascii`: the bytes of characters of ASCII are read as these characters.
* `ofBytes_encode`: the UTF-8 form of a text is read as the value that it was written for.
-/

namespace UnitConversion.Json

/-- The character is a printable one of ASCII. -/
def IsPrintable (c : Char) : Prop := 0x20 ≤ c.toNat ∧ c.toNat < 0x7F

instance : DecidablePred IsPrintable := fun c =>
  inferInstanceAs (Decidable (0x20 ≤ c.toNat ∧ c.toNat < 0x7F))

/-- All of the characters are printable ones of ASCII. -/
def Printable (cs : List Char) : Prop := ∀ c ∈ cs, IsPrintable c

instance : DecidablePred Printable := fun cs => List.decidableBAll IsPrintable cs

theorem Printable.append {cs ds : List Char} (hLeft : Printable cs) (hRight : Printable ds) :
    Printable (cs ++ ds) := List.forall_mem_append.mpr ⟨hLeft, hRight⟩

theorem Printable.cons {c : Char} {cs : List Char} (hTail : Printable cs)
    (hHead : IsPrintable c) : Printable (c :: cs) :=
  List.forall_mem_cons.mpr ⟨hHead, hTail⟩

theorem printable_signed (s : Bool) {cs : List Char} (hPrintable : Printable cs) :
    Printable (Layout.signed s cs) := by
  cases s with
  | true => exact hPrintable.cons (by decide)
  | false => exact hPrintable

theorem printable_numeral (n : Numeral) : Printable n.chars := by
  intro c hc
  rcases n.isDigit_or_mark_of_mem hc with hDigit | hMark
  · obtain ⟨hLow, hHigh⟩ := Char.isDigit_iff_toNat.mp hDigit
    exact ⟨Nat.le_trans (by decide) hLow, Nat.lt_of_le_of_lt hHigh (by decide)⟩
  · exact (by decide : Printable ['.', 'e', '+', '-']) c hMark

theorem printable_hexFour (n : Nat) : Printable (hexFour n) := by
  have hDigit : ∀ k < 16, IsPrintable (Nat.digitChar k) := by decide
  intro c hc
  obtain ⟨k, hk, rfl⟩ := List.mem_map.mp hc
  have hLess : k < 16 := by
    simp only [List.mem_cons, List.not_mem_nil, or_false] at hk
    omega
  exact hDigit k hLess

theorem printable_escapeUnit (n : Nat) : Printable (escapeUnit n) :=
  ((printable_hexFour n).cons (by decide)).cons (by decide)

theorem printable_escapeChar (c : Char) : Printable (escapeChar c) := by
  unfold escapeChar
  split_ifs with hQuote hBackslash hLineFeed hReturn hTab hBackspace hFormFeed hSelf hSmall
  any_goals decide
  · exact List.forall_mem_singleton.mpr hSelf
  · exact printable_escapeUnit _
  · exact (printable_escapeUnit _).append (printable_escapeUnit _)

theorem printable_escapePoint (p : CodePoint) : Printable (escapePoint p) := by
  cases p with
  | char c => exact printable_escapeChar c
  | half n => exact printable_escapeUnit _

theorem printable_quote (t : Text) : Printable (quote t) := by
  have hParts : Printable (t.flatMap escapePoint) := by
    intro c hc
    obtain ⟨p, -, hPoint⟩ := List.mem_flatMap.mp hc
    exact printable_escapePoint p c hPoint
  exact (hParts.append (by decide)).cons (by decide)

theorem printable_separated {items : List (List Char)} (hItems : ∀ item ∈ items, Printable item) :
    Printable (separated items) := by
  induction items with
  | nil => exact List.forall_mem_nil _
  | cons item rest ih =>
    obtain ⟨hItem, hRest⟩ := List.forall_mem_cons.mp hItems
    cases rest with
    | nil => exact hItem
    | cons next rest => exact hItem.append ((ih hRest).cons (by decide))

mutual

/-- The text of a value is in printable characters of ASCII. -/
theorem printable_chars (j : Json) : Printable j.chars := by
  match j with
  | .null => decide
  | .bool true => decide
  | .bool false => decide
  | .int n =>
    rw [chars, integerText, ← chars_natNumeral]
    exact printable_signed _ (printable_numeral _)
  | .float .nan => decide
  | .float (.infinite s) => exact printable_signed s (by decide)
  | .float (.finite s m) =>
    rw [chars, numberText, ← m.chars_shortestNumeral]
    exact printable_signed s (printable_numeral _)
  | .string t => exact printable_quote t
  | .array items =>
    exact ((printable_separated (printable_itemChars items)).append (by decide)).cons (by decide)
  | .object ms =>
    exact ((printable_separated (printable_memberChars ms)).append (by decide)).cons (by decide)

theorem printable_itemChars (items : List Json) : ∀ item ∈ itemChars items, Printable item := by
  match items with
  | [] => exact List.forall_mem_nil _
  | item :: rest =>
    exact List.forall_mem_cons.mpr ⟨printable_chars item, printable_itemChars rest⟩

theorem printable_memberChars (ms : List (Text × Json)) :
    ∀ member ∈ (memberChars ms).map memberText, Printable member := by
  match ms with
  | [] => exact List.forall_mem_nil _
  | (name, value) :: rest =>
    have hMember : Printable (memberText (name, value.chars)) :=
      (printable_quote name).append ((printable_chars value).cons (by decide))
    exact List.forall_mem_cons.mpr ⟨hMember, printable_memberChars rest⟩

end

/-! ## Bytes -/

/-- Bytes of ASCII without a zero are taken for UTF-8. -/
theorem detect_of_ascii {bytes : List UInt8} (hAscii : ∀ b ∈ bytes, 0 < b.toNat ∧ b.toNat < 0x80) :
    Encoding.detect bytes = (.utf8, bytes) := by
  have hHigh : ∀ m ∈ Encoding.marks, ∃ b ∈ m.2, 0x80 ≤ b.toNat := by simp [Encoding.marks]
  have hNoMark : Encoding.marks.find? (fun m => m.2.isPrefixOf bytes) = none := by
    refine List.find?_eq_none.mpr fun m hm hPrefix => ?_
    obtain ⟨b, hb, hLarge⟩ := hHigh m hm
    have hSmall := (hAscii b ((List.isPrefixOf_iff_prefix.mp hPrefix).subset hb)).2
    omega
  have hNonzero : ∀ b ∈ bytes, b ≠ 0 := by
    rintro b hb rfl
    exact absurd (hAscii 0 hb).1 (by decide)
  have hUnmarked : Encoding.unmarked bytes = .utf8 := by
    unfold Encoding.unmarked
    split
    · rename_i a b
      rw [if_neg (hNonzero a (by simp)), if_neg (hNonzero b (by simp))]
    · rename_i a b c d rest
      rw [if_neg (hNonzero a (by simp)), if_neg (hNonzero b (by simp))]
    · rfl
  rw [Encoding.detect, hNoMark]
  simp only [hUnmarked]

/-- The character is one of ASCII, and not the null character. -/
def IsAscii (c : Char) : Prop := 0 < c.toNat ∧ c.toNat < 0x80

theorem IsPrintable.isAscii {c : Char} (hPrintable : IsPrintable c) : IsAscii c := by
  obtain ⟨hLow, hHigh⟩ := hPrintable
  exact ⟨by omega, by omega⟩

theorem encode_ascii {cs : List Char} (hAscii : ∀ c ∈ cs, IsAscii c) :
    ∀ b ∈ Utf8.encode cs, 0 < b.toNat ∧ b.toNat < 0x80 := by
  intro b hb
  obtain ⟨c, hc, hByte⟩ := List.mem_flatMap.mp hb
  obtain ⟨hLow, hHigh⟩ := hAscii c hc
  rw [Utf8.encodeCode, if_pos (by omega), List.mem_singleton] at hByte
  rw [hByte, Utf8.toNat_ofNat_of_lt (by omega)]
  omega

/-- The bytes of characters of ASCII are read as these characters. -/
theorem ofBytes_ascii (d : Dialect) {cs : List Char} (hAscii : ∀ c ∈ cs, IsAscii c) :
    ofBytes d (Utf8.encode cs) = ofText d (Text.ofChars cs) := by
  have hCodes : Encoding.codePoints? (Utf8.encode cs) = some (cs.map Char.toNat) := by
    rw [Encoding.codePoints?, detect_of_ascii (encode_ascii hAscii)]
    exact Utf8.codes?_encode true cs
  have hPoints : (cs.map Char.toNat).map CodePoint.ofNat = Text.ofChars cs := by
    rw [List.map_map, Text.ofChars]
    exact List.map_congr_left fun c _ => CodePoint.ofNat_toNat c
  rw [ofBytes, hCodes]
  simp only [orMalformed, bind, Except.bind, hPoints]

/-- The bytes of the text of a value that fits are read as that value. -/
theorem ofBytes_encode (d : Dialect) {j : Json} (hFits : j.Fits d.depth) :
    ofBytes d (Utf8.encode j.text.toList) = .ok j := by
  rw [text, String.toList_ofList, ofBytes_ascii d fun c hc => (printable_chars j c hc).isAscii,
    ofText_chars d hFits]

end UnitConversion.Json
