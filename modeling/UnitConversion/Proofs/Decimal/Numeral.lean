import UnitConversion.Decimal.Layout
import UnitConversion.Decimal.Reading
import UnitConversion.Proofs.Decimal.Value

/-!
# Numerals

A numeral is what the layouts write: digits, behind a point more digits if there are any, and an exponent
if there is one. Whatever reads numbers reads it as the decimal of its digits.

* `Numeral.ofText?_chars`: a numeral is read as its decimal.
* `Binary64.ofText?_signed`: with a sign it is read as the binary64 number of its decimal.
* `isNumeral_signed`, `not_isNumeral_infinite`: texts that are numerals, and texts that are none.
-/

namespace UnitConversion

/-- The parts of an unsigned numeral. -/
structure Numeral where
  whole : List Char
  fraction : List Char
  exponent : Option Int
  whole_ne_nil : whole ≠ []
  isDigit_whole : ∀ c ∈ whole, c.isDigit = true
  isDigit_fraction : ∀ c ∈ fraction, c.isDigit = true

namespace Numeral

variable (n : Numeral)

/-- The exponent as it is written. -/
def exponentChars : List Char :=
  match n.exponent with
  | none => []
  | some e => Layout.exponentPart e

/-- The numeral as it is written. -/
def chars : List Char := n.whole ++ (Layout.fraction n.fraction ++ n.exponentChars)

/-- The decimal that the numeral denotes. -/
def decimal : Decimal := .ofDigits n.whole n.fraction (n.exponent.getD 0)

end Numeral

/-! ## Digits -/

theorem isDigit_toDigits {n : Nat} {c : Char} (hc : c ∈ Nat.toDigits 10 n) : c.isDigit = true :=
  Nat.isDigit_of_mem_toDigits (by decide) (by decide) hc

theorem isDigit_replicate {n : Nat} {c : Char} (hc : c ∈ List.replicate n '0') :
    c.isDigit = true := by
  rw [List.eq_of_mem_replicate hc]
  decide

theorem zeroDigit_ne_nil : ['0'] ≠ [] := List.cons_ne_nil '0' []

theorem isDigit_of_mem_zero {c : Char} (hc : c ∈ ['0']) : c.isDigit = true :=
  isDigit_replicate (n := 1) hc

theorem isDigit_padLeft {width : Nat} {ds : List Char} (hds : ∀ c ∈ ds, c.isDigit = true) {c : Char}
    (hc : c ∈ Layout.padLeft width ds) : c.isDigit = true := by
  rcases List.mem_append.mp hc with hZero | hDigit
  · exact isDigit_replicate hZero
  · exact hds c hDigit

theorem ofDigitChars_zeros_append (n : Nat) (ds : List Char) :
    Nat.ofDigitChars 10 (List.replicate n '0' ++ ds) 0 = Nat.ofDigitChars 10 ds 0 := by
  rw [Nat.ofDigitChars_append, Nat.ofDigitChars_replicate_zero, Nat.mul_zero]

theorem ofDigitChars_append_zeros (n : Nat) (ds : List Char) :
    Nat.ofDigitChars 10 (ds ++ List.replicate n '0') 0 = Nat.ofDigitChars 10 ds 0 * 10 ^ n := by
  rw [Nat.ofDigitChars_append, Nat.ofDigitChars_replicate_zero, Nat.mul_comm]

/-- Digits in front of something else are told from it. -/
theorem spanDigits_append {ds rest : List Char} (hds : ∀ c ∈ ds, c.isDigit = true)
    (hRest : ∀ c, rest.head? = some c → c.isDigit = false) :
    spanDigits (ds ++ rest) = (ds, rest) := by
  have hStop : rest.takeWhile Char.isDigit = [] ∧ rest.dropWhile Char.isDigit = rest := by
    cases rest with
    | nil => exact ⟨rfl, rfl⟩
    | cons c rest =>
      have hc : c.isDigit = false := hRest c rfl
      simp [hc]
  rw [spanDigits, List.takeWhile_append_of_pos hds, List.dropWhile_append_of_pos hds, hStop.1,
    hStop.2, List.append_nil]

/-- An exponent is written as a letter, a sign and digits of its size. -/
theorem exists_exponentPart (e : Int) :
    ∃ ds, Layout.exponentPart e = 'e' :: (if e < 0 then '-' else '+') :: ds ∧ ds ≠ [] ∧
      (∀ c ∈ ds, c.isDigit = true) ∧ Nat.ofDigitChars 10 ds 0 = e.natAbs := by
  refine ⟨Layout.padLeft 2 (Nat.toDigits 10 e.natAbs), rfl, ?_, fun c hc => ?_, ?_⟩
  · simp [Layout.padLeft, Nat.toDigits_ne_nil]
  · exact isDigit_padLeft (fun _ => isDigit_toDigits) hc
  · rw [Layout.padLeft, ofDigitChars_zeros_append, Nat.ofDigitChars_ten_toDigits]

theorem signed_natAbs (n : Int) :
    (if decide (n < 0) = true then -(n.natAbs : Int) else n.natAbs) = n := by
  split
  · rename_i hNegative
    have hLess : n < 0 := of_decide_eq_true hNegative
    omega
  · rename_i hNonneg
    have hNotLess : ¬ n < 0 := of_decide_eq_false (Bool.eq_false_iff.mpr hNonneg)
    omega

theorem exponentOf?_exponentPart (e : Int) : exponentOf? (Layout.exponentPart e) = some e := by
  obtain ⟨ds, hPart, hNonempty, hDigits, hSize⟩ := exists_exponentPart e
  have hSign : splitSign ((if e < 0 then '-' else '+') :: ds) = (decide (e < 0), ds) := by
    by_cases hNegative : e < 0
    · simp [splitSign, hNegative]
    · simp [splitSign, hNegative]
  have hAll : ds.all Char.isDigit = true := List.all_eq_true.mpr hDigits
  have hFound : (('e' == 'e' || 'e' == 'E') && !ds.isEmpty && ds.all Char.isDigit) = true := by
    simp [hNonempty, hAll]
  simp only [hPart, exponentOf?, hSign]
  rw [if_pos hFound, hSize, signed_natAbs]

/-! ## Reading a numeral -/

namespace Numeral

variable (n : Numeral)

theorem exponentOf?_exponentChars : exponentOf? n.exponentChars = some (n.exponent.getD 0) := by
  unfold exponentChars
  split
  · rename_i hNone
    rw [hNone]
    rfl
  · rename_i e hSome
    rw [hSome]
    exact exponentOf?_exponentPart e

theorem head?_exponentChars {c : Char} (hc : n.exponentChars.head? = some c) : c = 'e' := by
  unfold exponentChars at hc
  split at hc
  · cases hc
  · exact (Option.some.inj hc).symm

theorem head?_fraction_append {c : Char}
    (hc : (Layout.fraction n.fraction ++ n.exponentChars).head? = some c) : c = '.' ∨ c = 'e' := by
  unfold Layout.fraction at hc
  split at hc
  · exact Or.inr (n.head?_exponentChars hc)
  · exact Or.inl (Option.some.inj hc).symm

theorem exists_digit_head : ∃ c rest, n.chars = c :: rest ∧ c.isDigit = true := by
  obtain ⟨c, cs, hWhole⟩ := List.exists_cons_of_ne_nil n.whole_ne_nil
  refine ⟨c, cs ++ (Layout.fraction n.fraction ++ n.exponentChars), ?_, ?_⟩
  · rw [chars, hWhole, List.cons_append]
  · exact n.isDigit_whole c (hWhole ▸ List.mem_cons_self)

/-- A numeral is written in digits, points, signs and the letter of an exponent. -/
theorem isDigit_or_mark_of_mem {c : Char} (hc : c ∈ n.chars) :
    c.isDigit = true ∨ c ∈ ['.', 'e', '+', '-'] := by
  rcases List.mem_append.mp hc with hWhole | hRest
  · exact Or.inl (n.isDigit_whole c hWhole)
  rcases List.mem_append.mp hRest with hFraction | hExponent
  · unfold Layout.fraction at hFraction
    split at hFraction
    · cases hFraction
    · rcases List.mem_cons.mp hFraction with rfl | hDigit
      · exact Or.inr (by decide)
      · exact Or.inl (n.isDigit_fraction c hDigit)
  · unfold exponentChars at hExponent
    split at hExponent
    · cases hExponent
    · rename_i e _
      obtain ⟨ds, hPart, -, hDigits, -⟩ := exists_exponentPart e
      rw [hPart] at hExponent
      rcases List.mem_cons.mp hExponent with rfl | hSize
      · exact Or.inr (by decide)
      rcases List.mem_cons.mp hSize with rfl | hDigit
      · split
        · exact Or.inr (by decide)
        · exact Or.inr (by decide)
      · exact Or.inl (hDigits c hDigit)

/-- A numeral is read as its decimal. -/
theorem ofText?_chars : Decimal.ofText? n.chars = some n.decimal := by
  have hNotDigit : ∀ c, c = '.' ∨ c = 'e' → c.isDigit = false := by
    rintro c (rfl | rfl) <;> decide
  have hWhole : spanDigits n.chars = (n.whole, Layout.fraction n.fraction ++ n.exponentChars) :=
    spanDigits_append n.isDigit_whole fun c hc => hNotDigit c (n.head?_fraction_append hc)
  have hFraction : spanDigits (n.fraction ++ n.exponentChars) = (n.fraction, n.exponentChars) :=
    spanDigits_append n.isDigit_fraction fun c hc =>
      hNotDigit c (Or.inr (n.head?_exponentChars hc))
  have hNonempty : n.whole.isEmpty = false := by simpa using n.whole_ne_nil
  -- What follows the digits of the whole part is a point, the letter of an exponent, or nothing.
  cases hCases : n.fraction with
  | nil =>
    rw [hCases, Layout.fraction, List.nil_append] at hWhole
    cases hTail : n.exponentChars with
    | nil =>
      have hExponent := n.exponentOf?_exponentChars
      rw [hTail] at hWhole hExponent
      simp [Decimal.ofText?, hWhole, hNonempty, hExponent, decimal, hCases]
    | cons c rest =>
      obtain rfl : c = 'e' := n.head?_exponentChars (by rw [hTail]; rfl)
      have hExponent := n.exponentOf?_exponentChars
      rw [hTail] at hWhole hExponent
      simp [Decimal.ofText?, hWhole, hNonempty, hExponent, decimal, hCases]
  | cons d ds =>
    simp only [hCases, Layout.fraction, List.cons_append] at hWhole hFraction
    simp [Decimal.ofText?, hWhole, hFraction, hNonempty, exponentOf?_exponentChars, decimal, hCases]

end Numeral

/-! ## Texts that are numerals -/

/-- The text is a numeral: a minus sign or none, digits, a point with more digits or none, and an exponent
or none. -/
def IsNumeral (text : String) : Prop :=
  ∃ (s : Bool) (n : Numeral), text = String.ofList (Layout.signed s n.chars)

theorem isNumeral_signed (s : Bool) (n : Numeral) :
    IsNumeral (String.ofList (Layout.signed s n.chars)) := ⟨s, n, rfl⟩

theorem ne_of_isDigit {c d : Char} (hc : c.isDigit = true) (hd : d.isDigit = false) : c ≠ d := by
  rintro rfl
  rw [hc] at hd
  cases hd

/-- The word for an infinity is no numeral. -/
theorem not_isNumeral_infinite (s : Bool) :
    ¬ IsNumeral (String.ofList (Layout.signed s ['i', 'n', 'f'])) := by
  rintro ⟨t, n, hText⟩
  obtain ⟨c, rest, hChars, hDigit⟩ := n.exists_digit_head
  have hLists := String.ofList_injective hText
  rw [hChars] at hLists
  have hMinus : '-' ≠ c := (ne_of_isDigit hDigit (by decide)).symm
  have hLetter : 'i' ≠ c := (ne_of_isDigit hDigit (by decide)).symm
  cases s <;> cases t <;> simp [Layout.signed, hMinus, hLetter] at hLists

theorem not_isNumeral_nan : ¬ IsNumeral "nan" := by
  rintro ⟨t, n, hText⟩
  obtain ⟨c, rest, hChars, hDigit⟩ := n.exists_digit_head
  have hLists := congrArg String.toList hText
  rw [hChars, String.toList_ofList] at hLists
  have hLetter : 'n' ≠ c := (ne_of_isDigit hDigit (by decide)).symm
  cases t <;> simp [Layout.signed, hLetter] at hLists

namespace Binary64

theorem toLower_of_isDigit {c : Char} (hc : c.isDigit = true) : c.toLower = c := by
  have hBound : c.val ≤ '9'.val := by
    simp only [Char.isDigit, Bool.and_eq_true, decide_eq_true_eq] at hc
    exact hc.2
  have hNotUpper : ¬ (c.val ≥ 'A'.val ∧ c.val ≤ 'Z'.val) := by
    rintro ⟨hUpper, -⟩
    have hTooLarge : 'A'.val ≤ '9'.val := UInt32.le_trans hUpper hBound
    exact absurd hTooLarge (by decide)
  exact dif_neg hNotUpper

theorem splitSign_signed {cs : List Char} (s : Bool) {c : Char} {rest : List Char}
    (hHead : cs = c :: rest) (hDigit : c.isDigit = true) :
    splitSign (Layout.signed s cs) = (s, cs) := by
  have hMinus := ne_of_isDigit hDigit (d := '-') (by decide)
  have hPlus := ne_of_isDigit hDigit (d := '+') (by decide)
  subst hHead
  cases s with
  | true => rfl
  | false =>
    unfold splitSign Layout.signed
    split <;> simp_all

/-- A numeral with its sign is read as the binary64 number of its decimal. -/
theorem ofText?_signed (s : Bool) (n : Numeral) :
    ofText? (Layout.signed s n.chars) = some (n.decimal.toBinary64 s) := by
  obtain ⟨c, rest, hChars, hDigit⟩ := n.exists_digit_head
  have hLower : (n.chars.map Char.toLower).head? = some c := by
    simp [hChars, toLower_of_isDigit hDigit]
  unfold ofText?
  rw [splitSign_signed s hChars hDigit]
  dsimp only
  -- The words that are tried first start with letters.
  have hNotWord {word : String} {d : Char} (hWord : word.toList.head? = some d)
      (hLetter : d.isDigit = false) : String.ofList (n.chars.map Char.toLower) ≠ word := by
    rintro rfl
    rw [String.toList_ofList, hLower] at hWord
    cases hWord
    rw [hDigit] at hLetter
    cases hLetter
  split
  · rename_i hWord
    exact absurd hWord (hNotWord rfl (by decide))
  · rename_i hWord
    exact absurd hWord (hNotWord rfl (by decide))
  · rename_i hWord
    exact absurd hWord (hNotWord rfl (by decide))
  · rw [n.ofText?_chars, Option.map_some]

end Binary64

end UnitConversion
