import UnitConversion.Json.Reader
import UnitConversion.Proofs.Json.Strings
import UnitConversion.Proofs.Rendering.Numerals

/-!
# JSON numbers round trip

A reader of JSON takes a numeral apart as it was put together, if nothing follows that could belong to the
numeral. A numeral with a point or an exponent is read as the binary64 number of its decimal, and any other
as an integer.

* `EndsNumber`: what may follow a number.
* `scanNumber_of_isReal`, `scanNumber_of_integer`: numerals are read.
* `scanAtom_signed`: what a text with a sign is read as.
* `scanAtom_float`, `scanAtom_int`: the texts of numbers are read as these numbers.
-/

namespace UnitConversion.Json

/-- Nothing at the start of the text belongs to a number before it. -/
def EndsNumber (rest : Text) : Prop :=
  ∀ c, rest.head? = some (.char c) → c.isDigit = false ∧ c ≠ '.' ∧ c ≠ 'e' ∧ c ≠ 'E'

theorem endsNumber_cons {c : Char} (hc : c.isDigit = false ∧ c ≠ '.' ∧ c ≠ 'e' ∧ c ≠ 'E')
    (rest : Text) : EndsNumber (.char c :: rest) := by
  intro d hd
  cases hd
  exact hc

/-! ## Digits -/

/-- No digit stands at the start of the text. -/
def EndsDigits (rest : Text) : Prop := ∀ c, rest.head? = some (.char c) → c.isDigit = false

theorem scanDigits_of_endsDigits {rest : Text} (hRest : EndsDigits rest) :
    scanDigits rest = ([], rest) := by
  unfold scanDigits
  split
  · rename_i c rest'
    have hc : c.isDigit = false := hRest c rfl
    simp [hc]
  · rfl

theorem scanDigits_append {ds : List Char} (hDigits : ∀ c ∈ ds, c.isDigit = true) {rest : Text}
    (hRest : EndsDigits rest) : scanDigits (Text.ofChars ds ++ rest) = (ds, rest) := by
  induction ds with
  | nil => exact scanDigits_of_endsDigits hRest
  | cons c ds ih =>
    have hc : c.isDigit = true := hDigits c List.mem_cons_self
    have hRec := ih fun d hd => hDigits d (List.mem_cons_of_mem c hd)
    simp only [Text.ofChars, List.map_cons, List.cons_append, scanDigits, hc, if_true] at hRec ⊢
    rw [hRec]

/-- A whole part without superfluous zeros is read up to its end. -/
theorem scanWhole_append {ds : List Char} (hNonempty : ds ≠ [])
    (hDigits : ∀ c ∈ ds, c.isDigit = true) (hTrim : ds.head? = some '0' → ds = ['0']) {rest : Text}
    (hRest : EndsDigits rest) : scanWhole (Text.ofChars ds ++ rest) = some (ds, rest) := by
  obtain ⟨c, cs, rfl⟩ := List.exists_cons_of_ne_nil hNonempty
  by_cases hZero : c = '0'
  · subst hZero
    rw [hTrim rfl]
    rfl
  · have hScan := scanDigits_append hDigits hRest
    have hNotZero : CodePoint.char c ≠ .char '0' := fun hEq => hZero (CodePoint.char.inj hEq)
    rw [scanWhole]
    · rw [hScan]
    · intro rest' hEq
      exact absurd (List.cons.inj hEq).1 hNotZero

theorem scanFraction_append {frac : List Char} (hNonempty : frac ≠ [])
    (hDigits : ∀ c ∈ frac, c.isDigit = true) {rest : Text} (hRest : EndsDigits rest) :
    scanFraction (Text.ofChars (Layout.fraction frac) ++ rest) = (some frac, rest) := by
  have hScan := scanDigits_append hDigits hRest
  obtain ⟨c, cs, rfl⟩ := List.exists_cons_of_ne_nil hNonempty
  rw [fraction_of_ne_nil hNonempty]
  simp only [Text.ofChars, List.map_cons, List.cons_append, scanFraction] at hScan ⊢
  rw [hScan]

theorem scanFraction_none {rest : Text} (hRest : ∀ rest', rest ≠ .char '.' :: rest') :
    scanFraction rest = (none, rest) := by
  unfold scanFraction
  split
  · rename_i rest'
    exact absurd rfl (hRest rest')
  · rfl

theorem scanExponent_none {rest : Text}
    (hRest : ∀ c, rest.head? = some (.char c) → c ≠ 'e' ∧ c ≠ 'E') :
    scanExponent rest = (none, rest) := by
  cases rest with
  | nil => rfl
  | cons p rest =>
    have hLetter : ¬ (p = .char 'e' ∨ p = .char 'E') := by
      rintro (rfl | rfl)
      · exact (hRest 'e' rfl).1 rfl
      · exact (hRest 'E' rfl).2 rfl
    rw [scanExponent, if_neg hLetter]

/-- The exponent of a numeral is read up to its end. -/
theorem scanExponent_exponentPart (e : Int) {rest : Text} (hRest : EndsDigits rest) :
    scanExponent (Text.ofChars (Layout.exponentPart e) ++ rest) = (some e, rest) := by
  obtain ⟨ds, hPart, hNonempty, hDigits, hSize⟩ := exists_exponentPart e
  have hSign : scanSign (.char (if e < 0 then '-' else '+') :: (Text.ofChars ds ++ rest)) =
      (decide (e < 0), Text.ofChars ds ++ rest) := by
    by_cases hNegative : e < 0
    · simp [scanSign, hNegative]
    · simp [scanSign, hNegative]
  have hScan := scanDigits_append hDigits hRest
  obtain ⟨c, cs, rfl⟩ := List.exists_cons_of_ne_nil hNonempty
  rw [hPart]
  simp only [Text.ofChars, List.map_cons, List.cons_append, scanExponent, true_or, if_true] at hSign hScan ⊢
  rw [hSign]
  dsimp only
  rw [hScan]
  dsimp only
  rw [hSize, signed_natAbs]

/-! ## Numbers -/

section Numeral

variable {n : Numeral} (hTrim : n.IsTrim) {rest : Text} (hRest : EndsNumber rest)

include hRest

theorem endsDigits_of_endsNumber : EndsDigits rest := fun c hc => (hRest c hc).1

theorem scanExponent_exponentChars :
    scanExponent (Text.ofChars n.exponentChars ++ rest) = (n.exponent, rest) := by
  unfold Numeral.exponentChars
  cases n.exponent with
  | none => exact scanExponent_none fun c hc => (hRest c hc).2.2
  | some e => exact scanExponent_exponentPart e (endsDigits_of_endsNumber hRest)

/-- What follows the digits of a numeral is an exponent or the rest of the text. -/
theorem head?_exponentChars_append {c : Char}
    (hc : (Text.ofChars n.exponentChars ++ rest).head? = some (.char c)) :
    c.isDigit = false ∧ c ≠ '.' := by
  cases hCases : n.exponentChars with
  | nil =>
    rw [hCases] at hc
    exact ⟨(hRest c hc).1, (hRest c hc).2.1⟩
  | cons d ds =>
    obtain rfl : d = 'e' := n.head?_exponentChars (by rw [hCases]; rfl)
    rw [hCases] at hc
    cases hc
    decide

theorem scanFraction_fraction_append :
    scanFraction (Text.ofChars (Layout.fraction n.fraction ++ n.exponentChars) ++ rest) =
      (if n.fraction = [] then none else some n.fraction, Text.ofChars n.exponentChars ++ rest) := by
  have hEnds : EndsDigits (Text.ofChars n.exponentChars ++ rest) :=
    fun c hc => (head?_exponentChars_append hRest hc).1
  rw [ofChars_append, List.append_assoc]
  split
  · rename_i hEmpty
    rw [hEmpty]
    refine scanFraction_none fun rest' hPoint => ?_
    have hHead : (Text.ofChars n.exponentChars ++ rest).head? = some (.char '.') := by
      rw [show Text.ofChars n.exponentChars ++ rest = .char '.' :: rest' from hPoint]
      rfl
    exact (head?_exponentChars_append hRest hHead).2 rfl
  · rename_i hNonempty
    exact scanFraction_append hNonempty n.isDigit_fraction hEnds

include hTrim

theorem scanWhole_chars :
    scanWhole (Text.ofChars n.chars ++ rest) =
      some (n.whole,
        Text.ofChars (Layout.fraction n.fraction ++ n.exponentChars) ++ rest) := by
  have hEnds : EndsDigits
      (Text.ofChars (Layout.fraction n.fraction ++ n.exponentChars) ++ rest) := by
    intro c hc
    cases hCases : n.fraction with
    | nil =>
      rw [hCases] at hc
      exact (head?_exponentChars_append hRest hc).1
    | cons d ds =>
      rw [hCases] at hc
      cases hc
      decide
  rw [Numeral.chars, ofChars_append, List.append_assoc]
  exact scanWhole_append n.whole_ne_nil n.isDigit_whole hTrim hEnds

/-- A numeral with a point or an exponent is read as the binary64 number of its decimal. -/
theorem scanNumber_of_isReal (hReal : n.IsReal) (negative : Bool) :
    scanNumber negative (Text.ofChars n.chars ++ rest) =
      some (.float (n.decimal.toBinary64 negative), rest) := by
  have hNotInteger : n.fraction = [] → ¬ n.exponent = none := by
    intro hEmpty hNone
    rcases hReal with hFraction | hExponent
    · exact hFraction hEmpty
    · exact hExponent hNone
  have hFraction : (if n.fraction = [] then none else some n.fraction).getD [] = n.fraction := by
    split
    · rename_i hEmpty
      exact hEmpty.symm
    · rfl
  simpa [scanNumber, scanWhole_chars hTrim hRest, scanFraction_fraction_append hRest,
    scanExponent_exponentChars hRest, hFraction, Numeral.decimal] using hNotInteger

/-- Digits by themselves are read as an integer. -/
theorem scanNumber_of_integer (hFraction : n.fraction = []) (hExponent : n.exponent = none)
    (hLength : n.whole.length ≤ integerDigitLimit) (negative : Bool) :
    scanNumber negative (Text.ofChars n.chars ++ rest) =
      some (.int (if negative then -(Nat.ofDigitChars 10 n.whole 0 : Int)
        else Nat.ofDigitChars 10 n.whole 0), rest) := by
  have hFew : ¬ n.whole.length > integerDigitLimit := Nat.not_lt.mpr hLength
  have hScan := scanFraction_fraction_append (n := n) hRest
  have hScanExponent := scanExponent_exponentChars (n := n) hRest
  rw [if_pos hFraction] at hScan
  rw [hExponent] at hScanExponent
  simp [scanNumber, scanWhole_chars hTrim hRest, hScan, hScanExponent, hFew]

end Numeral

/-- A number with its sign is read as the number behind the sign. -/
theorem scanAtom_signed (words : Bool) (s : Bool) {n : Numeral} {rest : Text} {r : Json × Text}
    (hScan : scanNumber s (Text.ofChars n.chars ++ rest) = some r) :
    scanAtom words (Text.ofChars (Layout.signed s n.chars) ++ rest) = some r := by
  cases s with
  | true =>
    simp only [Layout.signed, if_true, Text.ofChars, List.map_cons, List.cons_append, scanAtom]
      at hScan ⊢
    rw [hScan]
    rfl
  | false =>
    obtain ⟨c, cs, hChars, hDigit⟩ := n.exists_digit_head
    have hQuote := ne_of_isDigit hDigit (d := '"') (by decide)
    have hMinus := ne_of_isDigit hDigit (d := '-') (by decide)
    simp only [Layout.signed, Bool.false_eq_true, if_false, hChars, Text.ofChars, List.map_cons,
      List.cons_append] at hScan ⊢
    rw [scanAtom]
    · rw [hScan]
      rfl
    · intro rest' hEq
      exact hQuote (CodePoint.char.inj (List.cons.inj hEq).1)
    · intro rest' hEq
      exact hMinus (CodePoint.char.inj (List.cons.inj hEq).1)

/-- The text of a finite number is read as that number. -/
theorem scanAtom_float (words : Bool) (s : Bool) (m : Magnitude) {rest : Text}
    (hRest : EndsNumber rest) :
    scanAtom words (Text.ofChars (numberText (.finite s m)) ++ rest) =
      some (.float (.finite s m), rest) := by
  have hScan := scanNumber_of_isReal m.isTrim_shortestNumeral hRest m.isReal_shortestNumeral s
  rw [m.shortestNumeral_toBinary64] at hScan
  rw [numberText, ← m.chars_shortestNumeral]
  exact scanAtom_signed words s hScan

/-- The numeral of a natural number. -/
def natNumeral (n : Nat) : Numeral where
  whole := Nat.toDigits 10 n
  fraction := []
  exponent := none
  whole_ne_nil := Nat.toDigits_ne_nil
  isDigit_whole := fun _ => isDigit_toDigits
  isDigit_fraction := by simp

theorem chars_natNumeral (n : Nat) : (natNumeral n).chars = Nat.toDigits 10 n := by
  simp [Numeral.chars, Numeral.exponentChars, natNumeral, Layout.fraction]

theorem isTrim_natNumeral (n : Nat) : (natNumeral n).IsTrim := by
  intro hZero
  by_cases hn : n = 0
  · subst hn
    rfl
  · exact absurd hZero (head?_toDigits hn)

theorem length_toDigits_le {n k : Nat} (hk : 0 < k) (hn : n < 10 ^ k) :
    (Nat.toDigits 10 n).length ≤ k := (digitCount_le_iff hk).mpr hn

/-- The text of an integer of few digits is read as that integer. -/
theorem scanAtom_int (words : Bool) {n : Int} (hn : n.natAbs < 10 ^ integerDigitLimit) {rest : Text}
    (hRest : EndsNumber rest) :
    scanAtom words (Text.ofChars (integerText n) ++ rest) = some (.int n, rest) := by
  have hLength : (natNumeral n.natAbs).whole.length ≤ integerDigitLimit :=
    length_toDigits_le (by decide) hn
  have hScan := scanNumber_of_integer (isTrim_natNumeral n.natAbs) hRest rfl rfl hLength
    (decide (n < 0))
  have hSize : Nat.ofDigitChars 10 (natNumeral n.natAbs).whole 0 = n.natAbs :=
    Nat.ofDigitChars_ten_toDigits
  rw [hSize, signed_natAbs] at hScan
  rw [integerText, ← chars_natNumeral]
  exact scanAtom_signed words _ hScan

end UnitConversion.Json
