import UnitConversion.Proofs.Decimal.Layout
import UnitConversion.Proofs.Rendering.Precision

/-!
# Renderings that are numerals

In every form a finite number is written as a numeral, and any other number as a word. Significant
figures are the one form that does not write the number itself but one that was rounded before: a finite
number can be rounded up to an infinite one, and then the text is a word (`Precision.RoundsBeyond`).

* `Binary64.ofText?_shortest`: the shortest text of a finite number is read as that number.
* `isNumeral_renderWith_iff`: the text of a number is a numeral exactly when the number is finite.
* `Binary64.isNumeral_format_iff`: in which precisions a finite number is written as a numeral.
-/

namespace UnitConversion

variable {platform : Platform}

/-! ## The numerals of the four forms -/

namespace Numeral

/-- The numeral with a point or an exponent, so that it differs from an integer. -/
def withPoint (n : Numeral) : Numeral :=
  if n.fraction = [] ∧ n.exponent = none then
    { n with fraction := ['0'], isDigit_fraction := fun _ => isDigit_of_mem_zero }
  else n

variable (n : Numeral)

theorem all_isDigit_chars_iff :
    n.chars.all Char.isDigit = true ↔ n.fraction = [] ∧ n.exponent = none := by
  constructor
  · intro hAll
    have hDigit : ∀ c ∈ n.chars, c.isDigit = true := List.all_eq_true.mp hAll
    constructor
    · by_contra hFraction
      have hPoint : '.' ∈ n.chars := by
        simp [chars, fraction_of_ne_nil hFraction]
      exact absurd (hDigit '.' hPoint) (by decide)
    · cases hExponent : n.exponent with
      | none => rfl
      | some e =>
        have hLetter : 'e' ∈ n.chars := by
          simp [chars, exponentChars, hExponent, Layout.exponentPart]
        exact absurd (hDigit 'e' hLetter) (by decide)
  · rintro ⟨hFraction, hExponent⟩
    have hChars : n.chars = n.whole := by
      simp [chars, exponentChars, hFraction, hExponent, Layout.fraction]
    rw [hChars]
    exact List.all_eq_true.mpr n.isDigit_whole

theorem chars_withPoint :
    n.withPoint.chars =
      if n.chars.all Char.isDigit then n.chars ++ ['.', '0'] else n.chars := by
  unfold withPoint
  by_cases hInteger : n.fraction = [] ∧ n.exponent = none
  · rw [if_pos hInteger, if_pos (n.all_isDigit_chars_iff.mpr hInteger)]
    simp [chars, exponentChars, hInteger.1, hInteger.2, Layout.fraction]
  · rw [if_neg hInteger, if_neg fun hAll => hInteger (n.all_isDigit_chars_iff.mp hAll)]

theorem value_withPoint : n.withPoint.decimal.value = n.decimal.value := by
  unfold withPoint
  split
  · rename_i hInteger
    rw [value_decimal, value_decimal]
    dsimp only
    have hZero := ofDigitChars_append_zeros 1 n.whole
    rw [List.replicate_one, Nat.pow_one] at hZero
    rw [hZero, hInteger.1, hInteger.2, List.append_nil]
    simp
  · rfl

theorem isTrim_withPoint (hTrim : n.IsTrim) : n.withPoint.IsTrim := by
  unfold withPoint
  split
  · exact hTrim
  · exact hTrim

/-- The numeral has a point or an exponent. -/
def IsReal : Prop := n.fraction ≠ [] ∨ n.exponent ≠ none

theorem isReal_withPoint : n.withPoint.IsReal := by
  unfold withPoint
  split
  · exact Or.inl (by simp)
  · rename_i hNotInteger
    exact Classical.not_and_iff_not_or_not.mp hNotInteger

end Numeral

namespace Magnitude

variable (m : Magnitude)

theorem exists_fixedText (platform : Platform) (places : Nat) :
    ∃ n : Numeral, n.chars = m.fixedText platform places :=
  ⟨_, Numeral.chars_fixed _ _⟩

theorem exists_scientificText (places : Nat) : ∃ n : Numeral, n.chars = m.scientificText places := by
  unfold scientificText
  split
  · exact ⟨_, Numeral.chars_scientific _ _ (by simp) fun _ => isDigit_replicate⟩
  · exact ⟨_, Numeral.chars_scientific _ _ Nat.toDigits_ne_nil fun _ => isDigit_toDigits⟩

theorem forall_mem_nil_isDigit : ∀ c ∈ ([] : List Char), c.isDigit = true := fun _ hc =>
  absurd hc List.not_mem_nil

/-- The numeral of zero. -/
def zeroNumeral (fraction : List Char) (hDigits : ∀ c ∈ fraction, c.isDigit = true) : Numeral where
  whole := ['0']
  fraction := fraction
  exponent := none
  whole_ne_nil := zeroDigit_ne_nil
  isDigit_whole := fun _ => isDigit_of_mem_zero
  isDigit_fraction := hDigits

/-- The numeral of the magnitude rounded to fifteen significant digits. -/
def generalNumeral : Numeral :=
  if m.units = 0 then zeroNumeral [] forall_mem_nil_isDigit
  else .general (.significant m.units oneUnits 15) 15

theorem chars_generalNumeral : m.generalNumeral.chars = m.generalText := by
  unfold generalNumeral generalText
  split
  · rfl
  · exact Numeral.chars_general _ _

theorem exists_generalText : ∃ n : Numeral, n.chars = m.generalText := ⟨_, m.chars_generalNumeral⟩

/-- The numeral that the shortest text is. -/
def shortestNumeral : Numeral :=
  if m.units = 0 then zeroNumeral ['0'] fun _ => isDigit_of_mem_zero
  else (Numeral.general m.shortest 16).withPoint

theorem chars_shortestNumeral : m.shortestNumeral.chars = m.shortestText := by
  unfold shortestNumeral shortestText
  split
  · rfl
  · rw [Numeral.chars_withPoint, Numeral.chars_general]

/-- The shortest text denotes a decimal that reads back. -/
theorem shortestNumeral_toBinary64 (s : Bool) :
    m.shortestNumeral.decimal.toBinary64 s = .finite s m := by
  unfold shortestNumeral
  split
  · rename_i hZero
    obtain rfl : m = .zero := ext_units hZero
    rfl
  · rw [← m.shortest_toBinary64 s]
    exact Decimal.toBinary64_congr ((Numeral.value_withPoint _).trans (Numeral.value_general _ _)) s

theorem shortest_coefficient_ne_zero {m : Magnitude} (hNonzero : m.units ≠ 0) :
    m.shortest.coefficient ≠ 0 := by
  intro hZero
  have hRead := m.shortest_toBinary64 false
  rw [Decimal.toBinary64, if_pos hZero] at hRead
  obtain rfl : Magnitude.zero = m := (Binary64.finite.inj hRead).2
  exact hNonzero rfl

theorem isTrim_shortestNumeral : m.shortestNumeral.IsTrim := by
  unfold shortestNumeral
  split
  · intro _
    rfl
  · rename_i hNonzero
    exact Numeral.isTrim_withPoint _ (Numeral.isTrim_general (shortest_coefficient_ne_zero hNonzero) _)

theorem isReal_shortestNumeral : m.shortestNumeral.IsReal := by
  unfold shortestNumeral
  split
  · exact Or.inl (by simp [zeroNumeral])
  · exact Numeral.isReal_withPoint _

end Magnitude

namespace Binary64

theorem toList_shortest (s : Bool) (m : Magnitude) :
    (finite s m).shortest.toList = Layout.signed s m.shortestNumeral.chars := by
  rw [Magnitude.chars_shortestNumeral]
  exact String.toList_ofList

/-- The shortest text of a finite number is read as that number. -/
theorem ofText?_shortest (s : Bool) (m : Magnitude) :
    ofText? (finite s m).shortest.toList = some (.finite s m) := by
  rw [toList_shortest, ofText?_signed, Magnitude.shortestNumeral_toBinary64]

/-! ## Texts of numbers -/

/-- In a form that writes magnitudes as numerals, the text of a number is a numeral exactly when the
number is finite. -/
theorem isNumeral_renderWith_iff {render : Magnitude → List Char}
    (hRender : ∀ m, ∃ n : Numeral, n.chars = render m) (x : Binary64) :
    IsNumeral (x.renderWith render) ↔ x.isFinite = true := by
  cases x with
  | nan => exact iff_of_false not_isNumeral_nan (by simp [isFinite])
  | infinite s => exact iff_of_false (not_isNumeral_infinite s) (by simp [isFinite])
  | finite s m =>
    obtain ⟨n, hn⟩ := hRender m
    refine iff_of_true ?_ rfl
    rw [renderWith, ← hn]
    exact isNumeral_signed s n

theorem isNumeral_fixed_iff (places : Nat) (x : Binary64) :
    IsNumeral (x.fixed platform places) ↔ x.isFinite = true :=
  isNumeral_renderWith_iff (fun m => m.exists_fixedText platform places) x

theorem isNumeral_general_iff (x : Binary64) : IsNumeral x.general ↔ x.isFinite = true :=
  isNumeral_renderWith_iff (fun m => m.exists_generalText) x

end Binary64

theorem isNumeral_zeroFigures {count : Nat} {text : String} (hText : zeroFigures platform count = .ok text) :
    IsNumeral text := by
  unfold zeroFigures at hText
  split at hText
  · cases hText
  · split at hText
    · cases hText
    · cases hText
      rw [← Numeral.chars_fixed]
      exact isNumeral_signed false _

/-! ## Significant figures -/

/-- In so many significant figures the magnitude is rounded up beyond the binary64 numbers: its shortest
decimal, rounded, reaches the middle between the largest magnitude and `2 ^ 1024`. -/
def Magnitude.RoundsBeyond (platform : Platform) (m : Magnitude) (count : Nat) : Prop :=
  2 ^ 1024 - 2 ^ 970 ≤ (m.shortest.roundHalfUp (platform.logFloor m - count + 1)).value

/-- The precision asks for so few significant figures that the number is rounded up beyond the binary64
numbers. -/
def Precision.RoundsBeyond (platform : Platform) (p : Precision) (x : Binary64) : Prop :=
  p.decimals = none ∧ ∃ count, p.figures = some count ∧
    ∃ s m, x = .finite s m ∧ m.units ≠ 0 ∧ m.RoundsBeyond platform count.toNat

namespace Magnitude

variable {m : Magnitude} {count : Nat} {negative : Bool} {text : String}

/-- The figures of a positive magnitude are those of the rounded decimal, read as a number. -/
theorem significant_eq_render (hText : m.significant platform negative count = .ok text) :
    ∃ render : Magnitude → List Char, (∀ m, ∃ n : Numeral, n.chars = render m) ∧
      text = ((m.shortest.roundHalfUp (platform.logFloor m - count + 1)).toBinary64 negative).renderWith
        render := by
  unfold significant at hText
  dsimp only at hText
  generalize (m.shortest.roundHalfUp (platform.logFloor m - count + 1)).toBinary64 negative = value at *
  generalize (m.shortest.roundHalfUp (platform.logFloor m - count + 1)).leading = leading at *
  split at hText
  · cases hText
  · split at hText
    · exact ⟨_, fun m => m.exists_fixedText platform _, (Except.ok.inj hText).symm⟩
    · exact ⟨_, fun m => m.exists_scientificText _, (Except.ok.inj hText).symm⟩

theorem isNumeral_significant_iff (hText : m.significant platform negative count = .ok text) :
    IsNumeral text ↔ ¬ m.RoundsBeyond platform count := by
  obtain ⟨render, hRender, hEq⟩ := significant_eq_render hText
  rw [hEq, Binary64.isNumeral_renderWith_iff hRender, Decimal.isFinite_toBinary64_iff, RoundsBeyond,
    not_le]

theorem significant_of_roundsBeyond (hText : m.significant platform negative count = .ok text)
    (hBeyond : m.RoundsBeyond platform count) :
    text = String.ofList (Layout.signed negative ['i', 'n', 'f']) := by
  obtain ⟨render, -, hEq⟩ := significant_eq_render hText
  rw [hEq, Decimal.toBinary64_eq_infinite hBeyond, Binary64.renderWith]

end Magnitude

namespace Binary64

variable {s : Bool} {m : Magnitude} {p : Precision} {text : String}

theorem roundsBeyond_finite_iff :
    p.RoundsBeyond platform (finite s m) ↔ p.decimals = none ∧ ∃ count, p.figures = some count ∧
      m.units ≠ 0 ∧ m.RoundsBeyond platform count.toNat := by
  constructor
  · rintro ⟨hNone, count, hCount, _, _, hEq, hBeyond⟩
    cases hEq
    exact ⟨hNone, count, hCount, hBeyond⟩
  · rintro ⟨hNone, count, hCount, hBeyond⟩
    exact ⟨hNone, count, hCount, s, m, rfl, hBeyond⟩

/-- A text that is not made of the significant figures of a positive magnitude writes the number itself. -/
theorem isNumeral_or_significant (hText : (finite s m).format platform p = .ok text) :
    (IsNumeral text ∧ ¬ p.RoundsBeyond platform (finite s m)) ∨
      ∃ count, p.decimals = none ∧ p.figures = some count ∧ m.units ≠ 0 ∧
        m.significant platform s count.toNat = .ok text := by
  rw [roundsBeyond_finite_iff]
  obtain ⟨decimals, figures⟩ := p
  cases decimals with
  | some places =>
    refine Or.inl ⟨?_, by simp⟩
    simp only [format] at hText
    -- Each of the four limits on decimals is an error.
    split at hText
    · cases hText
    · split at hText
      · cases hText
      · split at hText
        · cases hText
        · split at hText
          · cases hText
          · rw [← Except.ok.inj hText]
            exact (isNumeral_fixed_iff _ _).mpr rfl
  | none =>
    cases figures with
    | none =>
      refine Or.inl ⟨?_, by simp⟩
      rw [← Except.ok.inj hText]
      exact (isNumeral_general_iff _).mpr rfl
    | some count =>
      simp only [format] at hText
      split at hText
      · cases hText
      · simp only [significant] at hText
        split at hText
        · rename_i hZero
          exact Or.inl ⟨isNumeral_zeroFigures hText, by simp [hZero]⟩
        · rename_i hNonzero
          exact Or.inr ⟨count, rfl, rfl, hNonzero, hText⟩

/-- **Finite numbers that are written as numerals.** A finite number is written as a numeral in every
precision but those that round it up beyond the binary64 numbers, and in these as an infinity. -/
theorem isNumeral_format_iff {x : Binary64} (hFinite : x.isFinite = true)
    (hText : x.format platform p = .ok text) :
    (IsNumeral text ↔ ¬ p.RoundsBeyond platform x) ∧
      (p.RoundsBeyond platform x → ∃ s, text = String.ofList (Layout.signed s ['i', 'n', 'f'])) := by
  cases x with
  | nan => cases hFinite
  | infinite s => cases hFinite
  | finite s m =>
    rcases isNumeral_or_significant hText with
      ⟨hNumeral, hWithin⟩ | ⟨count, hNone, hCount, hNonzero, hFigures⟩
    · exact ⟨iff_of_true hNumeral hWithin, fun hBeyond => absurd hBeyond hWithin⟩
    · have hBeyondIff : p.RoundsBeyond platform (finite s m) ↔ m.RoundsBeyond platform count.toNat := by
        rw [roundsBeyond_finite_iff]
        simp [hNone, hCount, hNonzero]
      rw [hBeyondIff]
      exact ⟨Magnitude.isNumeral_significant_iff hFigures, fun hBeyond =>
        ⟨s, Magnitude.significant_of_roundsBeyond hFigures hBeyond⟩⟩

end Binary64

end UnitConversion
