import UnitConversion.Proofs.Rendering.Rounded

/-!
# The layout of significant figures

Significant figures are laid out by the number that they denote: a numeral with as many significant digits as
asked for, with the point in place if the exponent of the number lies from -4 up to the number of figures, and
otherwise with one digit before the point and an exponent. The digits are counted from the rounded decimal, so
this needs the printed number to have the leading digit of that decimal. The exception is a magnitude that
falls short of a power of ten; it is printed with one figure less, or with an exponent that it should not have.

* `Numeral.length_significantDigits`: the significant digits are those of the coefficient.
* `LaidOut`: the texts that are laid out by the number they denote.
* `Binary64.laidOut_figures_iff`: which significant figures are.
-/

namespace UnitConversion

variable {platform : Platform}

/-! ## Digits that count -/

/-- The first digit counts as many powers of ten as there are digits behind it. -/
theorem ofDigitChars_cons_eq (c : Char) (cs : List Char) :
    Nat.ofDigitChars 10 (c :: cs) 0 = 10 ^ cs.length * (c.toNat - '0'.toNat) + Nat.ofDigitChars 10 cs 0 := by
  rw [Nat.ofDigitChars_cons, Nat.ofDigitChars_eq_ofDigitChars_zero, Nat.mul_zero, Nat.zero_add]

theorem ofDigitChars_lt {ds : List Char} (hDigits : ∀ c ∈ ds, c.isDigit = true) :
    Nat.ofDigitChars 10 ds 0 < 10 ^ ds.length := by
  induction ds with
  | nil => decide
  | cons c cs ih =>
    obtain ⟨hFirst, hRest⟩ := List.forall_mem_cons.mp hDigits
    have hDigit : c.toNat - '0'.toNat ≤ 9 := by
      simp only [Char.isDigit, Bool.and_eq_true, decide_eq_true_eq] at hFirst
      have hNine : c.toNat ≤ '9'.toNat := hFirst.2
      have hValues : '9'.toNat = 57 ∧ '0'.toNat = 48 := by decide
      omega
    have hLess := ih hRest
    rw [ofDigitChars_cons_eq, List.length_cons, Nat.pow_succ]
    have hProduct := Nat.mul_le_mul_left (10 ^ cs.length) hDigit
    omega

theorem length_dropWhile_zeros {ds : List Char} (hDigits : ∀ c ∈ ds, c.isDigit = true)
    (hNonzero : Nat.ofDigitChars 10 ds 0 ≠ 0) :
    (ds.dropWhile (· == '0')).length = digitCount (Nat.ofDigitChars 10 ds 0) := by
  induction ds with
  | nil => exact absurd rfl hNonzero
  | cons c cs ih =>
    obtain ⟨hFirst, hRest⟩ := List.forall_mem_cons.mp hDigits
    by_cases hZero : c = '0'
    · subst hZero
      have hSame : Nat.ofDigitChars 10 ('0' :: cs) 0 = Nat.ofDigitChars 10 cs 0 :=
        ofDigitChars_zeros_append 1 cs
      rw [hSame] at hNonzero ⊢
      rw [List.dropWhile_cons_of_pos (by decide)]
      exact ih hRest hNonzero
    · have hMost := ofDigitChars_lt hDigits
      have hLeast : 10 ^ cs.length ≤ Nat.ofDigitChars 10 (c :: cs) 0 := by
        rw [ofDigitChars_cons_eq]
        have hDigit : 1 ≤ c.toNat - '0'.toNat := by
          simp only [Char.isDigit, Bool.and_eq_true, decide_eq_true_eq] at hFirst
          have hLow : '0'.toNat ≤ c.toNat := hFirst.1
          have hOther : c.toNat ≠ '0'.toNat := fun hEq => hZero (Char.toNat_inj.mp hEq)
          omega
        have hProduct := Nat.mul_le_mul_left (10 ^ cs.length) hDigit
        omega
      rw [List.dropWhile_cons_of_neg (by simpa using hZero)]
      exact (digitCount_eq hLeast hMost).symm

namespace Numeral

/-- The significant digits, from the first that is not a zero on. -/
def significantDigits (n : Numeral) : List Char := (n.whole ++ n.fraction).dropWhile (· == '0')

/-- The significant digits are as many as the decimal has. -/
theorem length_significantDigits {n : Numeral} {e : Int} (hDecade : InDecade n.decimal.value e) :
    (n.significantDigits.length : Int) = e - n.decimal.exponent + 1 := by
  have hNonzero : Nat.ofDigitChars 10 (n.whole ++ n.fraction) 0 ≠ 0 := by
    intro hZero
    have hPositive := hDecade.pos
    rw [Decimal.coefficient_eq_zero_iff.mp hZero] at hPositive
    exact lt_irrefl _ hPositive
  have hDigits : ∀ c ∈ n.whole ++ n.fraction, c.isDigit = true := fun c hc =>
    (List.mem_append.mp hc).elim (n.isDigit_whole c) (n.isDigit_fraction c)
  have hLeading := Decimal.leading_eq hDecade
  unfold Decimal.leading at hLeading
  rw [significantDigits, length_dropWhile_zeros hDigits hNonzero]
  rw [← hLeading]
  show (digitCount n.decimal.coefficient : Int) = _
  omega

theorem mem_chars_iff (n : Numeral) : 'e' ∈ n.chars ↔ n.exponent ≠ none := by
  have hNoDigit {ds : List Char} (hDigits : ∀ c ∈ ds, c.isDigit = true) : 'e' ∉ ds := fun hMem =>
    absurd (hDigits 'e' hMem) (by decide)
  have hFraction : 'e' ∉ Layout.fraction n.fraction := by
    unfold Layout.fraction
    split
    · simp
    · rename_i hCases
      rw [List.mem_cons, not_or]
      exact ⟨by decide, hNoDigit n.isDigit_fraction⟩
  rw [chars, List.mem_append, List.mem_append, or_iff_right (hNoDigit n.isDigit_whole), or_iff_right hFraction]
  unfold exponentChars
  split
  · rename_i hNone
    simp [hNone]
  · rename_i e hSome
    simp [hSome, Layout.exponentPart]

/-! ## Laid-out numerals -/

/-- One digit before the point, and the exponent with a sign and at least two digits. -/
def IsScientific (n : Numeral) (e : Int) : Prop :=
  n.whole.length = 1 ∧ ∃ digits, n.exponentChars = 'e' :: (if e < 0 then '-' else '+') :: digits ∧
    2 ≤ digits.length ∧ Nat.ofDigitChars 10 digits 0 = e.natAbs

/-- The numeral has so many significant digits, and an exponent exactly if that of the number which it denotes
lies outside of the range from -4 up to the number of digits. -/
structure IsLaidOut (n : Numeral) (count : Nat) (e : Int) : Prop where
  digits : n.significantDigits.length = count
  decade : InDecade n.decimal.value e
  point : -4 ≤ e → e < count → n.exponent = none
  scientific : ¬ (-4 ≤ e ∧ e < count) → n.IsScientific e

variable {n : Numeral} {x : Magnitude} {count : Nat} {e : Int}

theorem isScientific_scientific {ds : List Char} (leading : Int) (hNonempty : ds ≠ [])
    (hDigits : ∀ c ∈ ds, c.isDigit = true) : (scientific ds leading hNonempty hDigits).IsScientific leading := by
  have hLength : 0 < ds.length := List.length_pos_of_ne_nil hNonempty
  refine ⟨?_, Layout.padLeft 2 (Nat.toDigits 10 leading.natAbs), rfl, ?_, ?_⟩
  · show (ds.take 1).length = 1
    rw [List.length_take]
    omega
  · rw [Layout.padLeft, List.length_append, List.length_replicate]
    omega
  · rw [Layout.padLeft, ofDigitChars_zeros_append, Nat.ofDigitChars_ten_toDigits]

theorem isScientific_ofDecimal (d : Decimal) : (ofDecimal d).IsScientific d.leading :=
  isScientific_scientific d.leading Nat.toDigits_ne_nil fun _ => isDigit_toDigits

theorem exponent_fixedNumeral (x : Magnitude) (places : Nat) :
    (x.fixedNumeral platform places).decimal.exponent = -(places : Int) := by
  rw [Magnitude.fixedNumeral, ofDigits_fixed]

theorem exponent_scientificNumeral (x : Magnitude) (places : Nat) : (x.scientificNumeral places).exponent ≠ none := by
  unfold Magnitude.scientificNumeral
  split
  · exact Option.some_ne_none _
  · exact Option.some_ne_none _

/-- In fixed form the digits are right if the number has the leading digit that they are counted from. -/
theorem isLaidOut_fixedNumeral {places : Nat} (hDecade : InDecade (x.fixedNumeral platform places).decimal.value e)
    (hLow : -4 ≤ e) (hHigh : e < count) (hPlaces : (places : Int) = count - 1 - e) :
    (x.fixedNumeral platform places).IsLaidOut count e := by
  have hDigits := length_significantDigits hDecade
  rw [exponent_fixedNumeral] at hDigits
  exact ⟨by omega, hDecade, fun _ _ => rfl, fun hOutside => absurd ⟨hLow, hHigh⟩ hOutside⟩

/-- In scientific form the digits are right in any case. -/
theorem isLaidOut_scientificNumeral (hNonzero : x.units ≠ 0) (hCount : 0 < count)
    (hDecade : InDecade (x.scientificNumeral (count - 1)).decimal.value e) (hOutside : ¬ (-4 ≤ e ∧ e < count)) :
    (x.scientificNumeral (count - 1)).IsLaidOut count e := by
  have hNumeral : x.scientificNumeral (count - 1) = ofDecimal (Decimal.significant x.units oneUnits count) := by
    rw [Magnitude.scientificNumeral, if_neg hNonzero, Nat.sub_add_cancel hCount]
  have hCoefficient := (Decimal.roundsHalfEven_significant (Nat.pos_of_ne_zero hNonzero) oneUnits_pos hCount).2
  rw [hNumeral] at hDecade ⊢
  generalize Decimal.significant x.units oneUnits count = d at *
  obtain rfl : d.leading = e := by
    rw [value_ofDecimal] at hDecade
    exact Decimal.leading_eq hDecade
  have hExponent : (ofDecimal d).decimal.exponent = d.leading - ((Nat.toDigits 10 d.coefficient).drop 1).length :=
    rfl
  rw [List.length_drop, ← digitCount, hCoefficient] at hExponent
  have hDigits := length_significantDigits hDecade
  exact ⟨by omega, hDecade, fun hLow hHigh => absurd ⟨hLow, hHigh⟩ hOutside, fun _ => isScientific_ofDecimal d⟩

end Numeral

/-- The text is a minus sign exactly for a negative number, and a numeral in so many significant digits that is
laid out by the number it denotes. -/
def LaidOut (negative : Bool) (count : Nat) (text : String) : Prop :=
  ∃ (n : Numeral) (e : Int), text = String.ofList (Layout.signed negative n.chars) ∧ n.IsLaidOut count e

/-- What is laid out is seen from the text. -/
theorem LaidOut.of_signed {s s' : Bool} {n : Numeral} {count : Nat} {e : Int}
    (hLaidOut : LaidOut s' count (String.ofList (Layout.signed s n.chars))) (hDecade : InDecade n.decimal.value e) :
    e - n.decimal.exponent + 1 = count ∧ (-4 ≤ e → e < count → n.exponent = none) := by
  obtain ⟨n', e', hText, hLaidOut⟩ := hLaidOut
  obtain ⟨-, hChars⟩ := Numeral.signed_chars_inj (String.ofList_injective hText)
  have hDecimal := Numeral.decimal_congr hChars
  obtain rfl : e = e' := hDecade.unique (by rw [hDecimal]; exact hLaidOut.decade)
  constructor
  · have hDigits := Numeral.length_significantDigits hLaidOut.decade
    rw [hLaidOut.digits] at hDigits
    rw [hDecimal]
    exact hDigits.symm
  · intro hLow hHigh
    have hLetter := n'.mem_chars_iff
    rw [← hChars, n.mem_chars_iff, hLaidOut.point hLow hHigh] at hLetter
    exact Classical.not_not.mp fun hSome => hLetter.mp hSome rfl

/-! ## Significant figures -/

namespace Magnitude

variable {m x : Magnitude} {s : Bool} {count : Nat}

section Printed

variable (hNonzero : m.units ≠ 0) (hCount : 0 < count) (hRead : (m.rounded platform count).toBinary64 s = .finite s x)

include hNonzero hCount hRead

/-- Where an exponent is written, the printed number calls for it. -/
theorem exists_decade_of_scientific (hReaches : ¬ m.FallsShort count)
    (hOutside : ¬ (-4 ≤ (m.rounded platform count).leading ∧ (m.rounded platform count).leading < count)) :
    ∃ e, InDecade (x.scientificNumeral (count - 1)).decimal.value e ∧ ¬ (-4 ≤ e ∧ e < count) := by
  have hPositive := units_ne_zero_of_read_rounded hNonzero hCount hRead
  have hRounds := roundsTo_scientificNumeral hPositive hCount
  have hDecade := inDecade_leading hPositive
  have hLeast := hRounds.le_of_le (onGrid_ten_zpow (show x.leading - count + 1 ≤ x.leading by omega)) hDecade.1
  have hPrinted := Decimal.inDecade_leading (d := (x.scientificNumeral (count - 1)).decimal) fun hZero => by
    rw [Decimal.coefficient_eq_zero_iff.mp hZero] at hLeast
    exact absurd hLeast (not_le.mpr (ten_zpow_pos _))
  rcases Int.lt_or_le (m.rounded platform count).leading (-5) with hSmall | hLow
  · have hMost := value_le_of_leading_lt hNonzero hCount hRead hSmall (by decide)
    have hTen := ten_zpow_succ (-5)
    have hTwo : OnGrid (-5) (2 * 10 ^ (-5 : Int)) := ⟨2, by norm_num⟩
    have hBelow := ten_zpow_lt_iff.mp (show (10 : ℚ) ^ x.leading < 10 ^ (-5 + 1 : Int) by
      linarith [hDecade.1, ten_zpow_pos (-5)])
    have hPrintedMost := hRounds.le_of_ge (hTwo.finer (by omega)) hMost
    have hExponent := ten_zpow_lt_iff.mp
      (show (10 : ℚ) ^ (x.scientificNumeral (count - 1)).decimal.leading < 10 ^ (-5 + 1 : Int) by
        linarith [hPrinted.1, ten_zpow_pos (-5)])
    exact ⟨_, hPrinted, by omega⟩
  · rcases Int.lt_or_le count (m.rounded platform count).leading with hMany | hHigh
    · have hMore := power_le_of_lt_leading hNonzero hCount hRead hMany
      have hAbove := ten_zpow_lt_iff.mp (lt_of_le_of_lt hMore hDecade.2)
      have hExponent := ten_zpow_lt_iff.mp
        (lt_of_le_of_lt (le_trans (ten_zpow_le (show (count : Int) ≤ x.leading by omega)) hLeast) hPrinted.2)
      exact ⟨_, hPrinted, by omega⟩
    · have hWindow := inWindow_of_read_rounded hNonzero hCount hRead hLow hHigh hReaches
      have hSame : x.leading = (m.rounded platform count).leading := by
        refine hDecade.unique ⟨hWindow.1, ?_⟩
        linarith [hWindow.2, ten_zpow_pos ((m.rounded platform count).leading - count + 1)]
      rw [hSame] at hRounds
      exact ⟨_, hWindow.inDecade (by omega) hRounds, hOutside⟩

/-- Unless it falls short, a magnitude is laid out by the number that is printed. -/
theorem exists_isLaidOut (hFits : count < 2 ^ 31 - 800) (hReaches : ¬ m.FallsShort count) :
    ∃ e, (m.figuresNumeral platform count x).IsLaidOut count e := by
  unfold figuresNumeral
  split
  · rename_i hFixed
    have hWindow := inWindow_of_read_rounded hNonzero hCount hRead (by omega) (by omega) hReaches
    have hLimit := platform.digitsLimit_ge
    have hCounted : ¬ x.OverflowsPlaces platform (count - 1 - (m.rounded platform count).leading).toNat :=
      not_overflowsPlaces (by omega)
    have hRounds := roundsTo_fixedNumeral hCounted
    rw [show -((count - 1 - (m.rounded platform count).leading).toNat : Int) =
      (m.rounded platform count).leading - count + 1 by omega] at hRounds
    exact ⟨_, Numeral.isLaidOut_fixedNumeral (hWindow.inDecade (by omega) hRounds) hFixed.1 hFixed.2 (by omega)⟩
  · rename_i hOutside
    obtain ⟨e, hDecade, hCalled⟩ := exists_decade_of_scientific hNonzero hCount hRead hReaches hOutside
    exact ⟨e, Numeral.isLaidOut_scientificNumeral (units_ne_zero_of_read_rounded hNonzero hCount hRead) hCount
      hDecade hCalled⟩

/-- A magnitude that falls short of its shortest decimal is an integer of more than fifteen digits; it is printed
as it is, with the point in place for the power of ten that it is not. -/
theorem not_laidOut_of_fallsShort (hFits : count < 2 ^ 31 - 800) (hShort : m.FallsShort count) :
    ¬ LaidOut s count (String.ofList (Layout.signed s (m.figuresNumeral platform count x).chars)) := by
  obtain ⟨hLess, hLow, hHigh⟩ := hShort
  have hDecade := inDecade_leading hNonzero
  -- The shortest decimal is a power of ten that the magnitude does not reach. That happens only beyond 10 ^ 22,
  -- where the magnitude is an integer with one digit less, and is printed as it is.
  obtain ⟨hNext, hPower⟩ : m.shortest.leading = m.leading + 1 ∧ m.shortest.value = 10 ^ (m.leading + 1) := by
    refine (leading_shortest hNonzero).resolve_left fun hSame => ?_
    rw [hSame] at hLess
    exact absurd hDecade.1 (not_le.mpr hLess)
  have hLarge : 22 < m.leading + 1 := by
    refine Int.not_le.mp fun hSmall => ?_
    have hMore := Decimal.power_le_value (m.shortest_toBinary64 s) (by omega) hSmall (le_of_eq hPower.symm)
    exact absurd hDecade.2 (not_lt.mpr hMore)
  have hFloor := platform.logFloor_eq hNonzero
  have hDigits := sub_le_exponent_shortest hNonzero
  obtain ⟨rfl, hValue⟩ := read_rounded_of_le (by omega) hRead
  have hLeading : (x.rounded platform count).leading = x.leading + 1 := by
    refine Decimal.leading_eq ⟨?_, ?_⟩
    · rw [hValue, hPower]
    · rw [hValue, hPower]
      exact ten_zpow_lt_iff.mpr (by omega)
  have hIntegral : OnGrid 0 x.value := by
    refine onGrid_zero_of_le (le_trans ?_ (le_trans (ten_zpow_le (show (22 : Int) ≤ x.leading by omega)) hDecade.1))
    norm_num
  intro hLaidOut
  unfold figuresNumeral at hLaidOut
  split at hLaidOut
  · have hLimit := platform.digitsLimit_ge
    have hCounted : ¬ x.OverflowsPlaces platform (count - 1 - (x.rounded platform count).leading).toNat :=
      not_overflowsPlaces (by omega)
    have hRounds := roundsTo_fixedNumeral hCounted
    rw [← hRounds.eq_self (hIntegral.finer (by omega))] at hDecade
    have hCount := (hLaidOut.of_signed hDecade).1
    rw [Numeral.exponent_fixedNumeral] at hCount
    omega
  · have hRounds := roundsTo_scientificNumeral hNonzero hCount
    rw [show x.leading - count + 1 = 0 by omega] at hRounds
    rw [← hRounds.eq_self hIntegral] at hDecade
    exact Numeral.exponent_scientificNumeral x _ ((hLaidOut.of_signed hDecade).2 (by omega) (by omega))

end Printed

end Magnitude

namespace Binary64

variable {s : Bool} {m : Magnitude} {count : Nat} {text : String}

/-- **The layout of significant figures.** Where a number other than zero is written as a numeral in significant
figures, the text is laid out by the number that it denotes, unless the magnitude falls short of a power of ten
that is its shortest decimal. -/
theorem laidOut_figures_iff (hNonzero : m.units ≠ 0) (hCount : 0 < count)
    (hText : (finite s m).format platform { figures := some count } = .ok text) (hNumeral : IsNumeral text) :
    LaidOut s count text ↔ ¬ m.FallsShort count := by
  have hFigures : m.significant platform s count = .ok text := by
    have hSome : (if (count : Int) ≤ 0 then .error .nonPositiveFigures else
        (finite s m).significant platform (count : Int).toNat) = Except.ok text := hText
    rwa [if_neg (by omega), Int.toNat_natCast, significant, if_neg hNonzero] at hSome
  have hFits : count < 2 ^ 31 - 800 := by
    have hPlace := Magnitude.place_ge_of_significant hFigures
    have hFloor := platform.logFloor_eq hNonzero
    have hLeading : m.leading.natAbs ≤ 700 := m.natAbs_leadingExponent_le
    omega
  have hWithin := (Magnitude.isNumeral_significant_iff hFigures).mp hNumeral
  obtain ⟨x, hRead⟩ := (m.rounded platform count).exists_toBinary64_eq_finite (not_le.mp hWithin) s
  rw [Magnitude.significant_eq_figuresNumeral hFigures hRead]
  constructor
  · intro hLaidOut hShort
    exact Magnitude.not_laidOut_of_fallsShort hNonzero hCount hRead hFits hShort hLaidOut
  · intro hReaches
    obtain ⟨e, hLaidOut⟩ := Magnitude.exists_isLaidOut hNonzero hCount hRead hFits hReaches
    exact ⟨_, e, rfl, hLaidOut⟩

/-- One in three significant figures is laid out. -/
theorem laidOut_figures_one :
    (finite false .one).format Standard.platform { figures := some (3 : Nat) } = .ok "1.00" ∧
      LaidOut false 3 "1.00" := by
  have hText : (finite false .one).format Standard.platform { figures := some (3 : Nat) } = .ok "1.00" := by
    decide +kernel
  have hNonzero : Magnitude.one.units ≠ 0 := Nat.ne_of_gt oneUnits_pos
  have hNumeral : IsNumeral "1.00" := ⟨false, .fixed 100 2, by decide +kernel⟩
  have hLeading : ¬ 1 ≤ Magnitude.one.shortest.leading := by decide +kernel
  exact ⟨hText, (laidOut_figures_iff hNonzero (by decide) hText hNumeral).mpr fun hShort => hLeading hShort.2.1⟩

/-- The binary64 number nearest to `1e23`, which is less. -/
def shortOfPower : Magnitude :=
  ⟨5960464477539062 * 2 ^ (24 + fractionBits), representable_mul_pow (by decide) (by decide +kernel)⟩

/-- In twenty-four significant figures this number is written with twenty-three. -/
theorem figures_shortOfPower :
    (finite false shortOfPower).format Standard.platform { figures := some (24 : Nat) } = .ok "99999999999999991611392" ∧
      IsNumeral "99999999999999991611392" ∧ ¬ LaidOut false 24 "99999999999999991611392" := by
  have hChars : "99999999999999991611392" =
      String.ofList (Layout.signed false (Numeral.fixed 99999999999999991611392 0).chars) := by decide +kernel
  refine ⟨by decide +kernel, ⟨false, _, hChars⟩, fun hLaidOut => ?_⟩
  have hDecimal := Numeral.ofDigits_fixed 99999999999999991611392 0
  have hDecade := Decimal.inDecade_leading (d := (Numeral.fixed 99999999999999991611392 0).decimal)
    (by rw [hDecimal]; decide)
  rw [hChars] at hLaidOut
  have hCount := (hLaidOut.of_signed hDecade).1
  rw [hDecimal] at hCount
  exact absurd hCount (by decide +kernel)

end Binary64

end UnitConversion
