import UnitConversion.Rendering

/-!
# Which precisions can be honoured

A precision can be at fault in itself, whatever number it is asked for (`Precision.fault?`). It can
also be beyond what the number can be written in (`Precision.IsBeyond`). All other precisions are
honoured.

* `format_of_fault`: a precision at fault is refused as a mistake of the caller.
* `format_of_isBeyond`: one that is beyond the number fails, and not as such a mistake.
* `format_ok_iff`: any other precision gives a text.
* `isBeyond_iff_of_bounds`: for moderate precisions only the last digit of a tiny number is beyond.
-/

namespace UnitConversion

variable {platform : Platform}

/-! ## The exponent of the leading digit -/

theorem neg_le_leadingExponent {num den k : Nat} (hNum : 0 < num) (hk : 0 < k)
    (hDen : den ≤ 10 ^ k) : -(k : Int) ≤ leadingExponent num den := by
  unfold leadingExponent
  split
  · have hPos := digitCount_pos (num / den)
    omega
  · have hLess : (den - 1) / num < 10 ^ k := by
      have hLe := Nat.div_le_self (den - 1) num
      omega
    have hCount := (digitCount_le_iff hk).mpr hLess
    omega

/-- No positive magnitude lies below `10 ^ -324`. -/
theorem Platform.neg_le_logFloor (platform : Platform) {m : Magnitude} (hPos : m.units ≠ 0) :
    -324 ≤ platform.logFloor m := by
  have hDen : oneUnits ≤ 10 ^ 324 := by decide +kernel
  have hLeading := neg_le_leadingExponent (Nat.pos_of_ne_zero hPos) (by decide) hDen
  exact Int.le_trans hLeading (platform.logFloor_bounds hPos).1

/-! ## Precisions at fault and precisions beyond a number -/

/-- What is wrong with a precision, whatever number it is asked for. -/
def Precision.fault? (p : Precision) : Option FormatError :=
  match p.decimals, p.figures with
  | some places, _ => if places < 0 then some .negativeDecimals else none
  | none, some count => if count ≤ 0 then some .nonPositiveFigures else none
  | none, none => none

/-- The number cannot be written in so many significant figures: a zero has more of them than a text
can hold, and any other number has its last one below the range of decimal exponents. -/
def Binary64.FiguresBeyond (platform : Platform) (x : Binary64) (count : Nat) : Prop :=
  match x with
  | .finite _ m => if m.units = 0 then platform.zerosLimit < count else platform.logFloor m - count + 1 < -2000054
  | _ => False

/-- The number cannot be written in the precision, though nothing is wrong with the precision in
itself. -/
def Precision.IsBeyond (platform : Platform) (p : Precision) (x : Binary64) : Prop :=
  match p.decimals, p.figures with
  | some places, _ => 2 ^ 31 ≤ places
  | none, some count => 0 < count ∧ x.FiguresBeyond platform count.toNat
  | none, none => False

namespace Precision

variable {p : Precision} {x : Binary64} {e : FormatError}

theorem fault?_eq_some_iff :
    p.fault? = some e ↔
      (∃ places, p.decimals = some places ∧ places < 0 ∧ e = .negativeDecimals) ∨
        (p.decimals = none ∧
          ∃ count, p.figures = some count ∧ count ≤ 0 ∧ e = .nonPositiveFigures) := by
  obtain ⟨_ | places, _ | count⟩ := p <;> simp [fault?, @eq_comm _ _ e]

theorem fault?_eq_none_iff :
    p.fault? = none ↔
      (∀ places, p.decimals = some places → 0 ≤ places) ∧
        (p.decimals = none → ∀ count, p.figures = some count → 0 < count) := by
  obtain ⟨_ | places, _ | count⟩ := p <;> simp [fault?]

theorem isBadInput_of_fault (hFault : p.fault? = some e) : e.isBadInput = true := by
  rcases fault?_eq_some_iff.mp hFault with ⟨_, -, -, rfl⟩ | ⟨-, _, -, -, rfl⟩
  · rfl
  · rfl

end Precision

/-! ## Significant figures -/

theorem zeroFigures_of_le {count : Nat} (hCount : count ≤ platform.zerosLimit) :
    zeroFigures platform count = .ok (String.ofList (Layout.fixed 0 (count - 1))) := by
  have hCounted := platform.zerosLimit_bounds.2
  unfold zeroFigures
  rw [if_neg (by omega), if_neg (by omega)]

theorem zeroFigures_of_lt {count : Nat} (hCount : platform.zerosLimit < count) :
    ∃ e, zeroFigures platform count = .error e ∧ e.isBadInput = false := by
  unfold zeroFigures
  split
  · exact ⟨_, rfl, rfl⟩
  · exact ⟨_, rfl, rfl⟩

theorem Magnitude.significant_of_le {m : Magnitude} {count : Nat}
    (hPlace : -2000054 ≤ platform.logFloor m - count + 1) (negative : Bool) :
    ∃ text, m.significant platform negative count = .ok text := by
  have hInRange : figuresOutOfRange (platform.logFloor m - count + 1) = false := by
    simpa [figuresOutOfRange] using hPlace
  unfold significant
  simp only [hInRange, Bool.false_eq_true, if_false]
  split
  · exact ⟨_, rfl⟩
  · exact ⟨_, rfl⟩

theorem Magnitude.significant_of_lt {m : Magnitude} {count : Nat}
    (hPlace : platform.logFloor m - count + 1 < -2000054) (negative : Bool) :
    m.significant platform negative count = .error .figuresOutOfRange := by
  have hOutOfRange : figuresOutOfRange (platform.logFloor m - count + 1) = true := by
    simpa [figuresOutOfRange] using hPlace
  unfold significant
  dsimp only
  rw [if_pos hOutOfRange]

/-- Figures that are written end within the range of decimal exponents. -/
theorem Magnitude.place_ge_of_significant {m : Magnitude} {count : Nat} {negative : Bool} {text : String}
    (hText : m.significant platform negative count = .ok text) : -2000054 ≤ platform.logFloor m - count + 1 := by
  refine Int.not_lt.mp fun hPlace => ?_
  rw [significant_of_lt hPlace] at hText
  cases hText

namespace Binary64

variable {x : Binary64} {count : Nat}

theorem figuresBeyond_finite_iff {s : Bool} {m : Magnitude} :
    (finite s m).FiguresBeyond platform count ↔
      (m.units = 0 ∧ platform.zerosLimit < count) ∨
        (m.units ≠ 0 ∧ platform.logFloor m - count + 1 < -2000054) := by
  by_cases hZero : m.units = 0
  · simp [FiguresBeyond, hZero]
  · simp [FiguresBeyond, hZero]

theorem exists_of_figuresBeyond (hBeyond : x.FiguresBeyond platform count) : ∃ s m, x = finite s m := by
  cases x with
  | nan => exact hBeyond.elim
  | infinite s => exact hBeyond.elim
  | finite s m => exact ⟨s, m, rfl⟩

theorem significant_of_figuresBeyond (hBeyond : x.FiguresBeyond platform count) :
    ∃ e, x.significant platform count = .error e ∧ e.isBadInput = false := by
  obtain ⟨s, m, rfl⟩ := exists_of_figuresBeyond hBeyond
  rcases figuresBeyond_finite_iff.mp hBeyond with ⟨hZero, hCount⟩ | ⟨hNonzero, hPlace⟩
  · simp only [significant, if_pos hZero]
    exact zeroFigures_of_lt hCount
  · simp only [significant, if_neg hNonzero]
    exact ⟨_, Magnitude.significant_of_lt hPlace s, rfl⟩

theorem significant_of_not_figuresBeyond (hWithin : ¬ x.FiguresBeyond platform count) :
    ∃ text, x.significant platform count = .ok text := by
  cases x with
  | nan => exact ⟨_, rfl⟩
  | infinite s => exact ⟨_, rfl⟩
  | finite s m =>
    by_cases hZero : m.units = 0
    · have hCount : count ≤ platform.zerosLimit := by
        refine Nat.le_of_not_lt fun hCount => hWithin ?_
        exact figuresBeyond_finite_iff.mpr (Or.inl ⟨hZero, hCount⟩)
      simp only [significant, if_pos hZero]
      exact ⟨_, zeroFigures_of_le hCount⟩
    · have hPlace : -2000054 ≤ platform.logFloor m - count + 1 := by
        refine Int.not_lt.mp fun hPlace => hWithin ?_
        exact figuresBeyond_finite_iff.mpr (Or.inr ⟨hZero, hPlace⟩)
      simp only [significant, if_neg hZero]
      exact Magnitude.significant_of_le hPlace s

/-! ## The three outcomes of a precision -/

variable {p : Precision}

/-- A precision at fault is refused as a mistake of the caller, whatever the number is. -/
theorem format_of_fault {e : FormatError} (hFault : p.fault? = some e) (x : Binary64) :
    x.format platform p = .error e := by
  rcases Precision.fault?_eq_some_iff.mp hFault with
    ⟨places, hDecimals, hNegative, rfl⟩ | ⟨hNone, count, hFigures, hNonPositive, rfl⟩
  · simp [format, hDecimals, hNegative]
  · simp [format, hNone, hFigures, hNonPositive]

/-- A precision beyond the number fails, and not as a mistake of the caller. -/
theorem format_of_isBeyond (hBeyond : p.IsBeyond platform x) :
    ∃ e, x.format platform p = .error e ∧ e.isBadInput = false := by
  obtain ⟨decimals, figures⟩ := p
  cases decimals with
  | some places =>
    have hLarge : 2 ^ 31 ≤ places := hBeyond
    unfold format
    dsimp only
    rw [if_neg (by omega)]
    -- There are three limits on decimals; the smallest is met in any case.
    split
    · exact ⟨_, rfl, rfl⟩
    · split
      · exact ⟨_, rfl, rfl⟩
      · exact ⟨_, rfl, rfl⟩
  | none =>
    cases figures with
    | none => exact hBeyond.elim
    | some count =>
      obtain ⟨hPositive, hFigures⟩ : 0 < count ∧ x.FiguresBeyond platform count.toNat := hBeyond
      unfold format
      dsimp only
      rw [if_neg (by omega)]
      exact significant_of_figuresBeyond hFigures

/-- An integer that can be written as a number of decimals has few digits. -/
theorem isWritable_of_lt {places : Int} (hNonneg : 0 ≤ places) (hSmall : places < 2 ^ 31) :
    Text.isWritable places = true := by
  have hLimit : 2 ^ 31 ≤ 10 ^ Text.digitLimit := by decide +kernel
  refine decide_eq_true (Nat.lt_of_lt_of_le ?_ hLimit)
  omega

/-- Decimals that fit in 31 bits are those of the fixed form. -/
theorem format_of_places {places : Int} (hNonneg : 0 ≤ places) (hSmall : places < 2 ^ 31)
    (figures : Option Int) (x : Binary64) :
    x.format platform { decimals := some places, figures } = .ok (x.fixed platform places.toNat) := by
  have hWritable := isWritable_of_lt hNonneg hSmall
  unfold format
  dsimp only
  rw [if_neg (by omega), hWritable, if_neg (by decide), if_neg (by omega), if_neg (by omega)]

/-- A precision that is neither at fault nor beyond the number gives a text. -/
theorem format_of_not_isBeyond (hFault : p.fault? = none) (hWithin : ¬ p.IsBeyond platform x) :
    ∃ text, x.format platform p = .ok text := by
  obtain ⟨hPlaces, hCounts⟩ := Precision.fault?_eq_none_iff.mp hFault
  obtain ⟨decimals, figures⟩ := p
  cases decimals with
  | some places => exact ⟨_, format_of_places (hPlaces places rfl) (Int.not_le.mp hWithin) figures x⟩
  | none =>
    cases figures with
    | none => exact ⟨_, rfl⟩
    | some count =>
      have hPositive : 0 < count := hCounts rfl count rfl
      unfold format
      dsimp only
      rw [if_neg (by omega)]
      exact significant_of_not_figuresBeyond fun hFigures => hWithin ⟨hPositive, hFigures⟩

/-- **Precisions that are honoured.** A number is written in a precision exactly when nothing is wrong
with the precision and it is not beyond the number. -/
theorem format_ok_iff : (∃ text, x.format platform p = .ok text) ↔ p.fault? = none ∧ ¬ p.IsBeyond platform x := by
  constructor
  · rintro ⟨text, hText⟩
    constructor
    · refine Option.eq_none_iff_forall_ne_some.mpr fun e hFault => ?_
      rw [format_of_fault hFault] at hText
      cases hText
    · intro hBeyond
      obtain ⟨e, hError, -⟩ := format_of_isBeyond hBeyond
      rw [hError] at hText
      cases hText
  · rintro ⟨hFault, hWithin⟩
    exact format_of_not_isBeyond hFault hWithin

/-! ## Moderate precisions -/

/-- So many significant figures can be had of any number. -/
theorem not_figuresBeyond_of_le (hCount : count ≤ 1999731) : ¬ x.FiguresBeyond platform count := by
  intro hBeyond
  obtain ⟨s, m, rfl⟩ := exists_of_figuresBeyond hBeyond
  rcases figuresBeyond_finite_iff.mp hBeyond with ⟨-, hZeros⟩ | ⟨hNonzero, hPlace⟩
  · have hMemory := platform.zerosLimit_bounds.1
    omega
  · have hLeast := platform.neg_le_logFloor hNonzero
    omega

end Binary64

/-- With decimals that fit in 31 bits and less than two million significant figures, only numbers far
below one cannot be written, and only in more than 1999731 figures. -/
theorem Precision.isBeyond_iff_of_bounds {p : Precision} {x : Binary64}
    (hDecimals : ∀ places, p.decimals = some places → places < 2 ^ 31)
    (hFigures : ∀ count, p.figures = some count → count < 2000000) :
    p.IsBeyond platform x ↔
      p.decimals = none ∧ ∃ count, p.figures = some count ∧ 1999731 < count ∧
        ∃ s m, x = .finite s m ∧ m.units ≠ 0 ∧ platform.logFloor m - count + 1 < -2000054 := by
  constructor
  · intro hBeyond
    obtain ⟨decimals, figures⟩ := p
    cases decimals with
    | some places =>
      have hSmall := hDecimals places rfl
      have hLarge : 2 ^ 31 ≤ places := hBeyond
      omega
    | none =>
      cases figures with
      | none => exact hBeyond.elim
      | some count =>
        obtain ⟨hPositive, hBeyond⟩ : 0 < count ∧ x.FiguresBeyond platform count.toNat := hBeyond
        have hLess := hFigures count rfl
        have hMany : 1999731 < count :=
          Int.not_le.mp fun hFew => Binary64.not_figuresBeyond_of_le (by omega) hBeyond
        refine ⟨rfl, count, rfl, hMany, ?_⟩
        obtain ⟨s, m, rfl⟩ := Binary64.exists_of_figuresBeyond hBeyond
        rcases Binary64.figuresBeyond_finite_iff.mp hBeyond with
          ⟨-, hZeros⟩ | ⟨hNonzero, hPlace⟩
        · have hMemory := platform.zerosLimit_bounds.1
          omega
        · exact ⟨s, m, rfl, hNonzero, by omega⟩
  · rintro ⟨hNone, count, hCount, hMany, s, m, rfl, hNonzero, hPlace⟩
    obtain ⟨decimals, figures⟩ := p
    cases hNone
    cases hCount
    exact ⟨by omega, Binary64.figuresBeyond_finite_iff.mpr (Or.inr ⟨hNonzero, by omega⟩)⟩

end UnitConversion
