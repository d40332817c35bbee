import UnitConversion.Proofs.Rendering.General

/-!
# The sign of a rendering

A number and its opposite are rounded alike in every form: the places are counted from the magnitude, a half goes up
or to the even neighbour by the magnitude, and what is read back in between keeps the sign. So the text of the
opposite is the same with a minus sign in front, and where a number cannot be written, neither can its opposite.
Zero is left out, since significant figures write it without a sign.

* `Binary64.renderWith_neg`: a minus sign in front of the text of a magnitude.
* `Decimal.toBinary64_not`: a decimal with the other sign is read as the opposite number.
* `Binary64.format_neg`: all forms.
-/

namespace UnitConversion

variable {platform : Platform}

namespace Binary64

/-- The number has no minus sign. -/
inductive HasPlus : Binary64 → Prop
  | infinite : HasPlus (.infinite false)
  | finite (m : Magnitude) : HasPlus (.finite false m)

def IsPositive (x : Binary64) : Prop := x = .infinite false ∨ 0 < x.exactValue

theorem isPositive_iff {x : Binary64} :
    x.IsPositive ↔ x = .infinite false ∨ ∃ m : Magnitude, m.units ≠ 0 ∧ x = .finite false m := by
  unfold IsPositive
  cases x with
  | nan => simp [exactValue, toRat?]
  | infinite s => simp [exactValue, toRat?]
  | finite s m =>
    rw [exactValue_eq_value]
    have hNonneg := m.value_nonneg
    constructor
    · rintro (hInfinite | hPositive)
      · cases hInfinite
      · cases s with
        | true =>
          rw [if_pos rfl] at hPositive
          linarith
        | false =>
          refine Or.inr ⟨m, fun hZero => ?_, rfl⟩
          rw [if_neg Bool.false_ne_true, Magnitude.value_eq_zero hZero] at hPositive
          exact lt_irrefl _ hPositive
    · rintro (hInfinite | ⟨_, hNonzero, hEq⟩)
      · cases hInfinite
      · obtain ⟨rfl, rfl⟩ := Binary64.finite.inj hEq
        exact Or.inr (Magnitude.inDecade_leading hNonzero).pos

theorem IsPositive.hasPlus {x : Binary64} (h : x.IsPositive) : x.HasPlus := by
  obtain rfl | ⟨m, -, rfl⟩ := isPositive_iff.mp h
  · exact .infinite
  · exact .finite m

theorem ofList_minus (cs : List Char) : String.ofList ('-' :: cs) = "-" ++ String.ofList cs := by
  apply String.toList_inj.mp
  simp

theorem renderWith_neg {x : Binary64} (hPlus : x.HasPlus) (render : Magnitude → List Char) :
    (-x).renderWith render = "-" ++ x.renderWith render := by
  cases hPlus with
  | infinite => exact ofList_minus _
  | finite m => exact ofList_minus _

theorem nearest_cases (num den : Nat) :
    (∀ s, nearest s num den = .infinite s) ∨ ∃ m, ∀ s, nearest s num den = .finite s m := by
  by_cases h : nearestUnits num den < overflowUnits
  · exact Or.inr ⟨_, fun _ => dif_pos h⟩
  · exact Or.inl fun _ => dif_neg h

theorem nearest_not (s : Bool) (num den : Nat) : nearest (!s) num den = -nearest s num den := by
  obtain hInfinite | ⟨m, hFinite⟩ := nearest_cases num den
  · rw [hInfinite, hInfinite]
    rfl
  · rw [hFinite, hFinite]
    rfl

theorem hasPlus_nearest (num den : Nat) : (nearest false num den).HasPlus := by
  obtain hInfinite | ⟨m, hFinite⟩ := nearest_cases num den
  · rw [hInfinite]
    exact .infinite
  · rw [hFinite]
    exact .finite m

end Binary64

theorem Decimal.toBinary64_not (d : Decimal) (s : Bool) : d.toBinary64 (!s) = -d.toBinary64 s := by
  rw [toBinary64_eq_nearest, toBinary64_eq_nearest, Binary64.nearest_not]

theorem Decimal.hasPlus_toBinary64 (d : Decimal) : (d.toBinary64 false).HasPlus := by
  rw [toBinary64_eq_nearest]
  exact Binary64.hasPlus_nearest _ _

theorem Magnitude.significant_neg (m : Magnitude) (count : Nat) :
    m.significant platform true count = (m.significant platform false count).map ("-" ++ ·) := by
  -- The decimal is rounded before it has a sign, and reading it keeps the sign that it is given.
  have hOpposite := (m.shortest.roundHalfUp (platform.logFloor m - count + 1)).toBinary64_not false
  have hPlus := (m.shortest.roundHalfUp (platform.logFloor m - count + 1)).hasPlus_toBinary64
  unfold significant
  dsimp only
  rw [show true = !false from rfl, hOpposite]
  split
  · rfl
  · split
    · exact congrArg Except.ok (Binary64.renderWith_neg hPlus _)
    · exact congrArg Except.ok (Binary64.renderWith_neg hPlus _)

namespace Binary64

theorem significant_neg {x : Binary64} (hPositive : x.IsPositive) (count : Nat) :
    (-x).significant platform count = (x.significant platform count).map ("-" ++ ·) := by
  obtain rfl | ⟨m, hNonzero, rfl⟩ := isPositive_iff.mp hPositive
  · exact congrArg Except.ok (renderWith_neg .infinite _)
  · change (finite true m).significant platform count = _
    unfold significant
    dsimp only
    rw [if_neg hNonzero, if_neg hNonzero, m.significant_neg]

/-- **Signs.** Of a positive number, finite or not, and its opposite either both are written in a precision, the
opposite with a minus sign in front of the same text, or neither of them is, for the same reason. -/
theorem format_neg {x : Binary64} (hPositive : x.IsPositive) (p : Precision) :
    (-x).format platform p = (x.format platform p).map ("-" ++ ·) := by
  obtain ⟨decimals, figures⟩ := p
  have hPlus := hPositive.hasPlus
  unfold format
  cases decimals with
  | some places =>
    dsimp only
    -- The limits on places do not look at the number.
    split
    · rfl
    · split
      · rfl
      · split
        · rfl
        · split
          · rfl
          · exact congrArg Except.ok (renderWith_neg hPlus _)
  | none =>
    cases figures with
    | some count =>
      dsimp only
      split
      · rfl
      · exact significant_neg hPositive _
    | none => exact congrArg Except.ok (renderWith_neg hPlus _)

/-- In twenty figures the binary digits of a tenth show, with either sign. -/
theorem format_neg_tenth :
    (finite false tenth).IsPositive ∧
      (finite false tenth).format Standard.platform { figures := some 20 } = .ok "0.10000000000000000555" ∧
      (-finite false tenth).format Standard.platform { figures := some 20 } =
        ((finite false tenth).format Standard.platform { figures := some 20 }).map ("-" ++ ·) := by
  have hPositive : (finite false tenth).IsPositive :=
    isPositive_iff.mpr (Or.inr ⟨tenth, by decide +kernel, rfl⟩)
  exact ⟨hPositive, by decide +kernel, format_neg hPositive _⟩

end Binary64

end UnitConversion
