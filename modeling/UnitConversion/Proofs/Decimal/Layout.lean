import Mathlib.Data.List.TakeWhile
import UnitConversion.Proofs.Decimal.Numeral
import UnitConversion.Rendering

/-!
# What the layouts write

Every layout of digits is a numeral. The positional and the scientific layout of the same digits denote
the same value, which the exponent of the first digit determines. So the layouts of a decimal denote its
value, also without the trailing zeros of its digits.

* `Numeral.scientific`, `Numeral.positional`, `Numeral.fixed`: the numerals of the layouts.
* `Numeral.general`: the numeral of the digits of a decimal.
* `Numeral.value_general`: it denotes the value of the decimal.
-/

namespace UnitConversion

theorem head?_toDigits {n : Nat} (hn : n ≠ 0) : (Nat.toDigits 10 n).head? ≠ some '0' := by
  induction n using Nat.strongRecOn with
  | ind n ih =>
    rcases Nat.lt_or_ge n 10 with hLess | hMore
    · rw [Nat.toDigits_of_lt_base hLess]
      simpa [Nat.digitChar_eq_zero] using hn
    · rw [Nat.toDigits_of_base_le (by decide) hMore, List.head?_append]
      have hRec := ih (n / 10) (by omega) (by omega)
      obtain ⟨c, cs, hDigits⟩ :=
        List.exists_cons_of_ne_nil (Nat.toDigits_ne_nil (n := n / 10) (b := 10))
      rw [hDigits] at hRec ⊢
      exact hRec

theorem fraction_of_ne_nil {ds : List Char} (hNonempty : ds ≠ []) :
    Layout.fraction ds = '.' :: ds := by
  cases ds with
  | nil => exact absurd rfl hNonempty
  | cons c cs => rfl

/-! ## The digits of a decimal -/

namespace Decimal

variable (d : Decimal)

/-- The digits of a decimal are those of its coefficient without zeros at the end. -/
theorem toDigits_coefficient :
    ∃ k, Nat.toDigits 10 d.coefficient = d.digits ++ List.replicate k '0' := by
  have hSplit := (List.takeWhile_append_dropWhile (p := (· == '0'))
    (l := (Nat.toDigits 10 d.coefficient).reverse)).symm
  have hZeros : ∀ c ∈ ((Nat.toDigits 10 d.coefficient).reverse.takeWhile (· == '0')).reverse,
      c = '0' := by
    intro c hc
    simpa using List.mem_takeWhile_imp (List.mem_reverse.mp hc)
  obtain ⟨k, hk⟩ : ∃ k, ((Nat.toDigits 10 d.coefficient).reverse.takeWhile (· == '0')).reverse =
      List.replicate k '0' := ⟨_, List.eq_replicate_of_mem hZeros⟩
  have hDigits := congrArg List.reverse hSplit
  rw [List.reverse_reverse, List.reverse_append, hk] at hDigits
  unfold digits
  split
  · rename_i hEmpty
    rw [hEmpty, List.nil_append] at hDigits
    cases k with
    | zero => exact absurd hDigits Nat.toDigits_ne_nil
    | succ k => exact ⟨k, hDigits⟩
  · exact ⟨k, hDigits⟩

theorem digits_ne_nil : d.digits ≠ [] := by
  unfold digits
  split
  · simp
  · rename_i hNonempty
    exact hNonempty

theorem isDigit_digits {c : Char} (hc : c ∈ d.digits) : c.isDigit = true := by
  obtain ⟨k, hk⟩ := d.toDigits_coefficient
  exact isDigit_toDigits (hk ▸ List.mem_append_left _ hc)

theorem head?_digits (hNonzero : d.coefficient ≠ 0) : d.digits.head? ≠ some '0' := by
  obtain ⟨k, hk⟩ := d.toDigits_coefficient
  obtain ⟨c, cs, hDigits⟩ := List.exists_cons_of_ne_nil d.digits_ne_nil
  have hHead := head?_toDigits hNonzero
  rw [hk, hDigits] at hHead
  rw [hDigits]
  exact hHead

/-- The digits and the exponent of the first of them give the value. -/
theorem value_digits :
    (Nat.ofDigitChars 10 d.digits 0 : ℚ) * 10 ^ (d.leading - d.digits.length + 1) = d.value := by
  obtain ⟨k, hk⟩ := d.toDigits_coefficient
  have hCoefficient : d.coefficient = Nat.ofDigitChars 10 d.digits 0 * 10 ^ k := by
    rw [← ofDigitChars_append_zeros, ← hk, Nat.ofDigitChars_ten_toDigits]
  have hExponent : d.leading - d.digits.length + 1 = k + d.exponent := by
    have hCount : digitCount d.coefficient = d.digits.length + k := by
      rw [digitCount, hk, List.length_append, List.length_replicate]
    unfold leading
    omega
  rw [hExponent, zpow_add₀ (by norm_num), zpow_natCast, value, hCoefficient, Nat.cast_mul,
    Nat.cast_pow, Nat.cast_ofNat, mul_assoc]

end Decimal

/-! ## The numerals of the layouts -/

namespace Numeral

theorem value_decimal (n : Numeral) :
    n.decimal.value = (Nat.ofDigitChars 10 (n.whole ++ n.fraction) 0 : ℚ) *
      10 ^ (n.exponent.getD 0 - n.fraction.length) := rfl

/-- There are no zeros in front of other digits of the whole part. -/
def IsTrim (n : Numeral) : Prop := n.whole.head? = some '0' → n.whole = ['0']

section Digits

variable (ds : List Char) (leading : Int) (hNonempty : ds ≠ [])
  (hDigits : ∀ c ∈ ds, c.isDigit = true)

/-- One digit before the point, the others behind it, and the exponent. -/
def scientific : Numeral where
  whole := ds.take 1
  fraction := ds.drop 1
  exponent := some leading
  whole_ne_nil := by simpa using hNonempty
  isDigit_whole := fun c hc => hDigits c (List.mem_of_mem_take hc)
  isDigit_fraction := fun c hc => hDigits c (List.mem_of_mem_drop hc)

theorem chars_scientific :
    (scientific ds leading hNonempty hDigits).chars = Layout.scientific ds leading := by
  simp [chars, exponentChars, scientific, Layout.scientific]

theorem value_scientific :
    (scientific ds leading hNonempty hDigits).decimal.value =
      (Nat.ofDigitChars 10 ds 0 : ℚ) * 10 ^ (leading - ds.length + 1) := by
  have hLength : 0 < ds.length := List.length_pos_of_ne_nil hNonempty
  have hExponent : leading - ((ds.drop 1).length : Int) = leading - ds.length + 1 := by
    rw [List.length_drop]
    omega
  rw [value_decimal]
  simp only [scientific, List.take_append_drop, Option.getD_some, hExponent]

theorem isTrim_scientific : (scientific ds leading hNonempty hDigits).IsTrim := by
  obtain ⟨c, cs, rfl⟩ := List.exists_cons_of_ne_nil hNonempty
  intro hZero
  obtain rfl : c = '0' := Option.some.inj hZero
  rfl

/-- The digits in place. -/
def positional : Numeral :=
  if leading < 0 then
    { whole := ['0']
      fraction := List.replicate (-leading - 1).toNat '0' ++ ds
      exponent := none
      whole_ne_nil := zeroDigit_ne_nil
      isDigit_whole := fun _ => isDigit_of_mem_zero
      isDigit_fraction := fun c hc => (List.mem_append.mp hc).elim isDigit_replicate (hDigits c) }
  else
    { whole := ds.take (leading.toNat + 1) ++ List.replicate (leading.toNat + 1 - ds.length) '0'
      fraction := ds.drop (leading.toNat + 1)
      exponent := none
      whole_ne_nil := by simp [hNonempty]
      isDigit_whole := fun c hc => (List.mem_append.mp hc).elim
        (fun hDigit => hDigits c (List.mem_of_mem_take hDigit)) isDigit_replicate
      isDigit_fraction := fun c hc => hDigits c (List.mem_of_mem_drop hc) }

theorem chars_positional :
    (positional ds leading hNonempty hDigits).chars = Layout.positional ds leading := by
  unfold positional Layout.positional
  split
  · have hFraction : List.replicate (-leading - 1).toNat '0' ++ ds ≠ [] := by simp [hNonempty]
    simp only [chars, exponentChars, fraction_of_ne_nil hFraction]
    simp
  · simp [chars, exponentChars]

theorem value_positional :
    (positional ds leading hNonempty hDigits).decimal.value =
      (Nat.ofDigitChars 10 ds 0 : ℚ) * 10 ^ (leading - ds.length + 1) := by
  rw [value_decimal]
  unfold positional
  split
  · have hZeros : ['0'] ++ (List.replicate (-leading - 1).toNat '0' ++ ds) =
        List.replicate ((-leading - 1).toNat + 1) '0' ++ ds := by
      rw [List.replicate_succ]
      rfl
    have hExponent : 0 - ((List.replicate (-leading - 1).toNat '0' ++ ds).length : Int) =
        leading - ds.length + 1 := by
      rw [List.length_append, List.length_replicate]
      omega
    simp only [Option.getD_none, hZeros, ofDigitChars_zeros_append, hExponent]
  · rename_i hNonneg
    dsimp only
    rcases Nat.le_total ds.length (leading.toNat + 1) with hFew | hMany
    · have hExponent : leading - ds.length + 1 = (leading.toNat + 1 - ds.length : Nat) := by omega
      rw [List.take_of_length_le hFew, List.drop_of_length_le hFew, List.append_nil,
        ofDigitChars_append_zeros, hExponent, zpow_natCast]
      simp
    · have hExponent : 0 - ((ds.drop (leading.toNat + 1)).length : Int) =
          leading - ds.length + 1 := by
        rw [List.length_drop]
        omega
      rw [Nat.sub_eq_zero_of_le hMany, List.replicate_zero, List.append_nil,
        List.take_append_drop, Option.getD_none, hExponent]

theorem isTrim_positional (hHead : ds.head? ≠ some '0') :
    (positional ds leading hNonempty hDigits).IsTrim := by
  unfold positional
  split
  · intro _
    rfl
  · obtain ⟨c, cs, rfl⟩ := List.exists_cons_of_ne_nil hNonempty
    intro hZero
    exact absurd hZero hHead

end Digits

/-- The number `count / 10 ^ places` with exactly that many places. -/
def fixed (count places : Nat) : Numeral where
  whole := Nat.toDigits 10 (count / 10 ^ places)
  fraction :=
    if places = 0 then [] else Layout.padLeft places (Nat.toDigits 10 (count % 10 ^ places))
  exponent := none
  whole_ne_nil := Nat.toDigits_ne_nil
  isDigit_whole := fun _ => isDigit_toDigits
  isDigit_fraction := by
    intro c hc
    split at hc
    · cases hc
    · exact isDigit_padLeft (fun _ => isDigit_toDigits) hc

theorem chars_fixed (count places : Nat) : (fixed count places).chars = Layout.fixed count places := by
  unfold fixed Layout.fixed chars exponentChars
  split
  · simp [Layout.fraction]
  · have hFraction : Layout.padLeft places (Nat.toDigits 10 (count % 10 ^ places)) ≠ [] := by
      simp [Layout.padLeft, Nat.toDigits_ne_nil]
    simp only [fraction_of_ne_nil hFraction, List.append_nil]

/-! ## Decimals -/

/-- The digits of a decimal, positional or scientific by the exponent of the first digit. -/
def general (d : Decimal) (limit : Int) : Numeral :=
  if -4 ≤ d.leading ∧ d.leading < limit then
    positional d.digits d.leading d.digits_ne_nil fun _ => d.isDigit_digits
  else scientific d.digits d.leading d.digits_ne_nil fun _ => d.isDigit_digits

theorem chars_general (d : Decimal) (limit : Int) :
    (general d limit).chars = Magnitude.generalLayout d limit := by
  unfold general Magnitude.generalLayout
  split
  · exact chars_positional _ _ _ _
  · exact chars_scientific _ _ _ _

/-- The layout of a decimal denotes its value. -/
theorem value_general (d : Decimal) (limit : Int) : (general d limit).decimal.value = d.value := by
  rw [← d.value_digits]
  unfold general
  split
  · exact value_positional _ _ _ _
  · exact value_scientific _ _ _ _

theorem isTrim_general {d : Decimal} (hNonzero : d.coefficient ≠ 0) (limit : Int) :
    (general d limit).IsTrim := by
  unfold general
  split
  · exact isTrim_positional _ _ _ _ (d.head?_digits hNonzero)
  · exact isTrim_scientific _ _ _ _

end Numeral

end UnitConversion
