import Mathlib.Tactic.FieldSimp
import Mathlib.Tactic.NormNum
import Mathlib.Tactic.Ring
import UnitConversion.Transform.Declarations

/-!
# Declared formulas

A transform computes the formula that its pair was declared with, in the direction that the orientation
of the pair gives, and the solved formula in the other direction. Over the rationals the two directions
undo each other, because the factor of a transform is never zero.

* `Transform.Realizes`: the two directions of a transform, said with factor and offset.
* `Declarations.Declares`: a transform computes what a table declares for a pair.
* `Declarations.declares_of_build`: a transform that was built computes what is declared.
* `Transform.forward_backward`, `Transform.backward_forward`: the exact directions are inverse.
-/

namespace UnitConversion

variable {α : Type} [Scalar α]

/-- The formula stands in one direction and, solved for its argument, in the other one. A swapped
transform has the formula in the direction that leads away from the primary unit. -/
def Transform.Realizes (t : Transform α) (swapped : Bool) (factor offset : α) : Prop :=
  ∀ x,
    t.forward x = (if swapped then (x - offset) * factor⁻¹ else factor * x + offset) ∧
    t.backward x = if swapped then factor * x + offset else (x - offset) * factor⁻¹

/-- The transform computes what the table declares for the pair. -/
def Declarations.Declares (table : Declarations α) (pair : UnitPair) (t : Transform α) : Prop :=
  ∃ factor offset, table.formulas.lookup pair = some (factor, offset) ∧
    t.Realizes (table.swapped.contains pair) factor offset

theorem Transform.build_ok {swapped : Bool} {factor offset : α} {t : Transform α}
    (h : build swapped factor offset = .ok t) :
    Scalar.negligible factor = false ∧ t = ⟨factor, offset, factor⁻¹, swapped⟩ := by
  unfold build at h
  split at h
  · cases h
  · rename_i hFactor
    cases h
    exact ⟨by simpa using hFactor, rfl⟩

/-- A transform is only built from a declaration. -/
theorem Declarations.build_ok {table : Declarations α} {pair : UnitPair} {t : Transform α}
    (h : table.build pair = .ok t) :
    ∃ factor offset, table.formulas.lookup pair = some (factor, offset) ∧
      Transform.build (table.swapped.contains pair) factor offset = .ok t := by
  unfold build at h
  split at h
  · cases h
  · exact ⟨_, _, by assumption, h⟩

theorem Declarations.declares_of_build {table : Declarations α} {pair : UnitPair} {t : Transform α}
    (h : table.build pair = .ok t) : table.Declares pair t := by
  obtain ⟨factor, offset, hLookup, hBuild⟩ := Declarations.build_ok h
  obtain ⟨-, rfl⟩ := Transform.build_ok hBuild
  exact ⟨factor, offset, hLookup, fun x => ⟨rfl, rfl⟩⟩

/-! ## The exact reading -/

namespace Transform

theorem factor_ne_zero {factor : Rat} (h : Scalar.negligible factor = false) : factor ≠ 0 := by
  rintro rfl
  have hZero : Scalar.negligible (0 : Rat) = true := decide_eq_true (by norm_num)
  rw [hZero] at h
  cases h

variable {swapped : Bool} {factor offset : Rat} {t : Transform Rat}

theorem apply_solve (h : build swapped factor offset = .ok t) (x : Rat) :
    t.apply (t.solve x) = x := by
  obtain ⟨hFactor, rfl⟩ := build_ok h
  have hne := factor_ne_zero hFactor
  show factor * ((x - offset) * factor⁻¹) + offset = x
  field_simp
  ring

theorem solve_apply (h : build swapped factor offset = .ok t) (x : Rat) :
    t.solve (t.apply x) = x := by
  obtain ⟨hFactor, rfl⟩ := build_ok h
  have hne := factor_ne_zero hFactor
  show (factor * x + offset - offset) * factor⁻¹ = x
  field_simp
  ring

/-- Exactly computed, the way to the primary unit undoes the way from it. -/
theorem forward_backward (h : build swapped factor offset = .ok t) (x : Rat) :
    t.forward (t.backward x) = x := by
  unfold forward backward
  cases t.swapped with
  | false => exact apply_solve h x
  | true => exact solve_apply h x

/-- Exactly computed, the way from the primary unit undoes the way to it. -/
theorem backward_forward (h : build swapped factor offset = .ok t) (x : Rat) :
    t.backward (t.forward x) = x := by
  unfold forward backward
  cases t.swapped with
  | false => exact solve_apply h x
  | true => exact apply_solve h x

end Transform

end UnitConversion
