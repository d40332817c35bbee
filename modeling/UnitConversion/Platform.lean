import UnitConversion.Decimal.Logarithm
import UnitConversion.Text.Basic

/-!
# The platform that a server runs on

Some of what a server does is not decided by its own program: how the decimal logarithm is rounded, how many digits
are counted, how much memory there is and how deep calls may be nested, in which order a set is listed, and how the
router merges slashes. All of this is a platform. What is known of every platform is carried along with it.

* `Platform`: what is not decided by the program, and what is known of it.
* `Platform.logFloor`: the integer part of the rounded logarithm.
* `Standard.platform`: a platform.
-/

namespace UnitConversion

/-! ## Slashes -/

/-- The path with each run of slashes replaced by one. -/
def singleSlashes : List Char → List Char
  | '/' :: '/' :: rest => singleSlashes ('/' :: rest)
  | c :: rest => c :: singleSlashes rest
  | [] => []

/-- Three slashes stand in a row. -/
def hasThreeSlashes : List Char → Bool
  | '/' :: '/' :: '/' :: _ => true
  | _ :: rest => hasThreeSlashes rest
  | [] => false

/-! ## Platforms -/

structure Platform where
  /-- The decimal logarithm of a positive magnitude, rounded. -/
  logarithm : Magnitude → Binary64
  /-- The error is less than the logarithm of two, and a power of ten that is not above the magnitude is not
  missed: the integer part lies between those of the logarithms of the magnitude and of its double. -/
  logarithm_bounds (m : Magnitude) : m.units ≠ 0 → ∃ n, (logarithm m).floor? = some n ∧
    leadingExponent m.units oneUnits ≤ n ∧ n ≤ leadingExponent (2 * m.units) oneUnits
  /-- The most digits up to the last place that are counted when a number is written in fixed places. With 31
  bits so many can be. -/
  digitsLimit : Nat
  digitsLimit_ge : 2147483647 ≤ digitsLimit
  /-- The most zeros of a text that memory has room for. They can be counted in 63 bits. -/
  zerosLimit : Nat
  zerosLimit_bounds : 2000000 ≤ zerosLimit ∧ zerosLimit ≤ 2 ^ 63
  /-- The most arrays and objects inside of each other that are read in a body. -/
  readingDepth : Nat
  /-- The most arrays and objects inside of each other that are written. -/
  writingDepth : Nat
  /-- There is room for the requests that the server knows and for what it puts into its envelopes. -/
  depths_ge : 8 ≤ readingDepth ∧ 8 ≤ writingDepth
  /-- The order in which a set of texts is listed. -/
  listing : List Text → List Text
  listing_perm (ts : List Text) : (listing ts).Perm ts
  /-- The path that the router tries when it does not know a path as it stands. -/
  mergeSlashes : List Char → List Char
  /-- Consecutive slashes are merged. From three in a row on, releases of the router differ in how many are left. -/
  mergeSlashes_eq (path : List Char) : hasThreeSlashes path = false → mergeSlashes path = singleSlashes path

/-- The integer part of the rounded logarithm of a positive magnitude. -/
def Platform.logFloor (platform : Platform) (m : Magnitude) : Int := (platform.logarithm m).floor?.getD 0

theorem Platform.logFloor_bounds (platform : Platform) {m : Magnitude} (hPos : m.units ≠ 0) :
    leadingExponent m.units oneUnits ≤ platform.logFloor m ∧
      platform.logFloor m ≤ leadingExponent (2 * m.units) oneUnits := by
  obtain ⟨n, hFloor, hBounds⟩ := platform.logarithm_bounds m hPos
  rw [logFloor, hFloor]
  exact hBounds

/-! ## A platform -/

theorem Magnitude.natAbs_leadingExponent_le (m : Magnitude) : (leadingExponent m.units oneUnits).natAbs ≤ 700 := by
  have hNum : overflowUnits ≤ 10 ^ 700 := by decide +kernel
  have hDen : oneUnits ≤ 10 ^ 700 := by decide +kernel
  exact UnitConversion.natAbs_leadingExponent_le (by decide) (Nat.lt_of_lt_of_le m.representable.1 hNum) hDen

namespace Standard

/-- The integer part of a logarithm lies between those of the magnitude and of its double. -/
def IsLogarithm (m : Magnitude) (x : Binary64) : Prop :=
  leadingExponent m.units oneUnits ≤ x.floor?.getD 0 ∧ x.floor?.getD 0 ≤ leadingExponent (2 * m.units) oneUnits ∧
    x.floor?.isSome

instance (m : Magnitude) (x : Binary64) : Decidable (IsLogarithm m x) :=
  inferInstanceAs (Decidable (_ ∧ _ ∧ _))

/-- The computed logarithm. Its integer part is checked, and that of the magnitude stands behind it. -/
def logarithm (m : Magnitude) : Binary64 :=
  if IsLogarithm m m.logarithm then m.logarithm else .ofInt (leadingExponent m.units oneUnits)

theorem logarithm_bounds (m : Magnitude) (hPos : m.units ≠ 0) : ∃ n, (logarithm m).floor? = some n ∧
    leadingExponent m.units oneUnits ≤ n ∧ n ≤ leadingExponent (2 * m.units) oneUnits := by
  unfold logarithm
  split
  · rename_i hChecked
    obtain ⟨hLow, hHigh, hSome⟩ := hChecked
    obtain ⟨n, hn⟩ := Option.isSome_iff_exists.mp hSome
    rw [hn] at hLow hHigh
    exact ⟨n, hn, hLow, hHigh⟩
  · have hSmall := Nat.le_trans m.natAbs_leadingExponent_le (show 700 ≤ 2 ^ 53 by decide)
    exact ⟨_, Binary64.floor?_ofInt hSmall, Int.le_refl _,
      leadingExponent_mono (Nat.pos_of_ne_zero hPos) (by omega)⟩

/-- A platform that counts digits with 31 bits, with room for a tebibyte of zeros and for a thousand nested
calls, of which the server takes a few. It lists sets in the order in which they were made, and its router
merges all slashes in a row. -/
def platform : Platform where
  logarithm := logarithm
  logarithm_bounds := logarithm_bounds
  digitsLimit := 2147483647
  digitsLimit_ge := Nat.le_refl _
  zerosLimit := 2 ^ 40
  zerosLimit_bounds := by decide
  readingDepth := 978
  writingDepth := 968
  depths_ge := by decide
  listing := id
  listing_perm := .refl
  mergeSlashes := singleSlashes
  mergeSlashes_eq _ _ := rfl

end Standard

end UnitConversion
