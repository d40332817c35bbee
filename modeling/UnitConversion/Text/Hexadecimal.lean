/-!
# Hexadecimal digits

* `hexValue?`: the value of a digit in either case.
* `upperHex`: the upper-case digit of a value.
* `lowerHexText`: bytes in lower-case digits.
-/

namespace UnitConversion.Text

/-- The value of a hexadecimal digit. -/
def hexValue? (c : Char) : Option Nat :=
  if c.isDigit then some (c.toNat - '0'.toNat)
  else if 'a' ≤ c ∧ c ≤ 'f' then some (c.toNat - 'a'.toNat + 10)
  else if 'A' ≤ c ∧ c ≤ 'F' then some (c.toNat - 'A'.toNat + 10)
  else none

/-- The upper-case hexadecimal digit of a value below sixteen. -/
def upperHex (n : Nat) : Char := Char.ofNat (if n < 10 then 48 + n else 55 + n)

/-- Bytes in lower-case digits, two for each. -/
def lowerHexText (bytes : List UInt8) : String :=
  String.ofList (bytes.flatMap fun b => [(b.toNat / 16).digitChar, (b.toNat % 16).digitChar])

/-- Digits are read as the values they were written for. -/
theorem hexValue?_upperHex {n : Nat} (h : n < 16) : hexValue? (upperHex n) = some n := by
  have hAll : ∀ k : Fin 16, hexValue? (upperHex k) = some k.val := by decide
  exact hAll ⟨n, h⟩

end UnitConversion.Text
