/-!
# Texts

A text is a list of code points. Escapes can spell half of a surrogate pair, which is a code point but
no character. Such a half is kept as it is, and has no UTF-8 form.

* `Text.ofString`: the text of a string. Strings are taken for texts where a text is needed.
* `Text.chars?`: the characters of a text without halves.
* `Text.precedes`: the order by code points.
-/

namespace UnitConversion

/-- A code point: a character, or half of a surrogate pair that stands alone. -/
inductive CodePoint where
  | char (c : Char)
  /-- The surrogate `0xD800 + n`. -/
  | half (n : Fin 0x800)
deriving DecidableEq, Repr

namespace CodePoint

/-- The number of a code point. -/
def code : CodePoint → Nat
  | .char c => c.toNat
  | .half n => 0xD800 + n

/-- The code point with a number. -/
def ofNat (n : Nat) : CodePoint :=
  if h : 0xD800 ≤ n ∧ n < 0xE000 then .half ⟨n - 0xD800, by omega⟩ else .char (.ofNat n)

/-- The character, if it is one. -/
def char? : CodePoint → Option Char
  | .char c => some c
  | .half _ => none

end CodePoint

/-- A list of code points. -/
abbrev Text := List CodePoint

namespace Text

/-- The text of characters. -/
def ofChars (cs : List Char) : Text := cs.map .char

/-- The text of a string. -/
def ofString (s : String) : Text := ofChars s.toList

instance : Coe String Text := ⟨ofString⟩

/-- The characters of a text, if it has no halves. -/
def chars? (t : Text) : Option (List Char) := t.mapM CodePoint.char?

/-- The text has no halves. -/
def isWhole (t : Text) : Bool := t.chars?.isSome

/-- The characters of a text, with the replacement character for each half. -/
def replacing (t : Text) : List Char := t.map fun p => p.char?.getD (.ofNat 0xFFFD)

/-- The first text does not come after the second one in the order by code points. -/
def precedes : Text → Text → Bool
  | [], _ => true
  | _ :: _, [] => false
  | p :: a, q :: b => p.code < q.code || (p.code == q.code && precedes a b)

/-- A line of text: the parts of it one after the other. -/
def line (parts : List Text) : Text := parts.flatten

/-- The text of characters has these characters. -/
theorem chars?_ofChars (cs : List Char) : (ofChars cs).chars? = some cs := by
  induction cs with
  | nil => rfl
  | cons c rest ih => simp_all [chars?, ofChars, CodePoint.char?]

theorem isWhole_ofChars (cs : List Char) : (ofChars cs).isWhole = true := by
  rw [isWhole, chars?_ofChars]
  rfl

end Text

end UnitConversion
