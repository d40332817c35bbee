import UnitConversion.Text.Basic

/-!
# Texts without a UTF-8 form

Halves of surrogate pairs have no UTF-8 form. A text that has to be sent or stored as bytes is refused
at its first half.

* `Text.requireWhole`: the characters of a text, or where it is broken.
-/

namespace UnitConversion

/-- The first halves in a text: their place, the first of them, and how many stand in a row. -/
structure BrokenText where
  start : Nat
  first : Nat
  count : Nat
deriving DecidableEq, Repr

/-- The message about halves, each of which is named by its escape. -/
def BrokenText.message (e : BrokenText) : String :=
  let escape := String.ofList ('\\' :: 'u' :: Nat.toDigits 16 e.first)
  let what :=
    if e.count = 1 then s!"character '{escape}' in position {e.start}"
    else s!"characters in position {e.start}-{e.start + e.count - 1}"
  s!"'utf-8' codec can't encode {what}: surrogates not allowed"

namespace Text

/-- The code point is half of a surrogate pair. -/
def isHalf (p : CodePoint) : Bool := p.char?.isNone

/-- The characters of a text, or the halves that it has. -/
def requireWhole (t : Text) : Except BrokenText (List Char) :=
  match t.chars? with
  | some cs => .ok cs
  | none =>
    let rest := t.dropWhile fun p => !isHalf p
    .error
      { start := t.length - rest.length
        first := (rest.head?.map CodePoint.code).getD 0
        count := (rest.takeWhile isHalf).length }

end Text

end UnitConversion
