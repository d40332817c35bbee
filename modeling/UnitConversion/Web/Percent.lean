import UnitConversion.Text.Hexadecimal
import UnitConversion.Text.Utf8

/-!
# Percent escapes

A percent sign with two hexadecimal digits stands for a byte, all else for the bytes of its UTF-8
form. The bytes of a text are then read as UTF-8.

* `Percent.encode`: a text in which all characters but some plain ones are escaped.
* `Percent.decode`: the text of an escaped one. Bytes that are not UTF-8 stay escaped.
* `Percent.decodeReplacing`: the same with replacement characters for such bytes.
-/

namespace UnitConversion.Percent

/-- The escape of a byte. -/
def escape (b : UInt8) : List Char :=
  ['%', Text.upperHex (b.toNat / 16), Text.upperHex (b.toNat % 16)]

/-- A text with all characters escaped that are not plain. -/
def encode (plain : Char → Bool) (cs : List Char) : List Char :=
  cs.flatMap fun c => if plain c then [c] else (Utf8.encodeCode c.toNat).flatMap escape

/-- The characters that never need an escape. -/
def isUnreserved (c : Char) : Bool := c.isAlphanum || ['-', '.', '_', '~'].contains c

/-- The bytes of an escaped text. A percent sign without two digits stands for itself. -/
def bytes : List Char → List UInt8
  | '%' :: a :: b :: rest =>
    match Text.hexValue? a, Text.hexValue? b with
    | some high, some low => .ofNat (high * 16 + low) :: bytes rest
    | _, _ => .ofNat '%'.toNat :: bytes (a :: b :: rest)
  | c :: rest => Utf8.encodeCode c.toNat ++ bytes rest
  | [] => []

/-- The text of an escaped one. Bytes that are not UTF-8 stay escaped. -/
def decode (cs : List Char) : List Char :=
  (Utf8.pieces (bytes cs)).flatMap fun
    | .code n => [Char.ofNat n]
    | .stray bytes => bytes.flatMap escape

/-- The text of an escaped one, with replacement characters for bytes that are not UTF-8. -/
def decodeReplacing (cs : List Char) : List Char := Utf8.decodeReplacing (bytes cs)

end UnitConversion.Percent
