import UnitConversion.Text.Basic
import UnitConversion.Text.Printable

/-!
# Text literals

The form in which a message shows a text: between quotation marks, on one line, with characters that
are not printable escaped. The marks are single ones, unless the text has single marks and no double
ones. Bytes are shown in the same way, behind a letter.

* `literal`: a text as a literal.
* `bytesLiteral`: bytes as a literal.
-/

namespace UnitConversion.Text

/-- Lower-case hexadecimal digits, at least as many as asked for. -/
def hexDigits (width n : Nat) : List Char :=
  let digits := Nat.toDigits 16 n
  List.replicate (width - digits.length) '0' ++ digits

/-- The escape of a character by its code point. -/
def codeEscape (n : Nat) : List Char :=
  if n < 0x100 then '\\' :: 'x' :: hexDigits 2 n
  else if n < 0x10000 then '\\' :: 'u' :: hexDigits 4 n
  else '\\' :: 'U' :: hexDigits 8 n

/-- A character between quotation marks of the given kind. -/
def literalChar (mark c : Char) : List Char :=
  if c = mark || c = '\\' then ['\\', c]
  else if c = '\n' then ['\\', 'n']
  else if c = '\r' then ['\\', 'r']
  else if c = '\t' then ['\\', 't']
  else if isPrintable c then [c]
  else codeEscape c.toNat

/-- A code point between quotation marks of the given kind. -/
def literalPoint (mark : Char) : CodePoint → List Char
  | .char c => literalChar mark c
  | p => codeEscape p.code

/-- The quotation mark that a text is put between. -/
def quotationMark (t : Text) : Char :=
  if t.contains (.char '\'') && !t.contains (.char '"') then '"' else '\''

/-- A text as a literal. -/
def literal (t : Text) : List Char :=
  let mark := quotationMark t
  mark :: (t.flatMap (literalPoint mark) ++ [mark])

/-- A byte between quotation marks of the given kind. -/
def literalByte (mark : Char) (b : UInt8) : List Char :=
  if b.toNat < 0x7F then literalChar mark (.ofNat b.toNat) else codeEscape b.toNat

/-- Bytes as a literal. -/
def bytesLiteral (bs : List UInt8) : List Char :=
  let mark := quotationMark (bs.map fun b => .ofNat b.toNat)
  'b' :: mark :: (bs.flatMap (literalByte mark) ++ [mark])

end UnitConversion.Text
