/-!
# Cursors

A cursor is a place in the text of a settings file: what is still to be read, and the number of the
character, the line and the column. The end of the text reads as no character.

* `Cursor.next`, `Cursor.skip`, `Cursor.skipWhile`: later places.
* `Cursor.lineBreak?`: the line break at a place.
-/

namespace UnitConversion.Settings

/-! ## Kinds of characters -/

/-- The characters that end a line. -/
def isBreak (c : Char) : Bool := c == '\n' || [0xD, 0x85, 0x2028, 0x2029].contains c.toNat

/-- The text ends here or a line does. -/
def endsLine : Option Char → Bool
  | none => true
  | some c => isBreak c

/-- The text or a line ends here, or there is a space. -/
def endsWord : Option Char → Bool
  | some ' ' => true
  | c => endsLine c

/-- The text or a line ends here, or there is a space or a tab. -/
def isGap : Option Char → Bool
  | some '\t' => true
  | c => endsWord c

/-- The characters that a text may hold. -/
def isAllowed (c : Char) : Bool :=
  let n := c.toNat
  n == 0x9 || n == 0xA || n == 0xD || (0x20 ≤ n && n ≤ 0x7E) || n == 0x85 ||
    (0xA0 ≤ n && n ≤ 0xFFFD) || 0x10000 ≤ n

/-- The characters of names. -/
def isNameChar (c : Char) : Bool := c.isAlphanum || c == '-' || c == '_'

/-! ## Cursors -/

structure Cursor where
  rest : List Char
  index : Nat := 0
  line : Nat := 0
  column : Nat := 0

namespace Cursor

/-- The character at the cursor. -/
def peek (c : Cursor) : Option Char := c.rest.head?

/-- The character behind the one at the cursor. -/
def peekSecond (c : Cursor) : Option Char := c.rest[1]?

/-- The next place. A byte order mark takes no column. -/
def next (c : Cursor) : Cursor :=
  match c.rest with
  | [] => c
  | ch :: rest =>
    if isBreak ch then ⟨rest, c.index + 1, c.line + 1, 0⟩
    else ⟨rest, c.index + 1, c.line, if ch.toNat = 0xFEFF then c.column else c.column + 1⟩

/-- The place so many characters further on. -/
def skip (c : Cursor) : (count : Nat) → Cursor
  | 0 => c
  | count + 1 => c.next.skip count

/-- The characters at the cursor that belong to a set, and the place behind them. -/
def takeWhile (c : Cursor) (p : Char → Bool) : List Char × Cursor :=
  let taken := c.rest.takeWhile p
  (taken, c.skip taken.length)

/-- The place behind the characters of a set. -/
def skipWhile (c : Cursor) (p : Char → Bool) : Cursor := (c.takeWhile p).2

/-- The place behind the spaces. -/
def skipSpaces (c : Cursor) : Cursor := c.skipWhile (· == ' ')

/-- The place behind a comment, which reaches up to the end of the line. -/
def skipComment (c : Cursor) : Cursor :=
  if c.peek = some '#' then c.skipWhile (!isBreak ·) else c

/-- The line break at the cursor and the place behind it. All breaks but the two separators of Unicode
are read as a line feed. -/
def lineBreak? (c : Cursor) : Option (Char × Cursor) :=
  match c.peek with
  | some ch =>
    if isBreak ch then some (if ch.toNat < 0x2028 then '\n' else ch, c.next) else none
  | none => none

/-- The rest of a line that holds nothing more than a comment, and the place behind it. -/
def restOfLine? (c : Cursor) : Option Cursor :=
  let c := c.skipSpaces.skipComment
  match c.lineBreak? with
  | some (_, c) => some c
  | none => if c.peek.isNone then some c else none

/-- There are three of these characters at the cursor and then a gap. -/
def hasMarker (c : Cursor) (ch : Char) : Bool :=
  c.rest.take 3 == [ch, ch, ch] && isGap c.rest[3]?

/-- A document starts or ends here, if this is the first column. -/
def hasDocumentMarker (c : Cursor) : Bool := c.hasMarker '-' || c.hasMarker '.'

end Cursor

/-- The text with each line ended by a line feed. -/
def unifyLineEnds : List Char → List Char
  | '\r' :: '\n' :: rest => '\n' :: unifyLineEnds rest
  | '\r' :: rest => '\n' :: unifyLineEnds rest
  | c :: rest => c :: unifyLineEnds rest
  | [] => []

end UnitConversion.Settings
