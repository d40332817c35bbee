import UnitConversion.Power
import UnitConversion.Settings.Cursor
import UnitConversion.Settings.Error
import UnitConversion.Text.Hexadecimal

/-!
# Scalars

The texts of single values. A plain scalar stands without marks, a quoted one between single or double
quotation marks, and a block scalar on indented lines of its own. A line break inside a scalar is
folded: a single one is read as a space, and of several the first is left out.

Each reader starts at the scalar and gives its text with the place behind it. The number of its rounds
is bounded by the length of the text.

* `plainScalar`, `quotedScalar`, `blockScalar?`: the three forms.
-/

namespace UnitConversion.Settings

/-- The text that a line break and the breaks behind it are folded to. -/
def fold (first : Char) (others : List Char) : List Char :=
  if first ≠ '\n' then first :: others
  else if others.isEmpty then [' ']
  else others

/-! ## Plain scalars -/

/-- The characters that have a meaning of their own inside brackets. -/
def isFlowIndicator (c : Char) : Bool := [',', '[', ']', '\x7b', '\x7d'].contains c

/-- A word of a plain scalar ends before this character. -/
def endsPlainWord (inFlow : Bool) (c : Char) (following : Option Char) : Bool :=
  isGap (some c) ||
    (c == ':' && (isGap following || (inFlow && following.any isFlowIndicator))) ||
    (inFlow && (c == '?' || isFlowIndicator c))

/-- The word of a plain scalar at the start of a text. -/
def plainWord (inFlow : Bool) : List Char → List Char
  | [] => []
  | c :: rest => if endsPlainWord inFlow c rest.head? then [] else c :: plainWord inFlow rest

/-- The breaks among spaces and breaks, and the place behind them. At a document marker there is no
such place. -/
def plainBreaks : (rounds : Nat) → Cursor → Option (List Char) × Cursor
  | 0, c => (some [], c)
  | rounds + 1, c =>
    match c.skipSpaces.lineBreak? with
    | none => (some [], c.skipSpaces)
    | some (lineBreak, c) =>
      if c.hasDocumentMarker then (none, c)
      else
        let (breaks?, c) := plainBreaks rounds c
        (breaks?.map (lineBreak :: ·), c)

/-- What separates two words of a plain scalar. -/
structure Separation where
  /-- What is read for the separation. Nothing ends the scalar. -/
  text : List Char
  /-- The separation crosses the end of a line. -/
  crossesLine : Bool
  stop : Cursor

/-- The separation behind a word. -/
def separation (c : Cursor) : Separation :=
  let (spaces, c) := c.takeWhile (· == ' ')
  match c.lineBreak? with
  | none => ⟨spaces, false, c⟩
  | some (lineBreak, c) =>
    if c.hasDocumentMarker then ⟨[], true, c⟩
    else
      let (breaks?, c) := plainBreaks (c.rest.length + 1) c
      match breaks? with
      | none => ⟨[], true, c⟩
      | some breaks => ⟨fold lineBreak breaks, true, c⟩

/-- The words of a plain scalar whose lines are indented at least so far. -/
def plainWords (inFlow : Bool) (indent : Int) :
    (rounds : Nat) → (before : List Char) → (crossed : Bool) → Cursor → List Char × Bool × Cursor
  | 0, _, crossed, c => ([], crossed, c)
  | rounds + 1, before, crossed, c =>
    let word := plainWord inFlow c.rest
    if c.peek = some '#' || word.isEmpty then ([], crossed, c)
    else
      let s := separation (c.skip word.length)
      if s.text.isEmpty || s.stop.peek = some '#' || (!inFlow && s.stop.column < indent) then
        (before ++ word, s.crossesLine, s.stop)
      else
        let (text, crossed, stop) := plainWords inFlow indent rounds s.text s.crossesLine s.stop
        (before ++ word ++ text, crossed, stop)

/-- The text of a plain scalar, whether a line ends behind it, and the place behind it. -/
def plainScalar (inFlow : Bool) (indent : Int) (c : Cursor) : Text × Bool × Cursor :=
  let (text, crossed, stop) := plainWords inFlow indent (c.rest.length + 1) [] false c
  (Text.ofChars text, crossed, stop)

/-! ## Quoted scalars -/

/-- The character of a short escape. -/
def escapedChar? : Char → Option Char
  | '0' => some (Char.ofNat 0)
  | 'a' => some (Char.ofNat 7)
  | 'b' => some (Char.ofNat 8)
  | 't' | '\t' => some '\t'
  | 'n' => some '\n'
  | 'v' => some (Char.ofNat 11)
  | 'f' => some (Char.ofNat 12)
  | 'r' => some '\r'
  | 'e' => some (Char.ofNat 27)
  | ' ' => some ' '
  | '"' => some '"'
  | '\\' => some '\\'
  | '/' => some '/'
  | 'N' => some (Char.ofNat 0x85)
  | '_' => some (Char.ofNat 0xA0)
  | 'L' => some (Char.ofNat 0x2028)
  | 'P' => some (Char.ofNat 0x2029)
  | _ => none

/-- The number of digits behind the letter of a numeric escape. -/
def escapeWidth? : Char → Option Nat
  | 'x' => some 2
  | 'u' => some 4
  | 'U' => some 8
  | _ => none

/-- The number that hexadecimal digits denote. -/
def hexNumber? (digits : List Char) : Option Nat :=
  digits.foldlM (fun n d => (Text.hexValue? d).map (n * 16 + ·)) 0

/-- The code point with a number that an escape gives. -/
def escapedPoint (n : Nat) : Except ReadError CodePoint :=
  if n < 0x110000 then .ok (.ofNat n)
  else if n < 2 ^ 31 then .error .codeOutOfRange
  else .error .codeTooLarge

/-- The code point of a numeric escape behind its backslash, and the place behind it. -/
def numericEscape (c : Cursor) : Except ReadError (CodePoint × Cursor) :=
  let width := (c.peek.bind escapeWidth?).getD 0
  let digits := c.rest.tail.take width
  match (hexNumber? digits).filter fun _ => digits.length = width with
  | some n => (escapedPoint n).map fun p => (p, c.skip (width + 1))
  | none => .error .malformed

/-- The breaks among blanks and breaks inside quotation marks. A document marker is refused. -/
def quotedBreaks : (rounds : Nat) → Cursor → Except ReadError (List Char × Cursor)
  | 0, c => .ok ([], c)
  | rounds + 1, c =>
    if c.hasDocumentMarker then .error .malformed
    else
      let c := c.skipWhile fun ch => ch == ' ' || ch == '\t'
      match c.lineBreak? with
      | none => .ok ([], c)
      | some (lineBreak, c) => do
        let (breaks, c) ← quotedBreaks rounds c
        return (lineBreak :: breaks, c)

/-- Characters at a place are a text at that place. -/
def asText (result : List Char × Cursor) : Text × Cursor := (Text.ofChars result.1, result.2)

/-- The text of an escape behind its backslash. An escaped line break is left out. -/
def escape (c : Cursor) : Except ReadError (Text × Cursor) :=
  match c.peek.bind escapedChar?, c.peek.bind escapeWidth?, c.lineBreak? with
  | some short, _, _ => .ok (Text.ofChars [short], c.next)
  | none, some _, _ => (numericEscape c).map fun (p, stop) => ([p], stop)
  | none, none, some (_, c) => (quotedBreaks (c.rest.length + 1) c).map asText
  | none, none, none => .error .malformed

/-- A part of a quoted scalar: a character, an escape, or blanks with what is folded behind them. -/
def quotedPart (double : Bool) (c : Cursor) : Except ReadError (Text × Cursor) := do
  match c.peek with
  | none => throw .malformed
  | some ch =>
    if ch == ' ' || ch == '\t' || isBreak ch then
      let (blanks, c) := c.takeWhile fun ch => ch == ' ' || ch == '\t'
      match c.lineBreak? with
      | some (lineBreak, c) =>
        let (breaks, c) ← quotedBreaks (c.rest.length + 1) c
        return asText (fold lineBreak breaks, c)
      | none => return asText (blanks, c)
    else if double && ch == '\\' then escape c.next
    else if !double && ch == '\'' then return asText ([ch], c.skip 2)
    else return asText ([ch], c.next)

/-- The text up to the closing quotation mark, and the place behind the mark. A doubled single mark
stands for itself. -/
def quotedText (double : Bool) : (rounds : Nat) → Cursor → Except ReadError (Text × Cursor)
  | 0, _ => .error .malformed
  | rounds + 1, c =>
    let mark := if double then '"' else '\''
    if c.peek = some mark && (double || c.peekSecond ≠ some mark) then .ok ([], c.next)
    else do
      let (part, c) ← quotedPart double c
      let (text, c) ← quotedText double rounds c
      return (part ++ text, c)

/-- The text of a quoted scalar. -/
def quotedScalar (double : Bool) (c : Cursor) : Except ReadError (Text × Cursor) :=
  quotedText double (c.rest.length + 1) c.next

/-! ## Block scalars -/

/-- What the header of a block scalar asks for. -/
structure BlockHeader where
  /-- Keep all breaks at the end, or none. Unless it is said, one is kept. -/
  keep? : Option Bool := none
  /-- How far the lines are indented. Unless it is said, the first line shows it. -/
  indent? : Option Nat := none

/-- The header with a further sign, if it is one that the header may have and does not have yet. -/
def BlockHeader.add? (h : BlockHeader) (c : Char) : Option BlockHeader :=
  if h.keep?.isNone && (c == '+' || c == '-') then some { h with keep? := some (c == '+') }
  else if h.indent?.isNone && '1' ≤ c && c ≤ '9' then
    some { h with indent? := some (c.toNat - '0'.toNat) }
  else none

/-- The header of a block scalar and the place behind its line. -/
def blockHeader? (c : Cursor) : Option (BlockHeader × Cursor) := do
  let add (h : BlockHeader) (c : Cursor) : BlockHeader × Cursor :=
    match c.peek.bind h.add? with
    | some h => (h, c.next)
    | none => (h, c)
  let (h, c) := add {} c
  let (h, c) := add h c
  guard (endsWord c.peek)
  let c ← c.restOfLine?
  return (h, c)

/-- The empty lines before the first line of a block scalar, and the farthest that any line is
indented. -/
def leadingBreaks : (rounds : Nat) → (farthest : Nat) → Cursor → List Char × Nat × Cursor
  | 0, farthest, c => ([], farthest, c)
  | rounds + 1, farthest, c =>
    let c := c.skipSpaces
    let farthest := max farthest c.column
    match c.lineBreak? with
    | none => ([], farthest, c)
    | some (lineBreak, c) =>
      let (breaks, farthest, c) := leadingBreaks rounds farthest c
      (lineBreak :: breaks, farthest, c)

/-- The place behind the indentation of a line, and not beyond it. -/
def skipIndent (indent : Nat) (c : Cursor) : Cursor :=
  c.skip (min ((c.rest.takeWhile (· == ' ')).length) (indent - c.column))

/-- The empty lines between two lines of a block scalar. -/
def blockBreaks (indent : Nat) : (rounds : Nat) → Cursor → List Char × Cursor
  | 0, c => ([], c)
  | rounds + 1, c =>
    let c := skipIndent indent c
    match c.lineBreak? with
    | none => ([], c)
    | some (lineBreak, c) =>
      let (breaks, c) := blockBreaks indent rounds c
      (lineBreak :: breaks, c)

/-- A blank stands at the cursor. -/
def Cursor.atBlank (c : Cursor) : Bool := c.peek == some ' ' || c.peek == some '\t'

/-- The lines of a block scalar behind the given breaks, with the breaks at the end as the header asks
for. -/
def blockLines (folded : Bool) (keep? : Option Bool) (indent : Nat) :
    (rounds : Nat) → (breaks : List Char) → Cursor → List Char × Cursor
  | 0, _, c => ([], c)
  | rounds + 1, breaks, c =>
    let startsText := !c.atBlank
    let (line, c) := c.takeWhile (!isBreak ·)
    let (lineBreak, c) := match c.lineBreak? with
      | some (lineBreak, c) => ([lineBreak], c)
      | none => ([], c)
    let (after, c) := blockBreaks indent (c.rest.length + 1) c
    if c.column = indent && c.peek.isSome then
      let joint :=
        if folded && lineBreak = ['\n'] && startsText && !c.atBlank then
          (if after.isEmpty then [' '] else [])
        else lineBreak
      let (text, c) := blockLines folded keep? indent rounds after c
      (breaks ++ line ++ joint ++ text, c)
    else
      let ending := match keep? with
        | some false => []
        | none => lineBreak
        | some true => lineBreak ++ after
      (breaks ++ line ++ ending, c)

/-- The text of a block scalar in a block that is indented so far. -/
def blockScalar? (folded : Bool) (outer : Int) (c : Cursor) : Option (Text × Cursor) := do
  let (header, c) ← blockHeader? c.next
  let least := max (outer + 1).toNat 1
  let rounds := c.rest.length + 1
  let (breaks, indent, c) := match header.indent? with
    | none =>
      let (breaks, farthest, c) := leadingBreaks rounds 0 c
      (breaks, max least farthest, c)
    | some n =>
      let indent := least + n - 1
      let (breaks, c) := blockBreaks indent rounds c
      (breaks, indent, c)
  if c.column = indent && c.peek.isSome then
    let (text, c) := blockLines folded header.keep? indent rounds breaks c
    return (Text.ofChars text, c)
  else
    return (Text.ofChars (if header.keep? = some true then breaks else []), c)

end UnitConversion.Settings
