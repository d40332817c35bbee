import UnitConversion.Settings.Scalar
import UnitConversion.Text.Utf8

/-!
# Tokens of a settings file

The text is cut into tokens. Blocks have no brackets: where a block starts and ends follows from how
far lines are indented, and that something is the key of a mapping follows only from the colon behind
it. The layout therefore keeps the columns of the open blocks and, for each level of brackets, the
place of the last token that may turn out to be a key.

A key has to fit on one line, and in 1024 characters.

A text that cannot be cut to its end still has tokens: those that are settled before the error, and
then the error in place of all others. A token is not settled as long as it may turn out to be a key.

* `tokens`: the tokens of a text.
-/

namespace UnitConversion.Settings

/-- A line about the document that follows. -/
inductive Directive where
  | version (major : Nat)
  | tagHandle (handle uri : String)
  | other
deriving DecidableEq, Repr

inductive Token where
  | directive (d : Directive)
  | documentStart
  | documentEnd
  | sequenceStart
  | mappingStart
  | blockEnd
  | flowSequenceStart
  | flowSequenceEnd
  | flowMappingStart
  | flowMappingEnd
  | flowEntry
  | entry
  | key
  | value
  | alias (name : String)
  | anchor (name : String)
  | tag (handle : Option String) (suffix : String)
  | scalar (text : Text) (isPlain : Bool)
  /-- The text cannot be cut any further. -/
  | broken (e : ReadError)
deriving DecidableEq, Repr

/-! ## Names and tags -/

/-- The name of an anchor, and the place behind it. -/
def anchorName? (c : Cursor) : Option (String × Cursor) := do
  let (name, c) := c.takeWhile isNameChar
  guard (!name.isEmpty && (isGap c.peek || c.peek.any ("?:,]\x7d%@\x60".toList.contains ·)))
  return (String.ofList name, c)

/-- The characters of the part of a tag behind its handle. -/
def isTagChar (c : Char) : Bool := c.isAlphanum || "-;/?:@&=+$,_.!~*'()[]%".toList.contains c

/-- The bytes of the escapes in a row at the start of a text, and what follows them. -/
def escapedBytes : List Char → List UInt8 × List Char
  | '%' :: a :: b :: rest =>
    match Text.hexValue? a, Text.hexValue? b with
    | some high, some low =>
      let (bytes, rest') := escapedBytes rest
      (.ofNat (high * 16 + low) :: bytes, rest')
    | _, _ => ([], '%' :: a :: b :: rest)
  | cs => ([], cs)

/-- A part of a tag as it is meant. Escapes in a row spell characters in UTF-8. -/
def unescapeTag? : (rounds : Nat) → List Char → Option (List Char)
  | 0, _ => none
  | _, [] => some []
  | rounds + 1, '%' :: rest => do
    let (bytes, rest') := escapedBytes ('%' :: rest)
    guard (!bytes.isEmpty)
    let codes ← Utf8.codes? false bytes
    return codes.map Char.ofNat ++ (← unescapeTag? rounds rest')
  | rounds + 1, c :: rest => (unescapeTag? rounds rest).map (c :: ·)

/-- The part of a tag behind its handle, and the place behind it. -/
def tagSuffix? (c : Cursor) : Option (String × Cursor) := do
  let (suffix, c) := c.takeWhile isTagChar
  guard (!suffix.isEmpty)
  let meant ← unescapeTag? (suffix.length + 1) suffix
  return (String.ofList meant, c)

/-- A handle between exclamation marks, and the place behind it. -/
def tagHandle? (c : Cursor) : Option (String × Cursor) := do
  guard (c.peek = some '!')
  let (name, stop) := c.next.takeWhile isNameChar
  if stop.peek = some '!' then return (String.ofList ('!' :: name ++ ['!']), stop.next)
  else
    guard (name.isEmpty && stop.peek = some ' ')
    return ("!", stop)

/-- A tag and the place behind it. -/
def tagToken? (c : Cursor) : Option (Token × Cursor) := do
  let (token, c) ←
    if c.peekSecond = some '<' then do
      let (suffix, c) ← tagSuffix? (c.skip 2)
      guard (c.peek = some '>')
      pure (Token.tag none suffix, c.next)
    else if isGap c.peekSecond then pure (Token.tag none "!", c.next)
    else if (c.next.rest.takeWhile fun ch => ch != ' ' && !isBreak ch).contains '!' then do
      let (handle, c) ← tagHandle? c
      let (suffix, c) ← tagSuffix? c
      pure (Token.tag (some handle) suffix, c)
    else do
      let (suffix, c) ← tagSuffix? c.next
      pure (Token.tag (some "!") suffix, c)
  guard (endsWord c.peek)
  return (token, c)

/-! ## Directives -/

/-- A part of a version at the cursor. -/
def versionNumber? (c : Cursor) : Option (Nat × Cursor) := do
  let (digits, c) := c.takeWhile Char.isDigit
  guard (!digits.isEmpty)
  return (Nat.ofDigitChars 10 digits 0, c)

/-- A directive behind its percent sign, and the place behind its line. -/
def directive? (c : Cursor) : Option (Directive × Cursor) := do
  let (name, c) := c.takeWhile isNameChar
  guard (!name.isEmpty && endsWord c.peek)
  let (d, c) ←
    if name == "YAML".toList then do
      let (major, c) ← versionNumber? c.skipSpaces
      guard (c.peek = some '.')
      let (_, c) ← versionNumber? c.next
      guard (endsWord c.peek)
      pure (Directive.version major, c)
    else if name == "TAG".toList then do
      let (handle, c) ← tagHandle? c.skipSpaces
      guard (c.peek = some ' ')
      let (uri, c) ← tagSuffix? c.skipSpaces
      guard (endsWord c.peek)
      pure (Directive.tagHandle handle uri, c)
    else pure (Directive.other, c.skipWhile (!isBreak ·))
  let c ← c.restOfLine?
  return (d, c)

/-! ## The layout -/

/-- A token that may turn out to be the start of a key. -/
structure PossibleKey where
  /-- The number of tokens before it. -/
  place : Nat
  /-- At this place there can be nothing but a key. -/
  required : Bool
  start : Cursor

/-- What has been read of a text, and what is open. -/
structure Layout where
  cursor : Cursor
  /-- The tokens so far, the last one first. -/
  tokens : List Token := []
  /-- The number of tokens. -/
  count : Nat := 0
  /-- The number of open brackets. -/
  flow : Nat := 0
  /-- The column of the innermost block. Outside of all blocks it is negative. -/
  indent : Int := -1
  /-- The columns of the blocks around it, from the inside out. -/
  outer : List Int := []
  /-- A key may start here. -/
  keyAllowed : Bool := true
  /-- Possible keys by the number of open brackets. -/
  keys : List (Nat × PossibleKey) := []

namespace Layout

def push (l : Layout) (t : Token) : Layout := { l with tokens := t :: l.tokens, count := l.count + 1 }

/-- Puts a token behind the first `place` ones. -/
def insert (l : Layout) (place : Nat) (t : Token) : Layout :=
  let behind := l.count - place
  { l with tokens := l.tokens.take behind ++ t :: l.tokens.drop behind, count := l.count + 1 }

def inFlow (l : Layout) : Bool := l.flow != 0

/-- Ends the blocks that are indented farther than a column. -/
def unwind (column : Int) (l : Layout) : List Int → Layout
  | [] => l
  | outer :: rest =>
    if column < l.indent then
      unwind column { l.push .blockEnd with indent := outer, outer := rest } rest
    else l

/-- Ends the blocks that are indented farther than a column, unless there are open brackets. -/
def unwindTo (l : Layout) (column : Int) : Layout :=
  if l.inFlow then l else l.unwind column l.outer

/-- Starts a block at a column that is farther than that of the innermost block. Its first token goes
behind the first `place` ones. -/
def indentTo (l : Layout) (column place : Nat) (t : Token) : Layout :=
  if l.indent < column then
    { l.insert place t with indent := column, outer := l.indent :: l.outer }
  else l

/-- A possible key is out of reach when its line is over, or after 1024 characters. -/
def isStale (l : Layout) (k : PossibleKey) : Bool :=
  k.start.line != l.cursor.line || l.cursor.index - k.start.index > 1024

/-- Drops the possible keys that are out of reach. None of them may be required. -/
def dropStale? (l : Layout) : Option Layout := do
  guard (l.keys.all fun (_, k) => !(l.isStale k && k.required))
  return { l with keys := l.keys.filter fun (_, k) => !l.isStale k }

/-- Drops the possible key on the current level. It may not be required. -/
def dropKey? (l : Layout) : Option Layout := do
  guard (!(l.keys.lookup l.flow).any (·.required))
  return { l with keys := l.keys.filter (·.1 != l.flow) }

/-- Notes that the next token may start a key. -/
def noteKey? (l : Layout) : Option Layout := do
  if !l.keyAllowed then return l
  let l ← l.dropKey?
  let required := !l.inFlow && l.indent == l.cursor.column
  return { l with keys := (l.flow, ⟨l.count, required, l.cursor⟩) :: l.keys }

/-- The layout at a later place. -/
def moveTo (l : Layout) (c : Cursor) : Layout := { l with cursor := c }

/-! ## Between tokens -/

/-- Skips spaces, comments and line ends. A key may start on a new line, unless there are open
brackets. -/
def skipGaps : (rounds : Nat) → Layout → Layout
  | 0, l => l
  | rounds + 1, l =>
    let c := l.cursor.skipSpaces.skipComment
    match c.lineBreak? with
    | some (_, c) => skipGaps rounds { l with cursor := c, keyAllowed := l.keyAllowed || !l.inFlow }
    | none => l.moveTo c

/-! ## Single tokens -/

/-- A token of some characters outside of all blocks. -/
def outside? (l : Layout) : Option Layout := do
  let l ← (l.unwindTo (-1)).dropKey?
  return { l with keyAllowed := false }

/-- An opening bracket. -/
def flowStart? (l : Layout) (t : Token) : Option Layout := do
  let l ← l.noteKey?
  return { l.push t with flow := l.flow + 1, keyAllowed := true, cursor := l.cursor.next }

/-- A closing bracket. -/
def flowEnd? (l : Layout) (t : Token) : Option Layout := do
  guard l.inFlow
  let l ← l.dropKey?
  return { l.push t with flow := l.flow - 1, keyAllowed := false, cursor := l.cursor.next }

/-- A comma between the parts of a bracket. -/
def comma? (l : Layout) : Option Layout := do
  let l ← l.dropKey?
  return { l.push .flowEntry with keyAllowed := true, cursor := l.cursor.next }

/-- A dash before an item of a block. Among open brackets it starts no block. -/
def dash? (l : Layout) : Option Layout := do
  guard (l.keyAllowed || l.inFlow)
  let l := if l.inFlow then l else l.indentTo l.cursor.column l.count .sequenceStart
  let l ← l.dropKey?
  return { l.push .entry with keyAllowed := true, cursor := l.cursor.next }

/-- A question mark before a key. -/
def question? (l : Layout) : Option Layout := do
  guard (l.keyAllowed || l.inFlow)
  let l := if l.inFlow then l else l.indentTo l.cursor.column l.count .mappingStart
  let l ← l.dropKey?
  return { l.push .key with keyAllowed := !l.inFlow, cursor := l.cursor.next }

/-- A colon before a value. The possible key before it becomes one. -/
def colon? (l : Layout) : Option Layout := do
  match l.keys.lookup l.flow with
  | some k =>
    let l := { l with keys := l.keys.filter (·.1 != l.flow) }.insert k.place .key
    let l := if l.inFlow then l else l.indentTo k.start.column k.place .mappingStart
    return { l.push .value with keyAllowed := false, cursor := l.cursor.next }
  | none =>
    guard (l.keyAllowed || l.inFlow)
    let l := if l.inFlow then l else l.indentTo l.cursor.column l.count .mappingStart
    let l ← l.dropKey?
    return { l.push .value with keyAllowed := !l.inFlow, cursor := l.cursor.next }

/-- A token that may start a key and has been read up to the given place. -/
def content? (l : Layout) (t : Token) (c : Cursor) : Option Layout := do
  let l ← l.noteKey?
  return { l.push t with keyAllowed := false, cursor := c }

def plain? (l : Layout) : Option Layout := do
  let (text, crossed, c) := plainScalar l.inFlow (l.indent + 1) l.cursor
  let l ← l.content? (.scalar text true) c
  return { l with keyAllowed := crossed }

/-- A quoted scalar. It may start a key also if its text turns out to be broken. -/
def quoted (l : Layout) (double : Bool) : Except ReadError Layout :=
  match l.noteKey? with
  | none => .error .malformed
  | some noted => do
    let (text, c) ← quotedScalar double l.cursor
    return { noted.push (.scalar text false) with keyAllowed := false, cursor := c }

def block? (l : Layout) (folded : Bool) : Option Layout := do
  let l ← l.dropKey?
  let (text, c) ← blockScalar? folded l.indent l.cursor
  return { l.push (.scalar text false) with keyAllowed := true, cursor := c }

/-- The characters that start no plain scalar. -/
def isIndicator (c : Char) : Bool := "-?:,[]\x7b\x7d#&*!|>'\"%@\x60".toList.contains c

/-- A plain scalar starts here. -/
def startsPlain (l : Layout) (c : Char) : Bool :=
  !(isGap (some c) || isIndicator c) ||
    (!isGap l.cursor.peekSecond && (c == '-' || (!l.inFlow && (c == '?' || c == ':'))))

/-- The next token, which starts with the given character and is not quoted. -/
def token? (l : Layout) (c : Char) : Option Layout :=
  let c₁ := l.cursor
  if c == '%' && c₁.column == 0 then do
    let l ← l.outside?
    let (d, c) ← directive? c₁.next
    return (l.push (.directive d)).moveTo c
  else if c₁.column == 0 && c₁.hasMarker '-' then do
    let l ← l.outside?
    return (l.push .documentStart).moveTo (c₁.skip 3)
  else if c₁.column == 0 && c₁.hasMarker '.' then do
    let l ← l.outside?
    return (l.push .documentEnd).moveTo (c₁.skip 3)
  else if c == '[' then l.flowStart? .flowSequenceStart
  else if c == '\x7b' then l.flowStart? .flowMappingStart
  else if c == ']' then l.flowEnd? .flowSequenceEnd
  else if c == '\x7d' then l.flowEnd? .flowMappingEnd
  else if c == ',' then l.comma?
  else if c == '-' && isGap c₁.peekSecond then l.dash?
  else if c == '?' && (l.inFlow || isGap c₁.peekSecond) then l.question?
  else if c == ':' && (l.inFlow || isGap c₁.peekSecond) then l.colon?
  else if c == '*' then do
    let (name, c) ← anchorName? c₁.next
    l.content? (.alias name) c
  else if c == '&' then do
    let (name, c) ← anchorName? c₁.next
    l.content? (.anchor name) c
  else if c == '!' then do
    let (t, c) ← tagToken? c₁
    l.content? t c
  else if c == '|' && !l.inFlow then l.block? false
  else if c == '>' && !l.inFlow then l.block? true
  else if l.startsPlain c then l.plain?
  else none

/-- The next token, which starts with the given character. -/
def token (l : Layout) (c : Char) : Except ReadError Layout :=
  if c == '\'' then l.quoted false
  else if c == '"' then l.quoted true
  else match l.token? c with
    | some l => .ok l
    | none => .error .malformed

/-- The layout at the next token, with the blocks ended that are over before it. -/
def approach (l : Layout) : Except ReadError Layout :=
  match (l.skipGaps (l.cursor.rest.length + 1)).dropStale? with
  | some l => .ok (l.unwindTo l.cursor.column)
  | none => .error .malformed

/-- The layout behind the next token, or at the end of the text. -/
def advance (l : Layout) : Except ReadError (Bool × Layout) := do
  let l ← l.approach
  match l.cursor.peek with
  | some c => return (false, ← l.token c)
  | none =>
    match (l.unwindTo (-1)).dropKey? with
    | some l => return (true, l)
    | none => throw .malformed

/-- The tokens that do not depend on what follows: those before all possible keys. -/
def settled (l : Layout) : List Token :=
  let places := (l.keys.filter fun (_, k) => !l.isStale k).map fun (_, k) => k.place
  (l.tokens.drop (l.count - places.foldl min l.count)).reverse

/-- The tokens of the whole text. -/
def allTokens : (rounds : Nat) → Layout → List Token
  | 0, l => l.settled ++ [.broken .malformed]
  | rounds + 1, l =>
    match l.advance with
    | .ok (true, l) => l.tokens.reverse
    | .ok (false, l) => allTokens rounds l
    | .error e => l.settled ++ [.broken e]

end Layout

/-- The tokens of a text. -/
def tokens (cs : List Char) : List Token :=
  let cs := unifyLineEnds cs
  if cs.all isAllowed then
    let start : Cursor := { rest := cs }
    let start := if start.peek = some (Char.ofNat 0xFEFF) then start.next else start
    Layout.allTokens (cs.length + 1) { cursor := start }
  else [.broken .malformed]

end UnitConversion.Settings
