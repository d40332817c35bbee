import UnitConversion.Json.Text
import UnitConversion.Decimal.Reading
import UnitConversion.Text.Encoding
import UnitConversion.Text.Hexadecimal

/-!
# Reading JSON text

The reader takes the grammar of JSON with two choices: whether the words for infinities and for the
value that is not a number are read, and how deep arrays and objects may be nested. An integer of more
than 4300 digits makes a text unreadable. Of two members with one name the last counts, at the place
of the first.

Each function returns what it has read and the rest of the text. The readers of values, items and
members share a number of steps that the length of the text bounds.

* `Json.ofText`: the value that a text consists of.
* `Json.ofBytes`: the value that the bytes of a text consist of.
-/

namespace UnitConversion.Json

open Encoding (isHighSurrogate isLowSurrogate joinSurrogates)

/-- What a reader takes for JSON. -/
structure Dialect where
  /-- The words for infinities and for the value that is not a number are read. -/
  words : Bool := true
  /-- The number of arrays and objects that may be open at once. -/
  depth : Nat

/-- Why a text is not read. -/
inductive ReadError where
  | malformed
  | tooDeep (inArray : Bool)
deriving DecidableEq, Repr

def ReadError.message : ReadError → String
  | .malformed => "malformed JSON"
  | .tooDeep inArray =>
    "maximum recursion depth exceeded while decoding a JSON " ++
      (if inArray then "array" else "object") ++ " from a unicode string"

/-- The part that was read, or the error of a text without such a part. -/
def orMalformed {α : Type} : Option α → Except ReadError α
  | some a => .ok a
  | none => .error .malformed

/-- The blanks between the tokens of JSON. -/
def isBlank : CodePoint → Bool
  | .char c => c == ' ' || c == '\t' || c == '\n' || c == '\r'
  | .half _ => false

def skipBlanks (t : Text) : Text := t.dropWhile isBlank

/-! ## Texts -/

/-- The value of a code point as a hexadecimal digit. -/
def digitOf? (p : CodePoint) : Option Nat := p.char?.bind Text.hexValue?

/-- The code unit that four hexadecimal digits denote. -/
def unitOf? (a b c d : CodePoint) : Option Nat := do
  let a ← digitOf? a
  let b ← digitOf? b
  let c ← digitOf? c
  let d ← digitOf? d
  return ((a * 16 + b) * 16 + c) * 16 + d

/-- The character of a short escape. -/
def shortEscape? : CodePoint → Option Char
  | .char '"' => some '"'
  | .char '\\' => some '\\'
  | .char '/' => some '/'
  | .char 'b' => some (Char.ofNat 8)
  | .char 'f' => some (Char.ofNat 12)
  | .char 'n' => some '\n'
  | .char 'r' => some '\r'
  | .char 't' => some '\t'
  | _ => none

/-- A code point between quotation marks, or half of a surrogate pair that was written as an escape
and so may find its other half. -/
inductive StringPart where
  | point (p : CodePoint)
  | unit (n : Nat)

/-- The parts up to the closing quotation mark. Control characters have to be escaped. -/
def scanString : Text → Option (List StringPart × Text)
  | .char '"' :: rest => some ([], rest)
  | .char '\\' :: .char 'u' :: a :: b :: c :: d :: rest => do
    let n ← unitOf? a b c d
    let (parts, rest') ← scanString rest
    return (.unit n :: parts, rest')
  | .char '\\' :: p :: rest => do
    let short ← shortEscape? p
    let (parts, rest') ← scanString rest
    return (.point (.char short) :: parts, rest')
  | p :: rest =>
    if p.code < 0x20 then none
    else do
      let (parts, rest') ← scanString rest
      return (.point p :: parts, rest')
  | [] => none

/-- The text of parts. Two escapes that form a surrogate pair are joined. -/
def joinParts : List StringPart → Text
  | .unit high :: .unit low :: rest =>
    if isHighSurrogate high && isLowSurrogate low then
      .ofNat (joinSurrogates high low) :: joinParts rest
    else .ofNat high :: joinParts (.unit low :: rest)
  | .unit n :: rest => .ofNat n :: joinParts rest
  | .point p :: rest => p :: joinParts rest
  | [] => []

/-- A text behind its opening quotation mark. -/
def scanText (t : Text) : Option (Text × Text) :=
  (scanString t).map fun (parts, rest) => (joinParts parts, rest)

/-! ## Numbers -/

/-- The longest integer, in digits, that a text may hold. -/
def integerDigitLimit : Nat := 4300

/-- The digits at the start of a text, and what follows them. -/
def scanDigits : Text → List Char × Text
  | .char c :: rest =>
    if c.isDigit then
      let (digits, rest') := scanDigits rest
      (c :: digits, rest')
    else ([], .char c :: rest)
  | t => ([], t)

/-- The digits before the point: a zero, or digits that do not start with one. -/
def scanWhole : Text → Option (List Char × Text)
  | .char '0' :: rest => some (['0'], rest)
  | t =>
    match scanDigits t with
    | ([], _) => none
    | (digits, rest) => some (digits, rest)

/-- The digits behind a point. A point without digits is not part of the number. -/
def scanFraction : Text → Option (List Char) × Text
  | .char '.' :: rest =>
    match scanDigits rest with
    | ([], _) => (none, .char '.' :: rest)
    | (digits, rest') => (some digits, rest')
  | t => (none, t)

/-- A sign, and what follows it. -/
def scanSign : Text → Bool × Text
  | .char '-' :: rest => (true, rest)
  | .char '+' :: rest => (false, rest)
  | t => (false, t)

/-- The exponent of a number. A letter without digits is not part of the number. -/
def scanExponent : Text → Option Int × Text
  | [] => (none, [])
  | p :: rest =>
    if p = .char 'e' ∨ p = .char 'E' then
      let (negative, unsigned) := scanSign rest
      match scanDigits unsigned with
      | ([], _) => (none, p :: rest)
      | (digits, rest') =>
        let size := Nat.ofDigitChars 10 digits 0
        (some (if negative then -(size : Int) else size), rest')
    else (none, p :: rest)

/-- The number after its sign. It is an integer when it has neither a fraction nor an exponent. -/
def scanNumber (negative : Bool) (t : Text) : Option (Json × Text) := do
  let (whole, afterWhole) ← scanWhole t
  let (frac, afterFraction) := scanFraction afterWhole
  let (exponent, rest) := scanExponent afterFraction
  if frac.isNone && exponent.isNone then
    if whole.length > integerDigitLimit then none
    else
      let size := Nat.ofDigitChars 10 whole 0
      some (.int (if negative then -(size : Int) else size), rest)
  else
    let decimal := Decimal.ofDigits whole (frac.getD []) (exponent.getD 0)
    some (.float (decimal.toBinary64 negative), rest)

/-! ## Values -/

/-- What follows a given word at the start of a text. -/
def afterWord? (word : List Char) (t : Text) : Option Text :=
  match word, t with
  | [], rest => some rest
  | w :: word, p :: rest => if p = .char w then afterWord? word rest else none
  | _ :: _, [] => none

/-- A value that is a word. -/
def scanWord (words : Bool) (t : Text) : Option (Json × Text) :=
  let word (w : String) (j : Json) := (afterWord? w.toList t).map fun rest => (j, rest)
  let plain := word "null" .null <|> word "true" (.bool true) <|> word "false" (.bool false)
  if words then
    plain <|> word "NaN" (.float .nan) <|> word "Infinity" (.float (.infinite false)) <|>
      word "-Infinity" (.float (.infinite true))
  else plain

/-- A value without parts: a word, a number or a text. -/
def scanAtom (words : Bool) (t : Text) : Option (Json × Text) :=
  match t with
  | .char '"' :: rest => (scanText rest).map fun (s, rest') => (.string s, rest')
  | .char '-' :: rest => scanNumber true rest <|> scanWord words t
  | _ => scanNumber false t <|> scanWord words t

mutual

/-- A value, which may have parts, where so many arrays and objects may be opened. -/
def readValue (words : Bool) : (steps depth : Nat) → Text → Except ReadError (Json × Text)
  | 0, _, _ => .error .malformed
  | _ + 1, 0, .char '[' :: _ => .error (.tooDeep true)
  | _ + 1, 0, .char '\x7b' :: _ => .error (.tooDeep false)
  | steps + 1, depth + 1, .char '[' :: rest =>
    match skipBlanks rest with
    | .char ']' :: rest' => .ok (.array [], rest')
    | t => (readItems words steps depth t).map fun (items, rest') => (.array items, rest')
  | steps + 1, depth + 1, .char '\x7b' :: rest =>
    match skipBlanks rest with
    | .char '\x7d' :: rest' => .ok (.object [], rest')
    | t => (readMembers words steps depth [] t).map fun (ms, rest') => (.object ms, rest')
  | _ + 1, _, t => orMalformed (scanAtom words t)

/-- The items of an array up to the closing bracket. -/
def readItems (words : Bool) : (steps depth : Nat) → Text → Except ReadError (List Json × Text)
  | 0, _, _ => .error .malformed
  | steps + 1, depth, t => do
    let (item, rest) ← readValue words steps depth t
    match skipBlanks rest with
    | .char ']' :: rest' => return ([item], rest')
    | .char ',' :: rest' =>
      let (items, rest'') ← readItems words steps depth (skipBlanks rest')
      return (item :: items, rest'')
    | _ => throw .malformed

/-- The members of an object up to the closing brace, after those already read. -/
def readMembers (words : Bool) :
    (steps depth : Nat) → List (Text × Json) → Text →
      Except ReadError (List (Text × Json) × Text)
  | 0, _, _, _ => .error .malformed
  | steps + 1, depth, before, t =>
    match t with
    | .char '"' :: afterQuote => do
      let (name, afterName) ← orMalformed (scanText afterQuote)
      match skipBlanks afterName with
      | .char ':' :: afterColon =>
        let (value, rest) ← readValue words steps depth (skipBlanks afterColon)
        let ms := insertMember before name value
        match skipBlanks rest with
        | .char '\x7d' :: rest' => return (ms, rest')
        | .char ',' :: rest' => readMembers words steps depth ms (skipBlanks rest')
        | _ => throw .malformed
      | _ => throw .malformed
    | _ => .error .malformed

end

/-- The value that a text consists of, blanks around it aside. -/
def ofText (d : Dialect) (t : Text) : Except ReadError Json := do
  let (value, rest) ← readValue d.words (t.length + 1) d.depth (skipBlanks t)
  if (skipBlanks rest).isEmpty then return value else throw .malformed

/-- The value that a byte sequence consists of, in the encoding that it shows. -/
def ofBytes (d : Dialect) (bytes : List UInt8) : Except ReadError Json := do
  let codes ← orMalformed (Encoding.codePoints? bytes)
  ofText d (codes.map .ofNat)

end UnitConversion.Json
