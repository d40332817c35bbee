import UnitConversion.Decimal.Reading
import UnitConversion.Json.Basic
import UnitConversion.Text.Blank

/-!
# Coercing JSON values to field values

Fields take more than the values of their own kind: a number field takes integers, booleans and
numerals in text, an integer field takes numbers without a fraction, booleans and numerals. A text
field takes texts only.

* `coerceNumber`, `coerceInteger`, `coerceText`: the value, or what is wrong with the input.
* `FaultKind.code`, `FaultKind.message`: how a fault is reported.
-/

namespace UnitConversion

/-- What can be wrong with a field or a payload. -/
inductive FaultKind where
  | missing
  | undeclared
  | notAnObject (title : String)
  | numberType
  | numberParsing
  | notFinite
  | integerType
  | integerParsing
  | integerSize
  | fractionalPart
  | textType
  | brokenText
deriving DecidableEq, Repr

namespace FaultKind

def code : FaultKind → String
  | .missing => "missing"
  | .undeclared => "extra_forbidden"
  | .notAnObject _ => "model_type"
  | .numberType => "float_type"
  | .numberParsing => "float_parsing"
  | .notFinite => "finite_number"
  | .integerType => "int_type"
  | .integerParsing => "int_parsing"
  | .integerSize => "int_parsing_size"
  | .fractionalPart => "int_from_float"
  | .textType => "string_type"
  | .brokenText => "string_unicode"

def message : FaultKind → String
  | .missing => "Field required"
  | .undeclared => "Extra inputs are not permitted"
  | .notAnObject title => s!"Input should be a valid dictionary or instance of {title}"
  | .numberType => "Input should be a valid number"
  | .numberParsing => "Input should be a valid number, unable to parse string as a number"
  | .notFinite => "Input should be a finite number"
  | .integerType => "Input should be a valid integer"
  | .integerParsing => "Input should be a valid integer, unable to parse string as an integer"
  | .integerSize => "Unable to parse input string as an integer, exceeded maximum size"
  | .fractionalPart => "Input should be a valid integer, got a number with a fractional part"
  | .textType => "Input should be a valid string"
  | .brokenText => "Input should be a valid string, unable to parse raw data as a unicode string"

end FaultKind

/-! ## Numerals in text -/

/-- The text without its underscores. They may stand alone between other characters; a text without
any has nothing to drop. -/
def dropUnderscores? (cs : List Char) : Option (List Char) :=
  let doubled := (cs.zip cs.tail).contains ('_', '_')
  if cs.contains '_' && cs.head? != some '_' && cs.getLast? != some '_' && !doubled then
    some (cs.filter (· != '_'))
  else none

/-- The number that a text denotes. White space around it is trimmed, or else underscores in it are
dropped. -/
def numberOfText? (cs : List Char) : Option Binary64 :=
  match Binary64.ofText? (Text.trimBy Text.isWhiteSpace cs) with
  | some x => some x
  | none => (dropUnderscores? cs).bind Binary64.ofText?

/-- The longest integer numeral that is read, in digits. -/
def integerTextLimit : Nat := 4300

/-- The integer that a text is written as: an optional minus sign and digits that do not start with a
zero, unless that is the only one. Too many digits are reported whatever is behind them. -/
def plainInteger (cs : List Char) : Except FaultKind Int :=
  let (negative, unsigned) := match cs with
    | '-' :: rest => (true, rest)
    | _ => (false, cs)
  let (digits, rest) := spanDigits unsigned
  if digits.head? = some '0' then
    if unsigned = ['0'] then .ok 0 else .error .integerParsing
  else if integerTextLimit < digits.length then .error .integerSize
  else if digits.isEmpty || !rest.isEmpty then .error .integerParsing
  else
    let size := Nat.ofDigitChars 10 digits 0
    .ok (if negative then -(size : Int) else size)

/-- What is left of a text behind the zeros at its start and the underscores among them. A zero before
a point stays, and so does the last character of a text that has nothing else. -/
def behindZeros? : List Char → Option (List Char)
  | [] => none
  | [c] => some [c]
  | c :: '.' :: rest => some (c :: '.' :: rest)
  | _ :: d :: rest =>
    if d == '-' || ('1' ≤ d && d ≤ '9') then some (d :: rest)
    else if d == '0' || d == '_' then behindZeros? (d :: rest)
    else none

/-- A numeral without zeros in front. -/
def dropZeros? (cs : List Char) : Option (List Char) :=
  match cs with
  | '0' :: _ => behindZeros? cs
  | c :: _ => if c == '-' || ('1' ≤ c && c ≤ '9') then some cs else none
  | [] => none

/-- A numeral without its plus sign and without zeros in front. -/
def dropSignAndZeros? : List Char → Option (List Char)
  | '+' :: '-' :: _ => none
  | '+' :: rest => dropZeros? rest
  | '-' :: rest => (dropZeros? rest).map ('-' :: ·)
  | cs => dropZeros? cs

/-- A numeral without a point that only zeros follow. -/
def dropZeroFraction (cs : List Char) : List Char :=
  let zeros := (cs.dropWhile (· != '.')).tail
  if !zeros.isEmpty && zeros.all (· == '0') then cs.takeWhile (· != '.') else cs

/-- The integer that a text denotes. A text that is not written as an integer is stripped of white
space, zeros and underscores first, and then its length is no fault of its own. -/
def integerOfText (cs : List Char) : Except FaultKind Int :=
  match plainInteger cs with
  | .error .integerParsing =>
    match (dropSignAndZeros? (Text.trimBy Text.isWhiteSpace cs)).map dropZeroFraction with
    | none => .error .integerParsing
    | some stripped =>
      match plainInteger ((dropUnderscores? stripped).getD stripped) with
      | .ok n => .ok n
      | .error _ => .error .integerParsing
  | result => result

/-! ## Coercion -/

/-- The characters of a text. Halves of surrogate pairs are none. -/
def wholeText (t : Text) : Except FaultKind (List Char) :=
  match t.chars? with
  | some cs => .ok cs
  | none => .error .brokenText

def coerceNumber : Json → Except FaultKind Binary64
  | .float x => .ok x
  | .int n =>
    let x := Binary64.ofInt n
    if x.isFinite then .ok x else .error .numberType
  | .bool b => .ok (Binary64.ofInt (if b then 1 else 0))
  | .string t => do
    let cs ← wholeText t
    match numberOfText? cs with
    | some x => .ok x
    | none => .error .numberParsing
  | _ => .error .numberType

/-- A number of any magnitude below infinity. -/
def coerceFiniteNumber (j : Json) : Except FaultKind Binary64 :=
  match coerceNumber j with
  | .ok x => if x.isFinite then .ok x else .error .notFinite
  | .error e => .error e

/-- The integer that a number is. It has to lie strictly between `-2 ^ 63` and `2 ^ 63`. -/
def integerOfNumber (x : Binary64) : Except FaultKind Int :=
  match x.truncate? with
  | none => .error .notFinite
  | some n =>
    if !x.isIntegral then .error .fractionalPart
    else if -2 ^ 63 < n ∧ n < 2 ^ 63 then .ok n
    else .error .integerSize

def coerceInteger : Json → Except FaultKind Int
  | .int n => .ok n
  | .bool b => .ok (if b then 1 else 0)
  | .float x => integerOfNumber x
  | .string t => do
    let cs ← wholeText t
    integerOfText cs
  | _ => .error .integerType

/-- A text, trimmed of white space if asked for. A text with halves cannot be trimmed. -/
def coerceText (strip : Bool) : Json → Except FaultKind Text
  | .string t =>
    if strip then do
      let cs ← wholeText t
      return .ofChars (Text.trimBy Text.isWhiteSpace cs)
    else .ok t
  | _ => .error .textType

end UnitConversion
