import UnitConversion.Json.Basic
import UnitConversion.Rendering

/-!
# The text of a JSON value

There are no blanks, and all but the printable characters of ASCII are escaped, those above `U+FFFF`
as a surrogate pair. Numbers are written as the shortest decimal that reads back, with a point or an
exponent, so that they stay apart from integers.

* `Json.text`: the text of a value, with the members of objects in their order.
* `Json.sorted`: the value with the members of all objects in the order of their names.
-/

namespace UnitConversion.Json

/-- Four lower-case hexadecimal digits. -/
def hexFour (n : Nat) : List Char :=
  [n / 4096 % 16, n / 256 % 16, n / 16 % 16, n % 16].map Nat.digitChar

/-- The escape of a UTF-16 code unit. -/
def escapeUnit (unit : Nat) : List Char := '\\' :: 'u' :: hexFour unit

/-- A character as it stands between quotation marks. -/
def escapeChar (c : Char) : List Char :=
  if c = '"' then ['\\', '"']
  else if c = '\\' then ['\\', '\\']
  else if c = '\n' then ['\\', 'n']
  else if c = '\r' then ['\\', 'r']
  else if c = '\t' then ['\\', 't']
  else if c.toNat = 8 then ['\\', 'b']
  else if c.toNat = 12 then ['\\', 'f']
  else if 0x20 ≤ c.toNat ∧ c.toNat < 0x7F then [c]
  else if c.toNat < 0x10000 then escapeUnit c.toNat
  else
    let offset := c.toNat - 0x10000
    escapeUnit (0xD800 + offset / 0x400) ++ escapeUnit (0xDC00 + offset % 0x400)

/-- A code point as it stands between quotation marks. -/
def escapePoint : CodePoint → List Char
  | .char c => escapeChar c
  | .half n => escapeUnit (CodePoint.half n).code

/-- A text between quotation marks. -/
def quote (t : Text) : List Char := '"' :: (t.flatMap escapePoint ++ ['"'])

/-- The text of an integer. -/
def integerText (n : Int) : List Char := Layout.signed (decide (n < 0)) (Nat.toDigits 10 n.natAbs)

/-- The text of a binary64 number. Those that are not finite have words of their own, which strict
readers refuse. -/
def numberText : Binary64 → List Char
  | .nan => "NaN".toList
  | .infinite s => Layout.signed s "Infinity".toList
  | .finite s m => Layout.signed s m.shortestText

/-- Items between commas. -/
def separated : List (List Char) → List Char
  | [] => []
  | [item] => item
  | item :: rest => item ++ ',' :: separated rest

/-- The text of a member. -/
def memberText (m : Text × List Char) : List Char := quote m.1 ++ ':' :: m.2

mutual

/-- The text of a value, as a list of characters. -/
def chars : Json → List Char
  | .null => "null".toList
  | .bool true => "true".toList
  | .bool false => "false".toList
  | .int n => integerText n
  | .float x => numberText x
  | .string s => quote s
  | .array items => '[' :: (separated (itemChars items) ++ [']'])
  | .object ms => '\x7b' :: (separated ((memberChars ms).map memberText) ++ ['\x7d'])

/-- The texts of the items of an array. -/
def itemChars : List Json → List (List Char)
  | [] => []
  | item :: rest => chars item :: itemChars rest

/-- The names of the members of an object with the texts of their values. -/
def memberChars : List (Text × Json) → List (Text × List Char)
  | [] => []
  | (name, value) :: rest => (name, chars value) :: memberChars rest

end

/-- The text of a value. -/
def text (j : Json) : String := String.ofList j.chars

/-! ## The order of members -/

/-- Members in the order of their names. -/
def sortByName (ms : List (Text × Json)) : List (Text × Json) :=
  ms.mergeSort fun a b => a.1.precedes b.1

mutual

/-- The value with the members of all objects in the order of their names. -/
def sorted : Json → Json
  | .array items => .array (sortedItems items)
  | .object ms => .object (sortByName (sortedMembers ms))
  | j => j

def sortedItems : List Json → List Json
  | [] => []
  | item :: rest => sorted item :: sortedItems rest

def sortedMembers : List (Text × Json) → List (Text × Json)
  | [] => []
  | (name, value) :: rest => (name, sorted value) :: sortedMembers rest

end

end UnitConversion.Json
