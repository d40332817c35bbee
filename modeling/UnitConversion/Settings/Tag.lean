import UnitConversion.Decimal.Reading
import UnitConversion.Settings.Moment
import UnitConversion.Text.Basic
import UnitConversion.Text.Fields
import UnitConversion.Text.Hexadecimal

/-!
# Tags of a settings file

A tag says what kind of value a node stands for. A scalar without quotation marks and without a tag has
the tag of what its text looks like: null, a truth value, an integer in one of four bases or in
sexagesimal notation, a floating-point number, a moment, or else a text.

* `Tag.ofName`: the tag with a full name.
* `Tag.ofScalar`: the tag of a scalar that has none.
* `momentFields?`: the fields of a text that looks like a moment.
-/

namespace UnitConversion.Settings

/-- The kinds of values that nodes stand for. -/
inductive Tag where
  | null
  | bool
  | int
  | float
  | moment
  | text
  | bytes
  | list
  | mapping
  | set
  /-- A list of pairs, which are written as mappings of one entry. -/
  | pairs
  /-- The key under which a mapping takes in the entries of others. -/
  | merge
  /-- The key under which a mapping that is used as a scalar has its text. -/
  | value
  | unknown
deriving DecidableEq, Repr

namespace Tag

/-- What the names of the tags of the format itself start with. -/
def namePrefix : String := "tag:yaml.org,2002:"

/-- The names of the tags of the format itself. -/
def names : List (String × Tag) :=
  [("null", .null), ("bool", .bool), ("int", .int), ("float", .float), ("timestamp", .moment),
    ("str", .text), ("binary", .bytes), ("seq", .list), ("map", .mapping), ("set", .set),
    ("omap", .pairs), ("pairs", .pairs), ("merge", .merge), ("value", .value)]

/-- The tag with a full name. -/
def ofName (name : String) : Tag :=
  ((names.find? fun (short, _) => namePrefix ++ short == name).map (·.2)).getD .unknown

end Tag

/-! ## Words -/

def isNullWord (s : String) : Bool := ["", "~", "null", "Null", "NULL"].contains s

/-- The words for true and false, in lower case, capitalised or in upper case. -/
def isTruthWord (s : String) : Bool :=
  ["yes", "Yes", "YES", "no", "No", "NO", "true", "True", "TRUE", "false", "False", "FALSE", "on",
    "On", "ON", "off", "Off", "OFF"].contains s

/-! ## Integers -/

/-- A part of a sexagesimal numeral behind the first: one digit, or two below sixty. -/
def isSexagesimalPart : List Char → Bool
  | [a] => a.isDigit
  | [a, b] => '0' ≤ a && a ≤ '5' && b.isDigit
  | _ => false

/-- Digits and underscores after a first digit that is not zero. -/
def isDecimalNumeral : List Char → Bool
  | [] => false
  | c :: rest => '1' ≤ c && c ≤ '9' && rest.all fun d => d.isDigit || d == '_'

/-- Digits below a base and underscores. -/
def areDigits (base : Nat) (cs : List Char) : Bool :=
  cs.all fun c => c == '_' || (Text.hexValue? c).any (· < base)

/-- The text looks like an integer. -/
def isIntegerNumeral (cs : List Char) : Bool :=
  match (splitSign cs).2 with
  | '0' :: 'b' :: rest => !rest.isEmpty && areDigits 2 rest
  | '0' :: 'x' :: rest => !rest.isEmpty && areDigits 16 rest
  | '0' :: rest => areDigits 8 rest
  | unsigned =>
    match Text.fields ':' unsigned with
    | whole :: parts => isDecimalNumeral whole && parts.all isSexagesimalPart
    | [] => false

/-! ## Floating-point numbers -/

/-- Digits and underscores, the first of which is a digit. -/
def startsWithDigit (cs : List Char) : Bool :=
  cs.head?.any Char.isDigit && cs.all fun c => c.isDigit || c == '_'

/-- An exponent with a sign, or none at all. -/
def isExponent : List Char → Bool
  | [] => true
  | e :: s :: digits =>
    (e == 'e' || e == 'E') && (s == '-' || s == '+') && !digits.isEmpty && digits.all Char.isDigit
  | _ => false

/-- The text looks like a number without a sign. Only the word for infinity and numerals that start
with a digit may have a sign before them. -/
def isUnsignedNumber (hasSign : Bool) (cs : List Char) : Bool :=
  if [".inf", ".Inf", ".INF"].contains (String.ofList cs) then true
  else if !hasSign && [".nan", ".NaN", ".NAN"].contains (String.ofList cs) then true
  else
    match cs.dropWhile (· != '.') with
    | [] => false
    | _ :: behind =>
      let isDigitOrMark (c : Char) : Bool := c.isDigit || c == '_'
      let frac := behind.takeWhile isDigitOrMark
      let exponent := behind.dropWhile isDigitOrMark
      match Text.fields ':' (cs.takeWhile (· != '.')) with
      | [[]] => !hasSign && startsWithDigit frac && isExponent exponent
      | [whole] => startsWithDigit whole && isExponent exponent
      | whole :: parts =>
        startsWithDigit whole && parts.all isSexagesimalPart && exponent.isEmpty
      | [] => false

/-- The text looks like a number. -/
def isNumber (cs : List Char) : Bool :=
  let unsigned := (splitSign cs).2
  isUnsignedNumber (unsigned.length != cs.length) unsigned

/-! ## Moments -/

/-- A number of at least `least` and at most `most` digits, and what follows it. -/
def digitsUpTo? (least most : Nat) (cs : List Char) : Option (Nat × List Char) :=
  let digits := (cs.take most).takeWhile Char.isDigit
  if least ≤ digits.length then some (Nat.ofDigitChars 10 digits 0, cs.drop digits.length) else none

/-- What follows a given character. -/
def after? (c : Char) : List Char → Option (List Char)
  | [] => none
  | d :: rest => if d = c then some rest else none

def skipTabs (cs : List Char) : List Char := cs.dropWhile fun c => c == ' ' || c == '\t'

/-- The distance from universal time in minutes that a text consists of, if it says any. -/
def offset? (cs : List Char) : Option (Option Int) :=
  match skipTabs cs with
  | [] => if cs.isEmpty then some none else none
  | ['Z'] => some (some 0)
  | c :: rest => do
    guard (c == '+' || c == '-')
    let (hours, rest) ← digitsUpTo? 1 2 rest
    let minutes ←
      if rest.isEmpty then pure 0
      else do
        let (minutes, rest) ← (after? ':' rest).bind (digitsUpTo? 2 2)
        guard rest.isEmpty
        pure minutes
    let size : Int := hours * 60 + minutes
    return some (if c == '-' then -size else size)

/-- What separates a day from a time. -/
def afterDay? : List Char → Option (List Char)
  | 'T' :: rest => some rest
  | 't' :: rest => some rest
  | cs => if (skipTabs cs).length < cs.length then some (skipTabs cs) else none

/-- The microseconds that the digits of a fraction of a second stand for. -/
def microsecondOf (digits : List Char) : Nat :=
  let shown := digits.take 6
  Nat.ofDigitChars 10 (shown ++ List.replicate (6 - shown.length) '0') 0

/-- The time behind a day. -/
def clock? (cs : List Char) : Option Moment.Clock := do
  let (hour, cs) ← (afterDay? cs).bind (digitsUpTo? 1 2)
  let (minute, cs) ← (after? ':' cs).bind (digitsUpTo? 2 2)
  let (second, cs) ← (after? ':' cs).bind (digitsUpTo? 2 2)
  let (digits, cs) := match cs with
    | '.' :: rest => spanDigits rest
    | _ => ([], cs)
  let offset? ← offset? cs
  return { hour, minute, second, microsecond := microsecondOf digits, offset? }

/-- Year, month and day of a text that has the form of a moment, and the time if there is one. -/
def momentFields? (cs : List Char) : Option (Nat × Nat × Nat × Option Moment.Clock) := do
  let (year, cs) ← digitsUpTo? 4 4 cs
  let (month, cs) ← (after? '-' cs).bind (digitsUpTo? 1 2)
  let (day, cs) ← (after? '-' cs).bind (digitsUpTo? 1 2)
  if cs.isEmpty then return (year, month, day, none)
  else return (year, month, day, some (← clock? cs))

/-- The text looks like a moment. A day alone has two digits for the month and for the day. -/
def isMoment (cs : List Char) : Bool :=
  match momentFields? cs with
  | some (_, _, _, none) => cs.length == 10
  | some _ => true
  | none => false

/-! ## Scalars -/

/-- A text without the line feed at its end, if it has more than that. -/
def withoutLastBreak (cs : List Char) : List Char :=
  if 1 < cs.length && cs.getLast? == some '\n' then cs.dropLast else cs

/-- The tag of a scalar that has none. A line feed at the end makes no difference. -/
def Tag.ofScalar (t : Text) : Tag :=
  match t.chars? with
  | none => .text
  | some cs =>
    let cs := withoutLastBreak cs
    let s := String.ofList cs
    if isNullWord s then .null
    else if isTruthWord s then .bool
    else if isNumber cs then .float
    else if isIntegerNumeral cs then .int
    else if isMoment cs then .moment
    else if s == "<<" then .merge
    else if s == "=" then .value
    else if ["!", "&", "*"].contains s then .unknown
    else .text

end UnitConversion.Settings
