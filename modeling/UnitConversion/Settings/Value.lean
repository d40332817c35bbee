import UnitConversion.Binary64.Arithmetic
import UnitConversion.Settings.Basic
import UnitConversion.Settings.Error
import UnitConversion.Settings.Tag
import UnitConversion.Text.Base64
import UnitConversion.Text.Lowercase

/-!
# Values of scalars

The setting that the text of a scalar stands for under a tag. A tag that is given may call for a value
that the text does not look like; then more forms are read than a scalar without a tag can have.

* `scalarValue`: the setting of a text under the tag of a scalar.
-/

namespace UnitConversion.Settings

/-- A text without underscores. -/
def withoutMarks (t : Text) : Text := t.filter (· != .char '_')

/-- The sign of a numeral, and what follows it. A numeral has at least one character. -/
def signOf : Text → Except ReadError (Bool × Text)
  | [] => .error .emptyNumeral
  | .char '-' :: rest => .ok (true, rest)
  | .char '+' :: rest => .ok (false, rest)
  | t => .ok (false, t)

/-! ## Integers -/

/-- The integer that a text denotes in a base. -/
def integerIn (base : Nat) (t : Text) : Except ReadError Int :=
  if base = 10 then
    match Text.integer? t.replacing with
    | .ok n => .ok n
    | .error .malformed => .error (.integer base t)
    | .error (.tooLong digits) => .error (.integerTooLong digits)
  else match Text.integerIn? base t.replacing with
    | some n => .ok n
    | none => .error (.integer base t)

/-- The integer that a text without a sign denotes: in the base that its first characters show, or in
sexagesimal notation. -/
def unsignedInteger (t : Text) : Except ReadError Int :=
  match t with
  | [] => .error .emptyNumeral
  | [.char '0'] => .ok 0
  | .char '0' :: .char 'b' :: rest => integerIn 2 rest
  | .char '0' :: .char 'x' :: rest => integerIn 16 rest
  | .char '0' :: _ => integerIn 8 t
  | _ =>
    if t.contains (.char ':') then do
      let parts ← (t.splitOn (.char ':')).mapM (integerIn 10)
      return parts.foldl (fun n part => n * 60 + part) 0
    else integerIn 10 t

/-- The integer that a text denotes. -/
def integerValue (t : Text) : Except ReadError Int := do
  let (negative, unsigned) ← signOf (withoutMarks t)
  let n ← unsignedInteger unsigned
  return if negative then -n else n

/-! ## Floating-point numbers -/

/-- The number that a text denotes. -/
def number (t : Text) : Except ReadError Binary64 :=
  match Binary64.ofText? (Text.plainDigits (Text.trimNumeral t.replacing)) with
  | some x => .ok x
  | none => .error (.number t)

/-- The sum of the parts of a sexagesimal numeral, the last of them first, where the first has the given
weight. A weight has to be a number itself. -/
def sexagesimalSum (sum : Binary64) (weight : Nat) : List Binary64 → Except ReadError Binary64
  | [] => .ok sum
  | part :: rest =>
    let factor := Binary64.ofInt weight
    if factor.isFinite then sexagesimalSum (sum + part * factor) (weight * 60) rest
    else .error .numberTooLarge

/-- The number that a text without a sign denotes. -/
def unsignedNumber (t : Text) : Except ReadError Binary64 :=
  if t = ".inf" then .ok (.infinite false)
  else if t = ".nan" then .ok .nan
  else if t.contains (.char ':') then do
    let parts ← (t.splitOn (.char ':')).mapM number
    sexagesimalSum (.zero false) 1 parts.reverse
  else number t

/-- The number that a text denotes. -/
def numberValue (t : Text) : Except ReadError Binary64 := do
  let (negative, unsigned) ← signOf (Text.lowerCase (withoutMarks t))
  let x ← unsignedNumber unsigned
  return if negative then -x else x

/-- The text is the word for the value that is not a number. -/
def isNotANumberWord (t : Text) : Bool :=
  match signOf (Text.lowerCase (withoutMarks t)) with
  | .ok (_, unsigned) => unsigned == ".nan"
  | .error _ => false

/-! ## Other values -/

/-- The truth value of a word in any case. -/
def truthValue (t : Text) : Except ReadError Bool :=
  let word := Text.lowerCase t
  if (["yes", "true", "on"] : List Text).contains word then .ok true
  else if (["no", "false", "off"] : List Text).contains word then .ok false
  else .error (.noTruthWord word)

/-- The moment that a text denotes. -/
def momentValue (t : Text) : Except ReadError Moment :=
  match t.chars?.bind fun cs => momentFields? (withoutLastBreak cs) with
  | some (year, month, day, clock?) => (Moment.ofFields year month day clock?).mapError .moment
  | none => .error .noMoment

/-- The bytes that a text of ASCII characters spells. -/
def bytesValue (t : Text) : Except ReadError (List UInt8) :=
  match (t.chars?.filter (·.all fun c => c.toNat < 0x80)).bind Base64.decode? with
  | some bytes => .ok bytes
  | none => .error .malformed

/-- The setting of a text under a tag. Only tags of scalars have one. -/
def scalarValue (tag : Tag) (t : Text) : Except ReadError Setting :=
  match tag with
  | .null => .ok .null
  | .bool => (truthValue t).map .bool
  | .int => (integerValue t).map .int
  | .float => (numberValue t).map .float
  | .moment => (momentValue t).map .moment
  | .text => .ok (.text t)
  | .bytes => (bytesValue t).map .bytes
  | _ => .error .malformed

end UnitConversion.Settings
