import UnitConversion.Power
import UnitConversion.Text.Blank
import UnitConversion.Text.Digits
import UnitConversion.Text.Hexadecimal

/-!
# Integers in text

An integer is an optional sign and decimal digits of any script, with white space around it. A single
underscore may stand between two digits. More digits than a limit are refused without a look at what
comes behind them. In a base that is a power of two there is no such limit.

* `integer?`: the integer that a text denotes, or why it denotes none.
* `integerIn?`: the integer that a text denotes in another base.
* `isWritable`: the limit holds for writing as well.
-/

namespace UnitConversion.Text

/-- Why a text denotes no integer. -/
inductive IntegerError where
  | malformed
  | tooLong (digits : Nat)
deriving DecidableEq, Repr

/-- The most digits that an integer may have. -/
def digitLimit : Nat := 4300

/-- The message about an integer with too many digits. -/
def tooLongMessage (digits : Nat) : String :=
  s!"Exceeds the limit ({digitLimit} digits) for integer string conversion: " ++
    s!"value has {digits} digits; use sys.set_int_max_str_digits() to increase the limit"

/-- The integer has few enough digits to be written. -/
def isWritable (n : Int) : Bool := decide (n.natAbs < 10 ^ digitLimit)

/-- The message about an integer with too many digits to be written. -/
def unwritableMessage : String :=
  s!"Exceeds the limit ({digitLimit} digits) for integer string conversion; " ++
    "use sys.set_int_max_str_digits() to increase the limit"

/-- The values of the digits at the start of a text, and what follows them. An underscore counts only
between digits. -/
def digitRun : List Char → List Nat × List Char
  | [] => ([], [])
  | c :: rest =>
    match digitValue? c with
    | some n =>
      let (digits, rest') := digitRun rest
      (n :: digits, rest')
    | none =>
      match c, rest with
      | '_', d :: rest' =>
        match digitValue? d with
        | some n =>
          let (digits, rest'') := digitRun rest'
          (n :: digits, rest'')
        | none => ([], c :: rest)
      | _, _ => ([], c :: rest)

/-- The number with the given decimal digits. -/
def ofDigits (digits : List Nat) : Nat := digits.foldl (fun n d => n * 10 + d) 0

/-- The sign at the start of a text, and what follows it. -/
def sign : List Char → Bool × List Char
  | '-' :: rest => (true, rest)
  | '+' :: rest => (false, rest)
  | cs => (false, cs)

/-- A numeral without the white space around it. -/
def trimNumeral (cs : List Char) : List Char := trimBy isWhiteSpace cs

/-- The integer that a text denotes. -/
def integer? (cs : List Char) : Except IntegerError Int :=
  let (negative, unsigned) := sign (trimNumeral cs)
  if unsigned.head? = some '_' then .error .malformed
  else
    let (digits, rest) := digitRun unsigned
    if digits.isEmpty || rest.head? = some '_' then .error .malformed
    else if digitLimit < digits.length then .error (.tooLong digits.length)
    else if !rest.isEmpty then .error .malformed
    else
      let size := ofDigits digits
      .ok (if negative then -(size : Int) else size)

/-! ## Other bases -/

/-- The text with decimal digits of any script as those of ASCII. -/
def plainDigits (cs : List Char) : List Char :=
  cs.map fun c => ((digitValue? c).map Nat.digitChar).getD c

/-- The letter that may stand behind a zero in front of a numeral in a base. -/
def baseLetter? : Nat → Option Char
  | 2 => some 'b'
  | 8 => some 'o'
  | 16 => some 'x'
  | _ => none

/-- The digits of a numeral behind the mark of its base. -/
def afterBaseMark (base : Nat) (cs : List Char) : List Char :=
  match cs with
  | '0' :: c :: rest => if (baseLetter? base).any (· == c.toLower) then rest else cs
  | _ => cs

/-- The integer that a text without underscores denotes in a base of at most sixteen. -/
def integerIn? (base : Nat) (cs : List Char) : Option Int := do
  let (negative, unsigned) := sign (plainDigits (trimNumeral cs))
  let digits := afterBaseMark base unsigned
  if digits.isEmpty then none
  else
    let values ← digits.mapM fun c => (hexValue? c).filter (· < base)
    let size := values.foldl (fun n d => n * base + d) 0
    return if negative then -(size : Int) else size

end UnitConversion.Text
