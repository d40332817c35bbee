import UnitConversion.Rendering
import UnitConversion.Settings.Description
import UnitConversion.Text.Literal
import UnitConversion.Web.Page

/-!
# Failures

A failure is an error that no endpoint answers by itself: a setting that cannot be used as what it is
meant for, a precision that is beyond what can be written, or a request that is beyond what can be read.

* `Setting.integer`: the integer that a setting stands for.
* `Failure.message`: the message of a failure.
-/

namespace UnitConversion

/-- Why a setting stands for no integer. -/
inductive IntegerSettingError where
  | notNumeric (kindName : String)
  | unreadable (text : Text)
  | unreadableBytes (bytes : List UInt8)
  | tooLong (digits : Nat)
  | nan
  | infinite
deriving DecidableEq, Repr

namespace IntegerSettingError

/-- The longest part of a text that a message shows. -/
def shownLength : Nat := 200

/-- The message about something that is no integer, of which a literal is given. -/
def unreadableMessage (shown : List Char) : String :=
  s!"invalid literal for int() with base 10: {String.ofList (shown.take shownLength)}"

def message : IntegerSettingError → String
  | .notNumeric kindName =>
    "int() argument must be a string, a bytes-like object or a real number, not " ++
      s!"'{kindName}'"
  | .unreadable text => unreadableMessage (Text.literal text)
  | .unreadableBytes bytes => unreadableMessage (Text.bytesLiteral (bytes.take shownLength))
  | .tooLong digits => Text.tooLongMessage digits
  | .nan => "cannot convert float NaN to integer"
  | .infinite => "cannot convert float infinity to integer"

end IntegerSettingError

/-- The character of a byte of ASCII. Other bytes are taken for question marks. -/
def asciiChar (b : UInt8) : Char := if b.toNat < 0x80 then .ofNat b.toNat else '?'

/-- The integer that characters denote, or the given error. -/
def integerOf (cs : List Char) (unreadable : IntegerSettingError) : Except IntegerSettingError Int :=
  match Text.integer? cs with
  | .ok n => .ok n
  | .error .malformed => .error unreadable
  | .error (.tooLong digits) => .error (.tooLong digits)

/-- The integer that a setting stands for. Numbers lose their fraction. -/
def Setting.integer : Setting → Except IntegerSettingError Int
  | .bool b => .ok (if b then 1 else 0)
  | .int n => .ok n
  | .float x =>
    match x.truncate? with
    | some n => .ok n
    | none => .error (if x.isNaN then .nan else .infinite)
  | .text t => integerOf t.replacing (.unreadable t)
  | .bytes bs => integerOf (bs.map asciiChar) (.unreadableBytes bs)
  | s => .error (.notNumeric s.kindName)

/-- An error that no endpoint answers by itself. -/
inductive Failure where
  /-- A setting of this kind has no entries. -/
  | noEntries (kindName : String)
  | decimals (e : IntegerSettingError)
  | format (e : FormatError)
  | description (e : DescriptionError)
  | redirection (e : Response.RedirectionError)
  /-- A body with too many arrays and objects inside of each other. -/
  | tooDeep (inArray : Bool)
deriving DecidableEq, Repr

namespace Failure

def message : Failure → Text
  | .noEntries kindName => s!"'{kindName}' object has no attribute 'get'"
  | .decimals e => e.message
  | .format e => e.message
  | .description e => e.message
  | .redirection e => e.message
  | .tooDeep inArray => (Json.ReadError.tooDeep inArray).message

/-- The name of a failure, which stands in for a missing message. Only a lack of memory has none. -/
def name : Failure → String
  | .format .outOfMemory => "MemoryError"
  | _ => ""

/-- The report of a failure. -/
def report (e : Failure) : ErrorReport := .ofUnexpected ReportKind.internal.code e.name e.message

end Failure

end UnitConversion
