import UnitConversion.Settings.Moment
import UnitConversion.Text.Broken
import UnitConversion.Text.Integer
import UnitConversion.Text.Literal

/-!
# Errors of settings files

A settings file is refused when its text does not follow the rules of the format, or when a value in it
is not what its tag says.
-/

namespace UnitConversion.Settings

/-- Why a settings file cannot be read. -/
inductive ReadError where
  /-- The text does not follow the rules of the format. -/
  | malformed
  | broken (e : BrokenText)
  /-- An escape for a number above the last code point. -/
  | codeOutOfRange
  /-- An escape for a number that is no index at all. -/
  | codeTooLarge
  | noTruthWord (word : Text)
  | emptyNumeral
  | integer (base : Nat) (numeral : Text)
  | integerTooLong (digits : Nat)
  | number (numeral : Text)
  | numberTooLarge
  | noMoment
  /-- A moment that is given as a mapping. -/
  | momentOfMapping
  | moment (e : MomentError)
  /-- Nodes that stand inside of each other too far down, or without an end. -/
  | tooDeep
deriving DecidableEq, Repr

namespace ReadError

/-- The longest part of a numeral that a message shows. -/
def shownLength : Nat := 200

/-- The message about a text that is no integer in a base. -/
def integerMessage (base : Nat) (shown : List Char) : String :=
  s!"invalid literal for int() with base {base}: {String.ofList (shown.take shownLength)}"

def message : ReadError → String
  | .malformed => "The settings file is not well formed."
  | .broken e => e.message
  | .codeOutOfRange => "chr() arg not in range(0x110000)"
  | .codeTooLarge => "Python int too large to convert to C int"
  | .noTruthWord word => String.ofList (Text.literal word)
  | .emptyNumeral => "string index out of range"
  | .integer base numeral => integerMessage base (Text.literal numeral)
  | .integerTooLong digits => Text.tooLongMessage digits
  | .number numeral =>
    s!"could not convert string to float: {String.ofList (Text.literal numeral)}"
  | .numberTooLarge => "int too large to convert to float"
  | .noMoment => "'NoneType' object has no attribute 'groupdict'"
  | .momentOfMapping => "expected string or bytes-like object, got 'list'"
  | .moment e => e.message
  | .tooDeep => "maximum recursion depth exceeded"

end ReadError

end UnitConversion.Settings
