import UnitConversion.Text.Composition
import UnitConversion.Text.Direction
import UnitConversion.Text.Fields
import UnitConversion.Text.Literal
import UnitConversion.Text.Lowercase
import UnitConversion.Text.Punycode

/-!
# Names of hosts

The name of a host is made of labels between dots. A label with other characters than those of ASCII
is written in Punycode behind a mark. No label is empty or has more than 63 characters; only the last
one may be empty, when the name ends in a dot.

* `Host.ascii`: the ASCII form of a name.
-/

namespace UnitConversion

/-- Why a name has no ASCII form. -/
inductive HostError where
  | labelEmptyOrTooLong
  | lastLabelTooLong
  | reservedMark
  | invalidCharacter (p : CodePoint)
  | mixedDirections
  | brokenDirection
deriving DecidableEq, Repr

/-- What is wrong with a name. -/
def HostError.reason : HostError → Text
  | .labelEmptyOrTooLong => "label empty or too long"
  | .lastLabelTooLong => "label too long"
  | .reservedMark => "Label starts with ACE prefix"
  | .invalidCharacter p => "Invalid character " ++ Text.ofChars (Text.literal [p])
  | .mixedDirections => "Violation of BIDI requirement 2"
  | .brokenDirection => "Violation of BIDI requirement 3"

def HostError.message (e : HostError) : Text :=
  "encoding with 'idna' codec failed (UnicodeError: " ++ e.reason ++ ")"

namespace Host

/-- The mark of a label in Punycode. -/
def mark : List Char := "xn--".toList

/-! ## Labels -/

/-- The length of a label is that of a name on the network. -/
def hasLabelLength (label : List Char) : Bool := 0 < label.length && label.length < 64

/-- A label of the right length. -/
def sized (label : List Char) : Except HostError (List Char) :=
  if hasLabelLength label then .ok label else .error .labelEmptyOrTooLong

/-- The characters that a label drops: those that only say how others are joined or broken. -/
def isDropped (n : Nat) : Bool :=
  [0xAD, 0x34F, 0x1806, 0x200B, 0x200C, 0x200D, 0x2060, 0xFEFF].contains n ||
    (0x180B ≤ n && n ≤ 0x180D) || (0xFE00 ≤ n && n ≤ 0xFE0F)

/-- The characters that are forbidden in a label: controls, private use, marks of direction and code
points that are no characters. -/
def isForbidden (n : Nat) : Bool :=
  (0x80 ≤ n && n ≤ 0x9F) || [0x340, 0x341, 0x6DD, 0x70F, 0x1680, 0x180E].contains n ||
    (0x200E ≤ n && n ≤ 0x200F) || (0x2028 ≤ n && n ≤ 0x202E) || (0x2061 ≤ n && n ≤ 0x2063) ||
    (0x206A ≤ n && n ≤ 0x206F) || (0x2FF0 ≤ n && n ≤ 0x2FFB) || (0xD800 ≤ n && n ≤ 0xF8FF) ||
    (0xFDD0 ≤ n && n ≤ 0xFDEF) || (0xFFF9 ≤ n && n ≤ 0xFFFF) || (0x1D173 ≤ n && n ≤ 0x1D17A) ||
    n == 0xE0001 || (0xE0020 ≤ n && n ≤ 0xE007F) || (0x10000 ≤ n && 0xFFFE ≤ n % 0x10000) ||
    0xF0000 ≤ n

/-- The code points that a code point is compared as: those of its lower case, a sharp s as two letters,
any sigma as the plain one, and the iota below a vowel as the one behind it. -/
def folded (n : Nat) : List Nat :=
  if n = 0xDF then [0x73, 0x73]
  else if n = 0x3C2 then [0x3C3]
  else if n = 0x345 then [0x3B9]
  else match Text.decomposition? n, (CodePoint.ofNat n).char? with
    | some { parts := [vowel, 0x345], isCanonical := true }, _ => [vowel, 0x3B9]
    | _, some c => (Text.lowerChar c).map Char.toNat
    | _, none => [n]

/-- The code points that a code point stands for in a label. What a compatibility form consists of may
have a case of its own, so it is folded once more. -/
def mapped (n : Nat) : List Nat :=
  Text.compatibilityForm ((Text.compatibilityForm (folded n)).flatMap folded)

/-- The directions in which a label is written agree: it starts and ends from right to left, with
nothing from left to right in between, or nothing in it is written from right to left. -/
def checkDirections (ns : List Nat) : Except HostError Unit :=
  if !ns.any Text.isRightToLeft then .ok ()
  else if ns.any Text.isLeftToRight then .error .mixedDirections
  else if ns.head?.any Text.isRightToLeft && ns.getLast?.any Text.isRightToLeft then .ok ()
  else .error .brokenDirection

/-- The characters of a label in the form in which labels are compared. -/
def prepare (label : Text) : Except HostError (List Char) :=
  let kept := (label.map CodePoint.code).filter (!isDropped ·)
  let form := Text.compatibilityForm (kept.flatMap mapped)
  match form.find? isForbidden with
  | some n => .error (.invalidCharacter (.ofNat n))
  | none => (checkDirections form).map fun _ => form.map .ofNat

def isAscii (cs : List Char) : Bool := cs.all fun c => c.toNat < 0x80

/-- The ASCII form of a label. -/
def labelAscii (label : Text) : Except HostError (List Char) :=
  match label.chars?.filter isAscii with
  | some cs => sized cs
  | none => do
    let cs ← prepare label
    if isAscii cs then sized cs
    else if mark.isPrefixOf cs then .error .reservedMark
    else sized (mark ++ Punycode.encode cs)

/-! ## Names -/

/-- The dots between labels. -/
def isDot (p : CodePoint) : Bool := [0x2E, 0x3002, 0xFF0E, 0xFF61].contains p.code

/-- The labels of a name. -/
def labels (name : Text) : List Text := name.splitOnP isDot

/-- Checks the labels of a name in ASCII. -/
def checkLabels : List (List Char) → Except HostError Unit
  | [] => .ok ()
  | [last] => if last.length < 64 then .ok () else .error .lastLabelTooLong
  | label :: rest => if hasLabelLength label then checkLabels rest else .error .labelEmptyOrTooLong

/-- The ASCII form of a name. -/
def ascii (name : Text) : Except HostError (List Char) :=
  match name.chars?.filter isAscii with
  | some [] => .ok []
  | some cs => (checkLabels (Text.fields '.' cs)).map fun _ => cs
  | none => do
    let all := labels name
    let endsInDot := all.getLast? == some []
    let parts ← (if endsInDot then all.dropLast else all).mapM labelAscii
    return Text.join '.' parts ++ if endsInDot then ['.'] else []

end Host

end UnitConversion
