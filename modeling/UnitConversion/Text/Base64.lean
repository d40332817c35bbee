/-!
# Base64

Four characters of an alphabet of sixty-four stand for three bytes. The last group of a text may have
two or three characters, with padding behind it that fills it up and ends the text. Characters outside
of the alphabet are skipped.

* `Base64.decode?`: the bytes of a text, none for a text that ends inside a group.
-/

namespace UnitConversion.Base64

/-- The value of a character of the alphabet. -/
def value? (c : Char) : Option Nat :=
  if 'A' ≤ c ∧ c ≤ 'Z' then some (c.toNat - 'A'.toNat)
  else if 'a' ≤ c ∧ c ≤ 'z' then some (c.toNat - 'a'.toNat + 26)
  else if c.isDigit then some (c.toNat - '0'.toNat + 52)
  else if c = '+' then some 62
  else if c = '/' then some 63
  else none

/-- The bytes of a group of two to four values. -/
def groupBytes : List Nat → List UInt8
  | [a, b] => [.ofNat (a * 4 + b / 16)]
  | [a, b, c] => [.ofNat (a * 4 + b / 16), .ofNat (b % 16 * 16 + c / 4)]
  | [a, b, c, d] =>
    [.ofNat (a * 4 + b / 16), .ofNat (b % 16 * 16 + c / 4), .ofNat (c % 4 * 64 + d)]
  | _ => []

/-- The bytes of a text behind the values of a group that is not complete and some padding. -/
def decodeFrom (group : List Nat) (padding : Nat) : List Char → Option (List UInt8)
  | [] => if group.isEmpty then some [] else none
  | c :: rest =>
    if c = '=' then
      if group.length < 2 then decodeFrom group padding rest
      else if 4 ≤ group.length + padding + 1 then some (groupBytes group)
      else decodeFrom group (padding + 1) rest
    else match value? c with
      | none => decodeFrom group padding rest
      | some v =>
        if group.length = 3 then
          (decodeFrom [] 0 rest).map (groupBytes (group ++ [v]) ++ ·)
        else decodeFrom (group ++ [v]) 0 rest

/-- The bytes of a text. -/
def decode? (cs : List Char) : Option (List UInt8) := decodeFrom [] 0 cs

end UnitConversion.Base64
