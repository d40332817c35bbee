import UnitConversion.Text.Utf8

/-!
# Encodings of JSON texts

A JSON text says by its first bytes in which encoding it is: by a byte order mark, or else by where
the zero bytes lie, since its first two characters are ASCII. Surrogates are let through in each
encoding, as code points of their own; UTF-16 joins those that form a pair.

* `Encoding.detect`: the encoding of a byte sequence.
* `codePoints?`: the code points of a byte sequence.
-/

namespace UnitConversion

/-- An encoding of Unicode text. -/
inductive Encoding where
  | utf8
  | utf16 (bigEndian : Bool)
  | utf32 (bigEndian : Bool)
deriving DecidableEq, Repr

namespace Encoding

/-- The byte order marks, the longer ones first. -/
def marks : List (Encoding × List UInt8) :=
  [(.utf32 true, [0x00, 0x00, 0xFE, 0xFF]), (.utf32 false, [0xFF, 0xFE, 0x00, 0x00]),
    (.utf16 true, [0xFE, 0xFF]), (.utf16 false, [0xFF, 0xFE]), (.utf8, [0xEF, 0xBB, 0xBF])]

/-- The encoding of a byte sequence without a mark. -/
def unmarked : List UInt8 → Encoding
  | [a, b] => if a = 0 then .utf16 true else if b = 0 then .utf16 false else .utf8
  | a :: b :: c :: d :: _ =>
    if a = 0 then (if b = 0 then .utf32 true else .utf16 true)
    else if b = 0 then (if c = 0 && d = 0 then .utf32 false else .utf16 false)
    else .utf8
  | _ => .utf8

/-- The encoding of a byte sequence and the bytes without their byte order mark. -/
def detect (bytes : List UInt8) : Encoding × List UInt8 :=
  match marks.find? fun m => m.2.isPrefixOf bytes with
  | some (encoding, mark) => (encoding, bytes.drop mark.length)
  | none => (unmarked bytes, bytes)

/-- A number of two bytes. -/
def word (bigEndian : Bool) (a b : UInt8) : Nat :=
  if bigEndian then a.toNat * 256 + b.toNat else b.toNat * 256 + a.toNat

/-- The code units of a sequence of two-byte numbers. -/
def words? (bigEndian : Bool) : List UInt8 → Option (List Nat)
  | [] => some []
  | [_] => none
  | a :: b :: rest => (words? bigEndian rest).map (word bigEndian a b :: ·)

def isHighSurrogate (n : Nat) : Bool := 0xD800 ≤ n && n < 0xDC00

def isLowSurrogate (n : Nat) : Bool := 0xDC00 ≤ n && n < 0xE000

/-- The code point of a surrogate pair. -/
def joinSurrogates (high low : Nat) : Nat := 0x10000 + (high - 0xD800) * 0x400 + (low - 0xDC00)

/-- Code units with pairs of surrogates joined. -/
def joinPairs : List Nat → List Nat
  | high :: low :: rest =>
    if isHighSurrogate high && isLowSurrogate low then joinSurrogates high low :: joinPairs rest
    else high :: joinPairs (low :: rest)
  | units => units

/-- The numbers of a sequence of four-byte numbers. -/
def longWords? (bigEndian : Bool) : List UInt8 → Option (List Nat)
  | [] => some []
  | a :: b :: c :: d :: rest => do
    let first := word bigEndian a b
    let second := word bigEndian c d
    let n := if bigEndian then first * 65536 + second else second * 65536 + first
    if n ≤ 0x10FFFF then (longWords? bigEndian rest).map (n :: ·) else none
  | _ => none

/-- The code points of a byte sequence in an encoding. -/
def decode? : Encoding → List UInt8 → Option (List Nat)
  | .utf8, bytes => Utf8.codes? true bytes
  | .utf16 bigEndian, bytes => (words? bigEndian bytes).map joinPairs
  | .utf32 bigEndian, bytes => longWords? bigEndian bytes

/-- The code points of a byte sequence in the encoding that it shows. -/
def codePoints? (bytes : List UInt8) : Option (List Nat) :=
  let (encoding, text) := detect bytes
  encoding.decode? text

end Encoding

end UnitConversion
