/-!
# UTF-8

A byte sequence is cut into pieces: code points, and runs of bytes that belong to none. Such a run is
as long as it could still have become a code point, so that its length does not depend on what comes
behind it. What becomes of these runs is up to the reader.

* `encode`: the bytes of a text.
* `pieces`: the pieces of a byte sequence.
* `decodeReplacing`: the text of a byte sequence, with a replacement character for each stray run.
-/

namespace UnitConversion.Utf8

/-! ## Writing -/

/-- The bytes of a code point. -/
def encodeCode (n : Nat) : List UInt8 :=
  if n < 0x80 then [.ofNat n]
  else if n < 0x800 then [.ofNat (0xC0 + n / 64), .ofNat (0x80 + n % 64)]
  else if n < 0x10000 then
    [.ofNat (0xE0 + n / 4096), .ofNat (0x80 + n / 64 % 64), .ofNat (0x80 + n % 64)]
  else
    [.ofNat (0xF0 + n / 262144), .ofNat (0x80 + n / 4096 % 64), .ofNat (0x80 + n / 64 % 64),
      .ofNat (0x80 + n % 64)]

/-- The bytes of a text. -/
def encode (cs : List Char) : List UInt8 := cs.flatMap fun c => encodeCode c.toNat

/-! ## Reading -/

/-- A part of a byte sequence. -/
inductive Piece where
  | code (n : Nat)
  /-- Bytes that belong to no code point. -/
  | stray (bytes : List UInt8)
deriving DecidableEq

/-- A code point of which bytes are still missing. The next byte has to lie between `low` and
`high`. -/
structure Pending where
  taken : List UInt8
  missing : Nat
  low : Nat
  high : Nat
  code : Nat

/-- What the first byte of a code point promises. A byte that starts none gives nothing. The bounds
on the second byte keep out longer forms than necessary, code points above the last one, and, unless
they are asked for, surrogates. -/
def lead? (surrogates : Bool) (b : UInt8) : Option Pending :=
  let n := b.toNat
  if n < 0xC2 then none
  else if n < 0xE0 then some ⟨[b], 1, 0x80, 0xBF, n - 0xC0⟩
  else if n < 0xF0 then
    let low := if n = 0xE0 then 0xA0 else 0x80
    let high := if n = 0xED && !surrogates then 0x9F else 0xBF
    some ⟨[b], 2, low, high, n - 0xE0⟩
  else if n < 0xF5 then
    let low := if n = 0xF0 then 0x90 else 0x80
    let high := if n = 0xF4 then 0x8F else 0xBF
    some ⟨[b], 3, low, high, n - 0xF0⟩
  else none

/-- The pieces that a byte between code points completes, and the code point that it begins. -/
def start (surrogates : Bool) (b : UInt8) : List Piece × Option Pending :=
  if b.toNat < 0x80 then ([.code b.toNat], none)
  else match lead? surrogates b with
    | some p => ([], some p)
    | none => ([.stray [b]], none)

/-- The pieces that the next byte of a code point completes. A byte out of bounds ends the code point
and stands between code points itself. -/
def advance (surrogates : Bool) (p : Pending) (b : UInt8) : List Piece × Option Pending :=
  if p.low ≤ b.toNat ∧ b.toNat ≤ p.high then
    let code := p.code * 64 + b.toNat % 64
    if p.missing = 1 then ([.code code], none)
    else ([], some ⟨p.taken ++ [b], p.missing - 1, 0x80, 0xBF, code⟩)
  else
    let (pieces, next) := start surrogates b
    (.stray p.taken :: pieces, next)

/-- The pieces of a byte sequence behind a code point that may be incomplete. -/
def scan (surrogates : Bool) : Option Pending → List UInt8 → List Piece
  | none, [] => []
  | some p, [] => [.stray p.taken]
  | none, b :: rest =>
    let (pieces, next) := start surrogates b
    pieces ++ scan surrogates next rest
  | some p, b :: rest =>
    let (pieces, next) := advance surrogates p b
    pieces ++ scan surrogates next rest

/-- The pieces of a byte sequence. -/
def pieces (bytes : List UInt8) : List Piece := scan false none bytes

/-- The text of a byte sequence, with a replacement character for each stray run. -/
def decodeReplacing (bytes : List UInt8) : List Char :=
  (pieces bytes).map fun
    | .code n => Char.ofNat n
    | .stray _ => Char.ofNat 0xFFFD

/-- The code points of a byte sequence without stray bytes. -/
def codes? (surrogates : Bool) (bytes : List UInt8) : Option (List Nat) :=
  (scan surrogates none bytes).mapM fun
    | .code n => some n
    | .stray _ => none

end UnitConversion.Utf8
