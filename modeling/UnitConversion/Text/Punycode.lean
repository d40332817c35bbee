/-!
# Punycode

Punycode writes a text with ASCII characters only. The ASCII characters come first; behind a dash, the
others are spelled as numbers that say, in the order of their code points, how far on in a walk over
all places and code points each of them is inserted. A number has digits of a varying base: how much a
digit may hold before another one follows depends on its place and on a bias, which is adapted after
each number.

* `Punycode.encode`: the ASCII form of a text.
-/

namespace UnitConversion.Punycode

/-! ## Numbers -/

/-- The digit of a value below thirty-six. -/
def digitChar (d : Nat) : Char := .ofNat (if d < 26 then 'a'.toNat + d else '0'.toNat + (d - 26))

/-- The values of a digit from this one on are followed by another digit. -/
def threshold (place bias : Nat) : Nat := min 26 (max 1 (place - bias))

theorem threshold_pos (place bias : Nat) : 0 < threshold place bias := by
  unfold threshold
  omega

/-- The digits of a number from a place on. -/
def number (bias place n : Nat) : List Char :=
  let t := threshold place bias
  if h : n < t then [digitChar n]
  else digitChar (t + (n - t) % (36 - t)) :: number bias (place + 36) ((n - t) / (36 - t))
termination_by n
decreasing_by
  have hPos : 0 < threshold place bias := threshold_pos place bias
  refine Nat.lt_of_le_of_lt (Nat.div_le_self _ _) ?_
  change ¬ n < threshold place bias at h
  omega

/-- How often a number is divided by thirty-five until it is at most 455, and what remains. -/
def reduce (delta : Nat) : Nat × Nat :=
  if 455 < delta then
    let (times, rest) := reduce (delta / 35)
    (times + 1, rest)
  else (0, delta)
termination_by delta
decreasing_by omega

/-- The bias after a number, which is the first one or not, for a text with so many characters. -/
def adapt (delta size : Nat) (isFirst : Bool) : Nat :=
  let delta := if isFirst then delta / 700 else delta / 2
  let (times, rest) := reduce (delta + delta / size)
  36 * times + 36 * rest / (rest + 38)

/-! ## Texts -/

/-- What has been written, and what the next number starts from. -/
structure State where
  written : List Char := []
  delta : Nat := 0
  bias : Nat := 72
  /-- The number of characters that are in place. -/
  size : Nat
  isFirst : Bool := true

/-- Walks over a character of the text. The given code point is inserted where it stands. -/
def State.visit (code : Nat) (s : State) (c : Char) : State :=
  if c.toNat < code then { s with delta := s.delta + 1 }
  else if c.toNat = code then
    { written := s.written ++ number s.bias 36 s.delta
      bias := adapt s.delta (s.size + 1) s.isFirst
      size := s.size + 1
      isFirst := false }
  else s

/-- Inserts code points in their order, from the first one that may come next. -/
def insertAll (cs : List Char) : (next : Nat) → List Nat → State → State
  | _, [], s => s
  | next, code :: rest, s =>
    let s := { s with delta := s.delta + (code - next) * (s.size + 1) }
    let s := cs.foldl (State.visit code) s
    insertAll cs (code + 1) rest { s with delta := s.delta + 1 }

/-- The ASCII form of a text. -/
def encode (cs : List Char) : List Char :=
  let basic := cs.filter fun c => c.toNat < 0x80
  let codes := ((cs.map Char.toNat).filter fun n => 0x80 ≤ n).mergeSort.eraseDups
  let dash := if basic.isEmpty then [] else ['-']
  basic ++ dash ++ (insertAll cs 0x80 codes { size := basic.length }).written

end UnitConversion.Punycode
