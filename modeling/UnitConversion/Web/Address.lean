import UnitConversion.Text.Fields
import UnitConversion.Text.Hexadecimal

/-!
# Internet addresses

The two forms of numeric addresses: four decimal numbers between dots, and up to eight hexadecimal
groups between colons, of which a run of zeros may be left out once.
-/

namespace UnitConversion.Address

/-- A decimal number of at most 255 without zeros in front. -/
def isOctet (cs : List Char) : Bool :=
  !cs.isEmpty && cs.length ≤ 3 && cs.all Char.isDigit && (cs.length == 1 || cs.head? != some '0') &&
    Nat.ofDigitChars 10 cs 0 ≤ 255

/-- The text is an address of four numbers. -/
def isVersionFour (cs : List Char) : Bool :=
  let parts := Text.fields '.' cs
  parts.length == 4 && parts.all isOctet

/-- A group of one to four hexadecimal digits. -/
def isGroup (cs : List Char) : Bool :=
  !cs.isEmpty && cs.length ≤ 4 && cs.all fun c => (Text.hexValue? c).isSome

/-- The groups of an address. An address of four numbers at the end stands for two groups. -/
def groups? (cs : List Char) : Option (List (List Char)) :=
  let parts := Text.fields ':' cs
  if parts.length < 3 then none
  else
    let last := parts.getLastD []
    if last.contains '.' then
      if isVersionFour last then some (parts.dropLast ++ [['0'], ['0']]) else none
    else some parts

/-- The groups before and after the gap stand for an address. At an end of the address the gap has an
empty group beside it. -/
def fitsAround (before after : List (List Char)) : Bool :=
  let before := if before == [[]] then [] else before
  let after := if after == [[]] then [] else after
  before.length + after.length < 8 && before.all isGroup && after.all isGroup

/-- The inner groups have no gap, and the first gap is at this place. -/
def gaps (parts : List (List Char)) : List Nat :=
  (List.range parts.length).filter fun i =>
    0 < i && i + 1 < parts.length && parts[i]? == some []

/-- The text is an address of groups. -/
def isGrouped (cs : List Char) : Bool :=
  match groups? cs with
  | none => false
  | some parts =>
    match gaps parts with
    | [] => parts.length == 8 && parts.all isGroup
    | [i] => parts.length ≤ 9 && fitsAround (parts.take i) (parts.drop (i + 1))
    | _ => false

/-- The text is an address of groups, which may name a zone behind a percent sign. -/
def isVersionSix (cs : List Char) : Bool :=
  let zone := cs.dropWhile (· != '%')
  isGrouped (cs.takeWhile (· != '%')) &&
    (zone.isEmpty || (1 < zone.length && !zone.tail.contains '%'))

end UnitConversion.Address
