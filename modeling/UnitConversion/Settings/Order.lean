import UnitConversion.Settings.Basic

/-!
# The order of keys

Keys of one kind have an order: numbers by value, texts by code points, bytes and moments. Keys of
different kinds cannot be compared, so that a mapping with such keys cannot be sorted. Which of its
keys are reported depends on the order in which they are compared.

Keys are sorted by merging runs. A run that is in order, or in reverse order, is taken as it is; a short
one is made longer by further keys, each of which is inserted at a place that is found by halving. Fewer
than sixty-four keys make one run. When runs are merged is decided by their places alone: the power of
two neighbours is the first binary digit in which their middles differ as fractions of the whole, and
higher powers go first.

* `Setting.isBefore`: the order of two keys.
* `sortByKey`: entries in the order of their keys.
-/

namespace UnitConversion

/-- Two keys that cannot be compared. -/
inductive OrderError where
  | kinds (left right : String)
  /-- A day and a time. -/
  | dateAndTime
  /-- A time in universal time and one that is not said to be. -/
  | universalAndLocal
deriving DecidableEq, Repr

def OrderError.message : OrderError → String
  | .kinds left right => s!"'<' not supported between instances of '{left}' and '{right}'"
  | .dateAndTime => "can't compare datetime.datetime to datetime.date"
  | .universalAndLocal => "can't compare offset-naive and offset-aware datetimes"

/-- The first number is less than the second one. -/
def Binary64.isBelow : Binary64 → Binary64 → Bool
  | .nan, _ => false
  | _, .nan => false
  | .infinite s, .infinite t => s && !t
  | .infinite s, .finite _ _ => s
  | .finite _ _, .infinite t => !t
  | .finite s a, .finite t b => decide (signedUnits s a.units < signedUnits t b.units)

namespace Setting

/-! ## Numbers -/

/-- A number as a key: an exact integer or a binary64 number. -/
inductive KeyNumber where
  | int (n : Int)
  | float (x : Binary64)

/-- The number that a setting is as a key. -/
def keyNumber? : Setting → Option KeyNumber
  | .bool b => some (.int (if b then 1 else 0))
  | .int n => some (.int n)
  | .float x => some (.float x)
  | _ => none

/-- A number counted in units of `2 ^ -1074`, or the infinity that it is. -/
def KeyNumber.units? : KeyNumber → Option Int
  | .int n => some (n * oneUnits)
  | .float (.finite s m) => some (Binary64.signedUnits s m.units)
  | .float _ => none

/-- The first number is less than the second one. -/
def KeyNumber.isBelow (a b : KeyNumber) : Bool :=
  match a.units?, b.units?, a, b with
  | some m, some n, _, _ => decide (m < n)
  | none, none, .float x, .float y => x.isBelow y
  | none, some _, .float (.infinite s), _ => s
  | some _, none, _, .float (.infinite t) => !t
  | _, _, _, _ => false

/-- Two numbers are the same key. The value that is not a number is equal to no other. -/
def KeyNumber.isSame (a b : KeyNumber) : Bool :=
  match a, b with
  | .float (.infinite s), .float (.infinite t) => s == t
  | _, _ => a.units?.isSome && a.units? == b.units?

/-! ## Keys -/

/-- Two settings are the same key. Numbers of different kinds with one value are. -/
def sameKey (a b : Setting) : Bool :=
  match a, b with
  | .null, .null => true
  | .text s, .text t => s == t
  | .bytes s, .bytes t => s == t
  | .moment m, .moment n => m == n
  | _, _ =>
    match a.keyNumber?, b.keyNumber? with
    | some m, some n => m.isSame n
    | _, _ => false

/-- The first key is before the second one. -/
def isBefore (a b : Setting) : Except OrderError Bool :=
  match a, b with
  | .text s, .text t => .ok (s.precedes t && s != t)
  | .bytes s, .bytes t => .ok (decide (s.map UInt8.toNat < t.map UInt8.toNat))
  | .moment (.date m), .moment (.date n) => .ok (decide (m < n))
  | .moment (.instant u m), .moment (.instant v n) =>
    if u = v then .ok (decide (m < n)) else .error .universalAndLocal
  | .moment _, .moment _ => .error .dateAndTime
  | _, _ =>
    match a.keyNumber?, b.keyNumber? with
    | some m, some n => .ok (m.isBelow n)
    | _, _ => .error (.kinds a.kindName b.kindName)

end Setting

/-! ## Sorting -/

section Sorting

variable {α : Type}

/-- The number of entries behind the first that continue a run: each of them is before its predecessor,
or none is. -/
def runLength (descending : Bool) (previous : Setting) :
    List (Setting × α) → Except OrderError Nat
  | [] => .ok 0
  | entry :: rest => do
    if (← entry.1.isBefore previous) == descending then
      return (← runLength descending entry.1 rest) + 1
    else return 0

/-- The place of a key among the sorted entries between two places. -/
def insertionPlace (sorted : List (Setting × α)) (key : Setting) :
    (steps low high : Nat) → Except OrderError Nat
  | 0, low, _ => .ok low
  | steps + 1, low, high =>
    if high ≤ low then .ok low
    else do
      let middle := low + (high - low) / 2
      match sorted[middle]? with
      | none => return low
      | some entry =>
        if ← key.isBefore entry.1 then insertionPlace sorted key steps low middle
        else insertionPlace sorted key steps (middle + 1) high

/-- Inserts entries one by one into sorted ones. -/
def insertEntries (sorted : List (Setting × α)) :
    List (Setting × α) → Except OrderError (List (Setting × α))
  | [] => .ok sorted
  | entry :: rest => do
    let place ← insertionPlace sorted entry.1 sorted.length 0 sorted.length
    insertEntries (sorted.take place ++ entry :: sorted.drop place) rest

/-- The least length of a run among so many entries, the last run apart: the number of entries, or its
first six binary digits, with one more if there are ones behind them. -/
def leastRun (count : Nat) : Nat :=
  if count < 64 then count
  else
    let shift := count.log2 - 5
    count >>> shift + if (count >>> shift) <<< shift = count then 0 else 1

/-- The first run of entries, made as long as asked for, and its length. -/
def firstRun (least : Nat) :
    List (Setting × α) → Except OrderError (List (Setting × α) × Nat)
  | first :: second :: rest => do
    let descending ← second.1.isBefore first.1
    let size := 2 + (← runLength descending second.1 rest)
    let entries := first :: second :: rest
    let run := if descending then (entries.take size).reverse else entries.take size
    let wanted := max size (min least entries.length)
    return (← insertEntries run ((entries.take wanted).drop size), wanted)
  | entries => .ok (entries, entries.length)

/-- Two sorted runs as one. Of keys that are not before each other, those of the first run come first. -/
def mergeRuns : List (Setting × α) → List (Setting × α) → Except OrderError (List (Setting × α))
  | [], right => .ok right
  | left, [] => .ok left
  | x :: left, y :: right => do
    if ← y.1.isBefore x.1 then return y :: (← mergeRuns (x :: left) right)
    else return x :: (← mergeRuns left (y :: right))
termination_by left right => left.length + right.length

/-- A sorted run that waits for being merged: where it starts, and the power that it has with the run
behind it. -/
structure PendingRun (α : Type) where
  start : Nat
  entries : List (Setting × α)
  power : Nat := 0

/-- The first binary digit, counted from one, in which two fractions of `count` differ. -/
def firstDifference (count : Nat) : (steps a b : Nat) → Nat
  | 0, _, _ => 1
  | steps + 1, a, b =>
    if a / count ≠ b / count then 1
    else 1 + firstDifference count steps (2 * (a % count)) (2 * (b % count))

/-- The power of a run with one behind it of the given length, among so many entries: where the middles
of the two differ as fractions of the whole. -/
def PendingRun.powerWith (run : PendingRun α) (length count : Nat) : Nat :=
  let middle := 2 * run.start + run.entries.length
  firstDifference count count middle (middle + run.entries.length + length)

/-- Two runs that are next to each other as one. -/
def PendingRun.merge (left right : PendingRun α) : Except OrderError (PendingRun α) :=
  (mergeRuns left.entries right.entries).map fun entries =>
    { start := left.start, entries, power := right.power }

/-- Merges the last runs as long as their power is above the given one. The last run comes first. -/
def mergeAbove (power : Nat) : List (PendingRun α) → Except OrderError (List (PendingRun α))
  | last :: previous :: rest =>
    if power < previous.power then do mergeAbove power ((← previous.merge last) :: rest)
    else .ok (last :: previous :: rest)
  | runs => .ok runs
termination_by runs => runs.length

/-- Puts a run behind the others. -/
def addRun (count : Nat) (runs : List (PendingRun α)) (run : PendingRun α) :
    Except OrderError (List (PendingRun α)) :=
  match runs with
  | [] => .ok [run]
  | last :: _ => do
    let power := last.powerWith run.entries.length count
    match ← mergeAbove power runs with
    | [] => return [run]
    | last :: rest => return run :: { last with power } :: rest

/-- Merges all runs that are left, the shorter neighbour of the last but one first. -/
def mergeAll : List (PendingRun α) → Except OrderError (List (Setting × α))
  | [] => .ok []
  | [run] => .ok run.entries
  | [last, previous] => (previous.merge last).map (·.entries)
  | last :: previous :: third :: rest => do
    if third.entries.length < last.entries.length then
      mergeAll (last :: (← third.merge previous) :: rest)
    else mergeAll ((← previous.merge last) :: third :: rest)
termination_by runs => runs.length

/-- The runs of entries from a place on, put behind others. -/
def addRuns (count least : Nat) : (rounds start : Nat) → List (PendingRun α) →
    List (Setting × α) → Except OrderError (List (PendingRun α))
  | 0, _, runs, _ => .ok runs
  | _, _, runs, [] => .ok runs
  | rounds + 1, start, runs, entries => do
    let (run, length) ← firstRun least entries
    addRuns count least rounds (start + length) (← addRun count runs { start, entries := run })
      (entries.drop length)

/-- Entries in the order of their keys. -/
def sortByKey (entries : List (Setting × α)) : Except OrderError (List (Setting × α)) := do
  let count := entries.length
  mergeAll (← addRuns count (leastRun count) count 0 [] entries)

end Sorting

end UnitConversion
