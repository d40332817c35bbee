import UnitConversion.Json.Text
import UnitConversion.Settings.Order
import UnitConversion.Text.Integer

/-!
# The JSON form of settings

The entries of a mapping become members in the order of its keys. Bytes and sets have no JSON form, nor
has a collection that is a part of itself, or one with more collections inside of each other than there
is room for.

* `Setting.toJson`: the JSON form of a setting, with all members in their final order.
-/

namespace UnitConversion

/-- Why a setting has no JSON form. -/
inductive DescriptionError where
  | order (e : OrderError)
  | key (kindName : String)
  | kind (kindName : String)
  | tooDeep
  | circular
  | integerTooLong
  | momentOutOfRange
deriving DecidableEq, Repr

def DescriptionError.message : DescriptionError → String
  | .order e => e.message
  | .key kindName => s!"keys must be str, int, float, bool or None, not {kindName}"
  | .kind kindName => s!"Object of type {kindName} is not JSON serializable"
  | .tooDeep => "maximum recursion depth exceeded while encoding a JSON object"
  | .circular => "Circular reference detected"
  | .integerTooLong => Text.unwritableMessage
  | .momentOutOfRange => "date value out of range"

namespace Setting

/-- An integer that has few enough digits. -/
def writable (n : Int) : Except DescriptionError Int :=
  if Text.isWritable n then .ok n else .error .integerTooLong

/-- The name of the member that an entry becomes. -/
def memberName : Setting → Except DescriptionError Text
  | .null => .ok "null"
  | .bool b => .ok (if b then "true" else "false")
  | .int n => (writable n).map fun n => Text.ofChars (Json.integerText n)
  | .float x => .ok (Text.ofChars (Json.numberText x))
  | .text t => .ok t
  | s => .error (.key s.kindName)

/-- The member of an entry whose value has been described. -/
def member (entry : Setting × Except DescriptionError Json) : Except DescriptionError (Text × Json) := do
  let name ← entry.1.memberName
  let value ← entry.2
  return (name, value)

/-- The object of entries whose values have been described. The first error in the order of the keys
counts. -/
def object (entries : List (Setting × Except DescriptionError Json)) : Except DescriptionError Json := do
  let sorted ← (sortByKey entries).mapError .order
  let members ← sorted.mapM member
  return .object members

mutual

/-- The JSON form of a setting, with room for so many collections inside of each other. -/
def toJson (room : Nat) : Setting → Except DescriptionError Json
  | .null => .ok .null
  | .bool b => .ok (.bool b)
  | .int n => (writable n).map .int
  | .float x => .ok (.float x)
  | .text t => .ok (.string t)
  | .moment m =>
    match m.text? with
    | some written => .ok (.string written)
    | none => .error .momentOutOfRange
  | .list items => if room = 0 then .error .tooDeep else (itemsToJson (room - 1) items).map .array
  | .mapping entries => if room = 0 then .error .tooDeep else object (describeEntries (room - 1) entries)
  | .named _ s => toJson room s
  | .again _ => if room = 0 then .error .tooDeep else .error .circular
  | s => .error (.kind s.kindName)

def itemsToJson (room : Nat) : List Setting → Except DescriptionError (List Json)
  | [] => .ok []
  | item :: rest => do
    let item ← toJson room item
    let rest ← itemsToJson room rest
    return item :: rest

/-- Entries with the JSON forms of their values. -/
def describeEntries (room : Nat) : List (Setting × Setting) → List (Setting × Except DescriptionError Json)
  | [] => []
  | (key, value) :: rest => (key, toJson room value) :: describeEntries room rest

end

end Setting

end UnitConversion
