import UnitConversion.Json.Basic
import UnitConversion.Settings.Moment

/-!
# Settings

A setting is a value of the settings file: JSON values, with bytes, moments and sets added and with
keys of mappings that need not be texts. A collection can be part of itself; then it has a name, which
stands for it inside of it.

* `Setting.get?`: the value of a mapping under a text.
* `Setting.orEmpty`: a setting that stands for nothing acts as an empty mapping.
* `Setting.ofJson`: the setting that a JSON value is.
-/

namespace UnitConversion

inductive Setting where
  | null
  | bool (b : Bool)
  | int (n : Int)
  | float (x : Binary64)
  | text (t : Text)
  | bytes (bs : List UInt8)
  | moment (m : Moment)
  | list (items : List Setting)
  | mapping (entries : List (Setting × Setting))
  | set (members : List Setting)
  /-- A collection with a name for itself. -/
  | named (name : Nat) (s : Setting)
  /-- The collection with the given name around the place where this stands. -/
  | again (name : Nat)

namespace Setting

instance : Inhabited Setting := ⟨.null⟩

/-- A setting that stands for nothing: null, false, a zero, an empty text or collection. -/
def isFalsy : Setting → Bool
  | .null => true
  | .bool b => !b
  | .int n => n == 0
  | .float x => x.isZero
  | .text t => t.isEmpty
  | .bytes bs => bs.isEmpty
  | .list items => items.isEmpty
  | .mapping entries => entries.isEmpty
  | .set members => members.isEmpty
  | .moment _ | .again _ => false
  | .named _ s => s.isFalsy

/-- The setting, or an empty mapping for one that stands for nothing. -/
def orEmpty (s : Setting) : Setting := if s.isFalsy then .mapping [] else s

/-- The kind of a setting, as messages name it. -/
def kindName : Setting → String
  | .null => "NoneType"
  | .bool _ => "bool"
  | .int _ => "int"
  | .float _ => "float"
  | .text _ => "str"
  | .bytes _ => "bytes"
  | .moment (.date _) => "datetime.date"
  | .moment (.instant _ _) => "datetime.datetime"
  | .list _ => "list"
  | .mapping _ => "dict"
  | .set _ => "set"
  | .named _ s => s.kindName
  | .again _ => "object"

def isMapping : Setting → Bool
  | .mapping _ => true
  | .named _ s => s.isMapping
  | _ => false

/-! ## Parts -/

mutual

/-- The setting with a collection put in where its name stands for it. -/
def putIn (name : Nat) (collection : Setting) : Setting → Setting
  | .list items => .list (putInItems name collection items)
  | .mapping entries => .mapping (putInEntries name collection entries)
  | .named n s => .named n (putIn name collection s)
  | .again n => if n = name then collection else .again n
  | s => s

def putInItems (name : Nat) (collection : Setting) : List Setting → List Setting
  | [] => []
  | item :: rest => putIn name collection item :: putInItems name collection rest

def putInEntries (name : Nat) (collection : Setting) :
    List (Setting × Setting) → List (Setting × Setting)
  | [] => []
  | (key, value) :: rest => (key, putIn name collection value) :: putInEntries name collection rest

end

/-- The setting is this text. -/
def isText (name : Text) : Setting → Bool
  | .text t => t == name
  | _ => false

/-- The value under a text among the entries of a mapping. -/
def lookupText (entries : List (Setting × Setting)) (name : Text) : Option Setting :=
  (entries.find? fun entry => entry.1.isText name).map (·.2)

/-- The value of a mapping under a text, none for other settings. -/
def get? (s : Setting) (key : Text) : Option Setting :=
  match s with
  | .mapping entries => lookupText entries key
  | .named name collection => (collection.get? key).map (putIn name (.named name collection))
  | _ => none

/-- The value of a mapping under a text, null if there is none. -/
def get (s : Setting) (key : Text) : Setting := (s.get? key).getD .null

/-! ## JSON -/

mutual

/-- The setting that a JSON value is. -/
def ofJson : Json → Setting
  | .null => .null
  | .bool b => .bool b
  | .int n => .int n
  | .float x => .float x
  | .string t => .text t
  | .array items => .list (ofItems items)
  | .object members => .mapping (ofMembers members)

def ofItems : List Json → List Setting
  | [] => []
  | item :: rest => ofJson item :: ofItems rest

def ofMembers : List (Text × Json) → List (Setting × Setting)
  | [] => []
  | (name, value) :: rest => (.text name, ofJson value) :: ofMembers rest

end

end Setting

end UnitConversion
