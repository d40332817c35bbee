import UnitConversion.Association
import UnitConversion.Binary64.Basic
import UnitConversion.Text.Basic

/-!
# JSON values

Integers and binary64 numbers are different values. The members of an object keep their order.
-/

namespace UnitConversion

inductive Json where
  | null
  | bool (b : Bool)
  | int (n : Int)
  | float (x : Binary64)
  | string (t : Text)
  | array (items : List Json)
  | object (members : List (Text × Json))

namespace Json

instance : Inhabited Json := ⟨.null⟩

/-- The members of an object, none for other values. -/
def members : Json → List (Text × Json)
  | .object ms => ms
  | _ => []

/-- The member with the given name. -/
def get? (j : Json) (name : Text) : Option Json := j.members.lookup name

/-- A value that stands for nothing: null, false, a zero, an empty text or collection. -/
def isFalsy : Json → Bool
  | .null => true
  | .bool b => !b
  | .int n => n == 0
  | .float x => x.isZero
  | .string t => t.isEmpty
  | .array items => items.isEmpty
  | .object ms => ms.isEmpty

/-- Adds a member. One of the same name is replaced in its place. -/
def insertMember (ms : List (Text × Json)) (name : Text) (value : Json) : List (Text × Json) :=
  Association.put ms name value

end Json

end UnitConversion
