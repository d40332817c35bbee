import UnitConversion.Validation.Coercion

/-!
# Schemas of payloads

A schema lists the fields of a payload with their kinds, the names they are read from, and what they
are when absent, and says what becomes of members that it does not declare. A payload is checked as a
whole: every fault is reported, those of declared fields in the order of the schema and then those of
undeclared members in the order of the payload.

* `Schema.validate`: the record of a payload, or its faults.
-/

namespace UnitConversion

/-- The kind of a field. -/
inductive FieldKind where
  | number
  | finiteNumber
  | integer
  /-- An integer or null. -/
  | optionalInteger
  | text (strip : Bool)
deriving DecidableEq, Repr

/-- The value of a field. -/
inductive FieldValue where
  | absent
  | number (x : Binary64)
  | integer (n : Int)
  | text (t : Text)
deriving DecidableEq

/-- The value of a field of the given kind. -/
def FieldKind.coerce (kind : FieldKind) (j : Json) : Except FaultKind FieldValue :=
  match kind with
  | .number => (coerceNumber j).map .number
  | .finiteNumber => (coerceFiniteNumber j).map .number
  | .integer => (coerceInteger j).map .integer
  | .optionalInteger =>
    match j with
    | .null => .ok .absent
    | _ => (coerceInteger j).map .integer
  | .text strip => (coerceText strip j).map .text

/-- A declared field. -/
structure Field where
  name : String
  /-- The name of the member that the field is read from. -/
  key : String := name
  kind : FieldKind
  /-- The value of the field when its member is absent. Without one the member is required. -/
  default? : Option FieldValue := none

/-- A fault and where it lies. -/
structure Fault where
  location : List Text
  kind : FaultKind
deriving DecidableEq, Repr

/-- The fields of a payload. -/
structure Schema where
  title : String
  fields : List Field
  /-- Members that are not declared are left out of account. -/
  ignoresUndeclared : Bool := false

/-- Values of fields by name. -/
abbrev Record := List (String × FieldValue)

namespace Field

/-- The value of a field in a payload. -/
def read (f : Field) (members : List (Text × Json)) : Except FaultKind FieldValue :=
  match members.lookup (Text.ofString f.key) with
  | some j => f.kind.coerce j
  | none =>
    match f.default? with
    | some value => .ok value
    | none => .error .missing

/-- The fault of a field in a payload, if it has one. -/
def faults (f : Field) (members : List (Text × Json)) : List Fault :=
  match f.read members with
  | .ok _ => []
  | .error kind => [⟨[f.key], kind⟩]

/-- The field with its value. -/
def values (f : Field) (members : List (Text × Json)) : Record :=
  match f.read members with
  | .ok value => [(f.name, value)]
  | .error _ => []

end Field

namespace Schema

/-- The schema declares a member of this name. -/
def declares (s : Schema) (key : Text) : Bool := s.fields.any fun f => Text.ofString f.key == key

/-- The faults of undeclared members. -/
def undeclaredFaults (s : Schema) (members : List (Text × Json)) : List Fault :=
  if s.ignoresUndeclared then []
  else (members.filter fun m => !s.declares m.1).map fun m => ⟨[m.1], .undeclared⟩

/-- Some member has a name with halves, and it is taken into account. -/
def hasBrokenName (s : Schema) (members : List (Text × Json)) : Bool :=
  !s.ignoresUndeclared && members.any fun m => !m.1.isWhole

/-- All faults of an object. A name with halves cannot be reported, so that it is the only fault. -/
def faults (s : Schema) (members : List (Text × Json)) : List Fault :=
  if s.hasBrokenName members then [⟨[], .brokenText⟩]
  else s.fields.flatMap (·.faults members) ++ s.undeclaredFaults members

/-- The record of a payload, or its faults. A payload that stands for nothing is an empty object. -/
def validate (s : Schema) (payload : Json) : Except (List Fault) Record :=
  match (if payload.isFalsy then .object [] else payload) with
  | .object members =>
    match s.faults members with
    | [] => .ok (s.fields.flatMap (·.values members))
    | faults => .error faults
  | _ => .error [⟨[], .notAnObject s.title⟩]

end Schema

namespace Record

def number (r : Record) (name : String) : Binary64 :=
  match r.lookup name with
  | some (.number x) => x
  | _ => .nan

def integer? (r : Record) (name : String) : Option Int :=
  match r.lookup name with
  | some (.integer n) => some n
  | _ => none

def text (r : Record) (name : String) : Text :=
  match r.lookup name with
  | some (.text t) => t
  | _ => []

end Record

end UnitConversion
