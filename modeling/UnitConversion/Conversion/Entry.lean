import UnitConversion.Transform.Registry

/-!
# Conversion entries

The transforms between a primary unit and its minors are expanded into one entry for each ordered
pair of units of a group. A conversion between two minors goes through the primary unit.

The entries of a group come in three runs: from the primary unit to each minor, from each minor to the
primary unit, and then, for each minor as the target, from each other minor as the source.

* `Group.expand`: the entries of a group.
* `expandCatalog`: the entries of a list of groups, in order.
-/

namespace UnitConversion

/-- How a conversion is carried out. -/
inductive Route (α : Type) where
  | fromPrimary (target : Instance α)
  | toPrimary (source : Instance α)
  | betweenMinors (source target : Instance α)
deriving DecidableEq

/-- Converts a magnitude along a route. -/
def Route.convert {α : Type} [Scalar α] : Route α → α → α
  | .fromPrimary target, x => target.transform.backward x
  | .toPrimary source, x => source.transform.forward x
  | .betweenMinors source target, x => target.transform.backward (source.transform.forward x)

/-- A conversion from one signature to another. -/
structure Entry (α : Type) where
  source : Text
  target : Text
  quantity : Text
  route : Route α
deriving DecidableEq

variable {α : Type}

/-- The signatures an entry converts between. -/
def Entry.key (e : Entry α) : Text × Text := (e.source, e.target)

/-- A minor unit with its instance. -/
abbrev BuiltMinor (α : Type) := MeasureUnit × Instance α

namespace Group

/-- The pairs of the primary unit with each minor. -/
def pairs (g : Group) : List UnitPair := g.minors.map fun minor => (g.primary, minor)

def fromPrimary (g : Group) (minor : BuiltMinor α) : Entry α :=
  ⟨g.primary.signature, minor.1.signature, g.quantity, .fromPrimary minor.2⟩

def toPrimary (g : Group) (minor : BuiltMinor α) : Entry α :=
  ⟨minor.1.signature, g.primary.signature, g.quantity, .toPrimary minor.2⟩

def betweenMinors (g : Group) (source target : BuiltMinor α) : Entry α :=
  ⟨source.1.signature, target.1.signature, g.quantity, .betweenMinors source.2 target.2⟩

/-- The entries of a group whose minors have been built. -/
def entries (g : Group) (minors : List (BuiltMinor α)) : List (Entry α) :=
  minors.map g.fromPrimary ++ minors.map g.toPrimary ++
    minors.flatMap fun target =>
      (minors.filter fun source => source.1 ≠ target.1).map fun source => g.betweenMinors source target

/-- Builds the transforms of a group and expands them. All of them are built before there is any
entry. -/
def expand [Scalar α] (g : Group) (table : Declarations α) (r : Registry α) :
    Registry α × Except (TransformError α) (List (Entry α)) :=
  match r.fetchAll table g.pairs with
  | (r', .error e) => (r', .error e)
  | (r', .ok instances) => (r', .ok (g.entries (g.minors.zip instances)))

end Group

/-- Builds and expands groups in order, up to the first that cannot be built. -/
def expandCatalog [Scalar α] (table : Declarations α) (r : Registry α) :
    List Group → Registry α × Except (TransformError α) (List (Entry α))
  | [] => (r, .ok [])
  | g :: rest =>
    match g.expand table r with
    | (r', .error e) => (r', .error e)
    | (r', .ok entries) =>
      match expandCatalog table r' rest with
      | (r'', .error e) => (r'', .error e)
      | (r'', .ok others) => (r'', .ok (entries ++ others))

end UnitConversion
