import UnitConversion.Text.Basic

/-!
# Units of measurement and their groups

A unit is identified by its signature, which is case-sensitive. The units of one quantity form a group
around a primary unit. A group has no two units with one signature and no unit of another quantity;
both are part of its type.

* `Group.ofUnits?`: a group, or the first thing that is wrong with its units.
* `unitIndex`: the units of a list of groups by signature, or the first signature that comes twice.
-/

namespace UnitConversion

/-- A unit of measurement. -/
structure MeasureUnit where
  signature : Text
  name : Text
  quantity : Text
deriving DecidableEq, Repr

/-- What can be wrong with the units of a catalog. -/
inductive CatalogError where
  | duplicateInGroup (quantity : Text)
  | foreignUnit (signature quantity expected : Text)
  | declaredTwice (signature : Text)
deriving DecidableEq, Repr

def CatalogError.message : CatalogError → Text
  | .duplicateInGroup quantity => "Duplicate unit signature in group '" ++ quantity ++ "'."
  | .foreignUnit signature quantity expected =>
    "Unit '" ++ signature ++ "' belongs to '" ++ quantity ++ "', not '" ++ expected ++ "'."
  | .declaredTwice signature => "Unit signature '" ++ signature ++ "' is declared twice."

/-- The signatures of a list of units. -/
def signatures (units : List MeasureUnit) : List Text := units.map (·.signature)

/-- The units of one quantity. -/
structure Group where
  quantity : Text
  primary : MeasureUnit
  minors : List MeasureUnit
  nodup : (signatures (primary :: minors)).Nodup
  homogeneous : ∀ u ∈ primary :: minors, u.quantity = quantity
deriving DecidableEq

namespace Group

/-- The primary unit and then the minors. -/
def units (g : Group) : List MeasureUnit := g.primary :: g.minors

/-- The group of the given units. A signature that comes twice is reported before a unit of another
quantity, and of those the first. -/
def ofUnits? (quantity : Text) (primary : MeasureUnit) (minors : List MeasureUnit) :
    Except CatalogError Group :=
  if hNodup : (signatures (primary :: minors)).Nodup then
    match hForeign : (primary :: minors).find? (fun u => u.quantity ≠ quantity) with
    | some u => .error (.foreignUnit u.signature u.quantity quantity)
    | none =>
      have hSame : ∀ u ∈ primary :: minors, u.quantity = quantity := by
        intro u hu
        have := List.find?_eq_none.mp hForeign u hu
        simpa using this
      .ok ⟨quantity, primary, minors, hNodup, hSame⟩
  else .error (.duplicateInGroup quantity)

end Group

/-! ## The index of a catalog -/

/-- Units by signature, in the order of the catalog. -/
abbrev UnitIndex := List (Text × MeasureUnit)

/-- Adds units to an index, up to the first signature that is there already. -/
def UnitIndex.extend (index : UnitIndex) : List MeasureUnit → Except CatalogError UnitIndex
  | [] => .ok index
  | u :: rest =>
    if (index.lookup u.signature).isSome then .error (.declaredTwice u.signature)
    else UnitIndex.extend (index ++ [(u.signature, u)]) rest

/-- All units of a list of groups, the groups in order and the primary unit of each first. -/
def catalogUnits (groups : List Group) : List MeasureUnit := groups.flatMap Group.units

/-- The index of a list of groups. -/
def unitIndex (groups : List Group) : Except CatalogError UnitIndex :=
  UnitIndex.extend [] (catalogUnits groups)

end UnitConversion
