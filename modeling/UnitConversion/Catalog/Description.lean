import UnitConversion.Catalog.Basic
import UnitConversion.Json.Basic

/-!
# Descriptions of groups

The JSON value that describes a group to the clients of the server: its quantity, its primary unit and
its minors, each unit by signature and name.
-/

namespace UnitConversion

def MeasureUnit.describe (u : MeasureUnit) : Json :=
  .object [("signature", .string u.signature), ("name", .string u.name)]

def Group.describe (g : Group) : Json :=
  .object
    [("quantity", .string g.quantity), ("primary", g.primary.describe),
      ("minors", .array (g.minors.map MeasureUnit.describe))]

end UnitConversion
