import UnitConversion.Settings.Description

/-!
# Manifests

A manifest says on the home page what a part of the server does. The settings of the part may replace
its summary.

* `manifests`: the manifests of all parts under given settings.
-/

namespace UnitConversion

/-- A setting of this kind stands where entries are needed. -/
structure NotAMapping where
  kindName : String
deriving DecidableEq, Repr

/-- The setting, which has to be a mapping. -/
def Setting.requireMapping (s : Setting) : Except NotAMapping Setting :=
  if s.isMapping then .ok s else .error ⟨s.kindName⟩

/-- The mapping under a key. What stands for nothing is an empty one. -/
def Setting.mappingAt (s : Setting) (key : Text) : Except NotAMapping Setting :=
  (s.get key).orEmpty.requireMapping

/-- What a part of the server does. -/
structure Manifest where
  title : Text
  summary : Setting
  /-- The name of the part in the settings. -/
  key : Text
  category : Text

namespace Manifest

/-- The JSON form of a manifest, with the members in the order of their names and room for so many collections
inside of each other in the summary. -/
def describe (room : Nat) (m : Manifest) : Except DescriptionError Json := do
  let summary ← m.summary.toJson room
  return .object
    [("blueprint", .string m.key), ("category", .string m.category), ("summary", summary),
      ("title", .string m.title)]

/-- The manifest of the unit converter. -/
def converter : Manifest where
  title := "Unit Converter"
  summary := .text "Weight, distance and temperature conversions between fixed unit signatures."
  key := "unit_converter"
  category := "General Utilities"

/-- The manifest with the summary of the settings of its part, if they have one. -/
def withSummary (m : Manifest) (own : Setting) : Manifest :=
  match own.get? "summary" with
  | some s => if s.isFalsy then m else { m with summary := s }
  | none => m

end Manifest

/-- The manifests of all parts under given settings. -/
def manifests (parts : Setting) : Except NotAMapping (List Manifest) := do
  let parts ← parts.requireMapping
  let own ← parts.mappingAt Manifest.converter.key
  return [Manifest.converter.withSummary own]

end UnitConversion
