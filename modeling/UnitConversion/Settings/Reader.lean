import UnitConversion.Settings.Construction

/-!
# Reading a settings file

The text of a settings file is YAML 1.1, and holds one document or none.

* `Setting.ofText`: the setting that a text stands for. A text without a document stands for null.
-/

namespace UnitConversion

open Settings (ReadError Document)

/-- The setting that a text stands for. -/
def Setting.ofText (t : Text) : Except ReadError Setting := do
  let cs ← t.requireWhole.mapError .broken
  match ← Document.ofText cs with
  | some d => d.setting
  | none => return .null

end UnitConversion
