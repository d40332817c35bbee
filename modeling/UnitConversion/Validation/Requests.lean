import UnitConversion.Rendering
import UnitConversion.Validation.Schema

/-!
# The payloads of conversion requests

* `Schema.precision`, `ConversionRequest.schema`: the payload of the JSON interface. Signatures are taken as
  they are.
* `PlainRequest.schema`: the query of the plain interface, which takes infinities and leaves other
  members out of account.
-/

namespace UnitConversion

/-- The fields that ask for a precision. -/
def precisionFields : List Field :=
  [{ name := "decimals", kind := .optionalInteger, default? := some .absent },
    { name := "sig_figs", kind := .optionalInteger, default? := some .absent }]

/-- A payload that asks for a precision only. -/
def precisionSchema : Schema := { title := "PrecisionPayload", fields := precisionFields }

/-- A request to convert a finite magnitude. -/
structure ConversionRequest where
  value : Binary64
  source : Text
  target : Text
  precision : Precision

namespace ConversionRequest

def schema : Schema where
  title := "ConvertPayload"
  fields := precisionFields ++
    [{ name := "value", kind := .finiteNumber },
      { name := "from_unit", kind := .text false },
      { name := "to_unit", kind := .text false }]

/-- The request of a payload, or its faults. -/
def ofPayload (payload : Json) : Except (List Fault) ConversionRequest :=
  (schema.validate payload).map fun r =>
    ⟨r.number "value", r.text "from_unit", r.text "to_unit",
      ⟨r.integer? "decimals", r.integer? "sig_figs"⟩⟩

end ConversionRequest

/-- A request of the plain interface. -/
structure PlainRequest where
  value : Binary64
  source : Text
  target : Text

namespace PlainRequest

def schema : Schema where
  title := "LegacyQuery"
  fields :=
    [{ name := "from_unit", key := "from", kind := .text false, default? := some (.text []) },
      { name := "to_unit", key := "to", kind := .text false, default? := some (.text []) },
      { name := "value", kind := .number }]
  ignoresUndeclared := true

/-- The request of a payload, or its faults. -/
def ofPayload (payload : Json) : Except (List Fault) PlainRequest :=
  (schema.validate payload).map fun r => ⟨r.number "value", r.text "from_unit", r.text "to_unit"⟩

end PlainRequest

end UnitConversion
