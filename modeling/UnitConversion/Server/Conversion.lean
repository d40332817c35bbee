import UnitConversion.Conversion.Dispatcher
import UnitConversion.Validation.Requests
import UnitConversion.Web.Report

/-!
# Answering conversions

A request for a conversion is checked in steps, and the first step that fails decides the answer: the
fields of the payload, the source, the target, their quantities, the size of the result, and the
precision.

* `Dispatcher.convert`: the outcome of a request.
* `Dispatcher.answer`: the outcome of a payload.
* `Rejection.report`: how a rejection is answered.
-/

namespace UnitConversion

/-- A conversion that was carried out. -/
structure Converted where
  value : Binary64
  source : Text
  target : Text
  quantity : Text
  formatted : String

/-- The JSON form of a conversion. -/
def Converted.describe (c : Converted) : Json :=
  .object
    [("value", .float c.value), ("from_unit", .string c.source), ("to_unit", .string c.target),
      ("quantity", .string c.quantity), ("formatted", .string c.formatted)]

/-- Why a conversion was not carried out. -/
inductive Rejection where
  | invalidRequest (faults : List Fault)
  | unknownUnit (signature : Text)
  | dimensionMismatch (source target : MeasureUnit)
  /-- The result is not finite. -/
  | overflow (request : ConversionRequest)
  | invalidPrecision (e : FormatError)

/-- The JSON form of a fault. -/
def Fault.describe (f : Fault) : Json :=
  .object
    [("type", .string f.kind.code), ("loc", .array (f.location.map .string)),
      ("msg", .string f.kind.message)]

namespace Rejection

/-- The code of a rejection. -/
def code : Rejection → String
  | .invalidRequest _ => "unit.invalid_request"
  | .unknownUnit _ => "unit.invalid_unit"
  | .dimensionMismatch _ _ => "unit.dimension_mismatch"
  | .overflow _ => "unit.non_finite_result"
  | .invalidPrecision _ => "unit.invalid_precision"

def message : Rejection → Text
  | .invalidRequest _ => "Invalid request payload"
  | .unknownUnit signature => "Unknown unit '" ++ signature ++ "'."
  | .dimensionMismatch s t =>
    "Cannot convert " ++ s.quantity ++ " '" ++ s.signature ++ "' to " ++ t.quantity ++ " '" ++
      t.signature ++ "'."
  | .overflow q =>
    "Converting " ++ Text.ofString q.value.shortest ++ " from '" ++ q.source ++ "' to '" ++
      q.target ++ "' overflows."
  | .invalidPrecision e => e.message

/-- A request that was understood but has no answer differs from one that is wrong in itself. -/
def status : Rejection → Int
  | .dimensionMismatch _ _ | .overflow _ => 422
  | _ => ReportKind.validation.status

/-- The faults of a request that is wrong in itself. -/
def details : Rejection → List (Text × Json)
  | .invalidRequest faults => [("errors", .array (faults.map Fault.describe))]
  | _ => []

/-- The report that a rejection is answered with. -/
def report (r : Rejection) : ErrorReport where
  kind := .validation
  message := r.message
  code := r.code
  status := r.status
  details := r.details

end Rejection

/-- What becomes of a request for a conversion. -/
inductive ConversionOutcome where
  | converted (c : Converted)
  | rejected (r : Rejection)
  /-- The precision is beyond what can be written. -/
  | failed (e : FormatError)

namespace Dispatcher

/-- Why there is no conversion between two signatures. -/
def mismatch (d : Dispatcher Binary64) (source target : Text) : Rejection :=
  match d.unit? source, d.unit? target with
  | none, _ => .unknownUnit source
  | some _, none => .unknownUnit target
  | some s, some t => .dimensionMismatch s t

/-- The quantity of a signature. -/
def quantityOf (d : Dispatcher Binary64) (signature : Text) : Text :=
  ((d.unit? signature).map (·.quantity)).getD []

/-- The outcome of a request. -/
def convert (platform : Platform) (d : Dispatcher Binary64) (q : ConversionRequest) : ConversionOutcome :=
  match d.process q.source q.target q.value with
  | none => .rejected (d.mismatch q.source q.target)
  | some x =>
    if !x.isFinite then .rejected (.overflow q)
    else match x.format platform q.precision with
      | .ok text => .converted ⟨x, q.source, q.target, d.quantityOf q.source, text⟩
      | .error e => if e.isBadInput then .rejected (.invalidPrecision e) else .failed e

/-- The outcome of a payload. -/
def answer (platform : Platform) (d : Dispatcher Binary64) (payload : Json) : ConversionOutcome :=
  match ConversionRequest.ofPayload payload with
  | .ok q => d.convert platform q
  | .error faults => .rejected (.invalidRequest faults)

end Dispatcher

end UnitConversion
