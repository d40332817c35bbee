import UnitConversion.Json.Basic

/-!
# Error reports

A report is an error in the form in which it is answered: a code for programs, a message for readers,
a status and details. Each kind of report has a code and a status of its own, which a report may
replace.

* `ErrorReport.describe`: the JSON form.
* `ErrorReport.ofUnexpected`: the report of an error that was not reported where it arose.
-/

namespace UnitConversion

/-- The kinds of reports. -/
inductive ReportKind where
  | general
  | validation
  | notFound
  | internal
deriving DecidableEq, Repr

namespace ReportKind

def code : ReportKind → String
  | .general => "error"
  | .validation => "validation_error"
  | .notFound => "not_found"
  | .internal => "internal_error"

def status : ReportKind → Int
  | .general => 400
  | .validation => 400
  | .notFound => 404
  | .internal => 500

end ReportKind

/-- An error in the form in which it is answered. -/
structure ErrorReport where
  kind : ReportKind
  message : Text
  code : Text := kind.code
  status : Int := kind.status
  details : List (Text × Json) := []

namespace ErrorReport

/-- The JSON form of a report, without its status. -/
def describe (e : ErrorReport) : List (Text × Json) :=
  [("code", .string e.code), ("message", .string e.message), ("details", .object e.details)]

/-- The report of an error of the given name. Without a message the name stands in for it. -/
def ofUnexpected (code name message : Text) : ErrorReport where
  kind := .internal
  message := if message.isEmpty then name else message
  code := code

end ErrorReport

end UnitConversion
