import UnitConversion.Association
import UnitConversion.Json.Text
import UnitConversion.Text.Broken
import UnitConversion.Web.Report

/-!
# Responses

JSON answers come in an envelope that says whether the request succeeded. A response carries its
content type and length from the start; a header that is already there is never replaced.

* `Response.success`, `Response.failure`: the two envelopes.
* `Response.plain`, `Response.page`: text and HTML.
* `Response.addHeaders`: adds headers that are not there yet.
-/

namespace UnitConversion

structure Response where
  status : Int
  headers : List (String × Text)
  body : String

namespace Response

/-- The value of a header. -/
def header? (r : Response) (name : String) : Option Text := r.headers.lookup name

/-- Adds a header that is not there yet. -/
def addHeader (r : Response) (name : String) (value : Text) : Response :=
  { r with headers := Association.putNew r.headers name value }

/-- A response with content of the given type. -/
def ofContent (contentType : String) (status : Int) (body : String) : Response where
  status := status
  headers := [("Content-Type", contentType), ("Content-Length", toString body.utf8ByteSize)]
  body := body

/-- A text without markup. -/
def plain (status : Int) (message : String) : Response :=
  ofContent "text/plain; charset=utf-8" status message

/-- A text without markup that may have halves of surrogate pairs. Such a text cannot be sent. -/
def plainText (status : Int) (message : Text) : Except BrokenText Response :=
  message.requireWhole.map fun cs => plain status (String.ofList cs)

/-- An HTML page. -/
def page (status : Int) (html : String) : Response :=
  ofContent "text/html; charset=utf-8" status html

/-- A JSON value on a line of its own, with its members in the order that they have. -/
def jsonInOrder (status : Int) (value : Json) : Response :=
  ofContent "application/json" status (value.text ++ "\n")

/-- A JSON value on a line of its own, with its members in the order of their names. -/
def json (status : Int) (value : Json) : Response := jsonInOrder status value.sorted

/-- The envelope of a result. -/
def success (data : Json) (status : Int := 200) : Response :=
  json status (.object [("success", .bool true), ("data", data)])

/-- The envelope of a result whose members are to keep their order. -/
def successInOrder (data : Json) : Response :=
  jsonInOrder 200 (.object [("data", data), ("success", .bool true)])

/-- The envelope of an error in JSON form. -/
def failureOf (error : List (Text × Json)) (status : Int) : Response :=
  json status (.object [("success", .bool false), ("error", .object error)])

/-- A status that takes the place of another one, unless it is zero. -/
def statusOr (override : Option Int) (status : Int) : Int :=
  match override with
  | some 0 | none => status
  | some n => n

/-- The envelope of a report, with the status of the report unless another one is given. -/
def failure (e : ErrorReport) (override : Option Int := none) : Response :=
  failureOf e.describe (statusOr override e.status)

/-- The envelope of an error that comes without a status. -/
def failureWith (error : List (Text × Json)) (override : Option Int := none) : Response :=
  failureOf error (statusOr override 400)

/-- The response to a request for its headers only. -/
def withoutBody (r : Response) : Response := { r with body := "" }

/-- The headers that keep browsers from doing more with a response than showing it. -/
def protection : List (String × Text) :=
  [("X-Content-Type-Options", "nosniff"), ("X-Frame-Options", "DENY"),
    ("Content-Security-Policy", "default-src 'none'; frame-ancestors 'none'"),
    ("Referrer-Policy", "no-referrer")]

/-- The response with more headers, except those that it has. -/
def addHeaders (r : Response) (headers : List (String × Text)) : Response :=
  headers.foldl (fun r (name, value) => r.addHeader name value) r

end Response

end UnitConversion
