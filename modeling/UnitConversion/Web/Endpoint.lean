import UnitConversion.Platform
import UnitConversion.Text.Fields
import UnitConversion.Web.Request

/-!
# Endpoints

An endpoint is found by the segments of a path. Every endpoint knows the methods `GET`, `HEAD` and
`OPTIONS`, and the conversion endpoint knows `POST` as well.

A path that leads nowhere is tried once more with its slashes merged. If that leads to an endpoint
the answer is a redirection, as it is for the empty path.

* `Endpoint.ofPath?`: the endpoint of a path.
* `route`: where a request goes.
-/

namespace UnitConversion

/-- What a path can lead to. -/
inductive Endpoint where
  | home
  /-- The conversion that answers with a text only. -/
  | plainConversion
  | groups
  | units (quantity : String)
  | conversion
  /-- A file. The server has none. -/
  | file
deriving DecidableEq, Repr

namespace Endpoint

/-- The methods of an endpoint in the order of their names. -/
def methods : Endpoint → List Method
  | .conversion => [.get, .head, .options, .post]
  | _ => [.get, .head, .options]

/-- The names of the methods of an endpoint, as a header gives them. -/
def allowed (platform : Platform) (e : Endpoint) : Text :=
  (Text.ofString ", ").intercalate (platform.listing (e.methods.map (·.name)))

/-- The segments form the name of a file: it does not start with a slash, and only its first character
may be a line feed. -/
def isFileName (segments : List (List Char)) : Bool :=
  match Text.join '/' segments with
  | [] => false
  | first :: rest => first != '/' && !rest.contains '\n'

/-- The endpoint that the segments of a path lead to. -/
def ofSegments? (hasPlain : Bool) (segments : List (List Char)) : Option Endpoint :=
  match segments.map String.ofList with
  | [""] => some .home
  | ["convert"] => if hasPlain then some .plainConversion else none
  | ["api", "unit_converter", "groups"] => some .groups
  | ["api", "unit_converter", "convert"] => some .conversion
  | ["api", "unit_converter", "units", quantity] =>
    if quantity.isEmpty then none else some (.units quantity)
  | "static" :: _ => if isFileName segments.tail then some .file else none
  | _ => none

/-- The endpoint that a path leads to. -/
def ofPath? (hasPlain : Bool) : List Char → Option Endpoint
  | '/' :: rest => ofSegments? hasPlain (Text.fields '/' rest)
  | _ => none

/-- The endpoint that a path leads to, if it knows the method. -/
def find? (hasPlain : Bool) (method : Method) (path : List Char) : Option Endpoint :=
  (ofPath? hasPlain path).filter (·.methods.contains method)

end Endpoint

/-- Where a request goes. -/
inductive Routing where
  | endpoint (e : Endpoint)
  | redirection (path : List Char)
  | nowhere
deriving DecidableEq

/-- The path that a request is to be sent to instead. -/
def betterPath (platform : Platform) : List Char → List Char
  | [] => ['/']
  | path => platform.mergeSlashes path

/-- Where a method on a path goes. -/
def route (platform : Platform) (hasPlain : Bool) (method : Method) (path : List Char) : Routing :=
  match Endpoint.find? hasPlain method path with
  | some e => .endpoint e
  | none =>
    match Endpoint.find? hasPlain method (betterPath platform path) with
    | some _ => .redirection (betterPath platform path)
    | none => .nowhere

end UnitConversion
