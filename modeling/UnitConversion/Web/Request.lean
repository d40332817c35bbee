import UnitConversion.Json.Reader
import UnitConversion.Text.Blank
import UnitConversion.Text.Uppercase
import UnitConversion.Web.Location
import UnitConversion.Web.Query

/-!
# Requests

A request has a method, a target, a query and a body. The target is a location without a query, of
which all parts may be missing; a host in it stands behind two slashes. The body is read as JSON if its
media type says so.

* `Request.ofParts`: the request of given parts, or why it cannot be sent.
* `Request.path`: the path that is asked for.
* `Request.payload`: the JSON value of the body. A body that is no JSON counts as null.
-/

namespace UnitConversion

/-- The methods that some path knows, and all others. -/
inductive Method where
  | get
  | head
  | options
  | post
  | other (name : Text)
deriving DecidableEq, Repr

namespace Method

def name : Method → Text
  | .get => "GET"
  | .head => "HEAD"
  | .options => "OPTIONS"
  | .post => "POST"
  | .other name => name

/-- The method with a name in upper case. -/
def ofName (name : Text) : Method :=
  ([.get, .head, .options, .post].find? fun m => m.name == name).getD (.other name)

end Method

/-! ## Hosts -/

namespace Request

/-- A host name of ASCII letters, digits, dots and dashes, or an address in brackets. -/
def isPlainHost (cs : List Char) : Bool :=
  match cs with
  | '[' :: rest =>
    let address := rest.takeWhile (· != ']')
    let digits := address.takeWhile fun c => (Text.hexValue? c).isSome
    let groups := address.drop digits.length
    rest.drop address.length == [']'] && groups.head? == some ':' && 2 ≤ groups.length &&
      groups.all fun c => (Text.hexValue? c).isSome || c == '.' || c == ':'
  | _ => !cs.isEmpty && cs.all fun c => c.isAlphanum || c == '.' || c == '-'

/-- The host and the port behind it. -/
def splitPort (cs : List Char) : List Char × List Char :=
  let digits := cs.reverse.takeWhile Char.isDigit
  match cs.reverse.drop digits.length with
  | ':' :: host => if digits.isEmpty then (cs, []) else (host.reverse, ':' :: digits.reverse)
  | _ => (cs, [])

/-- The host with its port, as the server names itself. It leaves out the port that belongs to the
scheme, and an authority that is more than a host is not named at all. -/
def ownHost (scheme authority : Text) : Text :=
  let (name, port) := splitPort authority.replacing
  if !isPlainHost name then []
  else
    let isDefault :=
      ((scheme == "http" || scheme == "ws") && port == ":80".toList) ||
        ((scheme == "https" || scheme == "wss") && port == ":443".toList)
    Text.ofChars ((name ++ if isDefault then [] else port).map Char.toLower)

/-- The name of the host, which ends at the first colon. -/
def ownName (scheme authority : Text) : Text := (ownHost scheme authority).takeWhile (· != .char ':')

end Request

/-! ## Requests that can be sent -/

/-- Why a request cannot be sent. -/
inductive RequestError where
  | target (e : LocationError)
  /-- The target has a query of its own. -/
  | queryInTarget
  | lineBreakInHeader
  | broken (e : BrokenText)
deriving DecidableEq, Repr

/-- The message about a header that would be more than one line. -/
def lineBreakMessage : String := "Header values must not contain newline characters."

def RequestError.message : RequestError → Text
  | .target e => e.message
  | .queryInTarget => "Query string is defined in the path and as an argument"
  | .lineBreakInHeader => lineBreakMessage
  | .broken e => e.message

/-- The text has a line break. -/
def hasLineBreak (t : Text) : Bool := t.contains (.char '\n') || t.contains (.char '\r')

/-- A request that can be sent and that some path is looked up for. A host without an ASCII form is refused before
that, whatever the path is. -/
structure Request where
  methodName : Text
  scheme : Text
  /-- The host with its port and its user. -/
  authority : Text
  /-- The path as it was sent. -/
  rawPath : List Char
  query : String
  contentType : Text
  body : List UInt8
  /-- The identifier that the sender gave, empty if there is none. -/
  requestId : Text
  /-- The name of the host has an ASCII form. -/
  isOk_host : (Host.ascii (Request.ownName scheme authority)).isOk = true
  hasLineBreak_contentType : hasLineBreak contentType = false
  hasLineBreak_requestId : hasLineBreak requestId = false

namespace Request

/-- The scheme and the authority of a target, each with a default, and its path. -/
def splitTarget (target : Text) : Except RequestError (Text × Text × List Char) := do
  let l ← (Location.ofText target).mapError .target
  if !l.query.isEmpty then throw .queryInTarget
  let inner ← (Location.ofText l.path).mapError .target
  let path ← (Location.ascii inner.path).mapError .target
  let scheme := if l.scheme.isEmpty then Text.ofString "http" else l.scheme
  let authority := if l.authority.isEmpty then Text.ofString "localhost" else l.authority
  let base ← (Location.ascii (scheme ++ "://" ++ authority ++ "/")).mapError .target
  let base ← (Location.ofText base).mapError .target
  return (base.scheme, base.authority, path.replacing)

/-- The request of given parts. -/
def ofParts (methodName target query contentType requestId : Text)
    (body : Except BrokenText (List UInt8)) : Except RequestError Request := do
  let (scheme, authority, rawPath) ← splitTarget target
  if hId : hasLineBreak requestId = false then
    if hType : hasLineBreak contentType = false then
      let body ← body.mapError .broken
      let query ← query.requireWhole.mapError .broken
      match hHost : Host.ascii (ownName scheme authority) with
      | .error e => throw (.target (.host e))
      | .ok _ =>
        return {
          methodName, scheme, authority, rawPath, contentType, body, requestId
          query := String.ofList query
          isOk_host := by rw [hHost]; rfl
          hasLineBreak_contentType := hType
          hasLineBreak_requestId := hId }
    else throw .lineBreakInHeader
  else throw .lineBreakInHeader

/-! ## The method and the target -/

/-- The method that is asked for. Its name may be in any case. -/
def method (r : Request) : Method := .ofName (Text.upperCase r.methodName)

/-- The sender wants no more than the headers. -/
def wantsHeadersOnly (r : Request) : Bool := r.methodName == "HEAD"

/-- The path that is asked for. It starts with exactly one slash, unless it is empty. -/
def path (r : Request) : List Char :=
  match Percent.decodeReplacing r.rawPath with
  | [] => []
  | cs => '/' :: cs.dropWhile (· == '/')

/-- The host with its port, as the server names itself. -/
def host (r : Request) : Text := ownHost r.scheme r.authority

/-! ## The body -/

/-- The media type in lower case, without parameters and the spaces and tabs around it. -/
def mediaType (r : Request) : List Char :=
  let value := r.contentType.replacing.takeWhile (· != ';')
  (Text.trimBy (fun c => c == ' ' || c == '\t') value).map Char.toLower

/-- The media type is that of JSON or of a format based on it. -/
def hasJson (r : Request) : Bool :=
  let mediaType := r.mediaType
  mediaType == "application/json".toList ||
    ("application/".toList.isPrefixOf mediaType && "+json".toList.isSuffixOf mediaType)

/-- Why a body is not read. -/
inductive BodyError where
  | tooLong
  | tooDeep (inArray : Bool)
deriving DecidableEq, Repr

/-- The JSON value of the body, of at most so many bytes and with so many arrays and objects inside of each other. A
body of another media type is not looked at. -/
def payload (r : Request) (limit depth : Nat) : Except BodyError Json :=
  if !r.hasJson then .ok .null
  else if limit < r.body.length then .error .tooLong
  else match Json.ofBytes { depth } r.body with
    | .ok value => .ok value
    | .error .malformed => .ok .null
    | .error (.tooDeep inArray) => .error (.tooDeep inArray)

/-- The JSON value of the query: an object of texts. -/
def queryPayload (r : Request) : Json :=
  .object ((Query.ofText r.query).map fun (name, value) => (Text.ofString name, .string value))

end Request

end UnitConversion
