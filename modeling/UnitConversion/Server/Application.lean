import UnitConversion.Catalog.Description
import UnitConversion.Server.Conversion
import UnitConversion.Server.Environment
import UnitConversion.Server.Failure
import UnitConversion.Server.Manifest
import UnitConversion.Web.Page
import UnitConversion.Workspace

/-!
# The application

An application is made of settings and a profile and then answers requests, each by itself. The
settings may name a title for the home page, a summary, the number of decimals of the plain endpoint,
and whether there is a plain endpoint at all.

* `Application.create`: the application of given settings.
* `Application.respond`: the answer to a request, or the failure that it comes to.
* `Application.handle`: the same with failures answered, unless the server is under test.
-/

namespace UnitConversion

/-- Why there is no application. -/
inductive CreationError where
  | notAMapping (kindName : String)
  | profile (e : Profile.NameError)
  | logLevel (e : LogLevelError)
deriving DecidableEq, Repr

def CreationError.message : CreationError → Text
  | .notAMapping kindName => s!"'{kindName}' object has no attribute 'get'"
  | .profile e => e.message
  | .logLevel e => e.message

/-- A server that is ready for requests. -/
structure Application where
  platform : Platform
  profile : Profile
  dispatcher : Dispatcher Binary64
  site : Setting
  manifests : List Manifest
  /-- There is an endpoint that answers conversions with a text only. -/
  hasPlain : Bool
  /-- The number of decimals of that endpoint. -/
  decimals : Setting

namespace Application

/-! ## Creation -/

/-- The title of a home page whose settings name none. -/
def defaultTitle : Text := "Unit Conversion Server"

/-- The number of decimals when the settings name none. -/
def defaultDecimals : Int := 6

/-- The result, or the error that a setting is not a mapping. -/
def orNotAMapping {α : Type} (result : Except NotAMapping α) : Except CreationError α :=
  result.mapError fun e => .notAMapping e.kindName

/-- The application of given settings and a profile with the given name. -/
def create (platform : Platform) (env : Environment) (freshSecret : Text) (settings : Setting) (profileName : Text) :
    Except CreationError Application := do
  -- Of several errors the first in this order is reported.
  let settings ← orNotAMapping settings.orEmpty.requireMapping
  let profile ← (Profile.named env freshSecret profileName).mapError .profile
  profile.checkLogLevel.mapError .logLevel
  let parts ← orNotAMapping (settings.mappingAt "plugins")
  let own ← orNotAMapping (parts.mappingAt Manifest.converter.key)
  return {
    platform := platform
    profile := profile
    dispatcher := Standard.dispatcher
    site := (settings.get "site").orEmpty
    manifests := [Manifest.converter.withSummary own]
    hasPlain := !((own.get? "legacy_endpoint").getD (.bool true)).isFalsy
    decimals := (own.get? "decimals").getD (.int defaultDecimals) }

/-- The settings that the server is delivered with. -/
def defaultSettings : Setting :=
  .mapping
    [(.text "site", .mapping [(.text "title", .text defaultTitle)]),
      (.text "plugins", .mapping
        [(.text Manifest.converter.key, .mapping
          [(.text "summary",
              .text "Convert weight, distance and temperature values between fixed units."),
            (.text "legacy_endpoint", .bool true), (.text "decimals", .int defaultDecimals)])])]

/-! ## Endpoints -/

variable (app : Application)

/-- The room for collections in the title of the home page, which stands in its envelope and the data. -/
def titleRoom : Nat := app.platform.writingDepth - 2

/-- The room for collections in the summary of a manifest, which is one of a list in the data. -/
def summaryRoom : Nat := app.platform.writingDepth - 4

/-- The home page. -/
def home : Except Failure Response := do
  let site ← app.site.requireMapping.mapError fun e => .noEntries e.kindName
  let title := (site.get? "title").getD (.text defaultTitle)
  let plugins ← (app.manifests.mapM (Manifest.describe app.summaryRoom)).mapError .description
  let title ← (title.toJson app.titleRoom).mapError .description
  return .successInOrder (.object [("plugins", .array plugins), ("title", title)])

/-- All groups and their quantities. -/
def groups : Response :=
  let groups := app.dispatcher.groups
  .success (.object
    [("groups", .array (groups.map (·.describe))),
      ("quantities", .array (groups.map fun g => .string g.quantity))])

/-- The units of a quantity. -/
def units (quantity : String) : Response :=
  match app.dispatcher.groupFor quantity with
  | some g => .success g.describe
  | none =>
    .failure {
      kind := .notFound
      message := "Unknown quantity '" ++ Text.ofString quantity ++ "'."
      code := "unit.unknown_quantity" }

/-- The conversion that a payload asks for. -/
def convert (payload : Json) : Except Failure Response :=
  match app.dispatcher.answer app.platform payload with
  | .converted c => .ok (.success c.describe)
  | .rejected r => .ok (.failure r.report)
  | .failed e => .error (.format e)

/-- The conversion that a query asks for, as a text with a set number of decimals. -/
def convertPlain (payload : Json) : Except Failure Response :=
  match PlainRequest.ofPayload payload with
  | .error _ => .ok (.plain 501 "Invalid value!")
  | .ok q =>
    match app.dispatcher.process q.source q.target q.value with
    | none => .ok (.plain 501 "Unknown conversion type!")
    | some x =>
      -- The decimals stand as they were in the settings, and are looked at only here.
      match app.decimals.integer with
      | .error e => .error (.decimals e)
      | .ok places =>
        match x.format app.platform { decimals := some places } with
        | .error e => .error (.format e)
        | .ok text => .ok (.json 200 (.object [("result", .string (Text.ofString text))]))

/-- The answer to a path that leads nowhere. -/
def unsupported : Response := .plain 501 "Unknown method or command used!"

/-- The answer of an endpoint. -/
def serve (e : Endpoint) (r : Request) : Except Failure Response :=
  match e, r.method with
  | e, .options =>
    .ok ((Response.page 200 "").addHeader "Allow" (e.allowed app.platform))
  | .home, _ => app.home
  | .groups, _ => .ok app.groups
  | .units quantity, _ => .ok (app.units quantity)
  | .plainConversion, _ => app.convertPlain r.queryPayload
  | .conversion, .post =>
    match r.payload app.profile.bodyLimit app.platform.readingDepth with
    | .ok payload => app.convert payload
    | .error .tooLong => .ok .bodyTooLong
    | .error (.tooDeep inArray) => .error (.tooDeep inArray)
  | .conversion, _ => app.convert r.queryPayload
  | .file, _ => .ok unsupported

/-! ## Requests -/

/-- The answer to a request before the headers that all answers share. -/
def respond (r : Request) : Except Failure Response :=
  match route app.platform app.hasPlain r.method r.path with
  | .endpoint e => app.serve e r
  | .redirection path => (Response.redirection r path).mapError .redirection
  | .nowhere => .ok unsupported

/-- The identifier made of random bytes. -/
def identifierOf (random : List UInt8) : Text := Text.lowerHexText random

/-- The identifier of a request. One that comes without gets a fresh one. -/
def requestId (r : Request) (freshId : Text) : Text :=
  if r.requestId.isEmpty then freshId else r.requestId

/-- The answer as it is sent. -/
def finish (r : Request) (freshId : Text) (response : Response) : Response :=
  -- Headers that the response has already are left as they are.
  let response :=
    (response.addHeaders app.profile.headers).addHeader "X-Request-ID" (requestId r freshId)
  if r.wantsHeadersOnly then response.withoutBody else response

/-- The answer to a request. Under test a failure goes through to the caller. -/
def handle (freshId : Text) (r : Request) : Except Failure Response :=
  match app.respond r with
  | .ok response => .ok (app.finish r freshId response)
  | .error e =>
    if app.profile.underTest then .error e else .ok (app.finish r freshId (.failure e.report))

end Application

end UnitConversion
