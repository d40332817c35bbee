import UnitConversion.Server.Application
import UnitConversion.Settings.Error

/-!
# Requests on the console

A server can be used without a network: each line is a request, a method and a target with its query,
and each answer is written as a status, headers and a body.

* `Console.start`: the application for the text of a settings file. How the text is read is left open: an
  application is made of what it stands for.
* `Console.answer`: the answer to a line.
-/

namespace UnitConversion.Console

/-- Why the server does not start. -/
inductive StartError where
  | settings (e : Settings.ReadError)
  | creation (e : CreationError)
  | port (e : PortError)
deriving DecidableEq, Repr

def StartError.message : StartError → Text
  | .settings e => e.message
  | .creation e => e.message
  | .port e => e.message

/-- What is used to read the text of settings. -/
abbrev SettingsReader := Text → Except Settings.ReadError Setting

/-- The settings of a file, none if there is no file. -/
def readSettings (read : SettingsReader) (file : Option Text) : Except StartError Setting :=
  match file with
  | none => .ok (.mapping [])
  | some t => (read t).mapError .settings

/-- The application for the text of a settings file, and the port it is meant for. -/
def start (platform : Platform) (read : SettingsReader) (env : Environment) (freshSecret : Text)
    (file : Option Text) : Except StartError (Application × Int) := do
  let settings ← readSettings read file
  let app ← (Application.create platform env freshSecret settings []).mapError .creation
  let port ← env.port.mapError .port
  return (app, port)

/-- The request of a line. A target alone is asked for with `GET`. -/
def request (line : String) : Except RequestError Request :=
  let words := (Text.fields ' ' (Text.trimBy Text.isWhiteSpace line.toList)).filter (!·.isEmpty)
  let (methodName, target) := match words with
    | [] => ("GET".toList, [])
    | [target] => ("GET".toList, target)
    | methodName :: target :: _ => (methodName, target)
  let path := target.takeWhile (· != '?')
  let query := (target.dropWhile (· != '?')).tail
  Request.ofParts (.ofChars methodName) (.ofChars path) (.ofChars query) [] [] (.ok [])

/-- A text as it is shown. -/
def shown (t : Text) : String := String.ofList t.replacing

/-- A response as it is written. -/
def written (r : Response) : String :=
  let headers := r.headers.map fun (name, value) => s!"{name}: {shown value}\n"
  s!"{r.status}\n{String.join headers}\n{r.body}"

/-- The answer to a line, with random bytes for the identifier of the request. -/
def answer (app : Application) (random : List UInt8) (line : String) : String :=
  match request line with
  | .error e => shown e.message
  | .ok r =>
    match app.handle (Application.identifierOf random) r with
    | .ok r => written r
    | .error e => shown e.message

end UnitConversion.Console
