import UnitConversion.Text.Broken
import UnitConversion.Text.Integer
import UnitConversion.Text.Literal
import UnitConversion.Text.Uppercase
import UnitConversion.Web.Response

/-!
# The environment of a server

Variables of the environment set the port, the secret and the level of detail of the log. An empty
variable counts as not set where a port or a secret is read.

* `Environment.port`: the port to listen on.
* `Profile.base`, `Profile.testing`: how a server is run.
-/

namespace UnitConversion

/-- Variables with their values. -/
abbrev Environment := List (Text × Text)

/-- Why a variable cannot have a value. -/
inductive EnvironmentError where
  | broken (e : BrokenText)
  | nullCharacter
deriving DecidableEq, Repr

def EnvironmentError.message : EnvironmentError → String
  | .broken e => e.message
  | .nullCharacter => "embedded null byte"

namespace Environment

/-- The code point stands for a byte that belongs to no character. -/
def isStrayByte (p : CodePoint) : Bool := 0xDC80 ≤ p.code && p.code ≤ 0xDCFF

/-- Checks the value of a variable. It is kept in bytes and ends at a null character. -/
def check (value : Text) : Except EnvironmentError Unit := do
  let _ ← (Text.requireWhole (value.map fun p => if isStrayByte p then .char '?' else p)).mapError
    .broken
  if value.contains (.char (.ofNat 0)) then throw .nullCharacter

/-- The environment with the given variables. -/
def ofVariables (variableList : List (Text × Text)) : Except EnvironmentError Environment := do
  variableList.forM fun (_, value) => check value
  return variableList

/-- The value of a variable that is set and not empty. -/
def nonempty? (env : Environment) (name : Text) : Option Text :=
  (env.lookup name).filter (!·.isEmpty)

/-- The port that is listened on when none is set. -/
def defaultPort : Text := "9080"

/-- The text of the port. -/
def portText (env : Environment) : Text :=
  ((env.nonempty? "UNIT_SERVER_PORT").or (env.nonempty? "PORT")).getD defaultPort

end Environment

/-- The port is no integer. -/
structure PortError where
  text : Text
deriving DecidableEq, Repr

def PortError.message (e : PortError) : Text :=
  "Invalid port '" ++ e.text ++ "'. Set UNIT_SERVER_PORT to a number."

/-- The port to listen on. -/
def Environment.port (env : Environment) : Except PortError Int :=
  match Text.integer? env.portText.replacing with
  | .ok n => .ok n
  | .error _ => .error ⟨env.portText⟩

/-- The secret of a server, or else a fresh one. -/
def Environment.secret (env : Environment) (fresh : Text) : Text :=
  (env.nonempty? "UNIT_SERVER_SECRET").getD fresh

/-- The level of detail of the log, in upper case. -/
def Environment.logLevel (env : Environment) : Text :=
  Text.upperCase ((env.lookup (Text.ofString "UNIT_SERVER_LOG_LEVEL")).getD "INFO")

/-! ## The level of the log -/

/-- The log has no such level. -/
structure LogLevelError where
  name : Text
deriving DecidableEq, Repr

def LogLevelError.message (e : LogLevelError) : Text := "Unknown level: " ++ Text.ofChars (Text.literal e.name)

/-- The names of the levels that a log can have. -/
def logLevels : List String :=
  ["CRITICAL", "FATAL", "ERROR", "WARN", "WARNING", "INFO", "DEBUG", "NOTSET"]

/-- The text is the name of a level. -/
def IsLogLevel (name : Text) : Prop := name ∈ logLevels.map Text.ofString

instance (name : Text) : Decidable (IsLogLevel name) := inferInstanceAs (Decidable (_ ∈ _))

/-! ## Profiles -/

/-- How a server is run. -/
structure Profile where
  secret : Text
  logLevel : Text
  /-- The server is under test: unexpected errors go through to the caller. -/
  underTest : Bool
  /-- The most bytes of a body that are read. -/
  bodyLimit : Nat
  headers : List (String × Text)

namespace Profile

/-- The profile of a server in use. -/
def base (env : Environment) (freshSecret : Text) : Profile where
  secret := env.secret freshSecret
  logLevel := env.logLevel
  underTest := false
  bodyLimit := 64 * 1024
  headers := Response.protection

/-- The profile of a server under test. -/
def testing (env : Environment) (freshSecret : Text) : Profile :=
  { base env freshSecret with underTest := true, logLevel := "WARNING" }

/-- Checks the level of the log. -/
def checkLogLevel (p : Profile) : Except LogLevelError Unit :=
  if IsLogLevel p.logLevel then .ok () else .error ⟨p.logLevel⟩

/-- Names that stand beside those of the profiles, and for nothing that a profile says. -/
def neutralNames : List String :=
  ["os", "secrets", "annotations", "_load_secret", "__name__", "__package__", "__all__", "__loader__",
    "__spec__", "__builtins__", "__class__", "__delattr__", "__dict__", "__dir__", "__eq__",
    "__format__", "__ge__", "__getattribute__", "__getstate__", "__gt__", "__hash__", "__init__",
    "__init_subclass__", "__le__", "__lt__", "__ne__", "__new__", "__reduce__", "__reduce_ex__",
    "__repr__", "__setattr__", "__sizeof__", "__str__", "__subclasshook__", "__annotations__"]

/-- The name that stands for what is said about the profiles, and what that is. -/
def about : Text × Text := ("__doc__", "Configuration classes for the Flask application.")

/-- Why there is no profile of a name. -/
inductive NameError where
  | unknown (name : Text)
  /-- The name stands for a text, which should be the name of something else. -/
  | unresolved (text : Text)
deriving DecidableEq, Repr

/-- What can be the matter with a text that is not the name of something. -/
def unresolvedReasons : String :=
  "- missing __init__.py in a package;\n- package or module path not included in sys.path;\n" ++
    "- duplicated package or module name taking precedence in sys.path;\n" ++
    "- missing module, class, function or variable;\n"

def NameError.message : NameError → Text
  | .unknown name => "Unknown configuration '" ++ name ++ "'."
  | .unresolved text =>
    let shown := Text.ofChars (Text.literal text)
    let missing := Text.ofChars (Text.literal (text.takeWhile (· != .char '.')))
    "import_string() failed for " ++ shown ++ ". Possible reasons are:\n\n" ++
      Text.ofString unresolvedReasons ++ "\nDebugged import:\n\n- " ++ missing ++
      " not found.\n\nOriginal exception:\n\nModuleNotFoundError: No module named " ++ missing

/-- The profile with a given name. An empty name and those beside the profiles stand for the base
profile. -/
def named (env : Environment) (freshSecret name : Text) : Except NameError Profile :=
  if name = "TestingConfig" then .ok (testing env freshSecret)
  else if name = [] || name = "BaseConfig" || neutralNames.any (name == .ofString ·) then
    .ok (base env freshSecret)
  else if name = about.1 then .error (.unresolved about.2)
  else .error (.unknown name)

end Profile

/-! ## Names of logs -/

/-- The log that all others are part of. -/
def rootLog : Text := "unit_server"

/-- The full name of a log. Names outside the root log are put into it. -/
def logName (name : Text) : Text :=
  if name = rootLog || (rootLog ++ Text.ofString ".").isPrefixOf name then name
  else rootLog ++ CodePoint.char '.' :: name

end UnitConversion
