import UnitConversion.Server.Console
import UnitConversion.Settings.Reader

/-!
# The command line

Reads the environment and the settings file, and then answers the requests on standard input, one on
each line, until the input ends.
-/

namespace UnitConversion

/-- The variables of the environment that a server looks at. -/
def variableNames : List String :=
  ["UNIT_SERVER_PORT", "PORT", "UNIT_SERVER_SECRET", "UNIT_SERVER_LOG_LEVEL"]

/-- The values of these variables. -/
def environment : IO Environment := do
  let values ← variableNames.mapM fun name =>
    return (← IO.getEnv name).map fun value => (Text.ofString name, Text.ofString value)
  return values.filterMap id

/-- Bytes that cannot be guessed. -/
def randomBytes (size : Nat) : IO (List UInt8) :=
  return (← IO.getRandomBytes size.toUSize).toList

/-- The text of the settings file, none if it cannot be read. -/
def settingsFile : IO (Option Text) := do
  try return some (Text.ofString (← IO.FS.readFile "config.yml"))
  catch _ => return none

/-- Answers the lines of the input. -/
partial def serveLines (app : Application) (input output : IO.FS.Stream) : IO Unit := do
  let line ← input.getLine
  if line.isEmpty then return
  output.putStrLn (Console.answer app (← randomBytes 16) line)
  output.flush
  serveLines app input output

/-- Starts the server, or says why it does not start. -/
def run : IO UInt32 := do
  let secret := Text.lowerHexText (← randomBytes 64)
  match Console.start Standard.platform Setting.ofText (← environment) secret (← settingsFile) with
  | .error e =>
    (← IO.getStderr).putStrLn (Console.shown e.message)
    return 1
  | .ok (app, port) =>
    (← IO.getStderr).putStrLn s!"Ready for port {port}."
    serveLines app (← IO.getStdin) (← IO.getStdout)
    return 0

end UnitConversion

def main : IO UInt32 := UnitConversion.run
