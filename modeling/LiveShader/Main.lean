import LiveShader.Program.Run
import LiveShader.Settings.Location

/-! The program on a machine without a window system, a graphics device or a network.

It reads its arguments, the variables of its environment and the files they name,
and leaves everything else to the run of the program. Its input is not read: there is
no session without a window. -/

namespace LiveShader

/-- A host that has nothing to offer. -/
def bareHost : Host :=
  { Host.quiet with
    eventLoop := [some "no window system is available"]
    responses := [some (.transportFailure "no network is available")] }

/-- What is stored at a path, as an entry of a storage. -/
def storedAt (path : String) : IO Storage := do
  try
    return [(path, .file (← IO.FS.readFile path))]
  catch
    | .noFileOrDirectory .. => return []
    | .inappropriateType .. => return [(path, .directory)]
    | error => return [(path, .unreadable (toString error))]

/-- The variables that decide on the settings file. -/
def settingsEnvironment : IO SettingsEnvironment := do
  return {
    configDirectory := ← IO.getEnv "ZENITH_CONFIG_DIR"
    userConfigDirectory := ← IO.getEnv "XDG_CONFIG_HOME"
    home := ← IO.getEnv "HOME"
    accountHome := none }

/-- The paths a command line and the place of the settings lead to. -/
def pathsOf (line : CommandLine) (settingsFile : Option String) : List String :=
  let source := match line.command with
    | some (.split file) => some file
    | _ => line.arguments.file
  (line.arguments.config <|> settingsFile).toList ++ source.toList

/-- Runs the program as a command line asks for. -/
def runCommandLine (line : CommandLine) : IO Exit := do
  let settingsFile := (← settingsEnvironment).file?
  let storage ← (pathsOf line settingsFile).mapM storedAt
  let world : World := { host := bareHost, storage := storage.flatten, settingsFile }
  return .ofOutcome (world.run line [])

end LiveShader

open LiveShader

def main (arguments : List String) : IO UInt32 := do
  let exit ← match CommandLine.ofArguments arguments (← IO.getEnv "ZENITH_API_BASE") with
    | .error error => pure (.ofUsageError error)
    | .ok line => runCommandLine line
  IO.print (exit.text .out)
  IO.eprint (exit.text .err)
  return UInt32.ofNat exit.code
