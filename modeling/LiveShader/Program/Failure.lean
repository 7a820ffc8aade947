import LiveShader.Program.Storage
import LiveShader.Service.Client
import LiveShader.Service.FixCycle
import LiveShader.Settings.Reader
import LiveShader.Shader.Split
import LiveShader.Window.Preview

/-! How a run of the program can fail, and how that is reported. -/

namespace LiveShader

/-- Why the settings could not be loaded from their file. -/
inductive SettingsLoadError where
  | unreadable (path : String) (error : ReadError)
  | refused (error : SettingsError)
  deriving DecidableEq, Repr

/-- The messages of the failure, from the outermost to its cause. -/
def SettingsLoadError.chain : SettingsLoadError → List String
  | unreadable path error =>
      ["failed to read " ++ path ++ ": " ++ error.message, error.message]
  | refused error => [error.message]

inductive ProgramFailure where
  /-- There is no place for the settings file. -/
  | noSettingsDirectory
  | settings (path : String) (error : SettingsLoadError)
  /-- The settings have a timeout the program breaks down on. -/
  | brokenDown
  | windowSize (error : SizeError)
  | source (path : String) (error : ReadError)
  | endpoint (error : EndpointError)
  /-- There is no client for HTTP requests. -/
  | client (reason : String)
  | window (error : WindowError)
  | split (error : SplitError)
  | request (error : CycleError)
  | generation (error : ServiceError)
  /-- A response arrived for another request than the last one. -/
  | outdated

namespace ProgramFailure

/-- The messages of the failure, from the outermost to its cause. -/
def chain : ProgramFailure → List String
  | noSettingsDirectory => ["failed to determine the user config directory"]
  | settings path error => ("loading settings from " ++ path) :: error.chain
  | brokenDown => ["cannot convert float seconds to Duration: value is either too big or NaN"]
  | windowSize error => [SettingsError.message (.fault (.windowSize error))]
  | source path error => ["reading shader source " ++ path, error.message]
  | endpoint error => [error.message]
  | client reason => [GenerationClient.buildFailure, reason]
  | window error => [error.message]
  | split error => [error.message]
  | request error => [error.message]
  | generation error => [FixCycle.generateFailedMessage ++ " (" ++ error.message ++ ")"]
  | outdated => ["generation response arrived for an outdated request"]

/-- A text with blanks in front of each of its lines but the first. -/
def indented (width : Nat) (text : String) : String :=
  .ofList <| text.toList.flatMap fun character =>
    if character = '\n' then '\n' :: .replicate width ' ' else [character]

/-- The causes of a failure, numbered from `number`. -/
def numbered : (number : Nat) → List String → List String
  | _, [] => []
  | number, cause :: rest =>
      let digits := toString number
      (.ofList (.replicate (5 - digits.length) ' ') ++ digits ++ ": " ++ indented 7 cause) ::
        numbered (number + 1) rest

/-- The lines that list the causes of a failure. -/
def causes : List String → List String
  | [] => []
  | [cause] => ["", "Caused by:", "    " ++ indented 4 cause]
  | several => "" :: "Caused by:" :: numbered 0 several

/-- What a user is told about messages from the outermost to its cause. -/
def reportOf : List String → List String
  | [] => []
  | outermost :: rest => ("Error: " ++ outermost) :: causes rest

/-- What a user is told about a failure. -/
def report (failure : ProgramFailure) : List String :=
  reportOf failure.chain

/-- What the program answers its caller with. -/
def exitCode : ProgramFailure → Nat
  | brokenDown => 101
  | _ => 1

end ProgramFailure

end LiveShader
