import LiveShader.CommandLine.Arguments
import LiveShader.Glsl.Dialect
import LiveShader.Program.Failure
import LiveShader.Studio.Studio

/-! What the program does without a window: it summarises a source, lists presets
and generates a shader. -/

namespace LiveShader

/-- What a run of the program finds outside of itself. -/
structure World where
  host : Host
  storage : Storage
  /-- Where the user's settings are. -/
  settingsFile : Option String

/-- What came of a task. -/
structure Outcome where
  printed : List ConsoleLine
  result : Except ProgramFailure Unit
  host : Host

namespace World

/-! ## Preparations -/

/-- Loads settings from a file. One that is missing says nothing. -/
def settingsAt (world : World) (path : String) : Except ProgramFailure Settings :=
  match world.storage.read path with
  | .error .notFound => .ok .standard
  | .error error => .error (.settings path (.unreadable path error))
  | .ok text =>
      match Settings.ofText text with
      | .ok settings => .ok settings
      | .error .brokenDown => .error .brokenDown
      | .error (.refused error) => .error (.settings path (.refused error))

def settings (world : World) (arguments : Arguments) : Except ProgramFailure Settings :=
  match arguments.config <|> world.settingsFile with
  | none => .error .noSettingsDirectory
  | some path => world.settingsAt path

/-- The service to ask: what the arguments say of it, and the settings otherwise. -/
def endpoint (arguments : Arguments) (settings : Settings) :
    Except ProgramFailure Endpoint :=
  match Endpoint.ofText (arguments.apiBase.getD settings.apiBase) with
  | .error error => .error (.endpoint error)
  | .ok endpoint =>
      .ok { endpoint with timeout := arguments.timeout.getD settings.requestTimeout }

/-- Sets up a client of the service. -/
def client (world : World) (arguments : Arguments) (settings : Settings) :
    Except ProgramFailure GenerationClient × Host :=
  match endpoint arguments settings with
  | .error failure => (.error failure, world.host)
  | .ok endpoint =>
      let (client, host) := GenerationClient.create world.host endpoint
      (client.mapError .client, host)

def readSource (world : World) (path : String) : Except ProgramFailure String :=
  (world.storage.read path).mapError (.source path)

/-! ## Tasks -/

/-- A number, filled up with blanks in front. -/
def padLeft (width value : Nat) : String :=
  let digits := toString value
  .ofList (.replicate (width - digits.length) ' ') ++ digits

/-- One line on a stage. -/
def stageSummary (stage : Stage) (source : String) : String :=
  let dialect := Glsl.Dialect.detect source.toList
  Presets.padRight 8 stage.name ++ " " ++
    padLeft 4 (Text.lines source.toList).length ++ " lines " ++
    padLeft 6 source.utf8ByteSize ++ " bytes  (" ++ dialect.name ++
    (if dialect.needsLowering then ", lowered before compiling" else "") ++ ")"

/-- Splits a file into its stages and summarises them. -/
def split (world : World) (path : String) : Except ProgramFailure (List String) := do
  let text ← world.readSource path
  let stages ← (splitStages text).mapError .split
  .ok [stageSummary .vertex stages.vertex, stageSummary .fragment stages.fragment]

/-- Generates one shader. -/
def generate (world : World) (arguments : Arguments) (description : String) :
    Except ProgramFailure String × Host :=
  match world.settings arguments with
  | .error failure => (.error failure, world.host)
  | .ok settings =>
      match world.client arguments settings with
      | (.error failure, host) => (.error failure, host)
      | (.ok client, host) =>
          match (FixCycle.create FixCycle.defaultMaxAttempts).beginGenerate description with
          | (.error error, _) => (.error (.request error), host)
          | (.ok request, cycle) =>
              let (result, host) := client.perform host request.call
              match (cycle.completeGenerate request.ticket result).1 with
              | .apply source => (.ok source, host)
              | .stale => (.error .outdated, host)
              | .failed error => (.error (.generation error), host)

/-- The outcome of a task that answers with lines. -/
def outcome (host : Host) (lines : Except ProgramFailure (List String)) : Outcome :=
  match lines with
  | .ok lines =>
      { printed := lines.map fun text => { channel := .out, text }, result := .ok (), host }
  | .error failure => { printed := [], result := .error failure, host }

/-- Carries out a command. -/
def perform (world : World) (arguments : Arguments) : Subcommand → Outcome
  | .split file => outcome world.host (world.split file)
  | .presets =>
      outcome world.host <|
        (world.settings arguments).map fun settings => settings.allPresets.listing
  | .generate prompt =>
      let (source, host) := world.generate arguments prompt
      outcome host (source.map fun source => [source])

end World

end LiveShader
