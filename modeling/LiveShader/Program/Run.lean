import LiveShader.CommandLine.Reader
import LiveShader.Program.Session

/-! One run of the program, from its arguments to its exit code. -/

namespace LiveShader

/-! ## An interactive run, seen from outside -/

/-- A session, or what failed before there was one. -/
inductive StudioRun where
  | failed (failure : ProgramFailure) (host : Host)
  | started (session : Session)

namespace StudioRun

def start (world : World) (arguments : Arguments) : StudioRun :=
  match Session.start world arguments with
  | .ok session => .started session
  | .error (failure, host) => .failed failure host

def host : StudioRun → Host
  | failed _ host => host
  | started session => session.host

def withHost (run : StudioRun) (host : Host) : StudioRun :=
  match run with
  | failed failure _ => .failed failure host
  | started session => .started (session.withWindow (session.window.withHost host))

def printed : StudioRun → List ConsoleLine
  | failed _ _ => []
  | started session => session.printed

/-- How the run has ended, once it has. -/
def result? : StudioRun → Option (Except ProgramFailure Unit)
  | failed failure _ => some (.error failure)
  | started session => session.ending.map fun ending => ending.mapError .window

def type (run : StudioRun) (bytes : List UInt8) : StudioRun :=
  match run with
  | failed failure host => .failed failure host
  | started session => .started (session.type bytes)

def endInput : StudioRun → StudioRun
  | failed failure host => .failed failure host
  | started session => .started session.endInput

def deliver (run : StudioRun) (event : WindowEvent) : Bool × StudioRun :=
  match run with
  | failed failure host => (false, .failed failure host)
  | started session => (session.deliver event).map (fun isDelivered => isDelivered) .started

/-- Whether the window is to be drawn again. -/
def wantsRedraw : StudioRun → Bool
  | failed _ _ => false
  | started session => session.window.controller.loop.clock.redrawRequested

/-- What came of the run at the end of its input. -/
def outcome (run : StudioRun) : Outcome :=
  { printed := run.printed, result := run.result?.getD (.ok ()), host := run.host }

end StudioRun

/-! ## The whole program -/

def version : String := "0.1.0"

def usage : String :=
  "Describe a visual effect and watch the generated shader run\n\n" ++
  "Usage: zenith [OPTIONS] [PROMPT] [COMMAND]\n\n" ++
  "Commands:\n" ++
  "  generate PROMPT  Generate a shader and print it without opening a window\n" ++
  "  split FILE       Split a source file into its stages and summarise them\n" ++
  "  presets          List the example prompts available to `:preset`\n" ++
  "  help             Print this message\n\n" ++
  "Options:\n" ++
  "      --file PATH         Run shader source from a local file\n" ++
  "      --api-base URL      Base URL of the generation service\n" ++
  "      --size WIDTHxHEIGHT Initial window size\n" ++
  "      --auto-fix          Ask for a fix automatically whenever a build fails\n" ++
  "      --timeout DURATION  Request timeout for the generation service\n" ++
  "      --config PATH       Settings file to use\n" ++
  "  -h, --help              Print help\n" ++
  "  -V, --version           Print version"

def UsageError.message : UsageError → String
  | unknownArgument => "error: unexpected argument found"
  | invalidCommand => "error: unrecognized subcommand"
  | conflict => "error: an argument cannot be used with another one or more than once"
  | missingValue => "error: a value is required for an option but none was supplied"
  | invalidValue => "error: invalid value for an option"
  | missingArgument => "error: a required argument was not provided"
  | unexpectedValue => "error: unexpected value for an option"
  | helpWanted => usage
  | versionWanted => "zenith " ++ version

/-- What a run leaves behind. -/
structure Exit where
  code : Nat
  printed : List ConsoleLine
  deriving DecidableEq, Repr

namespace Exit

/-- Everything printed on a channel. -/
def text (exit : Exit) (channel : OutputChannel) : String :=
  String.join <| (exit.printed.filter fun line => line.channel = channel).map fun line =>
    line.text ++ "\n"

def ofOutcome (outcome : Outcome) : Exit :=
  match outcome.result with
  | .ok () => { code := 0, printed := outcome.printed }
  | .error failure =>
      { code := failure.exitCode
        printed := outcome.printed ++
          failure.report.map fun text => { channel := .err, text } }

/-- What is printed instead of a run. -/
def ofUsageError (error : UsageError) : Exit :=
  match error with
  | .helpWanted => { code := 0, printed := [{ channel := .out, text := error.message }] }
  | .versionWanted => { code := 0, printed := [{ channel := .out, text := error.message }] }
  | _ => { code := 2, printed := [{ channel := .err, text := error.message }] }

end Exit

namespace World

/-- Runs the program with the bytes of its whole input. -/
def run (world : World) (line : CommandLine) (input : List UInt8) : Outcome :=
  match line.command with
  | some command => world.perform line.arguments command
  | none => ((StudioRun.start world line.arguments).type input).endInput.outcome

end World

end LiveShader
