import LiveShader.Duration
import LiveShader.Render.Size

/-! What a user can ask for on the command line. -/

namespace LiveShader

/-- The options of a run, as far as they were given. -/
structure Arguments where
  /-- What to generate once the window is open. -/
  prompt : Option String
  /-- A source to run instead. -/
  file : Option String
  apiBase : Option String
  size : Option Size
  autoFix : Bool
  timeout : Option Duration
  /-- The settings file to use instead of the user's. -/
  config : Option String
  deriving DecidableEq, Repr

def Arguments.empty : Arguments :=
  { prompt := none, file := none, apiBase := none, size := none, autoFix := false,
    timeout := none, config := none }

/-- What to do instead of opening a window. -/
inductive Subcommand where
  | generate (prompt : String)
  | split (file : String)
  | presets
  deriving DecidableEq, Repr

structure CommandLine where
  arguments : Arguments
  command : Option Subcommand
  deriving DecidableEq, Repr

/-- Why a command line is not carried out. Two of the reasons are that the user has
asked for a text instead. -/
inductive UsageError where
  | unknownArgument
  /-- No command has this name, but one has a similar name. -/
  | invalidCommand
  /-- Two arguments that exclude each other, or an option given twice. -/
  | conflict
  /-- A value is missing or empty. -/
  | missingValue
  | invalidValue
  | missingArgument
  /-- A value for an option that takes none. -/
  | unexpectedValue
  | helpWanted
  | versionWanted
  deriving DecidableEq, Repr

/-- A name for the kind of error, for logs. -/
def UsageError.kind : UsageError → String
  | unknownArgument => "UnknownArgument"
  | invalidCommand => "InvalidSubcommand"
  | conflict => "ArgumentConflict"
  | missingValue => "InvalidValue"
  | invalidValue => "ValueValidation"
  | missingArgument => "MissingRequiredArgument"
  | unexpectedValue => "TooManyValues"
  | helpWanted => "DisplayHelp"
  | versionWanted => "DisplayVersion"

end LiveShader
