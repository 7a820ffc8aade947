import LiveShader.CommandLine.Arguments
import LiveShader.CommandLine.Similarity
import LiveShader.Duration.Reader
import LiveShader.Render.SizeReader

/-! Reading a command line.

Arguments are read from left to right. An option's value may be attached to it or be
the next argument; in the second case it is looked at only when the next option or
positional argument comes, or at the end. A command ends the options: what follows it
is its own. -/

namespace LiveShader

/-- Everything that can have a value, and the one flag. -/
inductive OptionName where
  | prompt
  | file
  | apiBase
  | size
  | autoFix
  | timeout
  | config
  deriving DecidableEq, Repr

namespace OptionName

/-- The option with a long name. -/
def ofName? : String → Option OptionName
  | "file" => some file
  | "api-base" => some apiBase
  | "size" => some size
  | "auto-fix" => some autoFix
  | "timeout" => some timeout
  | "config" => some config
  | _ => none

def isFlag : OptionName → Bool
  | autoFix => true
  | _ => false

end OptionName

/-! ## The forms of an argument -/

inductive ArgumentForm where
  /-- Two hyphens, after which everything is positional. -/
  | separator
  /-- Two hyphens and a name, possibly with a value. -/
  | long (name : String) (value : Option String)
  /-- One hyphen and letters. -/
  | short (letter : Char)
  | plain
  deriving DecidableEq, Repr

def ArgumentForm.ofText (text : String) : ArgumentForm :=
  match text.toList with
  | ['-', '-'] => .separator
  | '-' :: '-' :: rest =>
      match Text.splitAtFirst? (· == '=') rest with
      | some (name, value) => .long (.ofList name) (some (.ofList value))
      | none => .long (.ofList rest) none
  | '-' :: letter :: _ => .short letter
  | _ => .plain

/-! ## Storing values -/

namespace Arguments

/-- Whether an option has been given. -/
def has (arguments : Arguments) : OptionName → Bool
  | .prompt => arguments.prompt.isSome
  | .file => arguments.file.isSome
  | .apiBase => arguments.apiBase.isSome
  | .size => arguments.size.isSome
  | .autoFix => arguments.autoFix
  | .timeout => arguments.timeout.isSome
  | .config => arguments.config.isSome

/-- A path, which is not empty. -/
def readPath (value : String) : Except UsageError String :=
  if value.isEmpty then .error .missingValue else .ok value

/-- Sets an option to a value that was read. -/
def set (arguments : Arguments) (option : OptionName) (value : String) :
    Except UsageError Arguments :=
  match option with
  | .prompt => .ok { arguments with prompt := some value }
  | .file => (readPath value).map fun path => { arguments with file := some path }
  | .apiBase => .ok { arguments with apiBase := some value }
  | .size =>
      match Size.ofText value with
      | .ok size => .ok { arguments with size := some size }
      | .error _ => .error .invalidValue
  | .autoFix => .ok { arguments with autoFix := true }
  | .timeout =>
      match Duration.ofArgument value with
      | .ok timeout => .ok { arguments with timeout := some timeout }
      | .error _ => .error .invalidValue
  | .config => (readPath value).map fun path => { arguments with config := some path }

/-- Stores an option with its value, which only a flag can do without. No option is
given twice. -/
def store (arguments : Arguments) (option : OptionName) (value : Option String) :
    Except UsageError Arguments :=
  match value, option.isFlag with
  | none, false => .error .missingValue
  | value, _ =>
      if arguments.has option then .error .conflict
      else arguments.set option (value.getD "")

end Arguments

/-! ## Commands -/

def commandNames : List String :=
  ["generate", "split", "presets", "help"]

/-- How a positional argument is refused that there is no place for. -/
def refusePositional (argument : String) (isSeparated : Bool) : UsageError :=
  if isSeparated && commandNames.contains argument then .unknownArgument
  else if commandNames.any fun name =>
      Similarity.isSimilar argument.toList name.toList then .invalidCommand
  else .unknownArgument

/-- Reads the arguments of a command that takes at most one, checked by `check` as
soon as the next one comes. -/
def readOperand (takesOne : Bool) (check : String → Except UsageError String) :
    (operand : Option String) → (isSeparated : Bool) → List String →
    Except UsageError (Option String)
  | none, _, [] => .ok none
  | some operand, _, [] => (check operand).map some
  | operand, isSeparated, argument :: rest =>
      match isSeparated, ArgumentForm.ofText argument with
      | false, .separator => readOperand takesOne check operand true rest
      | false, .long "help" value => do
          if value.isSome then .error .unexpectedValue
          let _ ← operand.mapM check
          .error .helpWanted
      | false, .long _ _ => .error .unknownArgument
      | false, .short 'h' => do
          let _ ← operand.mapM check
          .error .helpWanted
      | false, .short _ => .error .unknownArgument
      | _, _ =>
          if takesOne && operand.isNone then readOperand takesOne check argument isSeparated rest
          else .error .unknownArgument

/-- What asking for help on commands comes to. -/
def helpOutcome : List String → UsageError
  | [] => .helpWanted
  | [name] => if commandNames.contains name then .helpWanted else .invalidCommand
  | _ => .invalidCommand

/-- Reads a command from its name and its arguments. -/
def Subcommand.ofArguments? (name : String) (rest : List String) :
    Option (Except UsageError Subcommand) :=
  let required (operand : Option String) : Except UsageError String :=
    match operand with
    | some operand => .ok operand
    | none => .error .missingArgument
  match name with
  | "generate" => some do
      let prompt ← readOperand true .ok none false rest
      (required prompt).map .generate
  | "split" => some do
      let file ← readOperand true Arguments.readPath none false rest
      (required file).map .split
  | "presets" => some do
      let _ ← readOperand false .ok none false rest
      .ok .presets
  | "help" => some (.error (helpOutcome rest))
  | _ => none

/-! ## The command line -/

/-- A command line that is read in part. -/
structure ArgumentReader where
  arguments : Arguments
  /-- The option or positional argument not stored yet, with its value if that has
  come. -/
  pending : Option (OptionName × Option String)
  /-- Whether everything else is positional. -/
  isSeparated : Bool
  hasPrompt : Bool
  deriving DecidableEq, Repr

namespace ArgumentReader

def initial : ArgumentReader :=
  { arguments := .empty, pending := none, isSeparated := false, hasPrompt := false }

/-- Stores what is pending. -/
def settle (reader : ArgumentReader) : Except UsageError ArgumentReader :=
  match reader.pending with
  | none => .ok reader
  | some (option, value) => do
      let arguments ← reader.arguments.store option value
      .ok { reader with arguments, pending := none }

/-- The option whose value comes next. -/
def awaiting? (reader : ArgumentReader) : Option OptionName :=
  match reader.pending, reader.isSeparated with
  | some (option, none), false => some option
  | _, _ => none

/-- Reads an option by its long name. -/
def readLong (reader : ArgumentReader) (name : String) (value : Option String) :
    Except UsageError ArgumentReader :=
  match name, OptionName.ofName? name with
  | "help", _ =>
      if value.isSome then .error .unexpectedValue
      else reader.settle.bind fun _ => .error .helpWanted
  | "version", _ =>
      if value.isSome then .error .unexpectedValue
      else reader.settle.bind fun _ => .error .versionWanted
  | _, none => .error .unknownArgument
  | _, some option =>
      if option.isFlag && value.isSome then .error .unexpectedValue
      else do
        let reader ← reader.settle
        if option.isFlag || value.isSome then
          let arguments ← reader.arguments.store option value
          .ok { reader with arguments }
        else
          .ok { reader with pending := some (option, none) }

def readShort (reader : ArgumentReader) (letter : Char) : Except UsageError ArgumentReader :=
  match letter with
  | 'h' => reader.settle.bind fun _ => .error .helpWanted
  | 'V' => reader.settle.bind fun _ => .error .versionWanted
  | _ => .error .unknownArgument

/-- Reads a value or a positional argument. -/
def readPlain (reader : ArgumentReader) (argument : String) :
    Except UsageError ArgumentReader :=
  match reader.awaiting? with
  | some option => .ok { reader with pending := some (option, some argument) }
  | none =>
      if reader.hasPrompt then
        .error (refusePositional argument reader.isSeparated)
      else do
        let reader ← reader.settle
        .ok { reader with pending := some (.prompt, some argument), hasPrompt := true }

/-- Reads one argument that is no command. -/
def read (reader : ArgumentReader) (argument : String) : Except UsageError ArgumentReader :=
  if reader.isSeparated then
    reader.readPlain argument
  else
    match ArgumentForm.ofText argument with
    | .separator => .ok { reader with isSeparated := true }
    | .long name value => reader.readLong name value
    | .short letter => reader.readShort letter
    | .plain => reader.readPlain argument

/-- The command that begins with an argument, unless the argument is a value. -/
def command? (reader : ArgumentReader) (argument : String) (rest : List String) :
    Option (Except UsageError Subcommand) :=
  if reader.isSeparated || reader.awaiting?.isSome then none
  else Subcommand.ofArguments? argument rest

/-- Reads all arguments, up to the command if there is one. -/
def readAll (reader : ArgumentReader) :
    List String → Except UsageError (ArgumentReader × Option Subcommand)
  | [] => .ok (reader, none)
  | argument :: rest =>
      match reader.command? argument rest with
      | some command => command.map fun command => (reader, some command)
      | none => do
          let reader ← reader.read argument
          readAll reader rest

end ArgumentReader

/-- Reads the arguments of the program. The base URL may also come from the
environment. -/
def CommandLine.ofArguments (arguments : List String) (environmentBase : Option String) :
    Except UsageError CommandLine := do
  let (reader, command) ← ArgumentReader.initial.readAll arguments
  let reader ← reader.settle
  let arguments := reader.arguments
  if arguments.file.isSome && arguments.prompt.isSome then
    .error .conflict
  .ok {
    arguments := { arguments with apiBase := arguments.apiBase <|> environmentBase }
    command }

end LiveShader
