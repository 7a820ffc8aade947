import LiveShader.Text.Blank
import LiveShader.Text.Search

/-! The lines a user types while the preview window is open. -/

namespace LiveShader

inductive ConsoleCommand where
  /-- A shader is asked for in free words. -/
  | prompt (description : String)
  | fix
  | stop
  | run
  | source
  | preset (name : String)
  | presets
  | status
  | help
  | quit
  deriving DecidableEq, Repr

inductive ConsoleError where
  | missingPresetName
  | unknownCommand (name : String)
  deriving DecidableEq, Repr

def ConsoleError.message : ConsoleError → String
  | .missingPresetName => "usage: :preset NAME (see :presets)"
  | .unknownCommand name => "unknown command ':" ++ name ++ "' (try :help)"

namespace ConsoleCommand

open Text

def helpText : String :=
  "Type a description to generate a shader, or one of:\n" ++
  "  :fix           ask the service to repair the last failed build\n" ++
  "  :stop          stop rendering\n" ++
  "  :run           run the last source again\n" ++
  "  :source        print the last source\n" ++
  "  :preset NAME   generate from a named example prompt\n" ++
  "  :presets       list example prompts\n" ++
  "  :status        show renderer and fix-cycle state\n" ++
  "  :help          show this message\n" ++
  "  :quit          close the window and exit"

/-- The name of a command without an argument. -/
def name? : ConsoleCommand → Option String
  | fix => some "fix"
  | stop => some "stop"
  | run => some "run"
  | source => some "source"
  | presets => some "presets"
  | status => some "status"
  | help => some "help"
  | quit => some "quit"
  | prompt _ => none
  | preset _ => none

/-- The command with a name in lower case and an argument. -/
def ofName (name argument : String) : Except ConsoleError ConsoleCommand :=
  match name with
  | "fix" => .ok .fix
  | "stop" => .ok .stop
  | "run" => .ok .run
  | "source" => .ok .source
  | "presets" => .ok .presets
  | "status" => .ok .status
  | "help" => .ok .help
  | "h" => .ok .help
  | "?" => .ok .help
  | "quit" => .ok .quit
  | "q" => .ok .quit
  | "exit" => .ok .quit
  | "preset" => if argument.isEmpty then .error .missingPresetName else .ok (.preset argument)
  | other => .error (.unknownCommand other)

/-- The name behind a colon and its argument. -/
def splitName (text : List Char) : List Char × List Char :=
  match splitAtFirst? isBlank text with
  | some (name, argument) => (name, trim argument)
  | none => (text, [])

/-- Reads one line. A blank line is no command. -/
def parse (line : String) : Except ConsoleError (Option ConsoleCommand) :=
  match trim line.toList with
  | [] => .ok none
  | ':' :: rest =>
      let (name, argument) := splitName rest
      (ofName (.ofList (name.map Char.toLower)) (.ofList argument)).map some
  | words => .ok (some (.prompt (.ofList words)))

end ConsoleCommand

end LiveShader
