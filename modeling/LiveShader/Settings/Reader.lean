import LiveShader.Duration.Float
import LiveShader.Settings.Settings
import LiveShader.Text.Visible
import LiveShader.Toml.Document

/-! Reading settings from a TOML document.

Fields may come in any order and may be missing, but there are no other fields.
They are read in the order of the document, and the first mistake counts. -/

namespace LiveShader

/-! ## Mistakes -/

inductive FieldError where
  | unknownField (name : String)
  /-- A value of the wrong type, described, and what was expected instead. -/
  | wrongType (found expected : String)
  | negativeDuration
  | invalidDuration (text : String) (error : DurationError)
  deriving DecidableEq, Repr

def FieldError.message : FieldError → String
  | unknownField name =>
      "unknown field `" ++ name ++ "`, expected one of `api_base`, `request_timeout`, " ++
        "`window_size`, `auto_fix`, `presets`"
  | wrongType found expected => "invalid type: " ++ found ++ ", expected " ++ expected
  | negativeDuration => "duration must be non-negative"
  | invalidDuration text error => Duration.refusal text error

inductive SettingsError where
  /-- The text is not TOML. -/
  | syntaxError
  | field (error : FieldError)
  | fault (reason : SettingsFault)
  deriving DecidableEq, Repr

def SettingsError.message : SettingsError → String
  | syntaxError => "failed to parse configuration"
  | field _ => "failed to parse configuration"
  | fault reason => "invalid configuration: " ++ reason.message

/-- Why there are no settings. -/
inductive SettingsFailure where
  | refused (error : SettingsError)
  /-- The reader breaks down: a number of seconds is given that no span has room
  for. -/
  | brokenDown
  deriving DecidableEq, Repr

/-! ## Values -/

namespace Toml.Value

/-- What a value is called in a message. -/
def description : Toml.Value → String
  | text value => "string " ++ Text.quoted value
  | integer value => "integer `" ++ toString value ++ "`"
  | float value => "floating point `" ++ value.text ++ "`"
  | boolean value => "boolean `" ++ toString value ++ "`"
  | moment _ => "map"
  | array _ => "sequence"
  | table _ _ => "map"
  | tables _ => "sequence"

/-- The refusal of a value where something else is expected. -/
def refuse {Result : Type} (value : Toml.Value) (expected : String) :
    Except SettingsFailure Result :=
  .error (.refused (.field (.wrongType value.description expected)))

def toText : Toml.Value → Except SettingsFailure String
  | text value => .ok value
  | value => value.refuse "a string"

def toBoolean : Toml.Value → Except SettingsFailure Bool
  | boolean value => .ok value
  | value => value.refuse "a boolean"

/-- A span of time: a number of seconds, or a text with units. -/
def toDuration : Toml.Value → Except SettingsFailure Duration
  | text value =>
      match Duration.ofText value with
      | .ok span => .ok span
      | .error error => .error (.refused (.field (.invalidDuration value error)))
  | integer value =>
      if value < 0 then .error (.refused (.field .negativeDuration))
      else .ok (.ofSeconds value.toNat)
  | float (.finite false magnitude exponent) =>
      match Duration.ofFloat? magnitude exponent with
      | some span => .ok span
      | none => .error .brokenDown
  | float (.infinite false) => .error .brokenDown
  | float _ => .error (.refused (.field .negativeDuration))
  | value => value.refuse "a duration as number of seconds or human-readable string"

/-- The name under which a date or a time counts as a map of its text. -/
def momentName : String := "$__toml_private_datetime"

def readPresets : (presets : Presets) → Toml.Entries → Except SettingsFailure Presets
  | presets, [] => .ok presets
  | presets, (name, value) :: rest => do
      let prompt ← value.toText
      readPresets (presets.insert name prompt) rest

def toPresets : Toml.Value → Except SettingsFailure Presets
  | table _ entries => readPresets [] entries
  | moment value => .ok [(momentName, value)]
  | value => value.refuse "a map"

end Toml.Value

/-! ## Settings -/

namespace Settings

/-- Sets one field. -/
def setField (settings : Settings) (entry : String × Toml.Value) :
    Except SettingsFailure Settings :=
  match entry.1 with
  | "api_base" => do
      let apiBase ← entry.2.toText
      .ok { settings with apiBase }
  | "request_timeout" => do
      let requestTimeout ← entry.2.toDuration
      .ok { settings with requestTimeout }
  | "window_size" => do
      let windowSize ← entry.2.toText
      .ok { settings with windowSize }
  | "auto_fix" => do
      let autoFix ← entry.2.toBoolean
      .ok { settings with autoFix }
  | "presets" => do
      let presets ← entry.2.toPresets
      .ok { settings with presets }
  | name => .error (.refused (.field (.unknownField name)))

/-- Reads settings and checks them. -/
def ofText (text : String) : Except SettingsFailure Settings := do
  match Toml.read? text with
  | none => .error (.refused .syntaxError)
  | some entries =>
      let settings ← entries.foldlM setField standard
      match settings.fault? with
      | some fault => .error (.refused (.fault fault))
      | none => .ok settings

end Settings

end LiveShader
