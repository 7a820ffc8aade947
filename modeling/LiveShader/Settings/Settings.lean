import LiveShader.Duration
import LiveShader.Render.SizeReader
import LiveShader.Service.Endpoint
import LiveShader.Studio.Presets

/-! What a user can set in a file. -/

namespace LiveShader

structure Settings where
  apiBase : String
  requestTimeout : Duration
  windowSize : String
  autoFix : Bool
  /-- The presets of the file alone. -/
  presets : Presets
  deriving DecidableEq, Repr

/-- Why settings that could be read are of no use. -/
inductive SettingsFault where
  | emptyBase
  | windowSize (error : SizeError)
  | blankPreset (name : String)
  deriving DecidableEq, Repr

def SettingsFault.message : SettingsFault → String
  | emptyBase => "api_base must not be empty"
  | windowSize error => "window_size: " ++ error.message
  | blankPreset name => "preset '" ++ name ++ "' needs both a name and a prompt"

namespace Settings

/-- The settings of a user who has set nothing. -/
def standard : Settings where
  apiBase := Endpoint.defaultBase
  requestTimeout := Endpoint.defaultTimeout
  windowSize := "960x540"
  autoFix := false
  presets := []

def dimensions (settings : Settings) : Except SizeError Size :=
  Size.ofText settings.windowSize

/-- Every user's presets together with those of the file, which win. -/
def allPresets (settings : Settings) : Presets :=
  Presets.builtin.extend settings.presets

/-- Whether a preset lacks its name or its prompt. -/
def isBlankPreset (preset : String × String) : Bool :=
  Text.isBlankString preset.1 || Text.isBlankString preset.2

/-- The first thing that is wrong with settings. -/
def fault? (settings : Settings) : Option SettingsFault :=
  if Text.isBlankString settings.apiBase then
    some .emptyBase
  else
    match settings.dimensions with
    | .error error => some (.windowSize error)
    | .ok _ =>
        (List.find? isBlankPreset settings.presets).map fun preset => .blankPreset preset.1

end Settings

end LiveShader
