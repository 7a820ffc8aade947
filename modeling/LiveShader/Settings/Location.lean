/-! Where the settings file of a user is. -/

namespace LiveShader

/-- The variables of the environment that decide on the place, as far as they are
set. -/
structure SettingsEnvironment where
  configDirectory : Option String
  userConfigDirectory : Option String
  home : Option String
  /-- The home directory in the list of accounts, for users without the variable. -/
  accountHome : Option String
  deriving DecidableEq, Repr

/-- A name within a directory. -/
def joinPath (directory name : String) : String :=
  if directory.isEmpty || directory.endsWith "/" then directory ++ name
  else directory ++ "/" ++ name

namespace SettingsEnvironment

/-- A variable that is set to something. -/
def nonEmpty (setting : Option String) : Option String :=
  setting.filter fun value => !value.isEmpty

/-- The directory of a user's settings for all programs. -/
def userDirectory? (environment : SettingsEnvironment) : Option String :=
  match nonEmpty environment.home <|> nonEmpty environment.accountHome with
  | none => none
  | some home =>
      match environment.userConfigDirectory.filter fun (path : String) => path.startsWith "/" with
      | some directory => some directory
      | none => some (joinPath home ".config")

/-- The directory of this program's settings. -/
def directory? (environment : SettingsEnvironment) : Option String :=
  match nonEmpty environment.configDirectory with
  | some directory => some directory
  | none => environment.userDirectory?.map fun directory => joinPath directory "zenith"

def file? (environment : SettingsEnvironment) : Option String :=
  environment.directory?.map fun directory => joinPath directory "zenith.toml"

end SettingsEnvironment

end LiveShader
