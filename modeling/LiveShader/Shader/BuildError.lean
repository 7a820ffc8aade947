import LiveShader.Shader.Stage

/-! Why a generated text did not become a running program. -/

namespace LiveShader

/-- Why a text does not hold two stages. -/
inductive SplitError where
  /-- The stage's marker occurs nowhere. -/
  | missingMarker (stage : Stage)
  /-- The only fragment markers stand before the vertex marker. -/
  | markersOutOfOrder
  /-- Nothing but blanks follows the stage's marker. -/
  | emptyStage (stage : Stage)
  deriving DecidableEq, Repr

/-- Why the graphics device or its surface could not provide something. -/
inductive ResourceError where
  | context (reason : String)
  | surface (reason : String)
  | allocation (what reason : String)
  deriving DecidableEq, Repr

/-- Everything that can stop a text from becoming a running program. A compile
or link error carries the driver's diagnostic untouched. -/
inductive BuildError where
  | split (error : SplitError)
  | compile (stage : Stage) (diagnostic : String)
  | link (diagnostic : String)
  | resource (error : ResourceError)
  deriving DecidableEq, Repr

/-- A name for the kind of error, for logs. -/
def SplitError.kind : SplitError → String
  | .missingMarker _ => "MissingMarker"
  | .markersOutOfOrder => "MarkersOutOfOrder"
  | .emptyStage _ => "EmptyStage"

def SplitError.message (error : SplitError) : String :=
  "couldn't parse vertex and fragment shaders: " ++
    match error with
    | .missingMarker stage => "missing `" ++ stage.marker ++ "` marker"
    | .markersOutOfOrder => "fragment marker precedes vertex marker"
    | .emptyStage stage => stage.name ++ " stage is empty"

/-- A name for the kind of error, for logs. -/
def ResourceError.kind : ResourceError → String
  | .context _ => "Context"
  | .surface _ => "Surface"
  | .allocation _ _ => "Allocation"

def ResourceError.message : ResourceError → String
  | .context reason => "graphics context unavailable: " ++ reason
  | .surface reason => "drawable surface unavailable: " ++ reason
  | .allocation what reason => "failed to allocate " ++ what ++ ": " ++ reason

namespace BuildError

/-- A name for the kind of error, for logs. -/
def kind : BuildError → String
  | .split error => error.kind
  | .compile _ _ => "Compile"
  | .link _ => "Link"
  | .resource error => error.kind

def message : BuildError → String
  | .split error => error.message
  | .compile stage diagnostic => stage.name ++ " shader compilation error: " ++ diagnostic
  | .link diagnostic => "program linking error: " ++ diagnostic
  | .resource error => error.message

/-- The driver's own text, when a driver refused the source. -/
def diagnostic? : BuildError → Option String
  | .compile _ diagnostic => some diagnostic
  | .link diagnostic => some diagnostic
  | .split _ => none
  | .resource _ => none

/-- Whether another source could have avoided the error. -/
def isFixable : BuildError → Bool
  | .resource _ => false
  | _ => true

/-- The text a repair of the source is asked with: the driver's own words, or
the whole message where no driver spoke. -/
def repairText (error : BuildError) : String :=
  error.diagnostic?.getD error.message

end BuildError

end LiveShader
