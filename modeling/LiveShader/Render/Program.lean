import LiveShader.Glsl.Lowering
import LiveShader.Render.Device

/-! Building a program on a graphics device. -/

namespace LiveShader

/-! ## The inputs the frame loop feeds -/

/-- The attribute that gets the corners of the quad. -/
def positionName : String := "position"

/-- The uniform that gets the seconds since the program started. -/
def timeName : String := "time"

/-- The uniform that gets the size of the drawing buffer. -/
def resolutionName : String := "resolution"

/-- Where a program takes its inputs. A program that does not use an input has
no place for it. -/
structure ProgramBindings where
  position : Option AttributeLocation
  time : Option UniformLocation
  resolution : Option UniformLocation
  deriving DecidableEq, Repr

structure BuiltProgram where
  program : ProgramId
  bindings : ProgramBindings
  deriving DecidableEq, Repr

variable {Device : Type} [GraphicsDevice Device]

open GraphicsDevice

def resolveBindings (device : Device) (program : ProgramId) : ProgramBindings :=
  { position := attributeLocation? device program positionName
    time := uniformLocation? device program timeName
    resolution := uniformLocation? device program resolutionName }

/-- Links two compiled stages, which do not outlive the attempt. -/
def linkStages (device : Device) (vertex fragment : StageId) :
    Except BuildError BuiltProgram × Device :=
  let (linked, device) := linkProgram device vertex fragment
  let device := releaseStage (releaseStage device vertex) fragment
  match linked with
  | .error diagnostic => (.error (.link diagnostic), device)
  | .ok program => (.ok { program, bindings := resolveBindings device program }, device)

/-- Lowers, compiles and links a stage pair. The vertex stage comes first, and
the fragment stage is not looked at when it fails. No stage object is left
behind. -/
def buildProgram (device : Device) (stages : StagePair) :
    Except BuildError BuiltProgram × Device :=
  let lowered := Glsl.lower stages
  match compileStage device .vertex lowered.vertex with
  | (.error diagnostic, device) => (.error (.compile .vertex diagnostic), device)
  | (.ok vertex, device) =>
      match compileStage device .fragment lowered.fragment with
      | (.error diagnostic, device) =>
          (.error (.compile .fragment diagnostic), releaseStage device vertex)
      | (.ok fragment, device) => linkStages device vertex fragment

end LiveShader
