import LiveShader.Data.Single
import LiveShader.Render.Size
import LiveShader.Shader.BuildError

/-! What the render pipeline asks of a graphics device. The pipeline works with
identifiers only; the objects behind them belong to the device. -/

namespace LiveShader

/-- A compiled stage that is not yet part of a program. -/
structure StageId where
  number : Nat
  deriving DecidableEq, Repr

/-- A linked program. -/
structure ProgramId where
  number : Nat
  deriving DecidableEq, Repr

/-- The vertex data of the quad that covers the viewport. -/
structure GeometryId where
  number : Nat
  deriving DecidableEq, Repr

/-- The vertex input slot of an attribute. -/
structure AttributeLocation where
  number : Nat
  deriving DecidableEq, Repr

/-- A uniform's block binding and its byte offset in the block. -/
structure UniformLocation where
  binding : Nat
  offset : Nat
  deriving DecidableEq, Repr

/-- Why a draw did not reach the screen. -/
inductive DrawError where
  /-- The surface has to be configured again before the next frame. -/
  | surfaceLost
  /-- The frame is skipped; the next one may succeed. -/
  | surfaceTimeout
  | fatal (error : ResourceError)
  deriving DecidableEq, Repr

/-- A name for the kind of error, for logs. -/
def DrawError.kind : DrawError → String
  | .surfaceLost => "SurfaceLost"
  | .surfaceTimeout => "SurfaceTimeout"
  | .fatal error => error.kind

def DrawError.message : DrawError → String
  | .surfaceLost => "surface lost or outdated"
  | .surfaceTimeout => "timed out acquiring the next surface texture"
  | .fatal error => error.message

/-- A graphics device, given by the states it can be in. A failed compile or
link carries the driver's log. -/
class GraphicsDevice (Device : Type) where
  compileStage : Device → Stage → (source : String) → Except String StageId × Device
  releaseStage : Device → StageId → Device
  linkProgram : Device → (vertex fragment : StageId) → Except String ProgramId × Device
  releaseProgram : Device → ProgramId → Device
  attributeLocation? : Device → ProgramId → (name : String) → Option AttributeLocation
  uniformLocation? : Device → ProgramId → (name : String) → Option UniformLocation
  /-- Uploads the quad that is fed to the attribute at `position`. -/
  createQuad : Device → ProgramId → (position : Option AttributeLocation) →
    Except ResourceError GeometryId × Device
  releaseGeometry : Device → GeometryId → Device
  /-- The size the surface is shown at. -/
  displaySize : Device → Size
  /-- The size of the drawing buffer. -/
  backingSize : Device → Size
  resizeBacking : Device → Size → Device
  useProgram : Device → ProgramId → Device
  bindQuad : Device → GeometryId → Device
  setFloat : Device → UniformLocation → Single → Device
  setPair : Device → UniformLocation → Single → Single → Device
  /-- Draws the bound quad once with the program in use. -/
  draw : Device → Except DrawError Unit × Device

end LiveShader
