import LiveShader.Render.Size
import LiveShader.Shader.Stage

/-! What the program asks of the window system, the graphics driver and the
network. -/

namespace LiveShader

/-- The number of a window or graphics object. All kinds are numbered together,
in order of creation. -/
structure ObjectId where
  number : Nat
  deriving DecidableEq, Repr

structure TextureFormat where
  name : String
  deriving DecidableEq, Repr

/-- Whether colours written to the format are converted on their way to the
screen. -/
def TextureFormat.isSrgb (format : TextureFormat) : Bool :=
  format.name.endsWith "Srgb"

/-- What a buffer is used for, as a sum of flags. -/
structure BufferUsage where
  bits : Nat
  deriving DecidableEq, Repr

namespace BufferUsage

/-- A uniform buffer that is written from outside. -/
def writtenUniform : BufferUsage := { bits := 64 + 8 }

def vertex : BufferUsage := { bits := 32 }

end BufferUsage

/-- One uniform buffer of a bind group layout, seen by both stages. -/
structure LayoutEntry where
  binding : Nat
  minimalSize : Nat
  deriving DecidableEq, Repr

/-- A vertex buffer that holds one attribute of two floats. -/
structure VertexBufferLayout where
  stride : Nat
  location : Nat
  deriving DecidableEq, Repr

/-- A pipeline that draws triangle strips with the `main` functions of two shader
modules. -/
structure PipelineDescriptor where
  layout : ObjectId
  vertexModule : ObjectId
  vertexBuffers : List VertexBufferLayout
  fragmentModule : ObjectId
  target : TextureFormat
  deriving DecidableEq, Repr

/-- One entry of the log of requests. -/
inductive Request where
  | createWindow (title : String) (size : Size)
  | setTitle (title : String)
  /-- The window system is told that a frame is about to be shown. -/
  | announcePresent
  | configureSurface (format : TextureFormat) (size : Size)
  | parseStage (stage : Stage) (source : String)
  | createShaderModule (object : ObjectId) (label : String) (stage : Stage) (bytes : Nat)
  | createBindGroupLayout (object : ObjectId) (label : String) (entries : List LayoutEntry)
  | createPipelineLayout (object : ObjectId) (label : String) (groups : List ObjectId)
  | createPipeline (object : ObjectId) (label : String) (descriptor : PipelineDescriptor)
  | createBuffer (object : ObjectId) (label : String) (size : Nat) (usage : BufferUsage)
  | createFilledBuffer (object : ObjectId) (label : String) (contents : List UInt8)
      (usage : BufferUsage)
  | createBindGroup (object : ObjectId) (label : String) (layout : ObjectId)
      (entries : List (Nat × ObjectId))
  | acquireTexture
  | writeBuffer (buffer : ObjectId) (offset : Nat) (contents : List UInt8)
  /-- A render pass begins with a cleared picture. -/
  | beginPass (label : String)
  | setPipeline (pipeline : ObjectId)
  | setBindGroup (index : Nat) (group : ObjectId)
  | setVertexBuffer (slot : Nat) (buffer : ObjectId)
  | drawVertices (vertices instances : Nat)
  | submit
  | present
  /-- An HTTP post with a limit in seconds and nanoseconds. -/
  | post (url : String) (body : String) (seconds nanoseconds : Nat)
  deriving DecidableEq, Repr

end LiveShader
