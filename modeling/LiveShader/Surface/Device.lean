import LiveShader.Data.Bytes
import LiveShader.Host.Host
import LiveShader.Render.Program
import LiveShader.Surface.Interface

/-! The graphics device that draws to the surface of a window.

It keeps the graphics objects of its stages, programs and quads in tables, and a
copy of each uniform block that is uploaded before the next draw when it has
changed. -/

namespace LiveShader

/-- Why no device could be set up for a window. -/
inductive SurfaceStartError where
  | surface (reason : String)
  | adapter (reason : String)
  | device (reason : String)
  | unsupported
  deriving DecidableEq, Repr

/-- The messages of the failure, from the outermost to its cause. -/
def SurfaceStartError.chain : SurfaceStartError → List String
  | .surface reason => ["failed to create rendering surface", reason]
  | .adapter reason => ["no GPU adapter can present to the preview window", reason]
  | .device reason => ["failed to create GPU device", reason]
  | .unsupported => ["surface is not supported by the selected adapter"]

/-- The first format that leaves colours alone, or else the first of all. -/
def pickFormat? (formats : List TextureFormat) : Option TextureFormat :=
  match formats.find? fun format => !format.isSrgb with
  | some format => some format
  | none => formats.head?

/-- The kinds of graphics objects that outlive the request for them. -/
inductive ObjectKind where
  | shaderModule
  | pipeline
  | buffer
  | bindGroup
  deriving DecidableEq, Repr

def ObjectKind.label : ObjectKind → String
  | shaderModule => "shader_module"
  | pipeline => "pipeline"
  | buffer => "buffer"
  | bindGroup => "bind_group"

structure CompiledStage where
  stage : Stage
  shaderModule : ObjectId
  interface : StageInterface
  deriving DecidableEq, Repr

/-- A uniform block: its buffer, the bytes the buffer has to hold, and whether it
may hold others. -/
structure UniformBuffer where
  buffer : ObjectId
  staging : List UInt8
  dirty : Bool
  deriving DecidableEq, Repr

/-- Puts bytes into a block's copy, unless they do not fit in. -/
def UniformBuffer.write (block : UniformBuffer) (offset : Nat) (bytes : List UInt8) :
    UniformBuffer :=
  match overlay? block.staging offset bytes with
  | some staging => { block with staging, dirty := true }
  | none => block

structure LinkedProgram where
  pipeline : ObjectId
  bindGroup : Option ObjectId
  /-- The uniform blocks by binding, in ascending order. -/
  blocks : Table Nat UniformBuffer
  interface : ProgramInterface
  deriving DecidableEq, Repr

/-- The graphics objects that belong to a program. -/
def LinkedProgram.objects (program : LinkedProgram) : List (ObjectKind × ObjectId) :=
  (.pipeline, program.pipeline) ::
    (program.bindGroup.toList.map fun group => (.bindGroup, group)) ++
    program.blocks.map fun block => (.buffer, block.2.buffer)

structure QuadGeometry where
  buffer : ObjectId
  /-- Whether the program it was made for takes the corners. -/
  feedsPosition : Bool
  deriving DecidableEq, Repr

structure SurfaceDevice where
  host : Host
  /-- The inner size of the window. -/
  windowSize : Size
  format : TextureFormat
  /-- The size the surface is configured to. -/
  configured : Size
  /-- The number of the last stage, program or quad. -/
  lastNumber : Nat
  stages : Table StageId CompiledStage
  programs : Table ProgramId LinkedProgram
  geometries : Table GeometryId QuadGeometry
  currentProgram : Option ProgramId
  currentGeometry : Option GeometryId

namespace SurfaceDevice

/-! ## Constants -/

/-- The corners of the viewport, in the order of a triangle strip. -/
def quadCorners : List Single :=
  [-1.0, -1.0, 1.0, -1.0, -1.0, 1.0, 1.0, 1.0].map Single.ofFloat

def quadCornerCount : Nat := 4

/-- The bytes of one corner. -/
def cornerStride : Nat := 8

def uniformAlignment : Nat := 16

def moduleLabel : Stage → String
  | .vertex => "zenith vertex stage"
  | .fragment => "zenith fragment stage"

/-! ## Setting up -/

/-- Configures the surface to the device's size. -/
def configure (device : SurfaceDevice) : SurfaceDevice :=
  { device with host := device.host.record (.configureSurface device.format device.configured) }

/-- Sets up a device for a window, or tells what failed and what the host has
become. -/
def create (host : Host) (windowSize : Size) :
    Except (SurfaceStartError × Host) SurfaceDevice :=
  let (surface, rest) := host.surface.next
  let host := { host with surface := rest }
  match surface with
  | some reason => .error (.surface reason, host)
  | none =>
      let (adapter, rest) := host.adapter.next
      let host := { host with adapter := rest }
      match adapter with
      | some reason => .error (.adapter reason, host)
      | none =>
          let (graphics, rest) := host.graphicsDevice.next
          let host := { host with graphicsDevice := rest }
          match graphics, pickFormat? host.formats with
          | some reason, _ => .error (.device reason, host)
          | none, none => .error (.unsupported, host)
          | none, some format => .ok <| configure {
              host
              windowSize
              format
              configured := windowSize.atLeastOne
              lastNumber := 0
              stages := []
              programs := []
              geometries := []
              currentProgram := none
              currentGeometry := none }

/-- The graphics objects that exist, each with its kind. -/
def objects (device : SurfaceDevice) : List (ObjectKind × ObjectId) :=
  (device.stages.map fun entry => (.shaderModule, entry.2.shaderModule)) ++
    (device.programs.flatMap fun entry => entry.2.objects) ++
    (device.geometries.map fun entry => (.buffer, entry.2.buffer))

/-! ## Stages -/

/-- Numbers a new stage, program or quad. -/
def allocate (device : SurfaceDevice) : Nat × SurfaceDevice :=
  (device.lastNumber + 1, { device with lastNumber := device.lastNumber + 1 })

/-- Compiles a stage. The diagnostic is that of the front end, or else that of
the validation scope around the shader module. -/
def compileStage (device : SurfaceDevice) (stage : Stage) (source : String) :
    Except String StageId × SurfaceDevice :=
  match device.host.parseStage stage source with
  | (.error diagnostic, host) => (.error diagnostic, { device with host })
  | (.ok compiled, host) =>
      let (shaderModule, host) := host.allocate
      let host := host.record
        (.createShaderModule shaderModule (moduleLabel stage) stage source.utf8ByteSize)
      match host.endValidation with
      | (some diagnostic, host) => (.error diagnostic, { device with host })
      | (none, host) =>
          let (number, device) := { device with host }.allocate
          (.ok { number }, { device with
            stages := device.stages.insert { number }
              { stage, shaderModule, interface := .ofModule compiled } })

def releaseStage (device : SurfaceDevice) (stage : StageId) : SurfaceDevice :=
  { device with stages := device.stages.erase stage }

/-! ## Programs -/

/-- The layout of a program's bind group, where it has uniform blocks. -/
def createGroupLayout (host : Host) (blocks : BlockSizes) : Option ObjectId × Host :=
  if blocks.isEmpty then
    (none, host)
  else
    let (object, host) := host.allocate
    let entries := blocks.map fun (binding, minimalSize) => { binding, minimalSize }
    (some object, host.record (.createBindGroupLayout object "zenith uniform layout" entries))

/-- The vertex buffers of a program: one for the corners of the quad, where the
program takes them. -/
def vertexBuffers (interface : ProgramInterface) : List VertexBufferLayout :=
  (interface.attributes.find? positionName).toList.map fun location =>
    { stride := cornerStride, location }

/-- Creates a program's pipeline inside a validation scope. Its layouts are not
kept. -/
def createPipeline (host : Host) (format : TextureFormat) (vertex fragment : CompiledStage)
    (interface : ProgramInterface) : Except String (ObjectId × Option ObjectId) × Host :=
  let (groupLayout, host) := createGroupLayout host interface.blocks
  let (layout, host) := host.allocate
  let host := host.record
    (.createPipelineLayout layout "zenith pipeline layout" groupLayout.toList)
  let (pipeline, host) := host.allocate
  let host := host.record (.createPipeline pipeline "zenith program" {
    layout
    vertexModule := vertex.shaderModule
    vertexBuffers := vertexBuffers interface
    fragmentModule := fragment.shaderModule
    target := format })
  match host.endValidation with
  | (some diagnostic, host) => (.error diagnostic, host)
  | (none, host) => (.ok (pipeline, groupLayout), host)

/-- The size of the buffer for a block: a positive multiple of the alignment that
holds the block. -/
def bufferSize (blockSize : Nat) : Nat :=
  (max blockSize 1 + uniformAlignment - 1) / uniformAlignment * uniformAlignment

/-- Creates the buffers of uniform blocks, all zero and yet to be written. -/
def createUniformBuffers (host : Host) : BlockSizes → Table Nat UniformBuffer × Host
  | [] => ([], host)
  | (binding, blockSize) :: rest =>
      let (buffer, host) := host.allocate
      let size := bufferSize blockSize
      let host := host.record
        (.createBuffer buffer "zenith uniform block" size .writtenUniform)
      let (others, host) := createUniformBuffers host rest
      ((binding, { buffer, staging := .replicate size 0, dirty := true }) :: others, host)

/-- Creates the bind group that holds a program's uniform buffers. -/
def createBindGroup (host : Host) (layout : Option ObjectId)
    (blocks : Table Nat UniformBuffer) : Option ObjectId × Host :=
  match layout with
  | none => (none, host)
  | some layout =>
      let (group, host) := host.allocate
      let entries := blocks.map fun (binding, block) => (binding, block.buffer)
      (some group, host.record
        (.createBindGroup group "zenith uniform bind group" layout entries))

/-- Links two stages into a program. -/
def linkProgram (device : SurfaceDevice) (vertex fragment : StageId) :
    Except String ProgramId × SurfaceDevice :=
  match device.stages.find? vertex, device.stages.find? fragment with
  | some vertex, some fragment =>
      if vertex.stage = .vertex ∧ fragment.stage = .fragment then
        match ProgramInterface.link vertex.interface fragment.interface with
        | .error diagnostic => (.error diagnostic, device)
        | .ok interface =>
            match createPipeline device.host device.format vertex fragment interface with
            | (.error diagnostic, host) => (.error diagnostic, { device with host })
            | (.ok (pipeline, groupLayout), host) =>
                let (blocks, host) := createUniformBuffers host interface.blocks
                let (bindGroup, host) := createBindGroup host groupLayout blocks
                let (number, device) := { device with host }.allocate
                (.ok { number }, { device with
                  programs := device.programs.insert { number }
                    { pipeline, bindGroup, blocks, interface } })
      else
        (.error "shader stages attached in the wrong slots", device)
  | _, _ => (.error "attempted to link a released shader stage", device)

def releaseProgram (device : SurfaceDevice) (program : ProgramId) : SurfaceDevice :=
  { device with
    programs := device.programs.erase program
    currentProgram :=
      if device.currentProgram = some program then none else device.currentProgram }

def attributeLocation? (device : SurfaceDevice) (program : ProgramId) (name : String) :
    Option AttributeLocation :=
  match device.programs.find? program with
  | some linked => (linked.interface.attributes.find? name).map AttributeLocation.mk
  | none => none

def uniformLocation? (device : SurfaceDevice) (program : ProgramId) (name : String) :
    Option UniformLocation :=
  match device.programs.find? program with
  | some linked => linked.interface.uniforms.find? name
  | none => none

/-! ## Quads -/

/-- What is allocated for a quad, in error messages. -/
def quadWhat : String := "quad vertex buffer"

def createQuad (device : SurfaceDevice) (program : ProgramId)
    (position : Option AttributeLocation) : Except ResourceError GeometryId × SurfaceDevice :=
  match device.programs.find? program with
  | none =>
      (.error (.allocation quadWhat ("program " ++ toString program.number ++ " is not live")),
        device)
  | some _ =>
      let (buffer, host) := device.host.allocate
      let host := host.record
        (.createFilledBuffer buffer "zenith quad" (quadCorners.flatMap Single.bytes) .vertex)
      match host.endValidation with
      | (some reason, host) => (.error (.allocation quadWhat reason), { device with host })
      | (none, host) =>
          let (number, device) := { device with host }.allocate
          (.ok { number }, { device with
            geometries := device.geometries.insert { number }
              { buffer, feedsPosition := position.isSome } })

def releaseGeometry (device : SurfaceDevice) (geometry : GeometryId) : SurfaceDevice :=
  { device with
    geometries := device.geometries.erase geometry
    currentGeometry :=
      if device.currentGeometry = some geometry then none else device.currentGeometry }

/-! ## Sizes -/

/-- Configures the surface to a new size. A size without pixels is ignored. -/
def resizeBacking (device : SurfaceDevice) (size : Size) : SurfaceDevice :=
  if size.isEmpty then device else configure { device with configured := size }

/-- The window gets another inner size; the surface stays as it is. -/
def resizeWindow (device : SurfaceDevice) (size : Size) : SurfaceDevice :=
  { device with windowSize := size }

/-! ## Uniforms -/

/-- Writes to a uniform of the current program. -/
def writeUniform (device : SurfaceDevice) (location : UniformLocation) (bytes : List UInt8) :
    SurfaceDevice :=
  match device.currentProgram with
  | none => device
  | some program =>
      { device with
        programs := device.programs.modify program fun linked =>
          { linked with
            blocks := linked.blocks.modify location.binding fun block =>
              block.write location.offset bytes } }

/-! ## Drawing -/

/-- Writes the blocks that have changed to their buffers. -/
def upload (host : Host) (blocks : Table Nat UniformBuffer) : Host :=
  blocks.foldl
    (fun host (_, block) =>
      if block.dirty then host.record (.writeBuffer block.buffer 0 block.staging) else host)
    host

/-- Records and submits one render pass. -/
def drawPass (host : Host) (linked : LinkedProgram) (geometry : Option QuadGeometry) : Host :=
  let host := (host.record (.beginPass "zenith quad pass")).record (.setPipeline linked.pipeline)
  let host := match linked.bindGroup with
    | some group => host.record (.setBindGroup 0 group)
    | none => host
  let host := match geometry with
    | some geometry =>
        if geometry.feedsPosition then host.record (.setVertexBuffer 0 geometry.buffer) else host
    | none => host
  (((host.record (.drawVertices quadCornerCount 1)).record .submit).record
    .announcePresent).record .present

/-- Draws the current quad with the current program. -/
def draw (device : SurfaceDevice) : Except DrawError Unit × SurfaceDevice :=
  match device.currentProgram with
  | none => (.error (.fatal (.context "no program in use")), device)
  | some program =>
      match device.programs.find? program with
      | none =>
          (.error (.fatal (.context
            ("program " ++ toString program.number ++ " was released"))), device)
      | some linked =>
          match device.host.acquireTexture with
          | (.error .lost, host) => (.error .surfaceLost, { device with host })
          | (.error .outdated, host) => (.error .surfaceLost, { device with host })
          | (.error .timeout, host) => (.error .surfaceTimeout, { device with host })
          | (.error error, host) => (.error (.fatal (.surface error.message)), { device with host })
          | (.ok (), host) =>
              let geometry := device.currentGeometry.bind device.geometries.find?
              let host := drawPass (upload host linked.blocks) linked geometry
              let clean := { linked with
                blocks := linked.blocks.map fun (binding, block) =>
                  (binding, { block with dirty := false }) }
              (.ok (), { device with host, programs := device.programs.insert program clean })

instance : GraphicsDevice SurfaceDevice where
  compileStage := compileStage
  releaseStage := releaseStage
  linkProgram := linkProgram
  releaseProgram := releaseProgram
  attributeLocation? := attributeLocation?
  uniformLocation? := uniformLocation?
  createQuad := createQuad
  releaseGeometry := releaseGeometry
  displaySize := windowSize
  backingSize := configured
  resizeBacking := resizeBacking
  useProgram device program := { device with currentProgram := some program }
  bindQuad device geometry := { device with currentGeometry := some geometry }
  setFloat device location value := device.writeUniform location value.bytes
  setPair device location first second :=
    device.writeUniform location (first.bytes ++ second.bytes)
  draw := draw

end SurfaceDevice

end LiveShader
