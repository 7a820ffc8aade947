import LiveShader.Surface.Device

/-! # Runs of a surface device

A run is any finite sequence of calls on a device, mixed with new sizes of its
window. -/

namespace LiveShader

/-- One step of a run. -/
inductive DeviceOperation where
  | compileStage (stage : Stage) (source : String)
  | releaseStage (stage : StageId)
  | linkProgram (vertex fragment : StageId)
  | releaseProgram (program : ProgramId)
  | createQuad (program : ProgramId) (position : Option AttributeLocation)
  | releaseGeometry (geometry : GeometryId)
  | resizeBacking (size : Size)
  | useProgram (program : ProgramId)
  | bindQuad (geometry : GeometryId)
  | setFloat (location : UniformLocation) (value : Single)
  | setPair (location : UniformLocation) (first second : Single)
  | draw
  /-- The surroundings give the window another size. -/
  | resizeWindow (size : Size)
  deriving DecidableEq, Repr

/-- The bytes that an operation writes, and the place for them. -/
def DeviceOperation.write? : DeviceOperation → Option (UniformLocation × List UInt8)
  | .setFloat location value => some (location, value.bytes)
  | .setPair location first second => some (location, first.bytes ++ second.bytes)
  | _ => none

namespace SurfaceDevice

/-- The device after an operation, whatever it answered. -/
def perform (device : SurfaceDevice) : DeviceOperation → SurfaceDevice
  | .compileStage stage source => (device.compileStage stage source).2
  | .releaseStage stage => device.releaseStage stage
  | .linkProgram vertex fragment => (device.linkProgram vertex fragment).2
  | .releaseProgram program => device.releaseProgram program
  | .createQuad program position => (device.createQuad program position).2
  | .releaseGeometry geometry => device.releaseGeometry geometry
  | .resizeBacking size => device.resizeBacking size
  | .useProgram program => GraphicsDevice.useProgram device program
  | .bindQuad geometry => GraphicsDevice.bindQuad device geometry
  | .setFloat location value => GraphicsDevice.setFloat device location value
  | .setPair location first second => GraphicsDevice.setPair device location first second
  | .draw => device.draw.2
  | .resizeWindow size => device.resizeWindow size

/-- The device after a run. -/
def after (device : SurfaceDevice) (operations : List DeviceOperation) : SurfaceDevice :=
  operations.foldl perform device

@[simp] theorem after_nil (device : SurfaceDevice) : device.after [] = device := rfl

@[simp] theorem after_cons (device : SurfaceDevice) (operation : DeviceOperation)
    (rest : List DeviceOperation) :
    device.after (operation :: rest) = (device.perform operation).after rest := rfl

end SurfaceDevice

end LiveShader
