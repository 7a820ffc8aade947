import LiveShader.Render.FrameLoop
import LiveShader.Shader.Split

/-! The owner of the current program and its render loop.

At most one program is live. A successful build ends the old loop, releases what
it drew and starts a new one. A failed build changes nothing on screen. -/

namespace LiveShader

inductive ExecutionState where
  | idle
  | building
  | running
  | failed
  deriving DecidableEq, Repr

def ExecutionState.label : ExecutionState → String
  | .idle => "idle"
  | .building => "building"
  | .running => "running"
  | .failed => "failed"

/-- A source that did not build, kept to be shown and repaired. -/
structure BuildFailure where
  source : String
  error : BuildError
  deriving DecidableEq, Repr

structure Controller (Device Clock Source : Type) where
  device : Device
  loop : FrameLoop Clock Source
  /-- What has to be released when the program on screen goes away. -/
  live : Option FrameBindings
  state : ExecutionState
  failure : Option BuildFailure
  runningSource : Option String

namespace Controller

open GraphicsDevice

variable {Device Clock Source : Type} [GraphicsDevice Device]

def create (device : Device) (clock : Clock) (time : Source) : Controller Device Clock Source :=
  { device
    loop := .create clock time
    live := none
    state := .idle
    failure := none
    runningSource := none }

/-- Builds everything the frames of a source draw with. -/
def build (device : Device) (source : String) : Except BuildError FrameBindings × Device :=
  match splitStages source with
  | .error error => (.error (.split error), device)
  | .ok stages =>
      match buildProgram device stages with
      | (.error error, device) => (.error error, device)
      | (.ok built, device) =>
          match createQuad device built.program built.bindings.position with
          | (.error error, device) =>
              (.error (.resource error), releaseProgram device built.program)
          | (.ok geometry, device) =>
              (.ok {
                program := built.program
                geometry
                position := built.bindings.position
                time := built.bindings.time
                resolution := built.bindings.resolution }, device)

/-- Releases the program on screen and its quad. -/
def releaseLive (controller : Controller Device Clock Source) :
    Controller Device Clock Source :=
  match controller.live with
  | none => controller
  | some live =>
      { controller with
        device := releaseProgram (releaseGeometry controller.device live.geometry) live.program
        live := none }

/-- Ends the render loop without releasing what it drew. -/
def stopLoop [FrameClock Clock] (controller : Controller Device Clock Source) :
    Controller Device Clock Source :=
  { controller with loop := controller.loop.stop.2 }

/-- Replaces the program on screen. -/
def install [FrameClock Clock] [TimeSource Source]
    (controller : Controller Device Clock Source) (bindings : FrameBindings) :
    Controller Device Clock Source :=
  let released := controller.stopLoop.releaseLive
  { released with
    live := some bindings
    loop := released.loop.start bindings }

/-- Splits, builds and installs a source. A failure is also kept until the next
success or stop. -/
def execute [FrameClock Clock] [TimeSource Source]
    (controller : Controller Device Clock Source) (source : String) :
    Except BuildError Unit × Controller Device Clock Source :=
  match build controller.device source with
  | (.error error, device) =>
      (.error error, { controller with
        device, state := .failed, failure := some { source, error } })
  | (.ok bindings, device) =>
      (.ok (), { install { controller with device } bindings with
        state := .running, failure := none, runningSource := some source })

/-- Runs the frame callback named by `handle`. -/
def onFrame [FrameClock Clock] [TimeSource Source]
    (controller : Controller Device Clock Source) (handle : FrameHandle) :
    Except ResourceError FrameOutcome × Controller Device Clock Source :=
  match controller.loop.onFrame controller.device handle with
  | (.ok outcome, loop, device) => (.ok outcome, { controller with loop, device })
  | (.error error, loop, device) =>
      (.error error, { releaseLive { controller with loop, device } with
        runningSource := none, state := .idle })

/-- Runs the frame callback that is due, if any. -/
def onRedraw [FrameClock Clock] [TimeSource Source]
    (controller : Controller Device Clock Source) :
    Except ResourceError FrameOutcome × Controller Device Clock Source :=
  let (due, clock) := FrameClock.takeDue controller.loop.clock
  let controller := { controller with loop := { controller.loop with clock } }
  match due with
  | none => (.ok .ignored, controller)
  | some handle => controller.onFrame handle

/-- Ends the loop and releases the program. -/
def stop [FrameClock Clock] (controller : Controller Device Clock Source) :
    Controller Device Clock Source :=
  { controller.stopLoop.releaseLive with
    runningSource := none, failure := none, state := .idle }

/-- Releases everything before the surface goes away. -/
def teardown [FrameClock Clock] (controller : Controller Device Clock Source) :
    Controller Device Clock Source :=
  controller.stop

end Controller

end LiveShader
