import LiveShader.Render.Controller
import LiveShader.Render.Recorder

/-! # Runs of a controller

A run is any finite sequence of operations on a controller, mixed with changes
that its surroundings make to the device. -/

namespace LiveShader

/-- Scripts that change a device from outside. -/
class ScriptedDevice (Script Device : Type) where
  follow : Device → Script → Device

/-- One step of a run. -/
inductive ControllerOperation (Script : Type) where
  | execute (source : String)
  | redraw
  | frame (handle : FrameHandle)
  | stop
  | teardown
  /-- The surroundings change the device. -/
  | script (script : Script)
  deriving DecidableEq, Repr

/-- What an operation answers. -/
inductive OperationResult where
  | built (result : Except BuildError Unit)
  | framed (result : Except ResourceError FrameOutcome)
  | done

namespace Controller

variable {Script Device Clock Source : Type}
variable [GraphicsDevice Device] [ScriptedDevice Script Device]
variable [FrameClock Clock] [TimeSource Source]

def perform (controller : Controller Device Clock Source) :
    ControllerOperation Script → OperationResult × Controller Device Clock Source
  | .execute source =>
      let (result, next) := controller.execute source
      (.built result, next)
  | .redraw =>
      let (result, next) := controller.onRedraw
      (.framed result, next)
  | .frame handle =>
      let (result, next) := controller.onFrame handle
      (.framed result, next)
  | .stop => (.done, controller.stop)
  | .teardown => (.done, controller.teardown)
  | .script script =>
      (.done, { controller with device := ScriptedDevice.follow controller.device script })

/-- The controller after a run. -/
def after (controller : Controller Device Clock Source)
    (operations : List (ControllerOperation Script)) : Controller Device Clock Source :=
  operations.foldl (fun current operation => (current.perform operation).2) controller

@[simp] theorem after_cons (controller : Controller Device Clock Source)
    (operation : ControllerOperation Script) (rest : List (ControllerOperation Script)) :
    controller.after (operation :: rest) = (controller.perform operation).2.after rest := rfl

/-- What every operation preserves holds after every run. -/
theorem after_invariant (Property : Controller Device Clock Source → Prop)
    (preserved : ∀ (controller : Controller Device Clock Source)
      (operation : ControllerOperation Script),
      Property controller → Property (controller.perform operation).2)
    (controller : Controller Device Clock Source)
    (operations : List (ControllerOperation Script)) (initially : Property controller) :
    Property (controller.after operations) := by
  induction operations generalizing controller with
  | nil => exact initially
  | cons operation rest induction =>
      exact induction _ (preserved controller operation initially)

end Controller

/-! ## Scripts for the recorder -/

/-- What a test sets on a recorder between two operations. -/
inductive RecorderScript where
  | display (size : Size)
  | backing (size : Size)
  | drawFailure (error : DrawError)
  | quadFailure (error : ResourceError)
  deriving DecidableEq, Repr

instance : ScriptedDevice RecorderScript Recorder where
  follow recorder
    | .display size => recorder.setDisplay size
    | .backing size => recorder.setBacking size
    | .drawFailure error => recorder.queueDrawFailure error
    | .quadFailure error => recorder.setQuadFailure error

end LiveShader
