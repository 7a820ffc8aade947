import LiveShader.Proofs.Render.StableRelations
import LiveShader.Proofs.Render.Views

/-! # The calls of a frame

A logged device passes everything on to the device behind it and notes the calls that a frame
can make, with what they are given and, for a draw, with the sizes that it meets and what comes
of it. A frame makes the same calls on any device. -/

namespace LiveShader

/-- A call that a frame can make. -/
inductive FrameCall where
  | resize (size : Size)
  | use (program : ProgramId)
  | bind (geometry : GeometryId)
  | writeFloat (location : UniformLocation) (value : Single)
  | writePair (location : UniformLocation) (first second : Single)
  | draw (display backing : Size) (result : Except DrawError Unit)

structure Logged (Device : Type) where
  device : Device
  /-- The calls so far, oldest first. -/
  calls : List FrameCall

namespace Logged

variable {Script Device : Type} [GraphicsDevice Device]

/-- The result of a call that is not noted. -/
def answer {Answer : Type} (calls : List FrameCall) (result : Answer × Device) :
    Answer × Logged Device :=
  (result.1, { device := result.2, calls })

/-- The device after a call that is noted. -/
def note (logged : Logged Device) (device : Device) (call : FrameCall) : Logged Device :=
  { device, calls := logged.calls ++ [call] }

open GraphicsDevice in
/-- The call of a draw that a device makes now. -/
def drawCall (device : Device) : FrameCall :=
  .draw (displaySize device) (backingSize device) (draw device).1

open GraphicsDevice in
instance : GraphicsDevice (Logged Device) where
  compileStage logged stage source :=
    answer logged.calls (compileStage logged.device stage source)
  releaseStage logged stage := { logged with device := releaseStage logged.device stage }
  linkProgram logged vertex fragment :=
    answer logged.calls (linkProgram logged.device vertex fragment)
  releaseProgram logged program := { logged with device := releaseProgram logged.device program }
  attributeLocation? logged := attributeLocation? logged.device
  uniformLocation? logged := uniformLocation? logged.device
  createQuad logged program position :=
    answer logged.calls (createQuad logged.device program position)
  releaseGeometry logged geometry :=
    { logged with device := releaseGeometry logged.device geometry }
  displaySize logged := displaySize logged.device
  backingSize logged := backingSize logged.device
  resizeBacking logged size := logged.note (resizeBacking logged.device size) (.resize size)
  useProgram logged program := logged.note (useProgram logged.device program) (.use program)
  bindQuad logged geometry := logged.note (bindQuad logged.device geometry) (.bind geometry)
  setFloat logged location value :=
    logged.note (setFloat logged.device location value) (.writeFloat location value)
  setPair logged location first second :=
    logged.note (setPair logged.device location first second) (.writePair location first second)
  draw logged := answer (logged.calls ++ [drawCall logged.device]) (draw logged.device)

instance [ScriptedDevice Script Device] : ScriptedDevice Script (Logged Device) where
  follow logged script := { logged with device := ScriptedDevice.follow logged.device script }

theorem isView_device : IsView (device : Logged Device → Device) where
  compileStage _ _ _ := rfl
  releaseStage _ _ := rfl
  linkProgram _ _ _ := rfl
  releaseProgram _ _ := rfl
  attributeLocation? _ _ _ := rfl
  uniformLocation? _ _ _ := rfl
  createQuad _ _ _ := rfl
  releaseGeometry _ _ := rfl
  displaySize _ := rfl
  backingSize _ := rfl
  resizeBacking _ _ := rfl
  useProgram _ _ := rfl
  bindQuad _ _ := rfl
  setFloat _ _ _ := rfl
  setPair _ _ _ _ := rfl
  draw _ := rfl

/-- Making and releasing objects is not noted. -/
theorem isBuildStable_calls :
    IsBuildStable fun before after : Logged Device => after.calls = before.calls where
  refl _ := rfl
  trans early late := late.trans early
  compileStage _ _ _ := rfl
  releaseStage _ _ := rfl
  linkProgram _ _ _ := rfl
  releaseProgram _ _ := rfl
  createQuad _ _ _ := rfl
  releaseGeometry _ _ := rfl

end Logged

/-! ## One frame -/

/-- The calls that make a session's program and quad current and feed the program. -/
def FrameBindings.feedCalls (bindings : FrameBindings) (size : Size) (seconds : Single) :
    List FrameCall :=
  [.use bindings.program, .bind bindings.geometry] ++
    (bindings.time.map fun location => .writeFloat location seconds).toList ++
    (bindings.resolution.map fun location =>
      .writePair location (.ofNat size.width) (.ofNat size.height)).toList

/-- The call behind a draw that has lost its surface. -/
def recoverCalls (size : Size) : Except DrawError Unit → List FrameCall
  | .error .surfaceLost => [.resize size]
  | _ => []

section

open GraphicsDevice FrameLoop

variable {Device : Type} [GraphicsDevice Device]

/-- The call that brings the drawing buffer to the size it is shown at. -/
def checkCalls (device : Device) : List FrameCall :=
  if displaySize device = backingSize device then [] else [.resize (displaySize device)]

/-- All calls of a frame. -/
def frameCalls (device : Device) (bindings : FrameBindings) (seconds : Single) :
    List FrameCall :=
  let size := backingSize (matchDisplay device)
  let ready := feed (matchDisplay device) bindings seconds
  checkCalls device ++ bindings.feedCalls size seconds ++ [Logged.drawCall ready] ++
    recoverCalls size (draw ready).1

variable (device : Device) (calls : List FrameCall) (bindings : FrameBindings) (seconds : Single)

theorem matchDisplay_logged : matchDisplay ({ device, calls } : Logged Device) =
    { device := matchDisplay device, calls := calls ++ checkCalls device } := by
  by_cases same : displaySize device = backingSize device
  · have shown : displaySize ({ device, calls } : Logged Device) =
        backingSize ({ device, calls } : Logged Device) := same
    rw [matchDisplay, if_pos shown, matchDisplay, if_pos same, checkCalls, if_pos same,
      List.append_nil]
  · have shown : displaySize ({ device, calls } : Logged Device) ≠
        backingSize ({ device, calls } : Logged Device) := same
    rw [matchDisplay, if_neg shown, matchDisplay, if_neg same, checkCalls, if_neg same]
    rfl

theorem feed_logged : feed ({ device, calls } : Logged Device) bindings seconds =
    { device := feed device bindings seconds
      calls := calls ++ bindings.feedCalls (backingSize device) seconds } := by
  unfold feed FrameBindings.feedCalls
  cases bindings.time <;> cases bindings.resolution <;>
    simp [useProgram, bindQuad, setFloat, setPair, backingSize, Logged.note]

theorem drawFrame_logged :
    drawFrame ({ device, calls } : Logged Device) bindings seconds =
      Logged.answer (calls ++ frameCalls device bindings seconds)
        (drawFrame device bindings seconds) := by
  rcases drawn : draw (feed (matchDisplay device) bindings seconds) with ⟨result, after⟩
  have size : backingSize ({ device := matchDisplay device, calls := calls ++ checkCalls device } :
    Logged Device) = backingSize (matchDisplay device) := rfl
  simp only [drawFrame, matchDisplay_logged, feed_logged, size, frameCalls, drawn]
  simp only [draw, Logged.answer, drawn, ← List.append_assoc]
  cases result with
  | ok _ => simp [recoverCalls]
  | error error =>
      cases error with
      | surfaceLost => rfl
      | surfaceTimeout | fatal => simp [recoverCalls]

variable {Clock Source : Type} [FrameClock Clock] [TimeSource Source]
variable {loop : FrameLoop Clock Source} {handle : FrameHandle}

/-- A callback that the loop does not wait for makes no call. -/
theorem onFrame_logged_of_not_awaited (stale : ¬loop.Awaits handle) :
    loop.onFrame ({ device, calls } : Logged Device) handle =
      (.ok .ignored, loop, { device, calls }) :=
  onFrame_of_not_awaited _ stale

/-- The callback that the loop waits for makes the calls of one frame. -/
theorem onFrame_logged {session : RenderSession} (running : loop.session = some session)
    (pending : session.pending = some handle) :
    loop.onFrame ({ device, calls } : Logged Device) handle =
      ((loop.onFrame device handle).1, (loop.onFrame device handle).2.1,
        { device := (loop.onFrame device handle).2.2
          calls := calls ++
            frameCalls device session.bindings (TimeSource.sample loop.time).1 }) := by
  have logged := drawFrame_logged device calls session.bindings (TimeSource.sample loop.time).1
  rcases drawn : drawFrame device session.bindings (TimeSource.sample loop.time).1 with
    ⟨result, after⟩
  rw [drawn] at logged
  cases result with
  | ok outcome =>
      rw [onFrame_of_ok running pending logged, onFrame_of_ok running pending drawn]
  | error error =>
      rw [onFrame_of_error running pending logged, onFrame_of_error running pending drawn]

end

/-! ## Controllers of logged devices -/

namespace Controller

variable {Script Device Clock Source : Type}

/-- The same controller, with its device logged from now on. -/
def logged (controller : Controller Device Clock Source) :
    Controller (Logged Device) Clock Source :=
  { device := { device := controller.device, calls := [] }
    loop := controller.loop
    live := controller.live
    state := controller.state
    failure := controller.failure
    runningSource := controller.runningSource }

variable [GraphicsDevice Device] [FrameClock Clock] [TimeSource Source]
variable [ScriptedDevice Script Device] (controller : Controller Device Clock Source)

/-- A controller cannot tell that its device is logged. -/
theorem perform_logged (operation : ControllerOperation Script) :
    controller.perform operation =
      answerViewed Logged.device (controller.logged.perform operation) :=
  perform_viewed Logged.isView_device controller.logged (fun _ _ => rfl) operation

theorem run_logged (operations : List (ControllerOperation Script)) :
    controller.results operations = controller.logged.results operations ∧
      controller.after operations = (controller.logged.after operations).viewed Logged.device :=
  run_viewed Logged.isView_device controller.logged (fun _ _ => rfl) operations

/-- An operation that runs the awaited callback makes the calls of one frame. -/
theorem calls_perform_of_draws {operation : ControllerOperation Script} {session : RenderSession}
    (draws : controller.Draws operation session) :
    (controller.logged.perform operation).2.device.calls =
      frameCalls controller.device session.bindings (TimeSource.sample controller.loop.time).1 := by
  have loggedDraws : controller.logged.Draws operation session := draws
  have released := Logged.isBuildStable_calls.perform_of_draws controller.logged loggedDraws
  rw [released]
  exact congrArg (fun answer => answer.2.calls) (drawFrame_logged controller.device []
    session.bindings (TimeSource.sample controller.loop.time).1)

/-- Any other operation makes none of the calls of a frame. -/
theorem calls_perform_of_not_draws {operation : ControllerOperation Script}
    (still : ∀ session, ¬controller.Draws operation session) :
    (controller.logged.perform operation).2.device.calls = [] :=
  Logged.isBuildStable_calls.perform controller.logged (fun _ _ => rfl) still

end Controller

end LiveShader
