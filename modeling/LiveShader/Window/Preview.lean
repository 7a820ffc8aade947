import LiveShader.Render.Controller
import LiveShader.Surface.Device
import LiveShader.Window.RedrawClock

/-! The preview window: an event loop around a controller that draws to the
window's surface.

Commands and window events are handled one at a time. What the controller made of
them comes back as render events, in order. -/

namespace LiveShader

/-- What the window is told to do. -/
inductive WindowCommand where
  | execute (generation : Nat) (source : String)
  | stop
  | shutdown
  deriving DecidableEq, Repr

/-- What happens to the window. -/
inductive WindowEvent where
  | resized (size : Size)
  | redrawRequested
  | closeRequested
  | destroyed
  /-- Everything the program takes no notice of, such as the focus or the events
  of another window. -/
  | other
  deriving DecidableEq, Repr

/-- What the window reports. The outcome of a build names the generation the
source was submitted with. -/
inductive RenderEvent where
  | running (generation : Nat) (source : String)
  | buildFailed (generation : Nat) (failure : BuildFailure)
  | stopped
  | loopFailed (reason : String)
  | closed
  deriving DecidableEq, Repr

inductive WindowError where
  | eventLoop (reason : String)
  | window (reason : String)
  | renderer (error : SurfaceStartError)
  /-- The event loop ended with an error. -/
  | loop (reason : String)
  | closed
  deriving DecidableEq, Repr

def WindowError.message : WindowError → String
  | .eventLoop reason => "failed to create event loop: " ++ reason
  | .window reason => "failed to create preview window: " ++ reason
  | .renderer error =>
      "failed to initialise window renderer: " ++ error.chain.headD ""
  | .loop reason => "window event loop error: " ++ reason
  | .closed => "preview window is closed"

structure WindowConfig where
  title : String
  size : Size
  deriving DecidableEq, Repr

def WindowConfig.standard : WindowConfig :=
  { title := "Zenith", size := { width := 960, height := 540 } }

/-- The window's title while the controller is in a state. -/
def windowTitle (base : String) (state : ExecutionState) : String :=
  base ++ " [" ++ state.label ++ "]"

abbrev WindowController := Controller SurfaceDevice RedrawClock Stopwatch

structure PreviewWindow where
  controller : WindowController
  baseTitle : String
  /-- Whether the event loop runs. -/
  isOpen : Bool
  /-- What was reported and not yet taken, oldest first. -/
  events : List RenderEvent
  /-- The error the event loop has ended with. -/
  loopError : Option String

namespace PreviewWindow

def host (preview : PreviewWindow) : Host :=
  preview.controller.device.host

def withHost (preview : PreviewWindow) (host : Host) : PreviewWindow :=
  { preview with controller :=
    { preview.controller with device := { preview.controller.device with host } } }

/-- Opens a window, or tells what failed and what the host has become. -/
def spawn (host : Host) (config : WindowConfig) :
    Except (WindowError × Host) PreviewWindow :=
  let (eventLoop, rest) := host.eventLoop.next
  let host := { host with eventLoop := rest }
  match eventLoop with
  | some reason => .error (.eventLoop reason, host)
  | none =>
      let (window, rest) := host.window.next
      let host := { host with window := rest }
      match window with
      | some reason => .error (.window reason, host)
      | none =>
          let host := host.allocate.2.record
            (.createWindow (windowTitle config.title .idle) config.size)
          match SurfaceDevice.create host config.size with
          | .error (error, host) => .error (.renderer error, host)
          | .ok device => .ok {
              controller := .create device .initial .initial
              baseTitle := config.title
              isOpen := true
              events := []
              loopError := none }

/-! ## The event loop -/

def report (preview : PreviewWindow) (event : RenderEvent) : PreviewWindow :=
  { preview with events := preview.events ++ [event] }

/-- Shows the controller's state in the window's title. -/
def updateTitle (preview : PreviewWindow) : PreviewWindow :=
  preview.withHost <| preview.host.record <|
    .setTitle (windowTitle preview.baseTitle preview.controller.state)

/-- Ends the event loop. -/
def exit (preview : PreviewWindow) : PreviewWindow :=
  let preview := { preview with controller := preview.controller.teardown }
  let (failure, runLoop) := preview.host.runLoop.next
  { preview.withHost { preview.host with runLoop } with isOpen := false, loopError := failure }

def execute (preview : PreviewWindow) (generation : Nat) (source : String) : PreviewWindow :=
  match preview.controller.execute source with
  | (.ok (), controller) =>
      { preview with controller }.report (.running generation source)
  | (.error _, controller) =>
      match controller.failure with
      | some failure => { preview with controller }.report (.buildFailed generation failure)
      | none => { preview with controller }

/-- Handles one command while the loop runs. -/
def handleCommand (preview : PreviewWindow) : WindowCommand → PreviewWindow
  | .execute generation source => (preview.execute generation source).updateTitle
  | .stop =>
      ({ preview with controller := preview.controller.stop }.report .stopped).updateTitle
  | .shutdown =>
      { preview with controller := preview.controller.teardown }.updateTitle.exit

/-- Applies a change to the window's frame clock. -/
def modifyClock (preview : PreviewWindow) (change : RedrawClock → RedrawClock) :
    PreviewWindow :=
  let loop := preview.controller.loop
  { preview with controller :=
    { preview.controller with loop := { loop with clock := change loop.clock } } }

/-- What an event has changed in the window itself by the time it arrives. -/
def arrive (preview : PreviewWindow) : WindowEvent → PreviewWindow
  | .resized size =>
      let device := preview.controller.device.resizeWindow size
      { preview with controller := { preview.controller with device } }
  | .redrawRequested => preview.modifyClock RedrawClock.clearRedraw
  | .closeRequested => preview
  | .destroyed => preview
  | .other => preview

/-- Draws a frame, if one is due. -/
def redraw (preview : PreviewWindow) : PreviewWindow :=
  match preview.controller.onRedraw with
  | (.ok _, controller) => { preview with controller }
  | (.error error, controller) =>
      ({ preview with controller }.report (.loopFailed error.message)).updateTitle

/-- Releases everything and ends the loop. -/
def close (preview : PreviewWindow) : PreviewWindow :=
  ({ preview with controller := preview.controller.teardown }.report .closed).exit

/-- Handles one window event while the loop runs. -/
def handleEvent (preview : PreviewWindow) : WindowEvent → PreviewWindow
  | .resized _ => preview.modifyClock RedrawClock.requestRedraw
  | .redrawRequested => preview.redraw
  | .closeRequested => preview.close
  | .destroyed => preview.close
  | .other => preview

/-! ## From outside -/

/-- Sends a command, which is handled before this returns. -/
def send (preview : PreviewWindow) (command : WindowCommand) :
    Except WindowError Unit × PreviewWindow :=
  if preview.isOpen then (.ok (), preview.handleCommand command)
  else (.error .closed, preview)

/-- Delivers a window event, if the loop runs. -/
def deliver (preview : PreviewWindow) (event : WindowEvent) : Bool × PreviewWindow :=
  let arrived := preview.arrive event
  if arrived.isOpen then (true, arrived.handleEvent event) else (false, arrived)

/-- Takes the events reported so far. -/
def takeEvents (preview : PreviewWindow) : List RenderEvent × PreviewWindow :=
  (preview.events, { preview with events := [] })

/-- Ends the loop, if it still runs, and tells how it has ended. -/
def shutdown (preview : PreviewWindow) : Except WindowError Unit × PreviewWindow :=
  let preview := (preview.send .shutdown).2
  match preview.loopError with
  | some reason => (.error (.loop reason), preview)
  | none => (.ok (), preview)

end PreviewWindow

end LiveShader
