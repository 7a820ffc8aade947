import LiveShader.Render.Clock
import LiveShader.Render.Program
import LiveShader.Render.Time

/-! The render loop. Each frame callback draws the quad and requests the next
one, so that a loop runs as long as its session exists and stops when the
session is taken away. -/

namespace LiveShader

/-- Everything a frame draws with, as identifiers owned elsewhere. -/
structure FrameBindings where
  program : ProgramId
  geometry : GeometryId
  position : Option AttributeLocation
  time : Option UniformLocation
  resolution : Option UniformLocation
  deriving DecidableEq, Repr

/-- A running loop: what it draws and which callback it waits for. -/
structure RenderSession where
  bindings : FrameBindings
  pending : Option FrameHandle
  deriving DecidableEq, Repr

/-- What came of a callback. -/
inductive FrameOutcome where
  | drawn
  /-- The surface was not ready; the loop goes on. -/
  | skipped
  /-- The handle was not the awaited one, or no loop runs. -/
  | ignored
  deriving DecidableEq, Repr

def FrameOutcome.label : FrameOutcome → String
  | drawn => "drawn"
  | skipped => "skipped"
  | ignored => "ignored"

structure FrameLoop (Clock Source : Type) where
  clock : Clock
  time : Source
  session : Option RenderSession

namespace FrameLoop

variable {Device Clock Source : Type}

def create (clock : Clock) (time : Source) : FrameLoop Clock Source :=
  { clock, time, session := none }

def isRunning (loop : FrameLoop Clock Source) : Bool :=
  loop.session.isSome

/-- What the running loop draws. -/
def bindings? (loop : FrameLoop Clock Source) : Option FrameBindings :=
  loop.session.map RenderSession.bindings

/-- Ends the loop and withdraws its pending callback. Returns what was drawn, so
that its owner can release it. -/
def stop [FrameClock Clock] (loop : FrameLoop Clock Source) :
    Option FrameBindings × FrameLoop Clock Source :=
  match loop.session with
  | none => (none, loop)
  | some session =>
      let clock := match session.pending with
        | some handle => FrameClock.cancel loop.clock handle
        | none => loop.clock
      (some session.bindings, { loop with clock, session := none })

/-- Starts a new loop with its time at zero, ending the current one first. -/
def start [FrameClock Clock] [TimeSource Source] (loop : FrameLoop Clock Source)
    (bindings : FrameBindings) : FrameLoop Clock Source :=
  let stopped := loop.stop.2
  let (handle, clock) := FrameClock.request stopped.clock
  { clock
    time := TimeSource.restart stopped.time
    session := some { bindings, pending := some handle } }

/-! ## One frame -/

section

open GraphicsDevice

variable [GraphicsDevice Device]

/-- Brings the drawing buffer to the size it is shown at. -/
def matchDisplay (device : Device) : Device :=
  if displaySize device = backingSize device then device
  else resizeBacking device (displaySize device)

/-- Makes a session's program and quad the current ones and feeds the program
the time and the size of the drawing buffer, as far as it uses them. -/
def feed (device : Device) (bindings : FrameBindings) (seconds : Single) : Device :=
  let size := backingSize device
  let device := bindQuad (useProgram device bindings.program) bindings.geometry
  let device := match bindings.time with
    | some location => setFloat device location seconds
    | none => device
  match bindings.resolution with
  | some location =>
      setPair device location (.ofNat size.width) (.ofNat size.height)
  | none => device

/-- Draws one frame of a session at a time. A lost surface is configured again
at the same size. -/
def drawFrame (device : Device) (bindings : FrameBindings) (seconds : Single) :
    Except ResourceError FrameOutcome × Device :=
  let device := matchDisplay device
  let size := backingSize device
  match draw (feed device bindings seconds) with
  | (.ok (), device) => (.ok .drawn, device)
  | (.error .surfaceLost, device) => (.ok .skipped, resizeBacking device size)
  | (.error .surfaceTimeout, device) => (.ok .skipped, device)
  | (.error (.fatal error), device) => (.error error, device)

/-- Runs the callback named by `handle`. A fatal draw error ends the session;
what it drew still belongs to the caller. -/
def onFrame [FrameClock Clock] [TimeSource Source] (loop : FrameLoop Clock Source)
    (device : Device) (handle : FrameHandle) :
    Except ResourceError FrameOutcome × FrameLoop Clock Source × Device :=
  match loop.session with
  | none => (.ok .ignored, loop, device)
  | some session =>
      if session.pending = some handle then
        let (seconds, time) := TimeSource.sample loop.time
        match drawFrame device session.bindings seconds with
        | (.error error, device) => (.error error, { loop with time, session := none }, device)
        | (.ok outcome, device) =>
            let (next, clock) := FrameClock.request loop.clock
            (.ok outcome, { clock, time, session := some { session with pending := some next } },
              device)
      else
        (.ok .ignored, loop, device)

end

end FrameLoop

end LiveShader
