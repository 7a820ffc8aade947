import LiveShader.Render.Clock

/-! The frame clock of a window, driven by its redraw events. -/

namespace LiveShader

/-- A clock that asks its window to be redrawn for each callback. A redraw with
nothing pending, such as after a resize, is not a frame. -/
structure RedrawClock where
  lastNumber : Nat
  pending : Option FrameHandle
  /-- Whether the window was asked to be redrawn and was not yet. -/
  redrawRequested : Bool
  deriving DecidableEq, Repr

namespace RedrawClock

def initial : RedrawClock :=
  { lastNumber := 0, pending := none, redrawRequested := false }

/-- Asks for a redraw that is not a frame. -/
def requestRedraw (clock : RedrawClock) : RedrawClock :=
  { clock with redrawRequested := true }

/-- The redraw is about to happen. -/
def clearRedraw (clock : RedrawClock) : RedrawClock :=
  { clock with redrawRequested := false }

instance : FrameClock RedrawClock where
  request clock :=
    let handle : FrameHandle := { number := clock.lastNumber + 1 }
    (handle, { lastNumber := handle.number, pending := some handle, redrawRequested := true })
  cancel clock handle :=
    if clock.pending = some handle then { clock with pending := none } else clock
  takeDue clock := (clock.pending, { clock with pending := none })

end RedrawClock

end LiveShader
