/-! Clocks that hand out frame callbacks, one at a time. -/

namespace LiveShader

/-- Names one requested frame callback. -/
structure FrameHandle where
  number : Nat
  deriving DecidableEq, Repr

/-- A source of frame callbacks, given by the states it can be in. -/
class FrameClock (Clock : Type) where
  /-- Schedules a callback. -/
  request : Clock → FrameHandle × Clock
  /-- Withdraws a pending callback. Nothing happens for any other handle. -/
  cancel : Clock → FrameHandle → Clock
  /-- Takes the callback that is due now. -/
  takeDue : Clock → Option FrameHandle × Clock

/-- A clock driven by hand. A new request replaces the pending one. -/
structure ManualClock where
  lastNumber : Nat
  pending : Option FrameHandle
  requests : Nat
  cancellations : Nat
  deriving DecidableEq, Repr

namespace ManualClock

def initial : ManualClock :=
  { lastNumber := 0, pending := none, requests := 0, cancellations := 0 }

instance : FrameClock ManualClock where
  request clock :=
    let handle : FrameHandle := { number := clock.lastNumber + 1 }
    (handle, { clock with
      lastNumber := handle.number
      pending := some handle
      requests := clock.requests + 1 })
  cancel clock handle :=
    if clock.pending = some handle then
      { clock with pending := none, cancellations := clock.cancellations + 1 }
    else
      clock
  takeDue clock := (clock.pending, { clock with pending := none })

end ManualClock

end LiveShader
