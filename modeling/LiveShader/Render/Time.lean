import LiveShader.Data.Single

/-! Where the time shown to a program comes from. -/

namespace LiveShader

/-- A source of elapsed time, given by the states it can be in. A sample is
taken once per frame. -/
class TimeSource (Source : Type) where
  /-- Marks the start of a new program. -/
  restart : Source → Source
  /-- The seconds since the last start. -/
  sample : Source → Single × Source

/-- Time that advances by the same step with each sample. -/
structure SteppedTime where
  step : Single
  /-- How many samples were taken since the last start. -/
  frame : Nat

namespace SteppedTime

def ofStep (step : Single) : SteppedTime :=
  { step, frame := 0 }

/-- The time of a frame: the step times the frame's index, each rounded to
single precision. -/
def secondsAt (step : Single) (frame : Nat) : Single :=
  .ofFloat (step.toFloat * (Single.ofNat frame).toFloat)

/-- The index of the last frame that is told apart from its successor. -/
def lastFrame : Nat := Nat.pow 2 64 - 1

instance : TimeSource SteppedTime where
  restart time := { time with frame := 0 }
  sample time :=
    (secondsAt time.step time.frame, { time with frame := min (time.frame + 1) lastFrame })

end SteppedTime

/-- A stopwatch over a clock that counts nanoseconds. The clock is advanced from
outside; a sample reads it. -/
structure Stopwatch where
  now : Nat
  origin : Nat
  deriving DecidableEq, Repr

namespace Stopwatch

def initial : Stopwatch := { now := 0, origin := 0 }

/-- The stopwatch after some nanoseconds more. -/
def advance (watch : Stopwatch) (nanoseconds : Nat) : Stopwatch :=
  { watch with now := watch.now + nanoseconds }

instance : TimeSource Stopwatch where
  restart watch := { watch with origin := watch.now }
  sample watch :=
    let elapsed := watch.now - watch.origin
    let seconds := (Single.ofNat (elapsed / Nat.pow 10 9)).toFloat
    let rest := (Single.ofNat (elapsed % Nat.pow 10 9)).toFloat
    (.ofFloat (seconds + rest / (Single.ofNat (Nat.pow 10 9)).toFloat), watch)

end Stopwatch

end LiveShader
