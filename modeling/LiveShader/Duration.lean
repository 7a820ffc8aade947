/-! Spans of time. -/

namespace LiveShader

/-- Seconds and the nanoseconds beyond them, fewer than a second. -/
structure Duration where
  seconds : Nat
  nanoseconds : Nat
  deriving DecidableEq, Repr

def Duration.ofSeconds (seconds : Nat) : Duration :=
  { seconds, nanoseconds := 0 }

end LiveShader
