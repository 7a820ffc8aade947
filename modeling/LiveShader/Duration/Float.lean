import LiveShader.Data.Binary64
import LiveShader.Duration.Reader

/-! Spans of time from double-precision numbers of seconds. -/

namespace LiveShader

/-- The span nearest to `magnitude * 2 ^ exponent` seconds, if 64 bits hold its
seconds. -/
def Duration.ofFloat? (magnitude : Nat) (exponent : Int) : Option Duration :=
  let (numerator, denominator) := Binary64.quotient magnitude exponent
  if spanBound * denominator ≤ numerator then
    none
  else
    let nanoseconds := Binary64.roundedQuotient (numerator * 1000000000) denominator
    some {
      seconds := nanoseconds / 1000000000
      nanoseconds := nanoseconds % 1000000000 }

end LiveShader
