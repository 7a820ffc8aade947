/-! Stretches of bytes. -/

namespace LiveShader

/-- Writes bytes over a stretch of others, or nothing when they do not all fit
in. -/
def overlay? (bytes : List UInt8) (offset : Nat) (written : List UInt8) :
    Option (List UInt8) :=
  if offset + written.length ≤ bytes.length then
    some (bytes.take offset ++ written ++ bytes.drop (offset + written.length))
  else
    none

end LiveShader
