/-! Single-precision numbers as they are stored. -/

namespace LiveShader

/-- A single-precision number by its bits. Those of a value that is not a number are
kept as they are. -/
structure Single where
  bits : UInt32
  deriving DecidableEq, Repr

namespace Single

def ofFloat (value : Float32) : Single :=
  ⟨value.toBits⟩

def toFloat (value : Single) : Float32 :=
  .ofBits value.bits

/-- A natural number below `2 ^ 64`, rounded to nearest. -/
def ofNat (value : Nat) : Single :=
  .ofFloat (UInt64.ofNat value).toFloat32

def isNaN (value : Single) : Bool :=
  0x7f800000 < (value.bits &&& 0x7fffffff)

/-- The four bytes of a number, lowest first. -/
def bytes (value : Single) : List UInt8 :=
  [value.bits.toUInt8, (value.bits >>> 8).toUInt8, (value.bits >>> 16).toUInt8,
    (value.bits >>> 24).toUInt8]

end Single

end LiveShader
