/-! Extents in physical pixels. -/

namespace LiveShader

structure Size where
  width : Nat
  height : Nat
  deriving DecidableEq, Repr

/-- A size without pixels, as a minimised window has. -/
def Size.isEmpty (size : Size) : Bool :=
  size.width = 0 || size.height = 0

/-- The smallest size with pixels that covers the given one. -/
def Size.atLeastOne (size : Size) : Size :=
  { width := max size.width 1, height := max size.height 1 }

end LiveShader
