import LiveShader.Shader.Stage

/-! What the shader compiler's front end makes of a stage: its entry points and
global variables. -/

namespace LiveShader

/-- Where a global variable lives. -/
inductive AddressSpace where
  | uniform
  | handle
  | pushConstant
  | storage
  | workgroup
  | invocation
  deriving DecidableEq, Repr

structure StructMember where
  name : Option String
  offset : Nat
  deriving DecidableEq, Repr

/-- A type as far as its layout in a buffer goes. -/
inductive ResourceType where
  | struct (members : List StructMember) (span : Nat)
  | scalar (width : Nat)
  | vector (components width : Nat)
  | matrix (columns rows width : Nat)
  /-- An array whose length is unknown counts zero elements. -/
  | array (count stride : Nat)
  | sampler
  deriving DecidableEq, Repr

/-- The size in bytes. Columns of three rows are as wide as those of four. -/
def ResourceType.size : ResourceType → Nat
  | .struct _ span => span
  | .scalar width => width
  | .vector components width => components * width
  | .matrix columns rows width => columns * (if rows = 2 then 2 else 4) * width
  | .array count stride => max count 1 * stride
  | .sampler => 0

/-- The set and the binding of a resource. -/
structure ResourceBinding where
  set : Nat
  binding : Nat
  deriving DecidableEq, Repr

structure GlobalVariable where
  space : AddressSpace
  name : Option String
  binding : Option ResourceBinding
  type : ResourceType
  deriving DecidableEq, Repr

/-- An argument of an entry point. It has a location unless it is built in or
gathers others. -/
structure EntryArgument where
  name : Option String
  location : Option Nat
  deriving DecidableEq, Repr

structure EntryPoint where
  arguments : List EntryArgument
  deriving DecidableEq, Repr

structure ShaderModule where
  entryPoints : List EntryPoint
  globals : List GlobalVariable
  deriving DecidableEq, Repr

def ShaderModule.empty : ShaderModule :=
  { entryPoints := [], globals := [] }

end LiveShader
