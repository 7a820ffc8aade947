import LiveShader.Data.Table
import LiveShader.Render.Device
import LiveShader.Surface.Module

/-! The interface of a compiled stage, and linking two of them.

The surface device has no name queries of its own, so the places of attributes
and uniforms are read off the compiled stages. -/

namespace LiveShader

/-- Sizes in bytes by binding, in ascending order of the bindings. -/
abbrev BlockSizes := List (Nat × Nat)

namespace BlockSizes

/-- Makes the block at a binding at least as large as `size`. -/
def enlarge (blocks : BlockSizes) (binding size : Nat) : BlockSizes :=
  match blocks with
  | [] => [(binding, size)]
  | (present, largest) :: rest =>
      if binding = present then (present, max largest size) :: rest
      else if binding < present then (binding, size) :: (present, largest) :: rest
      else (present, largest) :: enlarge rest binding size

/-- The blocks of both, each at its larger size. -/
def union (blocks others : BlockSizes) : BlockSizes :=
  others.foldl (fun union block => union.enlarge block.1 block.2) blocks

end BlockSizes

/-- What a compiled stage shows to the outside. -/
structure StageInterface where
  attributes : Table String Nat
  /-- The uniform blocks of set 0. -/
  blocks : BlockSizes
  uniforms : Table String UniformLocation
  /-- Why the stage cannot be linked on this device. -/
  unsupported : List String
  deriving DecidableEq, Repr

namespace StageInterface

def empty : StageInterface :=
  { attributes := [], blocks := [], uniforms := [], unsupported := [] }

/-- A later argument of a name takes the place of an earlier one. -/
def addArgument (interface : StageInterface) (argument : EntryArgument) : StageInterface :=
  match argument.name, argument.location with
  | some name, some location =>
      { interface with attributes := interface.attributes.insert name location }
  | _, _ => interface

def addUniform (interface : StageInterface) (name : Option String)
    (location : UniformLocation) : StageInterface :=
  match name with
  | some name => { interface with uniforms := interface.uniforms.insert name location }
  | none => interface

/-- The uniforms of a variable in set 0: the members of a struct, or the variable
itself. -/
def addUniforms (interface : StageInterface) (binding : Nat) (global : GlobalVariable) :
    StageInterface :=
  match global.type with
  | .struct members _ =>
      members.foldl
        (fun interface member =>
          interface.addUniform member.name { binding, offset := member.offset })
        interface
  | _ => interface.addUniform global.name { binding, offset := 0 }

def reject (interface : StageInterface) (reason : String) : StageInterface :=
  { interface with unsupported := interface.unsupported ++ [reason] }

/-- What a variable is called in messages. -/
def label (global : GlobalVariable) : String :=
  global.name.getD "<unnamed>"

def addGlobal (interface : StageInterface) (global : GlobalVariable) : StageInterface :=
  match global.space with
  | .uniform =>
      match global.binding with
      | none => interface
      | some binding =>
          if binding.set = 0 then
            let filled := interface.addUniforms binding.binding global
            { filled with
              blocks := interface.blocks.enlarge binding.binding global.type.size }
          else
            interface.reject <|
              "uniform block `" ++ label global ++ "` uses set " ++ toString binding.set ++
                "; only set 0 is supported"
  | .handle =>
      interface.reject <|
        "texture and sampler uniforms are not supported (`" ++ label global ++ "`)"
  | .pushConstant =>
      interface.reject ("`" ++ label global ++ "` uses an unsupported resource kind")
  | .storage =>
      interface.reject ("`" ++ label global ++ "` uses an unsupported resource kind")
  | .workgroup => interface
  | .invocation => interface

/-- The interface of a compiled stage. -/
def ofModule (compiled : ShaderModule) : StageInterface :=
  let arguments := compiled.entryPoints.flatMap EntryPoint.arguments
  compiled.globals.foldl addGlobal (arguments.foldl addArgument empty)

end StageInterface

/-- The interface of a linked program. -/
structure ProgramInterface where
  attributes : Table String Nat
  blocks : BlockSizes
  uniforms : Table String UniformLocation
  deriving DecidableEq, Repr

namespace ProgramInterface

/-- Adds uniforms to a table that may hold some of them already, at the same
places. -/
def mergeUniforms (uniforms : Table String UniformLocation) :
    Table String UniformLocation → Except String (Table String UniformLocation)
  | [] => .ok uniforms
  | (name, location) :: rest =>
      match uniforms.find? name with
      | none => mergeUniforms (uniforms.insert name location) rest
      | some present =>
          if present = location then
            mergeUniforms uniforms rest
          else
            .error ("uniform `" ++ name ++
              "` is declared differently in the vertex and fragment stages")

/-- Links two stages. It fails when a stage uses what the device cannot bind, or
when the stages disagree about a uniform. -/
def link (vertex fragment : StageInterface) : Except String ProgramInterface :=
  let unsupported := vertex.unsupported ++ fragment.unsupported
  if unsupported.isEmpty then
    match mergeUniforms vertex.uniforms fragment.uniforms with
    | .error diagnostic => .error diagnostic
    | .ok uniforms => .ok {
        attributes := vertex.attributes
        blocks := vertex.blocks.union fragment.blocks
        uniforms }
  else
    .error ("\n".intercalate unsupported)

end ProgramInterface

end LiveShader
