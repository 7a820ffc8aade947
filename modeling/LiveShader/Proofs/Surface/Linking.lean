import LiveShader.Proofs.Surface.Reflection

/-! # Linking two compiled stages

Two stages link exactly if the device can bind their variables and they agree about the
uniforms that they share. The program then has the uniforms and the blocks of both. -/

namespace LiveShader

/-! ## Interfaces -/

/-- Whether an interface holds the same as another one, its tables in any order. -/
structure StageInterface.IsReordered (other interface : StageInterface) : Prop where
  attributes : other.attributes.Perm interface.attributes
  uniforms : other.uniforms.Perm interface.uniforms
  blocks : other.blocks = interface.blocks
  unsupported : other.unsupported = interface.unsupported

theorem StageInterface.IsReordered.symm {other interface : StageInterface}
    (reordered : other.IsReordered interface) : interface.IsReordered other :=
  ⟨reordered.attributes.symm, reordered.uniforms.symm, reordered.blocks.symm,
    reordered.unsupported.symm⟩

namespace ProgramInterface

structure IsReordered (other program : ProgramInterface) : Prop where
  attributes : other.attributes.Perm program.attributes
  uniforms : other.uniforms.Perm program.uniforms
  blocks : other.blocks = program.blocks

theorem IsReordered.symm {other program : ProgramInterface}
    (reordered : other.IsReordered program) : program.IsReordered other :=
  ⟨reordered.attributes.symm, reordered.uniforms.symm, reordered.blocks.symm⟩

/-- Whether tables have one place for each name that they share. -/
def Agree (uniforms others : Table String UniformLocation) : Prop :=
  ∀ name here there, uniforms.find? name = some here → others.find? name = some there →
    here = there

/-! ## Merging uniforms -/

section

variable {uniforms others merged : Table String UniformLocation}

theorem find?_of_mergeUniforms (success : mergeUniforms uniforms others = .ok merged)
    (name : String) : merged.find? name = (uniforms.find? name).or (others.find? name) := by
  induction others generalizing uniforms with
  | nil =>
      cases success
      simp
  | cons entry rest induction =>
      rw [mergeUniforms] at success
      rw [Table.find?_cons]
      split at success
      case h_1 fresh =>
        rw [induction success, Table.find?_insert]
        split
        case isTrue same => simp [← same, fresh]
        case isFalse => rfl
      case h_2 present known =>
        split at success
        case isTrue agreed =>
          rw [induction success]
          split
          case isTrue same => simp [← same, known]
          case isFalse => rfl
        case isFalse => cases success

theorem agree_of_mergeUniforms (success : mergeUniforms uniforms others = .ok merged) :
    Agree uniforms others := by
  induction others generalizing uniforms with
  | nil =>
      intro name here there _ second
      cases second
  | cons entry rest induction =>
      rw [mergeUniforms] at success
      intro name here there first second
      rw [Table.find?_cons] at second
      split at success
      case h_1 fresh =>
        split at second
        case isTrue same =>
          rw [← same, fresh] at first
          cases first
        case isFalse different =>
          refine induction success name here there ?_ second
          rw [Table.find?_insert, if_neg different, first]
      case h_2 present known =>
        split at success
        case isTrue agreed =>
          split at second
          case isTrue same =>
            rw [← same, known] at first
            exact (Option.some.inj first).symm.trans (agreed.trans (Option.some.inj second))
          case isFalse => exact induction success name here there first second
        case isFalse => cases success

theorem exists_mergeUniforms (map : others.IsMap) (agree : Agree uniforms others) :
    ∃ merged, mergeUniforms uniforms others = .ok merged := by
  induction others generalizing uniforms with
  | nil => exact ⟨uniforms, rfl⟩
  | cons entry rest induction =>
      rcases List.nodup_cons.mp map with ⟨fresh, later⟩
      have absent : Table.find? rest entry.1 = none := by
        rw [← Option.not_isSome_iff_eq_none, Table.isSome_find?_iff]
        exact fresh
      have agreeLater : Agree uniforms rest := by
        intro name here there first second
        refine agree name here there first ?_
        rw [Table.find?_cons]
        split
        case isTrue same =>
          rw [← same, absent] at second
          cases second
        case isFalse => exact second
      rw [mergeUniforms]
      cases known : uniforms.find? entry.1 with
      | none =>
          refine induction later fun name here there first second => ?_
          rcases Table.find?_insert_cases first with ⟨same, _⟩ | ⟨_, before⟩
          · rw [← same, absent] at second
            cases second
          · exact agreeLater name here there before second
      | some present =>
          have agreed : present = entry.2 :=
            agree entry.1 present entry.2 known (by rw [Table.find?_cons, if_pos rfl])
          simp only [agreed, if_true]
          exact induction later agreeLater

theorem isMap_of_mergeUniforms (map : uniforms.IsMap)
    (success : mergeUniforms uniforms others = .ok merged) : merged.IsMap := by
  induction others generalizing uniforms with
  | nil =>
      cases success
      exact map
  | cons entry rest induction =>
      rw [mergeUniforms] at success
      split at success
      case h_1 => exact induction (map.insert entry.1 entry.2) success
      case h_2 =>
        split at success
        case isTrue => exact induction map success
        case isFalse => cases success

end

/-! ## Linking interfaces -/

variable {vertex fragment : StageInterface} {program : ProgramInterface}

/-- What comes of a successful link. -/
structure IsMerged (program : ProgramInterface) (vertex fragment : StageInterface) : Prop where
  vertexSupported : vertex.unsupported = []
  fragmentSupported : fragment.unsupported = []
  agree : Agree vertex.uniforms fragment.uniforms
  attributes : program.attributes = vertex.attributes
  blocks : program.blocks = vertex.blocks.union fragment.blocks
  uniforms : ∀ name, program.uniforms.find? name =
    (vertex.uniforms.find? name).or (fragment.uniforms.find? name)
  isMap : vertex.uniforms.IsMap → program.uniforms.IsMap

theorem isMerged_of_link (success : link vertex fragment = .ok program) :
    program.IsMerged vertex fragment := by
  unfold link at success
  simp only at success
  split at success
  case isTrue supported =>
    rw [List.isEmpty_iff, List.append_eq_nil_iff] at supported
    cases merges : mergeUniforms vertex.uniforms fragment.uniforms with
    | error diagnostic =>
        rw [merges] at success
        cases success
    | ok uniforms =>
        rw [merges] at success
        cases success
        exact
          { vertexSupported := supported.1
            fragmentSupported := supported.2
            agree := agree_of_mergeUniforms merges
            attributes := rfl
            blocks := rfl
            uniforms := find?_of_mergeUniforms merges
            isMap := fun map => isMap_of_mergeUniforms map merges }
  case isFalse => cases success

theorem exists_link (map : fragment.uniforms.IsMap) (vertexSupported : vertex.unsupported = [])
    (fragmentSupported : fragment.unsupported = [])
    (agree : Agree vertex.uniforms fragment.uniforms) :
    ∃ program, link vertex fragment = .ok program := by
  rcases exists_mergeUniforms map agree with ⟨uniforms, merges⟩
  simp only [link, vertexSupported, fragmentSupported, merges]
  exact ⟨_, rfl⟩

/-- The order of the tables matters neither to success nor to what comes of it. -/
theorem exists_link_reordered {otherVertex otherFragment : StageInterface}
    (vertexMap : vertex.uniforms.IsMap) (fragmentMap : fragment.uniforms.IsMap)
    (vertexReordered : otherVertex.IsReordered vertex)
    (fragmentReordered : otherFragment.IsReordered fragment)
    (success : link vertex fragment = .ok program) :
    ∃ other, link otherVertex otherFragment = .ok other ∧ other.IsReordered program := by
  have merged := isMerged_of_link success
  have vertexSame := vertexMap.find?_of_perm vertexReordered.uniforms
  have fragmentSame := fragmentMap.find?_of_perm fragmentReordered.uniforms
  have agree : Agree otherVertex.uniforms otherFragment.uniforms := by
    intro name here there first second
    rw [vertexSame] at first
    rw [fragmentSame] at second
    exact merged.agree name here there first second
  rcases exists_link (fragmentMap.of_perm fragmentReordered.uniforms)
    (vertexReordered.unsupported.trans merged.vertexSupported)
    (fragmentReordered.unsupported.trans merged.fragmentSupported) agree with ⟨other, linked⟩
  have otherMerged := isMerged_of_link linked
  have uniforms (name : String) : other.uniforms.find? name = program.uniforms.find? name := by
    rw [otherMerged.uniforms, merged.uniforms, vertexSame, fragmentSame]
  refine ⟨other, linked, ?_, ?_, ?_⟩
  · rw [otherMerged.attributes, merged.attributes]
    exact vertexReordered.attributes
  · exact (merged.isMap vertexMap).perm_of_find?
      (otherMerged.isMap (vertexMap.of_perm vertexReordered.uniforms)) uniforms
  · rw [otherMerged.blocks, merged.blocks, vertexReordered.blocks, fragmentReordered.blocks]

end ProgramInterface

/-! ## Linking compiled stages -/

namespace ShaderModule

/-- The place of a uniform. The last variable or member of a name counts. -/
def uniform? (compiled : ShaderModule) (name : String) : Option UniformLocation :=
  Table.find? compiled.uniforms.reverse name

def attribute? (compiled : ShaderModule) (name : String) : Option Nat :=
  Table.find? compiled.attributes.reverse name

def AgreesWith (first second : ShaderModule) : Prop :=
  ∀ name here there, first.uniform? name = some here → second.uniform? name = some there →
    here = there

def link (vertex fragment : ShaderModule) : Except String ProgramInterface :=
  ProgramInterface.link (.ofModule vertex) (.ofModule fragment)

/-- Whether a program holds what two compiled stages show. -/
structure IsUnion (vertex fragment : ShaderModule) (program : ProgramInterface) : Prop where
  uniforms : ∀ name,
    program.uniforms.find? name = (vertex.uniform? name).or (fragment.uniform? name)
  attributes : ∀ name, program.attributes.find? name = vertex.attribute? name
  /-- Each block is as large as the largest variable of either stage at its binding. -/
  blocks : ∀ binding, Table.find? program.blocks binding =
    BlockSizes.largest? (vertex.blocks ++ fragment.blocks) binding
  ascending : program.blocks.IsAscending
  /-- No uniform is without its block. -/
  bound : ∀ name location, program.uniforms.find? name = some location →
    (Table.find? program.blocks location.binding).isSome

/-- What linking two compiled stages comes to. -/
structure IsLinked (vertex fragment : ShaderModule) : Prop where
  succeeds : (∃ program, vertex.link fragment = .ok program) ↔
    vertex.IsBindable ∧ fragment.IsBindable ∧ vertex.AgreesWith fragment
  union : ∀ program, vertex.link fragment = .ok program → IsUnion vertex fragment program
  /-- Tables in any order are linked to the same program, its tables in some order. -/
  reordered : ∀ first second : StageInterface,
    first.IsReordered (.ofModule vertex) → second.IsReordered (.ofModule fragment) →
      (∀ program, vertex.link fragment = .ok program →
        ∃ other, ProgramInterface.link first second = .ok other ∧ other.IsReordered program) ∧
      ∀ other, ProgramInterface.link first second = .ok other →
        ∃ program, vertex.link fragment = .ok program ∧ other.IsReordered program
  symmetric : (∃ program, vertex.link fragment = .ok program) ↔
    ∃ program, fragment.link vertex = .ok program

variable {vertex fragment : ShaderModule}

theorem find?_uniforms_ofModule (compiled : ShaderModule) (name : String) :
    (StageInterface.ofModule compiled).uniforms.find? name = compiled.uniform? name := by
  rw [(StageInterface.shows_ofModule compiled).uniforms, Table.find?_insertAll,
    Table.find?_nil, Option.or_none]
  rfl

theorem find?_attributes_ofModule (compiled : ShaderModule) (name : String) :
    (StageInterface.ofModule compiled).attributes.find? name = compiled.attribute? name := by
  rw [(StageInterface.shows_ofModule compiled).attributes, Table.find?_insertAll,
    Table.find?_nil, Option.or_none]
  rfl

theorem isMap_uniforms_ofModule (compiled : ShaderModule) :
    (StageInterface.ofModule compiled).uniforms.IsMap := by
  rw [(StageInterface.shows_ofModule compiled).uniforms]
  exact Table.isMap_nil.insertAll _

theorem agree_iff : ProgramInterface.Agree (StageInterface.ofModule vertex).uniforms
    (StageInterface.ofModule fragment).uniforms ↔ vertex.AgreesWith fragment := by
  simp only [ProgramInterface.Agree, AgreesWith, find?_uniforms_ofModule]

theorem exists_link_iff : (∃ program, vertex.link fragment = .ok program) ↔
    vertex.IsBindable ∧ fragment.IsBindable ∧ vertex.AgreesWith fragment := by
  rw [← (StageInterface.shows_ofModule vertex).unsupported,
    ← (StageInterface.shows_ofModule fragment).unsupported, ← agree_iff]
  constructor
  · rintro ⟨program, success⟩
    have merged := ProgramInterface.isMerged_of_link success
    exact ⟨merged.vertexSupported, merged.fragmentSupported, merged.agree⟩
  · rintro ⟨vertexSupported, fragmentSupported, agree⟩
    exact ProgramInterface.exists_link (isMap_uniforms_ofModule fragment) vertexSupported
      fragmentSupported agree

theorem binding_of_mem_uniformsAt {global : GlobalVariable} {binding : Nat} {name : String}
    {location : UniformLocation} (member : (name, location) ∈ global.uniformsAt binding) :
    location.binding = binding := by
  unfold GlobalVariable.uniformsAt at member
  split at member
  case h_1 members span _ =>
    rcases List.mem_filterMap.mp member with ⟨known, _, same⟩
    rcases Option.map_eq_some_iff.mp same with ⟨_, _, same⟩
    cases same
    rfl
  case h_2 =>
    rcases Option.map_eq_some_iff.mp (Option.mem_toList.mp member) with ⟨_, _, same⟩
    cases same
    rfl

/-- A uniform has the binding of the variable that it stands in. -/
theorem binding_mem_blocks {compiled : ShaderModule} {name : String} {location : UniformLocation}
    (found : compiled.uniform? name = some location) :
    location.binding ∈ compiled.blocks.map Prod.fst := by
  have member := List.mem_reverse.mp (Table.mem_of_find? found)
  rcases List.mem_flatMap.mp member with ⟨global, known, inside⟩
  rcases List.mem_flatMap.mp inside with ⟨binding, block, named⟩
  rw [binding_of_mem_uniformsAt named]
  refine List.mem_map.mpr ⟨(binding, global.type.size), ?_, rfl⟩
  refine List.mem_filterMap.mpr ⟨global, known, ?_⟩
  rw [Option.mem_toList.mp block]
  rfl

theorem isUnion_of_link {program : ProgramInterface}
    (success : vertex.link fragment = .ok program) : IsUnion vertex fragment program := by
  have merged := ProgramInterface.isMerged_of_link success
  have uniforms (name : String) : program.uniforms.find? name =
      (vertex.uniform? name).or (fragment.uniform? name) := by
    rw [merged.uniforms, find?_uniforms_ofModule, find?_uniforms_ofModule]
  have blocks : program.blocks.Summarise (vertex.blocks ++ fragment.blocks) := by
    rw [merged.blocks]
    exact (StageInterface.shows_ofModule vertex).blocks.union_summarise
      (StageInterface.shows_ofModule fragment).blocks
  refine ⟨uniforms, fun name => ?_, blocks.largest, blocks.ascending, ?_⟩
  · rw [merged.attributes, find?_attributes_ofModule]
  · intro name location found
    rw [blocks.largest, BlockSizes.isSome_largest?_iff, List.map_append, List.mem_append]
    rw [uniforms] at found
    rcases Option.or_eq_some_iff.mp found with here | ⟨_, there⟩
    · exact .inl (binding_mem_blocks here)
    · exact .inr (binding_mem_blocks there)

/-- Linking is decided by the variables of the stages, and not by the order in which tables
are gone through or in which the stages come. -/
theorem isLinked (vertex fragment : ShaderModule) : IsLinked vertex fragment where
  succeeds := exists_link_iff
  union := fun program success => isUnion_of_link success
  reordered := by
    intro first second firstReordered secondReordered
    have vertexMap := isMap_uniforms_ofModule vertex
    have fragmentMap := isMap_uniforms_ofModule fragment
    refine ⟨fun program success => ProgramInterface.exists_link_reordered vertexMap fragmentMap
      firstReordered secondReordered success, fun other success => ?_⟩
    rcases ProgramInterface.exists_link_reordered
      (vertexMap.of_perm firstReordered.uniforms) (fragmentMap.of_perm secondReordered.uniforms)
      firstReordered.symm secondReordered.symm success with ⟨program, linked, same⟩
    exact ⟨program, linked, same.symm⟩
  symmetric := by
    rw [exists_link_iff, exists_link_iff]
    constructor
    · rintro ⟨first, second, agree⟩
      exact ⟨second, first, fun name here there known other =>
        (agree name there here other known).symm⟩
    · rintro ⟨first, second, agree⟩
      exact ⟨second, first, fun name here there known other =>
        (agree name there here other known).symm⟩

end ShaderModule

end LiveShader
