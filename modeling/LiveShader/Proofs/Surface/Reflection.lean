import LiveShader.Proofs.Data.Lookup
import LiveShader.Surface.Interface

/-! # What a compiled stage shows

The interface of a compiled stage is read off its variables one by one. It names every
uniform of set 0 with its place, and it knows the size of every block. -/

namespace LiveShader

/-! ## What stands in a compiled stage -/

namespace GlobalVariable

/-- The binding of a uniform of set 0. -/
def block? (global : GlobalVariable) : Option Nat :=
  match global.space, global.binding with
  | .uniform, some place => if place.set = 0 then some place.binding else none
  | _, _ => none

/-- The uniforms that a variable at a binding stands for, with their places. -/
def uniformsAt (global : GlobalVariable) (binding : Nat) : List (String × UniformLocation) :=
  match global.type with
  | .struct members _ =>
      members.filterMap fun member =>
        member.name.map fun name => (name, { binding, offset := member.offset })
  | _ => (global.name.map fun name => (name, { binding, offset := 0 })).toList

/-- Whether the device can bind a variable, if it has to be bound at all. -/
structure IsBindable (global : GlobalVariable) : Prop where
  set : global.space = .uniform → ∀ place, global.binding = some place → place.set = 0
  kind : global.space ∉ [.handle, .pushConstant, .storage]

end GlobalVariable

namespace ShaderModule

/-- The uniforms of set 0 in the order of the stage. A name may come more than once. -/
def uniforms (compiled : ShaderModule) : List (String × UniformLocation) :=
  compiled.globals.flatMap fun global => global.block?.toList.flatMap global.uniformsAt

/-- The binding and the size of each variable of set 0. A binding may come more than once. -/
def blocks (compiled : ShaderModule) : BlockSizes :=
  compiled.globals.filterMap fun global =>
    global.block?.map fun binding => (binding, global.type.size)

def attributes (compiled : ShaderModule) : List (String × Nat) :=
  (compiled.entryPoints.flatMap EntryPoint.arguments).filterMap fun argument =>
    argument.name.bind fun name => argument.location.map fun location => (name, location)

def IsBindable (compiled : ShaderModule) : Prop :=
  ∀ global ∈ compiled.globals, global.IsBindable

end ShaderModule

/-! ## Sizes of blocks -/

namespace BlockSizes

/-- The largest size at a binding. -/
def largest? (sizes : BlockSizes) (binding : Nat) : Option Nat :=
  ((sizes.filter fun block => block.1 = binding).map Prod.snd).max?

/-- Whether the bindings ascend, so that each has one size. -/
def IsAscending (blocks : BlockSizes) : Prop :=
  blocks.Pairwise fun first second => first.1 < second.1

theorem max?_append (first second : List Nat) :
    (first ++ second).max? = Option.merge max first.max? second.max? := by
  induction first with
  | nil => simp
  | cons head rest induction =>
      rw [List.cons_append, List.max?_cons, List.max?_cons, induction]
      cases rest.max? <;> cases second.max? <;> simp [Nat.max_assoc]

theorem largest?_append (first second : BlockSizes) (binding : Nat) :
    largest? (first ++ second) binding =
      Option.merge max (first.largest? binding) (second.largest? binding) := by
  rw [largest?, List.filter_append, List.map_append, max?_append]
  rfl

theorem isSome_largest?_iff {sizes : BlockSizes} {binding : Nat} :
    (sizes.largest? binding).isSome ↔ binding ∈ sizes.map Prod.fst := by
  simp [largest?, List.isSome_max?_iff]

variable {blocks : BlockSizes}

theorem IsAscending.isMap (ascending : blocks.IsAscending) : Table.IsMap blocks :=
  (ascending.map Prod.fst fun _ _ less => less).imp Nat.ne_of_lt

/-- Where each binding has one size, that is the largest. -/
theorem largest?_of_isMap (map : Table.IsMap blocks) (binding : Nat) :
    blocks.largest? binding = Table.find? blocks binding := by
  induction blocks with
  | nil => rfl
  | cons block rest induction =>
      rcases List.nodup_cons.mp map with ⟨fresh, later⟩
      rw [← List.singleton_append, largest?_append, induction later, List.singleton_append,
        Table.find?_cons]
      split
      case isTrue same =>
        have absent : Table.find? rest binding = none := by
          rw [← Option.not_isSome_iff_eq_none, Table.isSome_find?_iff, ← same]
          exact fresh
        simp [largest?, same, absent]
      case isFalse different => simp [largest?, different]

theorem mem_map_fst_enlarge {binding size key : Nat}
    (member : key ∈ (enlarge blocks binding size).map Prod.fst) :
    key = binding ∨ key ∈ blocks.map Prod.fst := by
  induction blocks with
  | nil => exact .inl (List.mem_singleton.mp member)
  | cons block rest induction =>
      rw [enlarge] at member
      split at member
      case isTrue => exact .inr member
      case isFalse =>
        split at member
        case isTrue => exact List.mem_cons.mp member
        case isFalse =>
          rcases List.mem_cons.mp member with rfl | later
          · exact .inr (.head _)
          · exact (induction later).imp_right (.tail _)

theorem IsAscending.enlarge (ascending : blocks.IsAscending) (binding size : Nat) :
    (enlarge blocks binding size).IsAscending := by
  induction blocks with
  | nil => exact List.pairwise_singleton _ _
  | cons block rest induction =>
      rcases List.pairwise_cons.mp ascending with ⟨least, later⟩
      rw [BlockSizes.enlarge]
      split
      case isTrue => exact List.pairwise_cons.mpr ⟨least, later⟩
      case isFalse different =>
        split
        case isTrue less =>
          refine List.pairwise_cons.mpr ⟨fun other member => ?_, ascending⟩
          rcases List.mem_cons.mp member with rfl | among
          · exact less
          · exact Nat.lt_trans less (least other among)
        case isFalse greater =>
          refine List.pairwise_cons.mpr ⟨fun other member => ?_, induction later⟩
          rcases mem_map_fst_enlarge (List.mem_map_of_mem member) with same | among
          · rw [same]
            omega
          · rcases List.mem_map.mp among with ⟨known, inside, same⟩
            exact same ▸ least known inside

theorem find?_enlarge (ascending : blocks.IsAscending) (binding size key : Nat) :
    Table.find? (enlarge blocks binding size) key =
      if binding = key then Option.merge max (Table.find? blocks key) (some size)
      else Table.find? blocks key := by
  induction blocks with
  | nil => simp [enlarge, Table.find?_cons]
  | cons block rest induction =>
      rcases List.pairwise_cons.mp ascending with ⟨least, later⟩
      rw [enlarge]
      split
      case isTrue same =>
        rw [Table.find?_cons, Table.find?_cons, same]
        by_cases found : block.1 = key <;> simp [found]
      case isFalse different =>
        split
        case isTrue less =>
          -- No later block has the new binding either.
          have absent : Table.find? (block :: rest) binding = none := by
            rw [← Option.not_isSome_iff_eq_none, Table.isSome_find?_iff]
            intro member
            rcases List.mem_map.mp member with ⟨known, inside, same⟩
            rcases List.mem_cons.mp inside with rfl | among
            · exact different same.symm
            · have above := least known among
              omega
          rw [Table.find?_cons]
          split
          case isTrue found => rw [← found, absent]; rfl
          case isFalse => rfl
        case isFalse =>
          rw [Table.find?_cons, induction later, Table.find?_cons]
          by_cases found : block.1 = key
          · rw [if_pos found, if_neg fun equal => different (equal.trans found.symm), if_pos found]
          · rw [if_neg found, if_neg found]

/-- Whether the blocks have the largest of some sizes at each binding. -/
structure Summarise (blocks sizes : BlockSizes) : Prop where
  ascending : blocks.IsAscending
  largest : ∀ binding, Table.find? blocks binding = sizes.largest? binding

theorem Summarise.enlarge {sizes : BlockSizes} (summarise : blocks.Summarise sizes)
    (binding size : Nat) :
    (enlarge blocks binding size).Summarise (sizes ++ [(binding, size)]) where
  ascending := summarise.ascending.enlarge binding size
  largest := by
    intro key
    rw [find?_enlarge summarise.ascending, summarise.largest, largest?_append]
    by_cases same : binding = key <;> simp [same, largest?]

theorem Summarise.union {sizes : BlockSizes} (summarise : blocks.Summarise sizes)
    (others : BlockSizes) : (blocks.union others).Summarise (sizes ++ others) := by
  rw [BlockSizes.union]
  induction others generalizing blocks sizes with
  | nil => rwa [List.append_nil]
  | cons block rest induction =>
      rw [List.append_cons]
      exact induction (summarise.enlarge block.1 block.2)

/-- Summaries of two lists of sizes make one of both. -/
theorem Summarise.union_summarise {sizes others otherSizes : BlockSizes}
    (summarise : blocks.Summarise sizes) (other : others.Summarise otherSizes) :
    (blocks.union others).Summarise (sizes ++ otherSizes) where
  ascending := (summarise.union others).ascending
  largest := by
    intro binding
    rw [(summarise.union others).largest, largest?_append, largest?_append,
      largest?_of_isMap other.ascending.isMap, other.largest]

end BlockSizes

/-! ## Reading variables -/

namespace StageInterface

variable {interface : StageInterface}

theorem addUniforms_eq (interface : StageInterface) (binding : Nat) (global : GlobalVariable) :
    interface.addUniforms binding global =
      { interface with uniforms := interface.uniforms.insertAll (global.uniformsAt binding) } := by
  have members (all : List StructMember) (interface : StageInterface) :
      all.foldl (fun interface member =>
          interface.addUniform member.name { binding, offset := member.offset }) interface =
        { interface with uniforms := interface.uniforms.insertAll (all.filterMap fun member =>
            member.name.map fun name => (name, { binding, offset := member.offset })) } := by
    induction all generalizing interface with
    | nil => rfl
    | cons member rest induction =>
        rw [List.foldl_cons, induction]
        cases named : member.name <;> simp [addUniform, named, Table.insertAll]
  unfold addUniforms GlobalVariable.uniformsAt
  cases type : global.type with
  | struct all span => exact members all interface
  | scalar | vector | matrix | array | sampler => cases global.name <;> rfl

/-- A variable is a block of set 0, or nothing to the device, or more than it can bind. -/
inductive Adds (global : GlobalVariable) : Prop where
  | block {binding : Nat} (found : global.block? = some binding) (bindable : global.IsBindable)
      (added : ∀ interface, addGlobal interface global = { interface with
        blocks := interface.blocks.enlarge binding global.type.size
        uniforms := interface.uniforms.insertAll (global.uniformsAt binding) })
  | nothing (none : global.block? = none) (bindable : global.IsBindable)
      (added : ∀ interface, addGlobal interface global = interface)
  | rejected (none : global.block? = none) (unbindable : ¬global.IsBindable)
      (added : ∃ reason, ∀ interface, addGlobal interface global = interface.reject reason)

theorem adds (global : GlobalVariable) : Adds global := by
  cases space : global.space with
  | uniform =>
      cases bound : global.binding with
      | none =>
          refine .nothing ?_ ⟨?_, ?_⟩ ?_ <;>
            simp [GlobalVariable.block?, addGlobal, space, bound]
      | some place =>
          by_cases first : place.set = 0
          · refine @Adds.block global place.binding ?_ ⟨?_, ?_⟩ ?_ <;>
              simp [GlobalVariable.block?, addGlobal, space, bound, first, addUniforms_eq]
          · have rejected : ∃ reason, ∀ interface,
                addGlobal interface global = interface.reject reason :=
              ⟨_, fun interface => by simp only [addGlobal, space, bound, if_neg first]; rfl⟩
            refine .rejected ?_ (fun bindable => first (bindable.set space place bound)) rejected
            simp [GlobalVariable.block?, space, bound, first]
  | handle | pushConstant | storage =>
      have rejected : ∃ reason, ∀ interface,
          addGlobal interface global = interface.reject reason :=
        ⟨_, fun interface => by simp only [addGlobal, space]; rfl⟩
      refine .rejected ?_ (fun bindable => bindable.kind (by simp [space])) rejected
      simp [GlobalVariable.block?, space]
  | workgroup | invocation =>
      refine .nothing ?_ ⟨?_, ?_⟩ ?_ <;> simp [GlobalVariable.block?, addGlobal, space]

/-- What an interface shows of some variables and arguments that were read one by one. -/
structure Shows (interface : StageInterface) (compiled : ShaderModule) : Prop where
  attributes : interface.attributes = Table.insertAll [] compiled.attributes
  uniforms : interface.uniforms = Table.insertAll [] compiled.uniforms
  blocks : interface.blocks.Summarise compiled.blocks
  unsupported : interface.unsupported = [] ↔ compiled.IsBindable

theorem foldl_addArgument (arguments : List EntryArgument) (interface : StageInterface) :
    arguments.foldl addArgument interface =
      { interface with
        attributes := interface.attributes.insertAll (arguments.filterMap fun argument =>
          argument.name.bind fun name =>
            argument.location.map fun location => (name, location)) } := by
  induction arguments generalizing interface with
  | nil => rfl
  | cons argument rest induction =>
      rw [List.foldl_cons, induction]
      cases name : argument.name <;> cases location : argument.location <;>
        simp [addArgument, name, location, Table.insertAll]

/-- One more variable is read. -/
theorem Shows.addGlobal {compiled : ShaderModule} (shows : interface.Shows compiled)
    (global : GlobalVariable) :
    (addGlobal interface global).Shows
      { compiled with globals := compiled.globals ++ [global] } := by
  have bindable : ({ compiled with globals := compiled.globals ++ [global] } :
      ShaderModule).IsBindable ↔ compiled.IsBindable ∧ global.IsBindable := by
    simp [ShaderModule.IsBindable, or_imp, forall_and]
  cases adds global with
  | @block binding found binds added =>
      rw [added]
      exact
        { attributes := shows.attributes
          uniforms := by
            simp [ShaderModule.uniforms, found, Table.insertAll_append, shows.uniforms]
          blocks := by
            simpa [ShaderModule.blocks, found] using
              shows.blocks.enlarge binding global.type.size
          unsupported := by rw [bindable, shows.unsupported, and_iff_left binds] }
  | nothing none binds added =>
      rw [added]
      exact
        { attributes := shows.attributes
          uniforms := by simp [ShaderModule.uniforms, none, shows.uniforms]
          blocks := by simpa [ShaderModule.blocks, none] using shows.blocks
          unsupported := by rw [bindable, shows.unsupported, and_iff_left binds] }
  | rejected none unbindable added =>
      rcases added with ⟨reason, added⟩
      rw [added]
      exact
        { attributes := shows.attributes
          uniforms := by simp [ShaderModule.uniforms, none, shows.uniforms, reject]
          blocks := by simpa [ShaderModule.blocks, none, reject] using shows.blocks
          unsupported := by
            rw [bindable, iff_false_right fun both => unbindable both.2]
            simp [reject] }

theorem shows_ofModule (compiled : ShaderModule) : (ofModule compiled).Shows compiled := by
  let read : ShaderModule := { compiled with globals := [] }
  have start : ((compiled.entryPoints.flatMap EntryPoint.arguments).foldl addArgument
      empty).Shows read := by
    rw [foldl_addArgument]
    exact
      { attributes := rfl
        uniforms := rfl
        blocks := ⟨.nil, fun _ => rfl⟩
        unsupported := by simp [empty, read, ShaderModule.IsBindable] }
  have later (globals : List GlobalVariable) (read : ShaderModule) (interface : StageInterface)
      (shows : interface.Shows read) :
      (globals.foldl StageInterface.addGlobal interface).Shows
        { read with globals := read.globals ++ globals } := by
    induction globals generalizing read interface with
    | nil => simpa using shows
    | cons global rest induction => simpa using induction _ _ (shows.addGlobal global)
  exact later compiled.globals read _ start

end StageInterface

end LiveShader
