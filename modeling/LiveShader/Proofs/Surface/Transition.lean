import LiveShader.Proofs.Surface.Operation
import LiveShader.Proofs.Surface.UniformMemory

/-! # What the operations of a surface device do to its programs

Linking adds a program, writing and drawing change one, and nothing else does more than drop
some. -/

namespace LiveShader

namespace SurfaceDevice

variable {device next : SurfaceDevice}

/-! ## At first -/

theorem tables_of_create {host : Host} {windowSize : Size}
    (created : create host windowSize = .ok device) :
    device.stages = [] ∧ device.programs = [] ∧ device.geometries = [] := by
  unfold create at created
  simp only at created
  split at created
  · cases created
  · split at created
    · cases created
    · split at created
      · cases created
      · cases created
      · cases created
        exact ⟨rfl, rfl, rfl⟩

/-! ## Keeping programs -/

/-- Whether a device went on with the programs that it had, or some of them, and without a
change to any object. -/
structure KeepsPrograms (device next : SurfaceDevice) : Prop where
  host : device.host.KeepsObjects next.host
  programs : ∀ program linked, next.programs.find? program = some linked →
    device.programs.find? program = some linked
  counted : device.lastNumber ≤ next.lastNumber

theorem keepsPrograms_of_same (host : next.host = device.host)
    (programs : next.programs = device.programs) (number : next.lastNumber = device.lastNumber) :
    device.KeepsPrograms next :=
  ⟨host ▸ .refl _, fun _ _ found => programs ▸ found, Nat.le_of_eq number.symm⟩

theorem keepsPrograms_host {host : Host} (keeps : device.host.KeepsObjects host) :
    device.KeepsPrograms { device with host } :=
  ⟨keeps, fun _ _ found => found, Nat.le_refl _⟩

theorem keepsPrograms_compileStage (device : SurfaceDevice) (stage : Stage) (source : String) :
    device.KeepsPrograms (device.compileStage stage source).2 := by
  have parsed := Host.keepsObjects_parseStage device.host stage source
  unfold compileStage
  split
  case h_1 diagnostic host refused =>
    rw [refused] at parsed
    exact keepsPrograms_host parsed
  case h_2 compiled host accepted =>
    rw [accepted] at parsed
    have created := (parsed.allocate.record (.createShaderModule host.allocate.1
      (moduleLabel stage) stage source.utf8ByteSize) rfl rfl rfl).endValidation
    simp only
    split
    case h_1 diagnostic after refused =>
      rw [refused] at created
      exact keepsPrograms_host created
    case h_2 after passed =>
      rw [passed] at created
      exact ⟨created, fun _ _ found => found, Nat.le_succ _⟩

theorem keepsPrograms_createQuad (device : SurfaceDevice) (program : ProgramId)
    (position : Option AttributeLocation) :
    device.KeepsPrograms (device.createQuad program position).2 := by
  unfold createQuad
  split
  case h_1 => exact keepsPrograms_host (.refl _)
  case h_2 =>
    have created := ((Host.KeepsObjects.refl device.host).allocate.record_buffer
      (.createFilledBuffer device.host.allocate.1 "zenith quad"
        (quadCorners.flatMap Single.bytes) .vertex) (Nat.lt_succ_self _) rfl).endValidation
    simp only
    split
    case h_1 reason after refused =>
      rw [refused] at created
      exact keepsPrograms_host created
    case h_2 after passed =>
      rw [passed] at created
      exact ⟨created, fun _ _ found => found, Nat.le_succ _⟩

theorem keepsPrograms_releaseProgram (device : SurfaceDevice) (program : ProgramId) :
    device.KeepsPrograms (device.releaseProgram program) := by
  refine ⟨.refl _, fun key linked found => ?_, Nat.le_refl _⟩
  rw [releaseProgram, Table.find?_erase] at found
  split at found
  case isTrue => cases found
  case isFalse => exact found

theorem keepsPrograms_resizeBacking (device : SurfaceDevice) (size : Size) :
    device.KeepsPrograms (device.resizeBacking size) := by
  unfold resizeBacking configure
  split
  case isTrue => exact keepsPrograms_host (.refl _)
  case isFalse =>
    exact ⟨(Host.KeepsObjects.refl _).record _ rfl rfl rfl, fun _ _ found => found, Nat.le_refl _⟩

/-! ## Writing -/

/-- The programs after a write are the one in use, changed, and the others. -/
theorem find?_writeUniform {program key : ProgramId} {location : UniformLocation}
    {bytes : List UInt8} {linked : LinkedProgram} (inUse : device.currentProgram = some program)
    (found : (device.writeUniform location bytes).programs.find? key = some linked) :
    ∃ old, device.programs.find? key = some old ∧
      (program = key ∧ linked = old.write location bytes ∨ program ≠ key ∧ linked = old) := by
  simp only [writeUniform, inUse, Table.find?_modify] at found
  split at found
  case isTrue same =>
    rcases Option.map_eq_some_iff.mp found with ⟨old, foundOld, changed⟩
    exact ⟨old, foundOld, .inl ⟨same, changed.symm⟩⟩
  case isFalse different => exact ⟨linked, found, .inr ⟨different, rfl⟩⟩

theorem writeUniform_host (device : SurfaceDevice) (location : UniformLocation)
    (bytes : List UInt8) : (device.writeUniform location bytes).host = device.host ∧
      (device.writeUniform location bytes).lastNumber = device.lastNumber := by
  unfold writeUniform
  cases device.currentProgram <;> exact ⟨rfl, rfl⟩

/-! ## Drawing -/

/-- What a draw does. -/
inductive DrawOutcome (device : SurfaceDevice) : Except DrawError Unit × SurfaceDevice → Prop
  | failed {error : DrawError} {host : Host} (keeps : device.host.KeepsObjects host) :
      DrawOutcome device (.error error, { device with host })
  | drawn {program : ProgramId} {linked : LinkedProgram} {host : Host}
      (inUse : device.currentProgram = some program)
      (live : device.programs.find? program = some linked)
      (acquired : device.host.KeepsObjects host) :
      DrawOutcome device (.ok (), { device with
        host := drawPass (upload host linked.blocks) linked
          (device.currentGeometry.bind device.geometries.find?)
        programs := device.programs.insert program linked.clean })

theorem drawOutcome (device : SurfaceDevice) : DrawOutcome device device.draw := by
  have keeps := Host.keepsObjects_acquireTexture device.host
  unfold draw
  split
  case h_1 => exact .failed (.refl _)
  case h_2 program inUse =>
    split
    case h_1 => exact .failed (.refl _)
    case h_2 linked live =>
      split
      case h_1 host acquired | h_2 host acquired | h_3 host acquired =>
        rw [acquired] at keeps
        exact .failed keeps
      case h_4 error host _ _ _ acquired =>
        rw [acquired] at keeps
        exact .failed keeps
      case h_5 host acquired =>
        rw [acquired] at keeps
        exact .drawn inUse live keeps

/-! ## Linking -/

theorem createGroupLayout_keeps (host : Host) (blocks : BlockSizes) :
    host.KeepsObjects (createGroupLayout host blocks).2 := by
  unfold createGroupLayout
  split
  case isTrue => exact .refl host
  case isFalse => exact (Host.KeepsObjects.refl host).allocate.record _ rfl rfl rfl

theorem blocks_of_createGroupLayout {host : Host} {blocks : BlockSizes}
    (without : (createGroupLayout host blocks).1 = none) : blocks = [] := by
  unfold createGroupLayout at without
  split at without
  case isTrue empty => exact List.isEmpty_iff.mp empty
  case isFalse => cases without

/-- What creating a pipeline does. -/
inductive PipelineOutcome (host : Host) (interface : ProgramInterface) :
    Except String (ObjectId × Option ObjectId) × Host → Prop
  | refused {diagnostic : String} {after : Host} (keeps : host.KeepsObjects after) :
      PipelineOutcome host interface (.error diagnostic, after)
  | created {pipeline : ObjectId} {groupLayout : Option ObjectId} {after : Host}
      (keeps : host.KeepsObjects after) (bare : groupLayout = none → interface.blocks = []) :
      PipelineOutcome host interface (.ok (pipeline, groupLayout), after)

theorem pipelineOutcome (host : Host) (format : TextureFormat) (vertex fragment : CompiledStage)
    (interface : ProgramInterface) :
    PipelineOutcome host interface (createPipeline host format vertex fragment interface) := by
  have bare := @blocks_of_createGroupLayout host interface.blocks
  have group := createGroupLayout_keeps host interface.blocks
  have layout (object : ObjectId) (groups : List ObjectId) :=
    group.allocate.record (.createPipelineLayout object "zenith pipeline layout" groups) rfl rfl rfl
  have pipeline (object layoutObject : ObjectId) (groups : List ObjectId)
      (descriptor : PipelineDescriptor) :=
    ((layout layoutObject groups).allocate.record
      (.createPipeline object "zenith program" descriptor) rfl rfl rfl).endValidation
  unfold createPipeline
  simp only
  split
  case h_1 diagnostic after refused =>
    have same := congrArg Prod.snd refused
    subst same
    exact .refused (pipeline _ _ _ _)
  case h_2 after passed =>
    have same := congrArg Prod.snd passed
    subst same
    exact .created (pipeline _ _ _ _) bare

/-- Blocks that were made for some sizes: zero, each with a buffer of its own that is yet to
be written. -/
structure AreNew (blocks : Table Nat UniformBuffer) (sizes : BlockSizes)
    (before after : Host) : Prop where
  keeps : before.KeepsObjects after
  staged : blocks.map (fun entry => (entry.1, entry.2.staging)) =
    sizes.map fun block => (block.1, List.replicate (bufferSize block.2) 0)
  numbered : ∀ buffer ∈ blockBuffers blocks,
    before.lastObject < buffer.number ∧ buffer.number ≤ after.lastObject
  distinct : (blockBuffers blocks).Nodup
  memory : ∀ entry ∈ blocks, entry.2.IsBacked after.driver

theorem areNew_createUniformBuffers (host : Host) (sizes : BlockSizes) :
    AreNew (createUniformBuffers host sizes).1 sizes host (createUniformBuffers host sizes).2 := by
  induction sizes generalizing host with
  | nil => exact ⟨.refl host, rfl, by simp [createUniformBuffers, blockBuffers], .nil,
      by simp [createUniformBuffers]⟩
  | cons block rest induction =>
      rcases block with ⟨binding, blockSize⟩
      let size := bufferSize blockSize
      let made := host.allocate.2.record
        (.createBuffer host.allocate.1 "zenith uniform block" size .writtenUniform)
      have first : host.KeepsObjects made :=
        (Host.KeepsObjects.refl host).allocate.record_buffer _ (Nat.lt_succ_self _) rfl
      have others := induction made
      have found : made.driver.buffers.find? host.allocate.1 =
          some (.replicate size none) := by
        rw [Host.driver_record, Driver.process, Table.find?_insert, if_pos rfl]
      refine ⟨first.trans others.keeps, ?_, ?_, ?_, ?_⟩
      · exact congrArg (List.cons _) others.staged
      · intro buffer member
        rcases List.mem_cons.mp member with rfl | later
        · exact ⟨Nat.lt_succ_self _, others.keeps.counted⟩
        · rcases others.numbered buffer later with ⟨above, below⟩
          exact ⟨Nat.lt_trans (Nat.lt_succ_self _) above, below⟩
      · refine List.nodup_cons.mpr ⟨fun member => ?_, others.distinct⟩
        exact Nat.lt_irrefl _ (others.numbered _ member).1
      · intro entry member
        rcases List.mem_cons.mp member with rfl | later
        · refine ⟨.replicate size none, ?_, ?_, fun dirty => by cases dirty⟩
          · rw [← found]
            exact others.keeps.buffers _ (Nat.le_refl _)
          · rw [List.length_replicate, List.length_replicate]
        · exact others.memory entry later

theorem AreNew.widen {blocks : Table Nat UniformBuffer} {sizes : BlockSizes}
    {start before after done : Host} (new : AreNew blocks sizes before after)
    (early : start.KeepsObjects before) (late : after.KeepsObjects done) :
    AreNew blocks sizes start done where
  keeps := (early.trans new.keeps).trans late
  staged := new.staged
  numbered buffer member := by
    rcases new.numbered buffer member with ⟨above, below⟩
    exact ⟨Nat.lt_of_le_of_lt early.counted above, Nat.le_trans below late.counted⟩
  distinct := new.distinct
  memory entry member := by
    rcases new.memory entry member with ⟨memory, found, held⟩
    have known := (new.numbered _ (mem_blockBuffers member)).2
    exact ⟨memory, (late.buffers _ known).trans found, held⟩

/-- New blocks have a bind group that shows them, unless there are none. -/
theorem isBacked_createBindGroup {blocks : Table Nat UniformBuffer} {sizes : BlockSizes}
    {layout : Option ObjectId} {before after : Host} (new : AreNew blocks sizes before after)
    (bare : layout = none → sizes = []) (pipeline : ObjectId) (interface : ProgramInterface) :
    after.KeepsObjects (createBindGroup after layout blocks).2 ∧
      LinkedProgram.IsBacked
        { pipeline, bindGroup := (createBindGroup after layout blocks).1, blocks, interface }
        (createBindGroup after layout blocks).2 := by
  have keeps : after.KeepsObjects (createBindGroup after layout blocks).2 := by
    cases layout with
    | none => exact .refl after
    | some layout =>
        exact (Host.KeepsObjects.refl after).allocate.record_group (Nat.lt_succ_self _)
  have widened := new.widen (.refl before) keeps
  refine ⟨keeps, fun buffer member => (widened.numbered buffer member).2, new.distinct,
    widened.memory, ?_, ?_⟩
  · intro group member
    cases layout with
    | none => cases member
    | some layout =>
        cases member
        exact Nat.le_refl _
  · cases layout with
    | none =>
        have empty := new.staged
        rw [bare rfl] at empty
        rw [List.map_eq_nil_iff.mp empty]
        rfl
    | some layout => simp [createBindGroup, Driver.process, Table.find?_insert]

/-- What linking does. A program that comes of it is new in all its parts. -/
inductive LinkOutcome (device : SurfaceDevice) (vertex fragment : StageId) :
    Except String ProgramId × SurfaceDevice → Prop
  | refused {diagnostic : String} {host : Host} (keeps : device.host.KeepsObjects host) :
      LinkOutcome device vertex fragment (.error diagnostic, { device with host })
  | linked {first second : CompiledStage} {linked : LinkedProgram} {host : Host}
      (vertexStage : device.stages.find? vertex = some first)
      (fragmentStage : device.stages.find? fragment = some second)
      (interface : ProgramInterface.link first.interface second.interface = .ok linked.interface)
      (new : AreNew linked.blocks linked.interface.blocks device.host host)
      (backed : linked.IsBacked host) :
      LinkOutcome device vertex fragment (.ok { number := device.lastNumber + 1 },
        { device with
          host
          lastNumber := device.lastNumber + 1
          programs := device.programs.insert { number := device.lastNumber + 1 } linked })

theorem linkOutcome (device : SurfaceDevice) (vertex fragment : StageId) :
    LinkOutcome device vertex fragment (device.linkProgram vertex fragment) := by
  unfold linkProgram
  split
  case h_2 => exact .refused (.refl _)
  case h_1 first second vertexStage fragmentStage =>
    split
    case isFalse => exact .refused (.refl _)
    case isTrue =>
      split
      case h_1 => exact .refused (.refl _)
      case h_2 interface merged =>
        have pipelines := pipelineOutcome device.host device.format first second interface
        cases created : createPipeline device.host device.format first second interface with
        | mk result host =>
            rw [created] at pipelines
            cases pipelines with
            | refused keeps => exact .refused keeps
            | @created pipeline groupLayout _ keeps bare =>
                have new := areNew_createUniformBuffers host interface.blocks
                rcases isBacked_createBindGroup new bare pipeline interface with ⟨bound, backed⟩
                exact .linked vertexStage fragmentStage merged (new.widen keeps bound) backed

/-! ## All operations -/

/-- The ways in which operations change a device. -/
inductive Change (device : SurfaceDevice) : DeviceOperation → SurfaceDevice → Prop
  | aside {operation : DeviceOperation} {next : SurfaceDevice} (silent : operation.write? = none)
      (idle : operation ≠ .draw) (keeps : device.KeepsPrograms next) : Change device operation next
  | write {operation : DeviceOperation} {location : UniformLocation} {bytes : List UInt8}
      (wrote : operation.write? = some (location, bytes)) :
      Change device operation (device.writeUniform location bytes)
  | link (vertex fragment : StageId) :
      Change device (.linkProgram vertex fragment) (device.linkProgram vertex fragment).2
  | draw : Change device .draw device.draw.2

theorem change (device : SurfaceDevice) (operation : DeviceOperation) :
    Change device operation (device.perform operation) := by
  cases operation with
  | compileStage stage source =>
      exact .aside rfl nofun (keepsPrograms_compileStage device stage source)
  | linkProgram vertex fragment => exact .link vertex fragment
  | releaseProgram program => exact .aside rfl nofun (keepsPrograms_releaseProgram device program)
  | createQuad program position =>
      exact .aside rfl nofun (keepsPrograms_createQuad device program position)
  | resizeBacking size => exact .aside rfl nofun (keepsPrograms_resizeBacking device size)
  | setFloat | setPair => exact .write rfl
  | draw => exact .draw
  | releaseStage | releaseGeometry | useProgram | bindQuad | resizeWindow =>
      exact .aside rfl nofun (keepsPrograms_of_same rfl rfl rfl)

/-! ## Interfaces -/

theorem lastNumber_perform (device : SurfaceDevice) (operation : DeviceOperation) :
    device.lastNumber ≤ (device.perform operation).lastNumber := by
  have changed := change device operation
  generalize device.perform operation = next at changed ⊢
  cases changed with
  | aside _ _ keeps => exact keeps.counted
  | @write _ location bytes _ =>
      exact Nat.le_of_eq (writeUniform_host device location bytes).2.symm
  | link vertex fragment =>
      have outcome := linkOutcome device vertex fragment
      generalize device.linkProgram vertex fragment = result at outcome ⊢
      cases outcome with
      | refused => exact Nat.le_refl _
      | linked => exact Nat.le_succ _
  | draw =>
      have outcome := drawOutcome device
      generalize device.draw = result at outcome ⊢
      cases outcome <;> exact Nat.le_refl _

/-- A program has one interface as long as it lives, and its number is never given again. -/
theorem interface_perform {operation : DeviceOperation} {program : ProgramId}
    {linked : LinkedProgram} (known : program.number ≤ device.lastNumber)
    (found : (device.perform operation).programs.find? program = some linked) :
    ∃ old, device.programs.find? program = some old ∧ linked.interface = old.interface := by
  have changed := change device operation
  generalize device.perform operation = next at changed found
  cases changed with
  | aside _ _ keeps => exact ⟨linked, keeps.programs program linked found, rfl⟩
  | @write _ location bytes _ =>
      cases inUse : device.currentProgram with
      | none =>
          simp only [writeUniform, inUse] at found
          exact ⟨linked, found, rfl⟩
      | some current =>
          rcases find?_writeUniform inUse found with ⟨old, foundOld, ⟨_, rfl⟩ | ⟨_, rfl⟩⟩ <;>
            exact ⟨_, foundOld, rfl⟩
  | link vertex fragment =>
      have outcome := linkOutcome device vertex fragment
      generalize device.linkProgram vertex fragment = result at outcome found
      cases outcome with
      | refused => exact ⟨linked, found, rfl⟩
      | linked =>
          rcases Table.find?_insert_cases found with ⟨rfl, _⟩ | ⟨_, before⟩
          · exact absurd known (Nat.not_succ_le_self _)
          · exact ⟨linked, before, rfl⟩
  | draw =>
      have outcome := drawOutcome device
      generalize device.draw = result at outcome found
      cases outcome with
      | failed => exact ⟨linked, found, rfl⟩
      | @drawn current old host inUse live =>
          rcases Table.find?_insert_cases found with ⟨rfl, rfl⟩ | ⟨_, before⟩
          · exact ⟨old, live, rfl⟩
          · exact ⟨linked, before, rfl⟩

theorem interface_after {operations : List DeviceOperation} {program : ProgramId}
    {linked : LinkedProgram} (known : program.number ≤ device.lastNumber)
    (found : (device.after operations).programs.find? program = some linked) :
    ∃ old, device.programs.find? program = some old ∧ linked.interface = old.interface := by
  induction operations generalizing device with
  | nil => exact ⟨linked, found, rfl⟩
  | cons operation rest induction =>
      rcases induction (Nat.le_trans known (lastNumber_perform device operation)) found with
        ⟨middle, foundMiddle, later⟩
      rcases interface_perform known foundMiddle with ⟨old, foundOld, first⟩
      exact ⟨old, foundOld, later.trans first⟩

/-- At any later time a program has the interface that its stages were linked to. -/
theorem interface_of_linkProgram {vertex fragment : StageId} {program : ProgramId}
    {late : List DeviceOperation} {linked : LinkedProgram}
    (links : device.linkProgram vertex fragment = (.ok program, next))
    (found : (next.after late).programs.find? program = some linked) :
    ∃ first second, device.stages.find? vertex = some first ∧
      device.stages.find? fragment = some second ∧
      ProgramInterface.link first.interface second.interface = .ok linked.interface := by
  have outcome := linkOutcome device vertex fragment
  rw [links] at outcome
  cases outcome with
  | linked vertexStage fragmentStage interface =>
      rcases interface_after (Nat.le_refl _) found with ⟨old, foundOld, same⟩
      rw [Table.find?_insert, if_pos rfl] at foundOld
      cases foundOld
      rw [same]
      exact ⟨_, _, vertexStage, fragmentStage, interface⟩

end SurfaceDevice

end LiveShader
