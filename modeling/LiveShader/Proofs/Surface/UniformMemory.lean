import LiveShader.Proofs.Data.Stretch
import LiveShader.Proofs.Surface.Driver
import LiveShader.Proofs.Surface.Operation

/-! # The memory behind uniform blocks

A block is kept twice: as bytes on the side of the program, and in a buffer of the driver.
Each has its own moment of change. -/

namespace LiveShader

/-! ## Single blocks -/

namespace UniformBuffer

variable {block : UniformBuffer} {driver : Driver} {offset : Nat} {bytes : List UInt8}

/-- Whether a block has its buffer, which holds the block's bytes unless they have changed. -/
def IsBacked (block : UniformBuffer) (driver : Driver) : Prop :=
  ∃ memory, driver.buffers.find? block.buffer = some memory ∧
    memory.length = block.staging.length ∧
    (block.dirty = false → memory = block.staging.map some)

@[simp] theorem write_buffer : (block.write offset bytes).buffer = block.buffer := by
  unfold write
  split <;> rfl

theorem write_staging :
    (block.write offset bytes).staging =
      (overlay? block.staging offset bytes).getD block.staging := by
  unfold write
  split <;> simp [*]

theorem IsBacked.write (backed : block.IsBacked driver) (offset : Nat) (bytes : List UInt8) :
    (block.write offset bytes).IsBacked driver := by
  rcases backed with ⟨memory, found, length, clean⟩
  unfold UniformBuffer.write
  split
  case h_1 staging fits =>
    exact ⟨memory, found, by rw [length, length_of_overlay? fits], fun dirty => by cases dirty⟩
  case h_2 => exact ⟨memory, found, length, clean⟩

end UniformBuffer

/-! ## Uploading -/

/-- The buffers of some blocks. -/
def blockBuffers (blocks : Table Nat UniformBuffer) : List ObjectId :=
  blocks.map fun entry => entry.2.buffer

theorem mem_blockBuffers {blocks : Table Nat UniformBuffer} {entry : Nat × UniformBuffer}
    (member : entry ∈ blocks) : entry.2.buffer ∈ blockBuffers blocks :=
  List.mem_map_of_mem member

/-- What an upload leaves: the bytes of every block in its buffer, and all else as it was. -/
structure IsUploaded (blocks : Table Nat UniformBuffer) (before after : Host) : Prop where
  contents : ∀ entry ∈ blocks,
    after.driver.buffers.find? entry.2.buffer = some (entry.2.staging.map some)
  others : ∀ object, object ∉ blockBuffers blocks →
    after.driver.buffers.find? object = before.driver.buffers.find? object
  groups : after.driver.groups = before.driver.groups
  passes : after.driver.passes = before.driver.passes
  lastObject : after.lastObject = before.lastObject

section

variable {host : Host} {blocks : Table Nat UniformBuffer}

theorem isUploaded_single {entry : Nat × UniformBuffer} (backed : entry.2.IsBacked host.driver) :
    IsUploaded [entry] host (SurfaceDevice.upload host [entry]) := by
  rcases entry with ⟨binding, block⟩
  rcases backed with ⟨memory, found, length, clean⟩
  simp only [SurfaceDevice.upload, List.foldl_cons, List.foldl_nil]
  cases dirty : block.dirty with
  | true =>
      have written (object : ObjectId) :
          (host.record (.writeBuffer block.buffer 0 block.staging)).driver.buffers.find? object =
            if block.buffer = object then
              (host.driver.buffers.find? object).map fun memory => memory.write 0 block.staging
            else
              host.driver.buffers.find? object := by
        rw [Host.driver_record, Driver.process, Table.find?_modify]
      rw [if_pos rfl]
      refine ⟨fun entry member => ?_, fun object absent => ?_, ?_, ?_, rfl⟩
      · rw [List.mem_singleton.mp member, written, if_pos rfl, found]
        exact congrArg some (BufferMemory.write_whole length)
      · rw [written, if_neg (Ne.symm (List.mem_singleton.not.mp absent))]
      · rw [Host.driver_record, Driver.process]
      · rw [Host.driver_record, Driver.process]
  | false =>
      refine ⟨fun entry member => ?_, fun _ _ => rfl, rfl, rfl, rfl⟩
      rw [List.mem_singleton.mp member, ← clean dirty]
      exact found

/-- Blocks with different buffers do not get in each other's way. -/
theorem isUploaded_upload (distinct : (blockBuffers blocks).Nodup)
    (backed : ∀ entry ∈ blocks, entry.2.IsBacked host.driver) :
    IsUploaded blocks host (SurfaceDevice.upload host blocks) := by
  induction blocks generalizing host with
  | nil => exact ⟨by simp, fun _ _ => rfl, rfl, rfl, rfl⟩
  | cons entry rest induction =>
      rcases List.nodup_cons.mp distinct with ⟨fresh, later⟩
      have first := isUploaded_single (backed entry (.head _))
      have others : ∀ other ∈ rest,
          other.2.IsBacked (SurfaceDevice.upload host [entry]).driver := by
        intro other member
        rcases backed other (.tail _ member) with ⟨memory, found, held⟩
        refine ⟨memory, ?_, held⟩
        rw [first.others, found]
        intro same
        exact fresh (List.mem_singleton.mp same ▸ mem_blockBuffers member)
      have second := induction later others
      refine ⟨?_, ?_, second.groups.trans first.groups, second.passes.trans first.passes,
        second.lastObject.trans first.lastObject⟩
      · intro other member
        rcases List.mem_cons.mp member with rfl | among
        · exact (second.others _ fresh).trans (first.contents _ (.head _))
        · exact second.contents other among
      · intro object absent
        rcases not_or.mp (List.mem_cons.not.mp absent) with ⟨different, outside⟩
        exact (second.others object outside).trans
          (first.others object (List.mem_singleton.not.mpr different))

end

/-! ## Programs -/

namespace LinkedProgram

/-- Whether a program has its buffers, each for one of its blocks, and a bind group that
shows them. -/
structure IsBacked (linked : LinkedProgram) (host : Host) : Prop where
  known : ∀ buffer ∈ blockBuffers linked.blocks, buffer.number ≤ host.lastObject
  distinct : (blockBuffers linked.blocks).Nodup
  memory : ∀ entry ∈ linked.blocks, entry.2.IsBacked host.driver
  groupKnown : ∀ group ∈ linked.bindGroup, group.number ≤ host.lastObject
  shown : (linked.bindGroup.toList.flatMap fun group =>
      (host.driver.groups.find? group).getD []) =
    linked.blocks.map fun entry => (entry.1, entry.2.buffer)

variable {linked : LinkedProgram} {before after host : Host}

theorem IsBacked.transfer (backed : linked.IsBacked before)
    (counted : before.lastObject ≤ after.lastObject)
    (buffers : ∀ buffer ∈ blockBuffers linked.blocks,
      after.driver.buffers.find? buffer = before.driver.buffers.find? buffer)
    (groups : ∀ group ∈ linked.bindGroup,
      after.driver.groups.find? group = before.driver.groups.find? group) :
    linked.IsBacked after where
  known buffer member := Nat.le_trans (backed.known buffer member) counted
  distinct := backed.distinct
  memory entry member := by
    rcases backed.memory entry member with ⟨memory, found, held⟩
    exact ⟨memory, (buffers _ (mem_blockBuffers member)).trans found, held⟩
  groupKnown group member := Nat.le_trans (backed.groupKnown group member) counted
  shown := by
    rw [← backed.shown]
    cases group : linked.bindGroup with
    | none => rfl
    | some object => simp [groups object group]

theorem IsBacked.keeps (backed : linked.IsBacked before) (keeps : before.KeepsObjects after) :
    linked.IsBacked after :=
  backed.transfer keeps.counted (fun buffer member => keeps.buffers buffer (backed.known _ member))
    (fun group member => keeps.groups group (backed.groupKnown group member))

/-- The bytes of each block of a program on the side of the device. -/
def staged (linked : LinkedProgram) : List (Nat × List UInt8) :=
  linked.blocks.map fun entry => (entry.1, entry.2.staging)

/-- What the bind group shows while no block has changed. -/
theorem IsBacked.uniforms (backed : linked.IsBacked host)
    (clean : ∀ entry ∈ linked.blocks, entry.2.dirty = false) :
    linked.bindGroup.toList.flatMap host.driver.uniforms =
      linked.staged.map fun block => (block.1, block.2.map some) := by
  have shown := congrArg (List.map fun entry : Nat × ObjectId =>
    (entry.1, host.driver.memory entry.2)) backed.shown
  rw [List.map_flatMap, List.map_map] at shown
  rw [staged, List.map_map]
  refine shown.trans (List.map_congr_left fun entry member => ?_)
  rcases backed.memory entry member with ⟨memory, found, _, same⟩
  simp [Driver.memory, found, same (clean entry member)]

/-- A program whose blocks have just been uploaded. -/
def clean (linked : LinkedProgram) : LinkedProgram :=
  { linked with
    blocks := linked.blocks.map fun entry => (entry.1, { entry.2 with dirty := false }) }

theorem blockBuffers_clean (linked : LinkedProgram) :
    blockBuffers linked.clean.blocks = blockBuffers linked.blocks := by
  simp only [blockBuffers, clean, List.map_map, Function.comp_def]

theorem staged_clean (linked : LinkedProgram) : linked.clean.staged = linked.staged := by
  simp only [staged, clean, List.map_map, Function.comp_def]

theorem dirty_of_mem_clean {entry : Nat × UniformBuffer} (member : entry ∈ linked.clean.blocks) :
    entry.2.dirty = false := by
  rcases List.mem_map.mp member with ⟨old, _, rfl⟩
  rfl

/-- After an upload the blocks are clean for good reason. -/
theorem IsBacked.clean (backed : linked.IsBacked before)
    (uploaded : IsUploaded linked.blocks before after) : linked.clean.IsBacked after where
  known := by
    rw [blockBuffers_clean, uploaded.lastObject]
    exact backed.known
  distinct := by
    rw [blockBuffers_clean]
    exact backed.distinct
  memory entry member := by
    rcases List.mem_map.mp member with ⟨old, known, rfl⟩
    exact ⟨_, uploaded.contents old known, List.length_map _, fun _ => rfl⟩
  groupKnown := by
    rw [uploaded.lastObject]
    exact backed.groupKnown
  shown := by
    rw [uploaded.groups]
    refine backed.shown.trans ?_
    simp only [LinkedProgram.clean, List.map_map, Function.comp_def]

/-! ### Writes -/

def write (linked : LinkedProgram) (location : UniformLocation) (bytes : List UInt8) :
    LinkedProgram :=
  { linked with
    blocks := linked.blocks.modify location.binding fun block =>
      block.write location.offset bytes }

theorem mem_write_blocks {location : UniformLocation} {bytes : List UInt8}
    {entry : Nat × UniformBuffer} (member : entry ∈ (linked.write location bytes).blocks) :
    ∃ old ∈ linked.blocks, entry = old ∨ entry = (old.1, old.2.write location.offset bytes) := by
  rcases List.mem_map.mp member with ⟨old, known, rfl⟩
  refine ⟨old, known, ?_⟩
  split
  case isTrue same => exact .inr (by rw [same])
  case isFalse => exact .inl rfl

theorem blockBuffers_write (linked : LinkedProgram) (location : UniformLocation)
    (bytes : List UInt8) :
    blockBuffers (linked.write location bytes).blocks = blockBuffers linked.blocks := by
  simp only [blockBuffers, write, Table.modify, List.map_map]
  refine List.map_congr_left fun entry _ => ?_
  by_cases same : entry.1 = location.binding <;> simp [same]

theorem IsBacked.write (backed : linked.IsBacked host) (location : UniformLocation)
    (bytes : List UInt8) : (linked.write location bytes).IsBacked host where
  known := by
    rw [blockBuffers_write]
    exact backed.known
  distinct := by
    rw [blockBuffers_write]
    exact backed.distinct
  memory entry member := by
    rcases mem_write_blocks member with ⟨old, known, rfl | rfl⟩
    · exact backed.memory entry known
    · exact (backed.memory old known).write location.offset bytes
  groupKnown := backed.groupKnown
  shown := by
    refine backed.shown.trans ?_
    simp only [LinkedProgram.write, Table.modify, List.map_map]
    refine List.map_congr_left fun entry _ => ?_
    by_cases same : entry.1 = location.binding <;> simp [same]

end LinkedProgram

/-! ## Drawing -/

/-- A render pass shows the buffers of the program's bind group. -/
theorem driver_drawPass (host : Host) (linked : LinkedProgram) (geometry : Option QuadGeometry) :
    (SurfaceDevice.drawPass host linked geometry).driver =
      { host.driver with
        pipeline := some linked.pipeline
        group := linked.bindGroup
        passes := host.driver.passes ++ [{
          pipeline := some linked.pipeline
          uniforms := linked.bindGroup.toList.flatMap host.driver.uniforms }] } := by
  have uniforms (driver : Driver) (pipeline group : Option ObjectId) :
      Driver.uniforms { driver with pipeline, group } = driver.uniforms := rfl
  unfold SurfaceDevice.drawPass
  cases linked.bindGroup with
  | none =>
      rcases geometry with _ | ⟨buffer, _ | _⟩ <;>
        simp [Driver.process, Driver.pass, uniforms]
  | some group =>
      rcases geometry with _ | ⟨buffer, _ | _⟩ <;>
        simp [Driver.process, Driver.pass, uniforms]

theorem lastObject_drawPass (host : Host) (linked : LinkedProgram)
    (geometry : Option QuadGeometry) :
    (SurfaceDevice.drawPass host linked geometry).lastObject = host.lastObject := by
  unfold SurfaceDevice.drawPass
  cases linked.bindGroup <;> rcases geometry with _ | ⟨buffer, _ | _⟩ <;> simp

end LiveShader
