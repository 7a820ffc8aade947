import LiveShader.Host.Host
import LiveShader.Proofs.Data.Lookup

/-! # What a graphics driver makes of its requests

The log of a host holds all that was asked of its driver. Taken in order, the requests
give the memory of the buffers, and what it held whenever a render pass was submitted. -/

namespace LiveShader

/-- The bytes of a buffer. Those of a new buffer are unknown until they are written. -/
abbrev BufferMemory := List (Option UInt8)

/-- Writes bytes to the memory of a buffer, unless they do not fit in. -/
def BufferMemory.write (memory : BufferMemory) (offset : Nat) (written : List UInt8) :
    BufferMemory :=
  if offset + written.length ≤ memory.length then
    memory.take offset ++ written.map some ++ memory.drop (offset + written.length)
  else
    memory

theorem BufferMemory.write_whole {memory : BufferMemory} {written : List UInt8}
    (fits : memory.length = written.length) : memory.write 0 written = written.map some := by
  simp [write, fits, List.drop_eq_nil_of_le]

/-- A render pass at the moment when it was submitted. -/
structure SubmittedPass where
  pipeline : Option ObjectId
  /-- What the uniform buffer at each binding held. -/
  uniforms : List (Nat × BufferMemory)
  deriving DecidableEq, Repr

/-- A driver after some requests. -/
structure Driver where
  buffers : Table ObjectId BufferMemory
  /-- The buffers of each bind group by their bindings. -/
  groups : Table ObjectId (List (Nat × ObjectId))
  /-- The pipeline of the render pass that is being recorded. -/
  pipeline : Option ObjectId
  /-- The bind group of set 0 in that pass. -/
  group : Option ObjectId
  passes : List SubmittedPass
  deriving DecidableEq, Repr

namespace Driver

def empty : Driver :=
  { buffers := [], groups := [], pipeline := none, group := none, passes := [] }

/-- What a buffer holds. A buffer that there is not holds nothing. -/
def memory (driver : Driver) (buffer : ObjectId) : BufferMemory :=
  (driver.buffers.find? buffer).getD []

/-- What a bind group shows to the shaders. -/
def uniforms (driver : Driver) (group : ObjectId) : List (Nat × BufferMemory) :=
  ((driver.groups.find? group).getD []).map fun (binding, buffer) =>
    (binding, driver.memory buffer)

def pass (driver : Driver) : SubmittedPass :=
  { pipeline := driver.pipeline
    uniforms := driver.group.toList.flatMap driver.uniforms }

def process (driver : Driver) : Request → Driver
  | .createBuffer object _ size _ =>
      { driver with buffers := driver.buffers.insert object (.replicate size none) }
  | .createFilledBuffer object _ contents _ =>
      { driver with buffers := driver.buffers.insert object (contents.map some) }
  | .createBindGroup object _ _ entries =>
      { driver with groups := driver.groups.insert object entries }
  | .writeBuffer buffer offset written =>
      { driver with
        buffers := driver.buffers.modify buffer fun memory => memory.write offset written }
  | .beginPass _ => { driver with pipeline := none, group := none }
  | .setPipeline pipeline => { driver with pipeline := some pipeline }
  | .setBindGroup index group => if index = 0 then { driver with group := some group } else driver
  | .submit => { driver with passes := driver.passes ++ [driver.pass] }
  | _ => driver

end Driver

/-- The driver behind a host. -/
def Host.driver (host : Host) : Driver :=
  host.log.foldl Driver.process .empty

@[simp] theorem Host.driver_record (host : Host) (request : Request) :
    (host.record request).driver = host.driver.process request :=
  List.foldl_append

@[simp] theorem Host.lastObject_record (host : Host) (request : Request) :
    (host.record request).lastObject = host.lastObject := rfl

/-! ## Leaving objects alone -/

namespace Host

/-- Whether a host went on without a change to the objects that it had and without another
render pass. -/
structure KeepsObjects (before after : Host) : Prop where
  counted : before.lastObject ≤ after.lastObject
  buffers : ∀ object, object.number ≤ before.lastObject →
    after.driver.buffers.find? object = before.driver.buffers.find? object
  groups : ∀ object, object.number ≤ before.lastObject →
    after.driver.groups.find? object = before.driver.groups.find? object
  passes : after.driver.passes = before.driver.passes

variable {before after : Host}

theorem KeepsObjects.of_log (log : after.log = before.log)
    (counted : before.lastObject ≤ after.lastObject) : before.KeepsObjects after := by
  have same : after.driver = before.driver := congrArg (List.foldl _ _) log
  exact ⟨counted, fun _ _ => by rw [same], fun _ _ => by rw [same], by rw [same]⟩

theorem KeepsObjects.refl (host : Host) : host.KeepsObjects host :=
  .of_log rfl (Nat.le_refl _)

theorem KeepsObjects.trans {first second third : Host} (early : first.KeepsObjects second)
    (late : second.KeepsObjects third) : first.KeepsObjects third where
  counted := Nat.le_trans early.counted late.counted
  buffers object known := (late.buffers object (Nat.le_trans known early.counted)).trans
    (early.buffers object known)
  groups object known := (late.groups object (Nat.le_trans known early.counted)).trans
    (early.groups object known)
  passes := late.passes.trans early.passes

/-- One more request that is about no buffer, no bind group and no submission. -/
theorem KeepsObjects.record (keeps : before.KeepsObjects after) (request : Request)
    (buffers : (after.driver.process request).buffers = after.driver.buffers)
    (groups : (after.driver.process request).groups = after.driver.groups)
    (passes : (after.driver.process request).passes = after.driver.passes) :
    before.KeepsObjects (after.record request) where
  counted := keeps.counted
  buffers object known := by rw [driver_record, buffers, keeps.buffers object known]
  groups object known := by rw [driver_record, groups, keeps.groups object known]
  passes := by rw [driver_record, passes, keeps.passes]

/-- One more buffer, with a number that is new. -/
theorem KeepsObjects.record_buffer (keeps : before.KeepsObjects after) (request : Request)
    {object : ObjectId} {memory : BufferMemory} (fresh : before.lastObject < object.number)
    (made : after.driver.process request =
      { after.driver with buffers := after.driver.buffers.insert object memory }) :
    before.KeepsObjects (after.record request) where
  counted := keeps.counted
  buffers other known := by
    have different : object ≠ other := fun same => by
      rw [same] at fresh
      omega
    rw [driver_record, made, Table.find?_insert, if_neg different, keeps.buffers other known]
  groups other known := by rw [driver_record, made, keeps.groups other known]
  passes := by rw [driver_record, made, keeps.passes]

theorem KeepsObjects.record_group (keeps : before.KeepsObjects after) {object layout : ObjectId}
    {label : String} {entries : List (Nat × ObjectId)} (fresh : before.lastObject < object.number) :
    before.KeepsObjects (after.record (.createBindGroup object label layout entries)) where
  counted := keeps.counted
  buffers other known := by rw [driver_record, Driver.process, keeps.buffers other known]
  groups other known := by
    have different : object ≠ other := fun same => by
      rw [same] at fresh
      omega
    rw [driver_record, Driver.process, Table.find?_insert, if_neg different,
      keeps.groups other known]
  passes := by rw [driver_record, Driver.process, keeps.passes]

theorem KeepsObjects.allocate (keeps : before.KeepsObjects after) :
    before.KeepsObjects after.allocate.2 :=
  keeps.trans (.of_log rfl (Nat.le_succ _))

theorem KeepsObjects.endValidation (keeps : before.KeepsObjects after) :
    before.KeepsObjects after.endValidation.2 :=
  keeps.trans (.of_log rfl (Nat.le_refl _))

theorem keepsObjects_acquireTexture (host : Host) :
    host.KeepsObjects host.acquireTexture.2 := by
  have taken : host.KeepsObjects { host with acquire := host.acquire.next.2 } :=
    .of_log rfl (Nat.le_refl _)
  have asked := taken.record .acquireTexture rfl rfl rfl
  unfold acquireTexture
  cases failure : host.acquire.next.1 <;> simpa [failure] using asked

theorem keepsObjects_parseStage (host : Host) (stage : Stage) (source : String) :
    host.KeepsObjects (host.parseStage stage source).2 := by
  have taken : host.KeepsObjects { host with stages := host.stages.next.2 } :=
    .of_log rfl (Nat.le_refl _)
  have asked := taken.record (.parseStage stage source) rfl rfl rfl
  unfold parseStage
  rcases answer : host.stages.next.1 with _ | _ | _ <;> simpa [answer] using asked

end Host

end LiveShader
