import LiveShader.Proofs.Surface.Transition

/-! # No write to a uniform is lost

A write changes the copy of its block, and a draw brings what has changed to the driver.
Whatever stands between them, every pass runs with all that was written before it. -/

namespace LiveShader

/-! ## What has to be held -/

/-- Bytes that were written to a place of a program. -/
structure BlockWrite where
  program : ProgramId
  location : UniformLocation
  bytes : List UInt8
  deriving DecidableEq, Repr

/-- Lays a write over the bytes of a block if it is for the block and fits in. -/
def BlockWrite.overlay (write : BlockWrite) (program : ProgramId) (binding : Nat)
    (held : List UInt8) : List UInt8 :=
  if write.program = program ∧ write.location.binding = binding then
    (overlay? held write.location.offset write.bytes).getD held
  else
    held

/-- What a block of a program has to hold after some writes: zeros, overlaid in order. -/
def owedBytes (program : ProgramId) (binding blockSize : Nat) (made : List BlockWrite) :
    List UInt8 :=
  made.foldl (fun held write => write.overlay program binding held)
    (.replicate (SurfaceDevice.bufferSize blockSize) 0)

theorem owedBytes_append (program : ProgramId) (binding blockSize : Nat)
    (made more : List BlockWrite) :
    owedBytes program binding blockSize (made ++ more) =
      more.foldl (fun held write => write.overlay program binding held)
        (owedBytes program binding blockSize made) :=
  List.foldl_append

namespace LinkedProgram

/-- The bytes that each block of the program's interface has to hold. -/
def owed (linked : LinkedProgram) (program : ProgramId) (made : List BlockWrite) :
    List (Nat × List UInt8) :=
  linked.interface.blocks.map fun block => (block.1, owedBytes program block.1 block.2 made)

/-- A pass of the program in which each uniform buffer holds what it has to. -/
def owedPass (linked : LinkedProgram) (program : ProgramId) (made : List BlockWrite) :
    SubmittedPass :=
  { pipeline := some linked.pipeline
    uniforms := (linked.owed program made).map fun block => (block.1, block.2.map some) }

end LinkedProgram

namespace SurfaceDevice

/-- A write to the program in use, if that is live. -/
def writeInUse (device : SurfaceDevice) (location : UniformLocation) (bytes : List UInt8) :
    List BlockWrite :=
  match device.currentProgram with
  | none => []
  | some program =>
      if (device.programs.find? program).isSome then [{ program, location, bytes }] else []

/-- The write that an operation makes. -/
def writes (device : SurfaceDevice) (operation : DeviceOperation) : List BlockWrite :=
  operation.write?.toList.flatMap fun (location, bytes) => device.writeInUse location bytes

/-- The pass that an operation has to submit after some writes: a draw that succeeds submits
one for the program in use. -/
def owedPasses (device : SurfaceDevice) (made : List BlockWrite) :
    DeviceOperation → List SubmittedPass
  | .draw =>
      match device.draw.1, device.currentProgram with
      | .ok (), some program =>
          (device.programs.find? program).toList.map fun linked => linked.owedPass program made
      | _, _ => []
  | _ => []

theorem owedPasses_of_idle {device : SurfaceDevice} {made : List BlockWrite}
    {operation : DeviceOperation} (idle : operation ≠ .draw) :
    device.owedPasses made operation = [] := by
  cases operation <;> first | rfl | exact absurd rfl idle

def writesOfRun (device : SurfaceDevice) : List DeviceOperation → List BlockWrite
  | [] => []
  | operation :: rest => device.writes operation ++ (device.perform operation).writesOfRun rest

/-- The passes that a run has to submit after some writes that were made before it. -/
def passesOfRun (device : SurfaceDevice) (made : List BlockWrite) :
    List DeviceOperation → List SubmittedPass
  | [] => []
  | operation :: rest =>
      device.owedPasses made operation ++
        (device.perform operation).passesOfRun (made ++ device.writes operation) rest

/-- Whether a device and its driver hold what was written. -/
structure HoldsWrites (device : SurfaceDevice) (made : List BlockWrite) : Prop where
  staged : ∀ program linked, device.programs.find? program = some linked →
    linked.staged = linked.owed program made
  /-- A block that has not changed is in its buffer. -/
  uploaded : ∀ program linked, device.programs.find? program = some linked →
    ∀ binding block, (binding, block) ∈ linked.blocks → block.dirty = false →
      device.host.driver.memory block.buffer = block.staging.map some

/-! ## What every operation preserves -/

/-- A device that holds its writes, with its programs apart from each other. -/
structure Tracks (device : SurfaceDevice) (made : List BlockWrite) : Prop where
  backed : ∀ program linked, device.programs.find? program = some linked →
    linked.IsBacked device.host
  staged : ∀ program linked, device.programs.find? program = some linked →
    linked.staged = linked.owed program made
  apart : ∀ first second one other, device.programs.find? first = some one →
    device.programs.find? second = some other → first ≠ second →
    (blockBuffers one.blocks).Disjoint (blockBuffers other.blocks)
  numbered : ∀ program, (device.programs.find? program).isSome →
    program.number ≤ device.lastNumber
  made : ∀ write ∈ made, write.program.number ≤ device.lastNumber

variable {device next : SurfaceDevice} {made : List BlockWrite}

theorem Tracks.holdsWrites (tracks : device.Tracks made) : device.HoldsWrites made where
  staged := tracks.staged
  uploaded program linked found binding block member clean := by
    rcases (tracks.backed program linked found).memory (binding, block) member with
      ⟨memory, held, _, same⟩
    rw [Driver.memory, held, ← same clean]
    rfl

/-- An operation that leaves each program its buffers. It may drop programs. -/
theorem Tracks.update {more : List BlockWrite} (tracks : device.Tracks made)
    (programs : ∀ program linked, next.programs.find? program = some linked →
      ∃ old, device.programs.find? program = some old ∧
        blockBuffers linked.blocks = blockBuffers old.blocks)
    (backed : ∀ program linked, next.programs.find? program = some linked →
      linked.IsBacked next.host)
    (staged : ∀ program linked, next.programs.find? program = some linked →
      linked.staged = linked.owed program more)
    (counted : device.lastNumber ≤ next.lastNumber)
    (known : ∀ write ∈ more, write.program.number ≤ next.lastNumber) : next.Tracks more where
  backed := backed
  staged := staged
  apart first second one other here there different := by
    rcases programs first one here with ⟨oldOne, foundOne, sameOne⟩
    rcases programs second other there with ⟨oldOther, foundOther, sameOther⟩
    rw [sameOne, sameOther]
    exact tracks.apart first second oldOne oldOther foundOne foundOther different
  numbered program live := by
    rcases Option.isSome_iff_exists.mp live with ⟨linked, found⟩
    rcases programs program linked found with ⟨old, foundOld, _⟩
    exact Nat.le_trans (tracks.numbered program (by rw [foundOld]; rfl)) counted
  made := known

theorem Tracks.keeps (tracks : device.Tracks made) (keeps : device.KeepsPrograms next) :
    next.Tracks made := by
  refine tracks.update ?_ ?_ ?_ keeps.counted ?_
  · exact fun program linked found => ⟨linked, keeps.programs program linked found, rfl⟩
  · exact fun program linked found =>
      (tracks.backed program linked (keeps.programs _ _ found)).keeps keeps.host
  · exact fun program linked found => tracks.staged program linked (keeps.programs _ _ found)
  · exact fun write member => Nat.le_trans (tracks.made write member) keeps.counted

end SurfaceDevice

/-! ## Writing -/

namespace LinkedProgram

variable {linked : LinkedProgram} {host : Host}

theorem staged_write (linked : LinkedProgram) (write : BlockWrite) :
    (linked.write write.location write.bytes).staged =
      linked.staged.map fun block =>
        (block.1, write.overlay write.program block.1 block.2) := by
  simp only [staged, LinkedProgram.write, Table.modify, List.map_map]
  refine List.map_congr_left fun entry _ => ?_
  by_cases same : entry.1 = write.location.binding
  · simp [BlockWrite.overlay, UniformBuffer.write_staging, same]
  · simp [BlockWrite.overlay, same, Ne.symm same]

theorem owed_snoc (linked : LinkedProgram) (program : ProgramId) (made : List BlockWrite)
    (write : BlockWrite) :
    linked.owed program (made ++ [write]) =
      (linked.owed program made).map fun block =>
        (block.1, write.overlay program block.1 block.2) := by
  simp only [owed, owedBytes_append, List.foldl_cons, List.foldl_nil, List.map_map,
    Function.comp_def]

theorem owed_snoc_other (linked : LinkedProgram) {program : ProgramId} (made : List BlockWrite)
    {write : BlockWrite} (different : write.program ≠ program) :
    linked.owed program (made ++ [write]) = linked.owed program made := by
  rw [owed_snoc]
  simp [BlockWrite.overlay, different]

end LinkedProgram

namespace SurfaceDevice

variable {device : SurfaceDevice} {made : List BlockWrite}

theorem Tracks.writeUniform (tracks : device.Tracks made) (location : UniformLocation)
    (bytes : List UInt8) :
    (device.writeUniform location bytes).Tracks (made ++ device.writeInUse location bytes) := by
  rcases writeUniform_host device location bytes with ⟨host, number⟩
  cases inUse : device.currentProgram with
  | none => simpa [SurfaceDevice.writeUniform, writeInUse, inUse] using tracks
  | some program =>
      cases live : device.programs.find? program with
      | none =>
          -- The program in use has been released, and no table entry is changed.
          have nothing : device.writeInUse location bytes = [] := by simp [writeInUse, inUse, live]
          rw [nothing, List.append_nil]
          refine tracks.keeps ⟨host ▸ .refl _, fun key linked found => ?_, Nat.le_of_eq number.symm⟩
          rcases find?_writeUniform inUse found with ⟨old, foundOld, ⟨rfl, _⟩ | ⟨_, rfl⟩⟩
          · rw [live] at foundOld
            cases foundOld
          · exact foundOld
      | some current =>
          let write : BlockWrite := { program, location, bytes }
          have noted : device.writeInUse location bytes = [write] := by
            simp [writeInUse, inUse, live, write]
          rw [noted]
          refine tracks.update ?_ ?_ ?_ (Nat.le_of_eq number.symm) ?_
          · intro key linked found
            rcases find?_writeUniform inUse found with ⟨old, foundOld, ⟨_, rfl⟩ | ⟨_, rfl⟩⟩
            · exact ⟨old, foundOld, old.blockBuffers_write location bytes⟩
            · exact ⟨_, foundOld, rfl⟩
          · intro key linked found
            rw [host]
            rcases find?_writeUniform inUse found with ⟨old, foundOld, ⟨_, rfl⟩ | ⟨_, rfl⟩⟩
            · exact (tracks.backed key old foundOld).write location bytes
            · exact tracks.backed key _ foundOld
          · intro key linked found
            rcases find?_writeUniform inUse found with
              ⟨old, foundOld, ⟨rfl, rfl⟩ | ⟨different, rfl⟩⟩
            · have staged := old.staged_write write
              rw [tracks.staged program old foundOld] at staged
              exact staged.trans (LinkedProgram.owed_snoc _ program made write).symm
            · rw [LinkedProgram.owed_snoc_other _ made different]
              exact tracks.staged key _ foundOld
          · intro other member
            rw [number]
            rcases List.mem_append.mp member with earlier | last
            · exact tracks.made other earlier
            · rw [List.mem_singleton.mp last]
              exact tracks.numbered program (by rw [live]; rfl)

/-! ## Drawing -/

/-- A draw brings the blocks of its program to the driver before it submits the pass. -/
theorem Tracks.draw (tracks : device.Tracks made) :
    device.draw.2.Tracks made ∧
      device.draw.2.host.driver.passes =
        device.host.driver.passes ++ device.owedPasses made .draw := by
  have outcome := drawOutcome device
  unfold owedPasses
  generalize device.draw = result at outcome ⊢
  cases outcome with
  | failed keeps => exact ⟨tracks.keeps (keepsPrograms_host keeps), by simpa using keeps.passes⟩
  | @drawn program linked host inUse live acquired =>
      have backed := (tracks.backed program linked live).keeps acquired
      have uploaded := isUploaded_upload backed.distinct backed.memory
      have clean := backed.clean uploaded
      have driver := driver_drawPass (upload host linked.blocks) linked
        (device.currentGeometry.bind device.geometries.find?)
      have lastObject := lastObject_drawPass (upload host linked.blocks) linked
        (device.currentGeometry.bind device.geometries.find?)
      refine ⟨tracks.update ?_ ?_ ?_ (Nat.le_refl _) tracks.made, ?_⟩
      · intro key now known
        rcases Table.find?_insert_cases known with ⟨rfl, rfl⟩ | ⟨_, same⟩
        · exact ⟨linked, live, linked.blockBuffers_clean⟩
        · exact ⟨now, same, rfl⟩
      · intro key now known
        rcases Table.find?_insert_cases known with ⟨rfl, rfl⟩ | ⟨different, same⟩
        · exact clean.transfer (Nat.le_of_eq lastObject.symm) (fun _ _ => by rw [driver])
            (fun _ _ => by rw [driver])
        · -- Its buffers are not among those that were uploaded to.
          have apart := tracks.apart program key linked now live same different
          refine ((tracks.backed key now same).keeps acquired).transfer ?_ ?_ ?_
          · exact Nat.le_of_eq (lastObject.trans uploaded.lastObject).symm
          · intro buffer member
            rw [driver]
            exact uploaded.others buffer fun shared => apart shared member
          · intro group _
            rw [driver, uploaded.groups]
      · intro key now known
        rcases Table.find?_insert_cases known with ⟨rfl, rfl⟩ | ⟨_, same⟩
        · exact linked.staged_clean.trans (tracks.staged program linked live)
        · exact tracks.staged key now same
      · have uniforms := clean.uniforms fun entry => LinkedProgram.dirty_of_mem_clean
        rw [linked.staged_clean, tracks.staged program linked live] at uniforms
        have shown := congrArg (SubmittedPass.mk (some linked.pipeline)) uniforms
        simp only [driver, inUse, live, uploaded.passes, acquired.passes]
        exact congrArg (fun pass => device.host.driver.passes ++ [pass]) shown

/-! ## Linking -/

theorem owedBytes_of_unwritten {program : ProgramId}
    (unwritten : ∀ write ∈ made, write.program ≠ program) (binding blockSize : Nat) :
    owedBytes program binding blockSize made = .replicate (bufferSize blockSize) 0 := by
  unfold owedBytes
  induction made with
  | nil => rfl
  | cons write rest induction =>
      have first : write.overlay program binding (.replicate (bufferSize blockSize) 0) =
          .replicate (bufferSize blockSize) 0 :=
        if_neg fun same => unwritten write (.head _) same.1
      rw [List.foldl_cons, first]
      exact induction fun other member => unwritten other (.tail _ member)

/-- Nothing has been written to a program that has just been linked. -/
theorem Tracks.linkProgram (tracks : device.Tracks made) (vertex fragment : StageId) :
    (device.linkProgram vertex fragment).2.Tracks made ∧
      (device.linkProgram vertex fragment).2.host.driver.passes = device.host.driver.passes := by
  have outcome := linkOutcome device vertex fragment
  generalize device.linkProgram vertex fragment = result at outcome ⊢
  cases outcome with
  | refused keeps => exact ⟨tracks.keeps (keepsPrograms_host keeps), keeps.passes⟩
  | @linked first second linked host _ _ _ new backed =>
      -- The program is tracked because its number and its buffers are new to the device.
      let number : ProgramId := { number := device.lastNumber + 1 }
      have fresh {key : ProgramId} {old : LinkedProgram}
          (known : device.programs.find? key = some old) :
          (blockBuffers linked.blocks).Disjoint (blockBuffers old.blocks) := by
        intro buffer inNew inOld
        have above := (new.numbered buffer inNew).1
        have below := (tracks.backed key old known).known buffer inOld
        omega
      refine ⟨⟨?_, ?_, ?_, ?_, ?_⟩, new.keeps.passes⟩
      · intro key now known
        rcases Table.find?_insert_cases known with ⟨_, rfl⟩ | ⟨_, same⟩
        · exact backed
        · exact (tracks.backed key now same).keeps new.keeps
      · intro key now known
        rcases Table.find?_insert_cases known with ⟨rfl, rfl⟩ | ⟨_, same⟩
        · refine new.staged.trans (List.map_congr_left fun block _ => ?_)
          rw [owedBytes_of_unwritten fun write member same => ?_]
          have below := tracks.made write member
          rw [same] at below
          exact Nat.not_succ_le_self _ below
        · exact tracks.staged key now same
      · intro one two oneLinked twoLinked here there different
        rcases Table.find?_insert_cases here with ⟨rfl, rfl⟩ | ⟨_, oneKnown⟩ <;>
          rcases Table.find?_insert_cases there with ⟨rfl, rfl⟩ | ⟨_, twoKnown⟩
        · exact absurd rfl different
        · exact fresh twoKnown
        · exact fun buffer inOld inNew => fresh oneKnown inNew inOld
        · exact tracks.apart one two oneLinked twoLinked oneKnown twoKnown different
      · intro key live
        rcases Option.isSome_iff_exists.mp live with ⟨now, known⟩
        rcases Table.find?_insert_cases known with ⟨rfl, _⟩ | ⟨_, same⟩
        · exact Nat.le_refl _
        · exact Nat.le_succ_of_le (tracks.numbered key (by rw [same]; rfl))
      · exact fun write member => Nat.le_succ_of_le (tracks.made write member)

/-! ## Runs -/

theorem Tracks.perform (tracks : device.Tracks made) (operation : DeviceOperation) :
    (device.perform operation).Tracks (made ++ device.writes operation) ∧
      (device.perform operation).host.driver.passes =
        device.host.driver.passes ++ device.owedPasses made operation := by
  have changed := change device operation
  generalize device.perform operation = next at changed ⊢
  cases changed with
  | aside silent idle keeps =>
      have nothing : device.writes operation = [] := by simp [writes, silent]
      rw [nothing, owedPasses_of_idle idle, List.append_nil, List.append_nil]
      exact ⟨tracks.keeps keeps, keeps.host.passes⟩
  | @write _ location bytes wrote =>
      have noted : device.writes operation = device.writeInUse location bytes := by
        simp [writes, wrote]
      have idle : operation ≠ .draw := by
        rintro rfl
        cases wrote
      rw [noted, owedPasses_of_idle idle, List.append_nil,
        (writeUniform_host device location bytes).1]
      exact ⟨tracks.writeUniform location bytes, rfl⟩
  | link vertex fragment =>
      simpa [writes, owedPasses, DeviceOperation.write?] using tracks.linkProgram vertex fragment
  | draw => simpa [writes, DeviceOperation.write?] using tracks.draw

theorem Tracks.after (tracks : device.Tracks made) (operations : List DeviceOperation) :
    (device.after operations).Tracks (made ++ device.writesOfRun operations) ∧
      (device.after operations).host.driver.passes =
        device.host.driver.passes ++ device.passesOfRun made operations := by
  induction operations generalizing device made with
  | nil => exact ⟨by simpa [writesOfRun] using tracks, by simp [passesOfRun]⟩
  | cons operation rest induction =>
      rcases tracks.perform operation with ⟨next, passes⟩
      rcases induction next with ⟨last, later⟩
      rw [List.append_assoc] at last
      rw [passes, List.append_assoc] at later
      exact ⟨last, later⟩

theorem tracks_create {host : Host} {windowSize : Size}
    (created : create host windowSize = .ok device) : device.Tracks [] := by
  have none := (tables_of_create created).2.1
  refine ⟨?_, ?_, ?_, ?_, ?_⟩ <;> simp [none]

/-- Every pass that a run submits, whatever fails on the way, finds in its uniform buffers all
that was written to its program until then, and at any time so does every block. -/
theorem holdsWrites_after {host : Host} {windowSize : Size}
    (created : create host windowSize = .ok device) (operations : List DeviceOperation) :
    (device.after operations).HoldsWrites (device.writesOfRun operations) ∧
      (device.after operations).host.driver.passes =
        device.host.driver.passes ++ device.passesOfRun [] operations := by
  rcases (tracks_create created).after operations with ⟨tracks, passes⟩
  exact ⟨tracks.holdsWrites, passes⟩

/-- A stage with one uniform block. -/
def blockModule (name : String) (binding : Nat) (type : ResourceType) : ShaderModule where
  entryPoints := []
  globals := [{ space := .uniform, name, binding := some { set := 0, binding }, type }]

def scriptedHost (acquire : Script AcquireError) (stages : Script ParsedStage) : Host :=
  { Host.quiet with formats := [{ name := "Bgra8Unorm" }], acquire, stages }

def scriptedDevice (acquire : Script AcquireError) (stages : Script ParsedStage) :
    SurfaceDevice :=
  configure {
    host := scriptedHost acquire stages
    windowSize := { width := 640, height := 480 }
    format := { name := "Bgra8Unorm" }
    configured := { width := 640, height := 480 }
    lastNumber := 0
    stages := []
    programs := []
    geometries := []
    currentProgram := none
    currentGeometry := none }

theorem create_scriptedHost (acquire : Script AcquireError) (stages : Script ParsedStage) :
    create (scriptedHost acquire stages) { width := 640, height := 480 } =
      .ok (scriptedDevice acquire stages) := by
  have picked : pickFormat? [{ name := "Bgra8Unorm" }] = some { name := "Bgra8Unorm" } := by
    decide +kernel
  simp only [create, scriptedHost, Host.quiet, Script.next, picked]
  rfl

/-- A device that loses its surface once, with a fragment stage that takes the time. -/
def timedDevice : SurfaceDevice :=
  scriptedDevice [some .lost] [none, some (.accepted (blockModule "time" 0 (.scalar 4)))]

/-- Two draws: one in vain, and one after a write outside of the block. -/
def timedRun : List DeviceOperation :=
  [.compileStage .vertex "", .compileStage .fragment "", .linkProgram ⟨1⟩ ⟨2⟩, .useProgram ⟨3⟩,
    .setFloat { binding := 0, offset := 0 } ⟨0x3f800000⟩, .draw,
    .setFloat { binding := 0, offset := 16 } ⟨0x40000000⟩, .draw]

theorem holdsWrites_timedRun :
    (timedDevice.after timedRun).HoldsWrites (timedDevice.writesOfRun timedRun) ∧
      (timedDevice.after timedRun).host.driver.passes = [{
        pipeline := some ⟨5⟩
        uniforms := [(0, [0, 0, 0x80, 0x3f, 0, 0, 0, 0, 0, 0, 0, 0, 0, 0, 0, 0].map some)] }] := by
  have passes : timedDevice.host.driver.passes ++ timedDevice.passesOfRun [] timedRun = [{
      pipeline := some ⟨5⟩
      uniforms := [(0, [0, 0, 0x80, 0x3f, 0, 0, 0, 0, 0, 0, 0, 0, 0, 0, 0, 0].map some)] }] := by
    decide +kernel
  rcases holdsWrites_after (create_scriptedHost _ _) timedRun with ⟨holds, submitted⟩
  exact ⟨holds, submitted.trans passes⟩

end SurfaceDevice

end LiveShader
