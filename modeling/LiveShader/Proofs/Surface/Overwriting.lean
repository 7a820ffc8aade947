import LiveShader.Proofs.Surface.Linking
import LiveShader.Proofs.Surface.UniformWrites

/-! # Uniforms that share their bytes

Linking compares the places of uniforms name by name. Uniforms of different names come to share
bytes when each stage has numbered its blocks without a look at the other one. -/

namespace LiveShader

/-! ## Bytes of numbers -/

/-- Some number consists of equal bytes that differ from a given one. -/
theorem Single.exists_bytes_replicate (held : Option UInt8) :
    ∃ (value : Single) (byte : UInt8), value.bytes = .replicate 4 byte ∧ held ≠ some byte := by
  by_cases zero : held = some 0
  · exact ⟨⟨0xffffffff⟩, 255, by decide, by simp [zero]⟩
  · exact ⟨⟨0⟩, 0, by decide, zero⟩

/-! ## Bytes held for a uniform -/

namespace SurfaceDevice

variable {device : SurfaceDevice} {program : ProgramId} {linked : LinkedProgram}

/-- The bytes that a program holds at a place, if the place lies in one of its blocks. -/
def held? (device : SurfaceDevice) (program : ProgramId) (location : UniformLocation)
    (width : Nat) : Option (List UInt8) :=
  (device.programs.find? program).bind fun linked =>
    (linked.blocks.find? location.binding).bind fun block =>
      stretch? block.staging location.offset width

theorem held?_writeUniform (inUse : device.currentProgram = some program)
    (live : device.programs.find? program = some linked) (written location : UniformLocation)
    (bytes : List UInt8) (width : Nat) :
    (device.writeUniform written bytes).held? program location width =
      (linked.blocks.find? location.binding).bind fun block =>
        if written.binding = location.binding then
          stretch? ((overlay? block.staging written.offset bytes).getD block.staging)
            location.offset width
        else
          stretch? block.staging location.offset width := by
  simp only [held?, writeUniform, inUse, Table.find?_modify, if_true, live, Option.map_some,
    Option.bind_some]
  split
  case isTrue same =>
    cases linked.blocks.find? location.binding with
    | none => rfl
    | some block => simp [UniformBuffer.write_staging]
  case isFalse => rfl

end SurfaceDevice

namespace ProgramInterface

variable {interface : ProgramInterface} {first second : UniformLocation} {width otherWidth : Nat}

/-- Whether a place of a width lies in a block. -/
def HasRoom (interface : ProgramInterface) (location : UniformLocation) (width : Nat) : Prop :=
  ∃ blockSize, Table.find? interface.blocks location.binding = some blockSize ∧
    location.offset + width ≤ SurfaceDevice.bufferSize blockSize

/-- Whether two places share bytes of a block. -/
structure Overlap (interface : ProgramInterface) (first : UniformLocation) (width : Nat)
    (second : UniformLocation) (otherWidth : Nat) : Prop where
  binding : first.binding = second.binding
  room : interface.HasRoom first width
  otherRoom : interface.HasRoom second otherWidth
  meet : Meet first.offset width second.offset otherWidth

theorem Overlap.symm (overlap : interface.Overlap first width second otherWidth) :
    interface.Overlap second otherWidth first width :=
  ⟨overlap.binding.symm, overlap.otherRoom, overlap.room, overlap.meet.symm⟩

end ProgramInterface

namespace SurfaceDevice

variable {device : SurfaceDevice} {program : ProgramId} {linked : LinkedProgram}
  {made : List BlockWrite}

theorem length_overlay (write : BlockWrite) (program : ProgramId) (binding : Nat)
    (held : List UInt8) : (write.overlay program binding held).length = held.length := by
  unfold BlockWrite.overlay
  split
  case isTrue =>
    cases fits : overlay? held write.location.offset write.bytes with
    | none => rfl
    | some laid => exact length_of_overlay? fits
  case isFalse => rfl

theorem length_owedBytes (program : ProgramId) (binding blockSize : Nat)
    (made : List BlockWrite) :
    (owedBytes program binding blockSize made).length = bufferSize blockSize := by
  have kept (held : List UInt8) :
      (made.foldl (fun held write => write.overlay program binding held) held).length =
        held.length := by
    induction made generalizing held with
    | nil => rfl
    | cons write rest induction =>
        exact (induction _).trans (length_overlay write program binding held)
  exact (kept _).trans List.length_replicate

/-- The blocks of a program are as large as its interface has them. -/
theorem Tracks.hasRoom_iff (tracks : device.Tracks made)
    (live : device.programs.find? program = some linked) {location : UniformLocation}
    {width : Nat} :
    linked.interface.HasRoom location width ↔
      ∃ block, linked.blocks.find? location.binding = some block ∧
        location.offset + width ≤ block.staging.length := by
  have staged := congrArg (Table.find? · location.binding) (tracks.staged program linked live)
  simp only [LinkedProgram.staged, LinkedProgram.owed] at staged
  rw [Table.find?_map linked.blocks (fun _ block => block.staging),
    Table.find?_map linked.interface.blocks fun binding blockSize =>
      owedBytes program binding blockSize made] at staged
  constructor
  · rintro ⟨blockSize, known, room⟩
    rw [known] at staged
    rcases Option.map_eq_some_iff.mp staged with ⟨block, found, bytes⟩
    exact ⟨block, found, by rw [bytes, length_owedBytes]; exact room⟩
  · rintro ⟨block, found, room⟩
    rw [found] at staged
    rcases Option.map_eq_some_iff.mp staged.symm with ⟨blockSize, known, bytes⟩
    have length := congrArg List.length bytes
    rw [length_owedBytes] at length
    exact ⟨blockSize, known, length ▸ room⟩

/-- A write leaves the places alone with which its own place shares no byte. -/
theorem Tracks.held?_apart (tracks : device.Tracks made)
    (inUse : device.currentProgram = some program)
    (live : device.programs.find? program = some linked) {written location : UniformLocation}
    {bytes : List UInt8} {width : Nat}
    (apart : ¬linked.interface.Overlap written bytes.length location width) :
    (device.writeUniform written bytes).held? program location width =
      device.held? program location width := by
  rw [held?_writeUniform inUse live, held?, live, Option.bind_some]
  cases found : linked.blocks.find? location.binding with
  | none => rfl
  | some block =>
      rw [Option.bind_some, Option.bind_some]
      split
      case isFalse => rfl
      case isTrue same =>
        refine stretch?_overlay?_apart fun room inside meet => apart ?_
        exact ⟨same, (tracks.hasRoom_iff live).mpr ⟨block, same ▸ found, room⟩,
          (tracks.hasRoom_iff live).mpr ⟨block, found, inside⟩, meet⟩

/-- Of the writes of four equal bytes, some changes each place that shares a byte. -/
theorem Tracks.held?_overlap (tracks : device.Tracks made)
    (inUse : device.currentProgram = some program)
    (live : device.programs.find? program = some linked) {written location : UniformLocation}
    {width : Nat} (overlap : linked.interface.Overlap written 4 location width) :
    ∃ value : Single, (device.writeUniform written value.bytes).held? program location width ≠
      device.held? program location width := by
  rcases overlap with ⟨same, first, second, index, covered, shared⟩
  rcases (tracks.hasRoom_iff live).mp first with ⟨block, found, room⟩
  rcases (tracks.hasRoom_iff live).mp second with ⟨other, foundOther, inside⟩
  rw [same, foundOther] at found
  cases found
  rcases Single.exists_bytes_replicate block.staging[index]? with ⟨value, byte, bytes, different⟩
  refine ⟨value, ?_⟩
  rw [held?_writeUniform inUse live, held?, live, Option.bind_some, foundOther, Option.bind_some,
    Option.bind_some, if_pos same, bytes]
  exact stretch?_overlay?_meet room inside covered shared different

/-! ## Time and resolution -/

/-- Whether time and resolution are held apart: a write to one leaves the bytes of the other
alone. -/
structure HoldsApart (device : SurfaceDevice) (program : ProgramId)
    (time resolution : UniformLocation) : Prop where
  timeStays : ∀ first second,
    (device.perform (.setPair resolution first second)).held? program time 4 =
      device.held? program time 4
  resolutionStays : ∀ value,
    (device.perform (.setFloat time value)).held? program resolution 8 =
      device.held? program resolution 8

theorem Tracks.holdsApart_iff (tracks : device.Tracks made)
    (inUse : device.currentProgram = some program)
    (live : device.programs.find? program = some linked) (time resolution : UniformLocation) :
    device.HoldsApart program time resolution ↔
      ¬linked.interface.Overlap time 4 resolution 8 := by
  constructor
  · intro apart overlap
    rcases tracks.held?_overlap inUse live overlap with ⟨value, changed⟩
    exact changed (apart.resolutionStays value)
  · intro apart
    refine ⟨fun first second => ?_, fun value => ?_⟩
    · exact tracks.held?_apart inUse live fun overlap => apart overlap.symm
    · exact tracks.held?_apart inUse live apart

end SurfaceDevice

/-! ## Linked stages -/

/-- Whether different names have different places. -/
def HaveOwnPlaces (uniforms : Table String UniformLocation) : Prop :=
  ∀ name other location, uniforms.find? name = some location →
    uniforms.find? other = some location → name = other

/-- Whether no place has one name in a table and a different one in another. -/
def ShareNoPlace (uniforms others : Table String UniformLocation) : Prop :=
  ∀ name other location, uniforms.find? name = some location →
    others.find? other = some location → name = other

/-- What becomes of the places of two stages when they are linked. -/
structure MergesPlaces (vertex fragment : StageInterface) (interface : ProgramInterface) :
    Prop where
  places : HaveOwnPlaces interface.uniforms ↔ ShareNoPlace vertex.uniforms fragment.uniforms
  /-- This is for every program that a device makes of the stages, at any later time. -/
  writes : ∀ {host windowSize device}, SurfaceDevice.create host windowSize = .ok device →
    ∀ early {first second vertexStage fragmentStage},
      (device.after early).stages.find? first = some vertexStage →
      vertexStage.interface = vertex →
      (device.after early).stages.find? second = some fragmentStage →
      fragmentStage.interface = fragment →
    ∀ {program linked}, (device.after early).linkProgram first second = (.ok program, linked) →
    ∀ late, (linked.after late).currentProgram = some program →
    ∀ {time resolution},
      (linked.after late).uniformLocation? program timeName = some time →
      (linked.after late).uniformLocation? program resolutionName = some resolution →
      interface.uniforms.find? timeName = some time ∧
        interface.uniforms.find? resolutionName = some resolution ∧
        ((linked.after late).HoldsApart program time resolution ↔
          ¬interface.Overlap time 4 resolution 8)

section

variable {vertex fragment : StageInterface} {interface : ProgramInterface}

theorem haveOwnPlaces_iff (vertexPlaces : HaveOwnPlaces vertex.uniforms)
    (fragmentPlaces : HaveOwnPlaces fragment.uniforms)
    (success : ProgramInterface.link vertex fragment = .ok interface) :
    HaveOwnPlaces interface.uniforms ↔ ShareNoPlace vertex.uniforms fragment.uniforms := by
  have merged := ProgramInterface.isMerged_of_link success
  have inVertex {name location} (found : vertex.uniforms.find? name = some location) :
      interface.uniforms.find? name = some location := by
    rw [merged.uniforms, found, Option.some_or]
  have inFragment {name location} (found : fragment.uniforms.find? name = some location) :
      interface.uniforms.find? name = some location := by
    rw [merged.uniforms, found]
    cases known : vertex.uniforms.find? name with
    | none => rfl
    | some present => rw [merged.agree name present location known found, Option.some_or]
  constructor
  · exact fun own name other location here there =>
      own name other location (inVertex here) (inFragment there)
  · intro apart name other location here there
    rw [merged.uniforms, Option.or_eq_some_iff] at here there
    rcases here with here | ⟨_, here⟩ <;> rcases there with there | ⟨_, there⟩
    · exact vertexPlaces name other location here there
    · exact apart name other location here there
    · exact (apart other name location there here).symm
    · exact fragmentPlaces name other location here there

/-- Different uniforms of a linked program have different places exactly if no place has one
name in the one stage and another name in the other, and time and resolution leave each other
alone exactly if their bytes do not overlap. -/
theorem mergesPlaces (vertexPlaces : HaveOwnPlaces vertex.uniforms)
    (fragmentPlaces : HaveOwnPlaces fragment.uniforms)
    (success : ProgramInterface.link vertex fragment = .ok interface) :
    MergesPlaces vertex fragment interface where
  places := haveOwnPlaces_iff vertexPlaces fragmentPlaces success
  writes := by
    intro host windowSize device created early first second vertexStage fragmentStage vertexFound
      vertexSame fragmentFound fragmentSame program linked links late inUse time resolution
      timeFound resolutionFound
    have tracks := ((SurfaceDevice.tracks_create created).after early).1.linkProgram first second
    rw [links] at tracks
    have later := (tracks.1.after late).1
    cases live : (linked.after late).programs.find? program with
    | none =>
        rw [SurfaceDevice.uniformLocation?, live] at timeFound
        cases timeFound
    | some now =>
        rw [SurfaceDevice.uniformLocation?, live] at timeFound resolutionFound
        rcases SurfaceDevice.interface_of_linkProgram links live with
          ⟨one, other, foundOne, foundOther, merges⟩
        rw [vertexFound] at foundOne
        rw [fragmentFound] at foundOther
        cases foundOne
        cases foundOther
        rw [vertexSame, fragmentSame, success] at merges
        cases merges
        exact ⟨timeFound, resolutionFound, later.holdsApart_iff inUse live time resolution⟩

end

/-! ## Two blocks -/

theorem haveOwnPlaces_single (name : String) (location : UniformLocation) :
    HaveOwnPlaces [(name, location)] := by
  intro one other place here there
  have first := Table.mem_of_find? here
  have second := Table.mem_of_find? there
  cases List.mem_singleton.mp first
  cases List.mem_singleton.mp second
  rfl

/-- The interface of a stage with one uniform block. -/
def blockInterface (name : String) (binding : Nat) (type : ResourceType) : StageInterface :=
  .ofModule (SurfaceDevice.blockModule name binding type)

/-- A device for a vertex stage with the time in block 0, and a fragment stage with the
resolution in another block. -/
def pairedDevice (binding : Nat) : SurfaceDevice :=
  SurfaceDevice.scriptedDevice [] [
    some (.accepted (SurfaceDevice.blockModule timeName 0 (.scalar 4))),
    some (.accepted (SurfaceDevice.blockModule resolutionName binding (.vector 2 4)))]

/-- The device with the two stages compiled. -/
def pairedStages (binding : Nat) : SurfaceDevice :=
  (pairedDevice binding).after [.compileStage .vertex "", .compileStage .fragment ""]

/-- The device with the program of the two stages in use. -/
def pairedProgram (binding : Nat) : SurfaceDevice :=
  ((pairedStages binding).linkProgram ⟨1⟩ ⟨2⟩).2.after [.useProgram ⟨3⟩]

theorem mergesPlaces_paired : ∃ interface,
    ProgramInterface.link (blockInterface timeName 0 (.scalar 4))
      (blockInterface resolutionName 1 (.vector 2 4)) = .ok interface ∧
    HaveOwnPlaces interface.uniforms ∧
    (pairedProgram 1).HoldsApart ⟨3⟩ { binding := 0, offset := 0 }
      { binding := 1, offset := 0 } := by
  have merges := @mergesPlaces (blockInterface timeName 0 (.scalar 4))
    (blockInterface resolutionName 1 (.vector 2 4)) _
    (haveOwnPlaces_single _ { binding := 0, offset := 0 })
    (haveOwnPlaces_single _ { binding := 1, offset := 0 }) rfl
  refine ⟨_, rfl, merges.places.mpr ?_, ?_⟩
  · intro one other place here there
    have first := Table.mem_of_find? here
    have second := Table.mem_of_find? there
    cases List.mem_singleton.mp first
    cases List.mem_singleton.mp second
  · have links : (pairedStages 1).linkProgram ⟨1⟩ ⟨2⟩ =
        (.ok ⟨3⟩, ((pairedStages 1).linkProgram ⟨1⟩ ⟨2⟩).2) := rfl
    have time : (pairedProgram 1).uniformLocation? ⟨3⟩ timeName =
        some { binding := 0, offset := 0 } := rfl
    have resolution : (pairedProgram 1).uniformLocation? ⟨3⟩ resolutionName =
        some { binding := 1, offset := 0 } := rfl
    have apart := merges.writes (SurfaceDevice.create_scriptedHost _ _)
      [.compileStage .vertex "", .compileStage .fragment ""] rfl rfl rfl rfl links
      [.useProgram ⟨3⟩] rfl time resolution
    exact apart.2.2.mpr fun overlap => by cases overlap.binding

/-- With both uniforms in block 0, each stage in order and no failure to link, they are one. -/
theorem paired_overwrites :
    HaveOwnPlaces (blockInterface timeName 0 (.scalar 4)).uniforms ∧
      HaveOwnPlaces (blockInterface resolutionName 0 (.vector 2 4)).uniforms ∧
      (∃ interface, ProgramInterface.link (blockInterface timeName 0 (.scalar 4))
          (blockInterface resolutionName 0 (.vector 2 4)) = .ok interface ∧
        ¬HaveOwnPlaces interface.uniforms) ∧
      ¬(pairedProgram 0).HoldsApart ⟨3⟩ { binding := 0, offset := 0 }
        { binding := 0, offset := 0 } := by
  refine ⟨haveOwnPlaces_single _ { binding := 0, offset := 0 },
    haveOwnPlaces_single _ { binding := 0, offset := 0 }, ⟨_, rfl, fun own => ?_⟩, fun apart => ?_⟩
  · exact absurd (own timeName resolutionName { binding := 0, offset := 0 } rfl rfl) (by decide)
  · exact absurd (apart.timeStays ⟨1⟩ ⟨1⟩) (by decide +kernel)

end LiveShader
