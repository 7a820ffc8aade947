import LiveShader.Proofs.Surface.Transition

/-! # What graphics objects were created with

A driver knows each object by the request that created it. Numbers of objects only grow, so
an object that has one is not created again, and every live program can be traced back to
what its pipeline, its bind group and its buffers were created with. -/

namespace LiveShader

/-! ## Requests that create an object -/

def Request.created? : Request → Option ObjectId
  | .createShaderModule object _ _ _ => some object
  | .createBindGroupLayout object _ _ => some object
  | .createPipelineLayout object _ _ => some object
  | .createPipeline object _ _ => some object
  | .createBuffer object _ _ _ => some object
  | .createFilledBuffer object _ _ _ => some object
  | .createBindGroup object _ _ _ => some object
  | _ => none

namespace Host

/-- The request that created an object. The latest one counts. -/
def creation? (host : Host) (object : ObjectId) : Option Request :=
  host.log.reverse.find? fun request => request.created? = some object

theorem creation?_record (host : Host) (request : Request) (object : ObjectId) :
    (host.record request).creation? object =
      if request.created? = some object then some request else host.creation? object := by
  simp only [creation?, record, List.reverse_append, List.reverse_singleton, List.singleton_append,
    List.find?_cons]
  by_cases created : request.created? = some object <;> simp [created]

/-- An object that has its number already was created by a request. -/
structure Made (host : Host) (object : ObjectId) (request : Request) : Prop where
  known : object.number ≤ host.lastObject
  creation : host.creation? object = some request

/-- Whether a host went on without creating once more what it had. -/
structure GoesOn (before after : Host) : Prop where
  counted : before.lastObject ≤ after.lastObject
  creations : ∀ object, object.number ≤ before.lastObject →
    after.creation? object = before.creation? object

variable {before after host : Host} {object : ObjectId} {request : Request}

theorem Made.goesOn (made : before.Made object request) (goesOn : before.GoesOn after) :
    after.Made object request :=
  ⟨Nat.le_trans made.known goesOn.counted, (goesOn.creations object made.known).trans made.creation⟩

theorem GoesOn.of_log (log : after.log = before.log)
    (counted : before.lastObject ≤ after.lastObject) : before.GoesOn after :=
  ⟨counted, fun _ _ => by simp only [creation?, log]⟩

theorem GoesOn.refl (host : Host) : host.GoesOn host :=
  .of_log rfl (Nat.le_refl _)

theorem GoesOn.trans {first second third : Host} (early : first.GoesOn second)
    (late : second.GoesOn third) : first.GoesOn third where
  counted := Nat.le_trans early.counted late.counted
  creations object known := (late.creations object (Nat.le_trans known early.counted)).trans
    (early.creations object known)

/-- One more request, which creates nothing. -/
theorem goesOn_record (host : Host) (request : Request) (silent : request.created? = none) :
    host.GoesOn (host.record request) :=
  ⟨Nat.le_refl _, fun object _ => by rw [creation?_record, if_neg (by simp [silent])]⟩

/-- A host after several requests. -/
def recordAll (host : Host) (requests : List Request) : Host :=
  { host with log := host.log ++ requests }

theorem goesOn_recordAll {requests : List Request} (host : Host)
    (silent : ∀ request ∈ requests, request.created? = none) :
    host.GoesOn (host.recordAll requests) := by
  refine ⟨Nat.le_refl _, fun object _ => ?_⟩
  have none : (requests.reverse.find? fun request => request.created? = some object) = none := by
    rw [List.find?_eq_none]
    intro request member
    simp [silent request (List.mem_reverse.mp member)]
  rw [creation?, recordAll, List.reverse_append, List.find?_append, none]
  rfl

/-- One more request, which creates the object that has just got its number. -/
theorem goesOn_create (host : Host) (creates : request.created? = some host.allocate.1) :
    host.GoesOn (host.allocate.2.record request) := by
  refine ⟨Nat.le_succ _, fun object known => ?_⟩
  have different : request.created? ≠ some object := by
    rw [creates]
    rintro ⟨⟩
    exact Nat.not_succ_le_self _ known
  rw [creation?_record, if_neg different]
  rfl

theorem made_create (host : Host) (creates : request.created? = some host.allocate.1) :
    (host.allocate.2.record request).Made host.allocate.1 request :=
  ⟨Nat.le_refl _, by rw [creation?_record, if_pos creates]⟩

theorem goesOn_endValidation (host : Host) : host.GoesOn host.endValidation.2 :=
  .of_log rfl (Nat.le_refl _)

theorem goesOn_acquireTexture (host : Host) : host.GoesOn host.acquireTexture.2 := by
  have taken : host.GoesOn { host with acquire := host.acquire.next.2 } :=
    .of_log rfl (Nat.le_refl _)
  have asked := taken.trans (goesOn_record _ .acquireTexture rfl)
  unfold acquireTexture
  cases failure : host.acquire.next.1 <;> simpa [failure] using asked

theorem log_acquireTexture (host : Host) :
    host.acquireTexture.2.log = host.log ++ [.acquireTexture] := by
  unfold acquireTexture
  cases failure : host.acquire.next.1 <;> simp only [failure] <;> rfl

theorem goesOn_parseStage (host : Host) (stage : Stage) (source : String) :
    host.GoesOn (host.parseStage stage source).2 := by
  have taken : host.GoesOn { host with stages := host.stages.next.2 } :=
    .of_log rfl (Nat.le_refl _)
  have asked := taken.trans (goesOn_record _ (.parseStage stage source) rfl)
  unfold parseStage
  rcases answer : host.stages.next.1 with _ | _ | _ <;> simpa [answer] using asked

end Host

/-! ## Programs and what they were created with -/

namespace LinkedProgram

/-- The bindings of a program with their buffers. -/
def entries (linked : LinkedProgram) : List (Nat × ObjectId) :=
  linked.blocks.map fun block => (block.1, block.2.buffer)

/-- Whether a program differs from another one in the bytes of its blocks at most. -/
structure HasObjectsOf (linked old : LinkedProgram) : Prop where
  pipeline : linked.pipeline = old.pipeline
  bindGroup : linked.bindGroup = old.bindGroup
  entries : linked.entries = old.entries
  interface : linked.interface = old.interface

theorem HasObjectsOf.refl (linked : LinkedProgram) : linked.HasObjectsOf linked :=
  ⟨rfl, rfl, rfl, rfl⟩

theorem hasObjectsOf_clean (linked : LinkedProgram) : linked.clean.HasObjectsOf linked :=
  ⟨rfl, rfl, by simp only [entries, clean, List.map_map, Function.comp_def], rfl⟩

theorem hasObjectsOf_write (linked : LinkedProgram) (location : UniformLocation)
    (bytes : List UInt8) : (linked.write location bytes).HasObjectsOf linked := by
  refine ⟨rfl, rfl, ?_, rfl⟩
  simp only [entries, write, Table.modify, List.map_map]
  refine List.map_congr_left fun entry _ => ?_
  by_cases same : entry.1 = location.binding <;> simp [same]

/-- Whether a buffer at a binding was created for a block of some size. -/
structure BufferFor (host : Host) (block : Nat × Nat) (entry : Nat × ObjectId) : Prop where
  binding : entry.1 = block.1
  buffer : host.Made entry.2
    (.createBuffer entry.2 "zenith uniform block" (SurfaceDevice.bufferSize block.2)
      .writtenUniform)

/-- What the objects of a program were created with. The layouts are not kept by the
program. -/
structure CreatedWith (linked : LinkedProgram) (host : Host) (descriptor : PipelineDescriptor)
    (groupLayout : Option ObjectId) : Prop where
  pipeline : host.Made linked.pipeline
    (.createPipeline linked.pipeline "zenith program" descriptor)
  vertexBuffers : descriptor.vertexBuffers = SurfaceDevice.vertexBuffers linked.interface
  layout : host.Made descriptor.layout
    (.createPipelineLayout descriptor.layout "zenith pipeline layout" groupLayout.toList)
  bare : groupLayout = none → linked.bindGroup = none ∧ linked.interface.blocks = []
  grouped : ∀ layout, groupLayout = some layout →
    host.Made layout (.createBindGroupLayout layout "zenith uniform layout"
      (linked.interface.blocks.map fun block =>
        { binding := block.1, minimalSize := block.2 })) ∧
    ∃ group, linked.bindGroup = some group ∧ host.Made group
      (.createBindGroup group "zenith uniform bind group" layout linked.entries)
  buffers : List.Forall₂ (BufferFor host) linked.interface.blocks linked.entries

def IsCreated (linked : LinkedProgram) (host : Host) : Prop :=
  ∃ descriptor groupLayout, linked.CreatedWith host descriptor groupLayout

variable {linked old : LinkedProgram} {before after : Host}

theorem forall₂_bufferFor_goesOn {blocks : BlockSizes} {entries : List (Nat × ObjectId)}
    (buffers : List.Forall₂ (BufferFor before) blocks entries) (goesOn : before.GoesOn after) :
    List.Forall₂ (BufferFor after) blocks entries :=
  buffers.imp fun _ _ made => ⟨made.binding, made.buffer.goesOn goesOn⟩

/-- What holds of the objects of a program goes on to hold when its blocks are written. -/
theorem IsCreated.goesOn (created : old.IsCreated before) (goesOn : before.GoesOn after)
    (same : linked.HasObjectsOf old) : linked.IsCreated after := by
  rcases created with ⟨descriptor, groupLayout, created⟩
  refine ⟨descriptor, groupLayout, ?_, ?_, created.layout.goesOn goesOn, ?_, ?_, ?_⟩
  · rw [same.pipeline]
    exact created.pipeline.goesOn goesOn
  · rw [same.interface]
    exact created.vertexBuffers
  · rw [same.bindGroup, same.interface]
    exact created.bare
  · intro layout known
    rcases created.grouped layout known with ⟨madeLayout, group, bound, madeGroup⟩
    rw [same.interface, same.bindGroup, same.entries]
    exact ⟨madeLayout.goesOn goesOn, group, bound, madeGroup.goesOn goesOn⟩
  · rw [same.interface, same.entries]
    exact forall₂_bufferFor_goesOn created.buffers goesOn

end LinkedProgram

/-! ## Linking -/

namespace SurfaceDevice

theorem goesOn_createGroupLayout (host : Host) (blocks : BlockSizes) :
    host.GoesOn (createGroupLayout host blocks).2 := by
  unfold createGroupLayout
  split
  case isTrue => exact .refl host
  case isFalse => exact Host.goesOn_create host rfl

theorem made_createGroupLayout {host : Host} {blocks : BlockSizes} {layout : ObjectId}
    (created : (createGroupLayout host blocks).1 = some layout) :
    (createGroupLayout host blocks).2.Made layout
      (.createBindGroupLayout layout "zenith uniform layout"
        (blocks.map fun block => { binding := block.1, minimalSize := block.2 })) := by
  unfold createGroupLayout at created ⊢
  split
  case isTrue empty =>
    rw [if_pos empty] at created
    cases created
  case isFalse nonempty =>
    rw [if_neg nonempty] at created
    cases created
    exact Host.made_create host rfl

/-- What a new pipeline and its layouts were created with. -/
structure NewPipeline (before after : Host) (interface : ProgramInterface) (pipeline : ObjectId)
    (groupLayout : Option ObjectId) (descriptor : PipelineDescriptor) : Prop where
  goesOn : before.GoesOn after
  pipeline : after.Made pipeline (.createPipeline pipeline "zenith program" descriptor)
  vertexBuffers : descriptor.vertexBuffers = SurfaceDevice.vertexBuffers interface
  layout : after.Made descriptor.layout
    (.createPipelineLayout descriptor.layout "zenith pipeline layout" groupLayout.toList)
  bare : groupLayout = none → interface.blocks = []
  groupLayout : ∀ layout, groupLayout = some layout → after.Made layout
    (.createBindGroupLayout layout "zenith uniform layout"
      (interface.blocks.map fun block => { binding := block.1, minimalSize := block.2 }))

/-- What an attempt at a pipeline does. -/
inductive PipelineAttempt (host : Host) (interface : ProgramInterface) :
    Except String (ObjectId × Option ObjectId) × Host → Prop
  | refused {diagnostic : String} {after : Host} (goesOn : host.GoesOn after) :
      PipelineAttempt host interface (.error diagnostic, after)
  | created {pipeline : ObjectId} {groupLayout : Option ObjectId} {after : Host}
      (descriptor : PipelineDescriptor)
      (new : NewPipeline host after interface pipeline groupLayout descriptor) :
      PipelineAttempt host interface (.ok (pipeline, groupLayout), after)

theorem pipelineAttempt (host : Host) (format : TextureFormat) (vertex fragment : CompiledStage)
    (interface : ProgramInterface) :
    PipelineAttempt host interface (createPipeline host format vertex fragment interface) := by
  let grouped := createGroupLayout host interface.blocks
  let laid := grouped.2.allocate.2.record
    (.createPipelineLayout grouped.2.allocate.1 "zenith pipeline layout" grouped.1.toList)
  let descriptor : PipelineDescriptor := {
    layout := grouped.2.allocate.1
    vertexModule := vertex.shaderModule
    vertexBuffers := vertexBuffers interface
    fragmentModule := fragment.shaderModule
    target := format }
  let done := laid.allocate.2.record (.createPipeline laid.allocate.1 "zenith program" descriptor)
  have groups : host.GoesOn grouped.2 := goesOn_createGroupLayout host interface.blocks
  have layouts : grouped.2.GoesOn laid := Host.goesOn_create grouped.2 rfl
  have pipelines : laid.GoesOn done := Host.goesOn_create laid rfl
  have validated : done.GoesOn done.endValidation.2 := Host.goesOn_endValidation done
  unfold createPipeline
  simp only
  split
  case h_1 diagnostic after refused =>
    have ended : done.endValidation.2 = after := congrArg Prod.snd refused
    rw [ended] at validated
    exact .refused (((groups.trans layouts).trans pipelines).trans validated)
  case h_2 after passed =>
    have ended : done.endValidation.2 = after := congrArg Prod.snd passed
    rw [ended] at validated
    exact .created descriptor
      { goesOn := ((groups.trans layouts).trans pipelines).trans validated
        pipeline := (Host.made_create laid rfl).goesOn validated
        vertexBuffers := rfl
        layout := (Host.made_create grouped.2 rfl).goesOn (pipelines.trans validated)
        bare := blocks_of_createGroupLayout
        groupLayout := fun layout created => (made_createGroupLayout created).goesOn
          ((layouts.trans pipelines).trans validated) }

/-- The buffers of new blocks were created for their sizes. -/
theorem forall₂_createUniformBuffers (host : Host) (blocks : BlockSizes) :
    host.GoesOn (createUniformBuffers host blocks).2 ∧
      List.Forall₂ (LinkedProgram.BufferFor (createUniformBuffers host blocks).2) blocks
        ((createUniformBuffers host blocks).1.map fun block => (block.1, block.2.buffer)) := by
  induction blocks generalizing host with
  | nil => exact ⟨.refl host, .nil⟩
  | cons block rest induction =>
      rcases block with ⟨binding, blockSize⟩
      let request : Request := .createBuffer host.allocate.1 "zenith uniform block"
        (bufferSize blockSize) .writtenUniform
      have first : host.GoesOn (host.allocate.2.record request) := Host.goesOn_create host rfl
      have made : (host.allocate.2.record request).Made host.allocate.1 request :=
        Host.made_create host rfl
      rcases induction (host.allocate.2.record request) with ⟨later, others⟩
      exact ⟨first.trans later, .cons ⟨rfl, made.goesOn later⟩ others⟩

/-- A bind group is created where there is a layout for it. -/
theorem made_createBindGroup (host : Host) (layout : Option ObjectId)
    (blocks : Table Nat UniformBuffer) :
    host.GoesOn (createBindGroup host layout blocks).2 ∧
      (layout = none → (createBindGroup host layout blocks).1 = none) ∧
      ∀ object, layout = some object →
        ∃ group, (createBindGroup host layout blocks).1 = some group ∧
          (createBindGroup host layout blocks).2.Made group
            (.createBindGroup group "zenith uniform bind group" object
              (blocks.map fun block => (block.1, block.2.buffer))) := by
  cases layout with
  | none => exact ⟨.refl host, fun _ => rfl, nofun⟩
  | some layout =>
      refine ⟨Host.goesOn_create host rfl, nofun, ?_⟩
      rintro object ⟨⟩
      exact ⟨host.allocate.1, rfl, Host.made_create host rfl⟩

/-- What an attempt to link does to the objects of programs. -/
theorem isCreated_linkProgram (device : SurfaceDevice) (vertex fragment : StageId) :
    device.host.GoesOn (device.linkProgram vertex fragment).2.host ∧
      ∀ program linked, (device.linkProgram vertex fragment).2.programs.find? program =
          some linked →
        device.programs.find? program = some linked ∨
          linked.IsCreated (device.linkProgram vertex fragment).2.host := by
  unfold linkProgram
  split
  case h_2 => exact ⟨.refl _, fun _ _ found => .inl found⟩
  case h_1 first second _ _ =>
    split
    case isFalse => exact ⟨.refl _, fun _ _ found => .inl found⟩
    case isTrue =>
      split
      case h_1 => exact ⟨.refl _, fun _ _ found => .inl found⟩
      case h_2 interface _ =>
        have attempt := pipelineAttempt device.host device.format first second interface
        cases created : createPipeline device.host device.format first second interface with
        | mk result host =>
            rw [created] at attempt
            cases attempt with
            | refused goesOn => exact ⟨goesOn, fun _ _ found => .inl found⟩
            | @created pipeline groupLayout _ descriptor new =>
                rcases forall₂_createUniformBuffers host interface.blocks with
                  ⟨buffered, buffers⟩
                rcases made_createBindGroup (createUniformBuffers host interface.blocks).2
                  groupLayout (createUniformBuffers host interface.blocks).1 with
                  ⟨bound, bare, grouped⟩
                refine ⟨(new.goesOn.trans buffered).trans bound, fun program linked found => ?_⟩
                rcases Table.find?_insert_cases found with ⟨_, rfl⟩ | ⟨_, before⟩
                · exact .inr ⟨descriptor, groupLayout,
                    { pipeline := new.pipeline.goesOn (buffered.trans bound)
                      vertexBuffers := new.vertexBuffers
                      layout := new.layout.goesOn (buffered.trans bound)
                      bare := fun without => ⟨bare without, new.bare without⟩
                      grouped := fun layout known =>
                        ⟨(new.groupLayout layout known).goesOn (buffered.trans bound),
                          grouped layout known⟩
                      buffers := LinkedProgram.forall₂_bufferFor_goesOn buffers bound }⟩
                · exact .inl before

/-! ## Other operations -/

theorem goesOn_compileStage (device : SurfaceDevice) (stage : Stage) (source : String) :
    device.host.GoesOn (device.compileStage stage source).2.host := by
  have parsed := Host.goesOn_parseStage device.host stage source
  unfold compileStage
  split
  case h_1 diagnostic host refused =>
    rw [refused] at parsed
    exact parsed
  case h_2 compiled host accepted =>
    rw [accepted] at parsed
    let made := host.allocate.2.record
      (.createShaderModule host.allocate.1 (moduleLabel stage) stage source.utf8ByteSize)
    have created : device.host.GoesOn made.endValidation.2 :=
      (parsed.trans (Host.goesOn_create host rfl)).trans (Host.goesOn_endValidation made)
    simp only
    split
    case h_1 diagnostic after refused =>
      rw [refused] at created
      exact created
    case h_2 after passed =>
      rw [passed] at created
      exact created

theorem goesOn_createQuad (device : SurfaceDevice) (program : ProgramId)
    (position : Option AttributeLocation) :
    device.host.GoesOn (device.createQuad program position).2.host := by
  unfold createQuad
  split
  case h_1 => exact .refl _
  case h_2 =>
    let made := device.host.allocate.2.record (.createFilledBuffer device.host.allocate.1
      "zenith quad" (quadCorners.flatMap Single.bytes) .vertex)
    have created : device.host.GoesOn made.endValidation.2 :=
      (Host.goesOn_create device.host rfl).trans (Host.goesOn_endValidation made)
    simp only
    split
    case h_1 reason after refused =>
      rw [refused] at created
      exact created
    case h_2 after passed =>
      rw [passed] at created
      exact created

theorem goesOn_resizeBacking (device : SurfaceDevice) (size : Size) :
    device.host.GoesOn (device.resizeBacking size).host := by
  unfold resizeBacking configure
  split
  case isTrue => exact .refl _
  case isFalse => exact Host.goesOn_record device.host _ rfl

/-! ### Draws -/

/-- The requests that bring changed blocks to their buffers. -/
def uploadRequests (blocks : Table Nat UniformBuffer) : List Request :=
  (blocks.filter fun entry => entry.2.dirty).map fun entry =>
    .writeBuffer entry.2.buffer 0 entry.2.staging

theorem upload_eq (host : Host) (blocks : Table Nat UniformBuffer) :
    upload host blocks = host.recordAll (uploadRequests blocks) := by
  induction blocks generalizing host with
  | nil => simp [upload, uploadRequests, Host.recordAll]
  | cons entry rest induction =>
      rcases entry with ⟨binding, buffer, staging, _ | _⟩
      · exact induction host
      · have later := induction (host.record (.writeBuffer buffer 0 staging))
        rw [Host.recordAll, Host.record, List.append_assoc] at later
        exact later

/-- The requests of one render pass. -/
def passRequests (linked : LinkedProgram) (geometry : Option QuadGeometry) : List Request :=
  [.beginPass "zenith quad pass", .setPipeline linked.pipeline] ++
    linked.bindGroup.toList.map (.setBindGroup 0) ++
    ((geometry.filter QuadGeometry.feedsPosition).map
      fun geometry => .setVertexBuffer 0 geometry.buffer).toList ++
    [.drawVertices quadCornerCount 1, .submit, .announcePresent, .present]

theorem drawPass_eq (host : Host) (linked : LinkedProgram) (geometry : Option QuadGeometry) :
    drawPass host linked geometry = host.recordAll (passRequests linked geometry) := by
  unfold drawPass passRequests
  cases linked.bindGroup with
  | none =>
      rcases geometry with _ | ⟨buffer, _ | _⟩ <;>
        simp [Host.recordAll, Host.record, Option.filter_some]
  | some group =>
      rcases geometry with _ | ⟨buffer, _ | _⟩ <;>
        simp [Host.recordAll, Host.record, Option.filter_some]

/-- A draw fails, or it takes a texture, uploads what has changed and records its pass. -/
inductive DrawRequests (device : SurfaceDevice) : Except DrawError Unit × SurfaceDevice → Prop
  | failed {error : DrawError} {host : Host} (goesOn : device.host.GoesOn host) :
      DrawRequests device (.error error, { device with host })
  | drawn {program : ProgramId} {linked : LinkedProgram}
      (inUse : device.currentProgram = some program)
      (live : device.programs.find? program = some linked) :
      DrawRequests device (.ok (), { device with
        host := device.host.acquireTexture.2.recordAll (uploadRequests linked.blocks ++
          passRequests linked (device.currentGeometry.bind device.geometries.find?))
        programs := device.programs.insert program linked.clean })

theorem drawRequests (device : SurfaceDevice) : DrawRequests device device.draw := by
  have goesOn := Host.goesOn_acquireTexture device.host
  unfold draw
  split
  case h_1 => exact .failed (.refl _)
  case h_2 program inUse =>
    split
    case h_1 => exact .failed (.refl _)
    case h_2 linked live =>
      split
      case h_1 host acquired | h_2 host acquired | h_3 host acquired =>
        rw [acquired] at goesOn
        exact .failed goesOn
      case h_4 error host _ _ _ acquired =>
        rw [acquired] at goesOn
        exact .failed goesOn
      case h_5 host acquired =>
        have same : device.host.acquireTexture.2 = host := congrArg Prod.snd acquired
        subst same
        simp only [upload_eq, drawPass_eq, Host.recordAll, List.append_assoc]
        exact .drawn inUse live

theorem silent_of_mem_draw {blocks : Table Nat UniformBuffer} {linked : LinkedProgram}
    {geometry : Option QuadGeometry} {request : Request}
    (member : request ∈ uploadRequests blocks ++ passRequests linked geometry) :
    request.created? = none := by
  rcases List.mem_append.mp member with upload | pass
  · rcases List.mem_map.mp upload with ⟨entry, _, rfl⟩
    rfl
  · simp only [passRequests, List.mem_append, List.mem_cons, List.mem_map, Option.mem_toList,
      Option.map_eq_some_iff, List.not_mem_nil, or_false] at pass
    rcases pass with (((rfl | rfl) | ⟨_, _, rfl⟩) | ⟨_, _, rfl⟩) | rfl | rfl | rfl | rfl <;> rfl

theorem goesOn_draw (device : SurfaceDevice) : device.host.GoesOn device.draw.2.host := by
  have requests := drawRequests device
  generalize device.draw = result at requests ⊢
  cases requests with
  | failed goesOn => exact goesOn
  | drawn =>
      exact (Host.goesOn_acquireTexture device.host).trans
        (Host.goesOn_recordAll _ fun request member => silent_of_mem_draw member)

/-! ## Runs -/

theorem goesOn_perform (device : SurfaceDevice) (operation : DeviceOperation) :
    device.host.GoesOn (device.perform operation).host := by
  cases operation with
  | compileStage stage source => exact goesOn_compileStage device stage source
  | linkProgram vertex fragment => exact (isCreated_linkProgram device vertex fragment).1
  | createQuad program position => exact goesOn_createQuad device program position
  | resizeBacking size => exact goesOn_resizeBacking device size
  | setFloat location value =>
      exact .of_log (congrArg Host.log (writeUniform_host device _ _).1)
        (Nat.le_of_eq (congrArg Host.lastObject (writeUniform_host device _ _).1.symm))
  | setPair location first second =>
      exact .of_log (congrArg Host.log (writeUniform_host device _ _).1)
        (Nat.le_of_eq (congrArg Host.lastObject (writeUniform_host device _ _).1.symm))
  | draw => exact goesOn_draw device
  | releaseStage | releaseProgram | releaseGeometry | useProgram | bindQuad | resizeWindow =>
      exact .refl _

/-- A program after an operation is one that there was, or it has just been created. -/
theorem isCreated_perform {device : SurfaceDevice} {operation : DeviceOperation}
    {program : ProgramId} {linked : LinkedProgram}
    (found : (device.perform operation).programs.find? program = some linked) :
    (∃ old, device.programs.find? program = some old ∧ linked.HasObjectsOf old) ∨
      linked.IsCreated (device.perform operation).host := by
  have changed := change device operation
  generalize device.perform operation = next at changed found ⊢
  cases changed with
  | aside _ _ keeps => exact .inl ⟨linked, keeps.programs program linked found, .refl linked⟩
  | @write _ location bytes _ =>
      cases inUse : device.currentProgram with
      | none =>
          simp only [writeUniform, inUse] at found
          exact .inl ⟨linked, found, .refl linked⟩
      | some current =>
          rcases find?_writeUniform inUse found with ⟨old, foundOld, ⟨_, rfl⟩ | ⟨_, rfl⟩⟩
          · exact .inl ⟨old, foundOld, old.hasObjectsOf_write location bytes⟩
          · exact .inl ⟨linked, foundOld, .refl linked⟩
  | link vertex fragment =>
      rcases (isCreated_linkProgram device vertex fragment).2 program linked found with
        before | created
      · exact .inl ⟨linked, before, .refl linked⟩
      · exact .inr created
  | draw =>
      have requests := drawRequests device
      generalize device.draw = result at requests found
      cases requests with
      | failed => exact .inl ⟨linked, found, .refl linked⟩
      | @drawn current old _ live =>
          rcases Table.find?_insert_cases found with ⟨rfl, rfl⟩ | ⟨_, before⟩
          · exact .inl ⟨old, live, old.hasObjectsOf_clean⟩
          · exact .inl ⟨linked, before, .refl linked⟩

/-- Every live program can be traced back to what its objects were created with. -/
def AllCreated (device : SurfaceDevice) : Prop :=
  ∀ program linked, device.programs.find? program = some linked → linked.IsCreated device.host

theorem allCreated_create {host : Host} {windowSize : Size} {device : SurfaceDevice}
    (created : create host windowSize = .ok device) : device.AllCreated := by
  intro program linked found
  rw [(tables_of_create created).2.1] at found
  cases found

theorem AllCreated.after {device : SurfaceDevice} (all : device.AllCreated)
    (operations : List DeviceOperation) : (device.after operations).AllCreated := by
  induction operations generalizing device with
  | nil => exact all
  | cons operation rest induction =>
      refine induction fun program linked found => ?_
      rcases isCreated_perform found with ⟨old, before, same⟩ | created
      · exact (all program old before).goesOn (goesOn_perform device operation) same
      · exact created

end SurfaceDevice

end LiveShader
