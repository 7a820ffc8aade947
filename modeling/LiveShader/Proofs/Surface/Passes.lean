import LiveShader.Proofs.Surface.Creations
import LiveShader.Proofs.Surface.Holdings
import LiveShader.Proofs.Surface.Linking
import LiveShader.Proofs.Surface.UniformWrites

/-! # Render passes fit what they use

A pipeline, a bind group, buffers and a quad are created one by one, and each of them from
another part of a program's interface. When a pass is recorded, what it sets is what its
pipeline was created for. -/

namespace LiveShader

/-! ## Draw calls -/

/-- A draw call with all that was set in its pass before. -/
structure DrawCall where
  pipeline : Option ObjectId
  groups : Table Nat ObjectId
  vertexBuffers : Table Nat ObjectId
  deriving DecidableEq, Repr

def DrawCall.empty : DrawCall :=
  { pipeline := none, groups := [], vertexBuffers := [] }

/-- What a pass has come to: what is set, and the calls that were made. -/
structure PassRecord where
  current : DrawCall
  calls : List DrawCall
  deriving DecidableEq, Repr

namespace PassRecord

def process (pass : PassRecord) : Request → PassRecord
  | .beginPass _ => { pass with current := .empty }
  | .setPipeline pipeline =>
      { pass with current := { pass.current with pipeline := some pipeline } }
  | .setBindGroup index group =>
      { pass with current := { pass.current with
        groups := pass.current.groups.insert index group } }
  | .setVertexBuffer slot buffer =>
      { pass with current := { pass.current with
        vertexBuffers := pass.current.vertexBuffers.insert slot buffer } }
  | .drawVertices _ _ => { pass with calls := pass.calls ++ [pass.current] }
  | _ => pass

end PassRecord

/-- The draw calls among some requests. -/
def drawCalls (requests : List Request) : List DrawCall :=
  (requests.foldl PassRecord.process { current := .empty, calls := [] }).calls

namespace SurfaceDevice

/-- What a pass of a program with a quad sets. -/
def passCall (linked : LinkedProgram) (geometry : Option QuadGeometry) : DrawCall where
  pipeline := some linked.pipeline
  groups := linked.bindGroup.toList.map fun group => (0, group)
  vertexBuffers := ((geometry.filter QuadGeometry.feedsPosition).map
    fun geometry => (0, geometry.buffer)).toList

theorem drawCalls_pass (blocks : Table Nat UniformBuffer) (linked : LinkedProgram)
    (geometry : Option QuadGeometry) :
    drawCalls (.acquireTexture :: (uploadRequests blocks ++ passRequests linked geometry)) =
      [passCall linked geometry] := by
  have uploads (pass : PassRecord) :
      (uploadRequests blocks).foldl PassRecord.process pass = pass := by
    unfold uploadRequests
    induction blocks.filter fun entry => entry.2.dirty with
    | nil => rfl
    | cons entry rest induction => exact induction
  rw [drawCalls, List.foldl_cons, List.foldl_append, uploads]
  unfold passRequests passCall
  cases linked.bindGroup with
  | none => rcases geometry with _ | ⟨buffer, _ | _⟩ <;> rfl
  | some group => rcases geometry with _ | ⟨buffer, _ | _⟩ <;> rfl

/-- A draw that does not fail records one call, with the objects of the program in use and
of the quad that is bound. -/
theorem drawCalls_draw {device drawn : SurfaceDevice} (draws : device.draw = (.ok (), drawn)) :
    ∃ program linked recorded, device.currentProgram = some program ∧
      device.programs.find? program = some linked ∧
      drawn.host.log = device.host.log ++ recorded ∧
      drawCalls recorded =
        [passCall linked (device.currentGeometry.bind device.geometries.find?)] := by
  have requests := drawRequests device
  rw [draws] at requests
  cases requests with
  | @drawn program linked inUse live =>
      refine ⟨program, linked, _, inUse, live, ?_, drawCalls_pass linked.blocks linked _⟩
      simp only [Host.recordAll, Host.log_acquireTexture, List.append_assoc, List.singleton_append]

end SurfaceDevice

/-! ## Builds in steps -/

/-- A build that succeeds has compiled two stages, linked them, released them and created a
quad for the position that was found. -/
theorem steps_of_build {Device : Type} [GraphicsDevice Device] {device made : Device}
    {source : String} {bindings : FrameBindings}
    (built : Controller.build device source = (.ok bindings, made)) :
    ∃ pair vertex fragment first second linked, splitStages source = .ok pair ∧
      GraphicsDevice.compileStage device .vertex (Glsl.lower pair).vertex = (.ok vertex, first) ∧
      GraphicsDevice.compileStage first .fragment (Glsl.lower pair).fragment =
        (.ok fragment, second) ∧
      GraphicsDevice.linkProgram second vertex fragment = (.ok bindings.program, linked) ∧
      let released :=
        GraphicsDevice.releaseStage (GraphicsDevice.releaseStage linked vertex) fragment
      GraphicsDevice.createQuad released bindings.program
        (GraphicsDevice.attributeLocation? released bindings.program positionName) =
          (.ok bindings.geometry, made) := by
  unfold Controller.build at built
  cases splits : splitStages source with
  | error error => simp [splits] at built
  | ok pair =>
      rcases compiled : GraphicsDevice.compileStage device .vertex (Glsl.lower pair).vertex with
        ⟨_ | vertex, first⟩
      case error => simp [splits, buildProgram, compiled] at built
      case ok =>
        rcases both : GraphicsDevice.compileStage first .fragment (Glsl.lower pair).fragment with
          ⟨_ | fragment, second⟩
        case error => simp [splits, buildProgram, compiled, both] at built
        case ok =>
          rcases links : GraphicsDevice.linkProgram second vertex fragment with
            ⟨_ | program, linked⟩
          case error => simp [splits, buildProgram, compiled, both, linkStages, links] at built
          case ok =>
            let released := GraphicsDevice.releaseStage
              (GraphicsDevice.releaseStage linked vertex) fragment
            rcases quad : GraphicsDevice.createQuad released program
              (GraphicsDevice.attributeLocation? released program positionName) with
              ⟨_ | geometry, after⟩
            case error =>
              simp [splits, buildProgram, compiled, both, linkStages, links, resolveBindings,
                released, quad] at built
            case ok =>
              simp only [splits, buildProgram, compiled, both, linkStages, links,
                resolveBindings] at built
              rw [quad] at built
              cases built
              exact ⟨pair, vertex, fragment, first, second, linked, rfl, compiled, both, links,
                quad⟩

namespace SurfaceDevice

variable {device next made : SurfaceDevice}

theorem after_append (device : SurfaceDevice) (early late : List DeviceOperation) :
    device.after (early ++ late) = (device.after early).after late :=
  List.foldl_append

/-- A stage that compiles shows what the front end has made of it, under the next number. -/
theorem stages_of_compileStage {stage : Stage} {source : String} {made : StageId}
    (compiles : device.compileStage stage source = (.ok made, next)) :
    ∃ compiled shaderModule, (device.host.parseStage stage source).1 = .ok compiled ∧
      made = { number := device.lastNumber + 1 } ∧ next.lastNumber = device.lastNumber + 1 ∧
      next.stages = device.stages.insert made
        { stage, shaderModule, interface := .ofModule compiled } := by
  unfold compileStage at compiles
  split at compiles
  case h_1 => cases compiles
  case h_2 compiled host accepted =>
    simp only at compiles
    split at compiles
    case h_1 => cases compiles
    case h_2 after passed =>
      cases compiles
      exact ⟨compiled, host.allocate.1, by rw [accepted], rfl, rfl, rfl⟩

theorem programs_of_linkProgram {vertex fragment : StageId} {program : ProgramId}
    (links : device.linkProgram vertex fragment = (.ok program, next)) :
    ∃ first second linked, device.stages.find? vertex = some first ∧
      device.stages.find? fragment = some second ∧
      ProgramInterface.link first.interface second.interface = .ok linked.interface ∧
      next.programs.find? program = some linked ∧ program.number ≤ next.lastNumber := by
  have outcome := linkOutcome device vertex fragment
  rw [links] at outcome
  cases outcome with
  | @linked first second linked _ vertexStage fragmentStage interface =>
      exact ⟨first, second, linked, vertexStage, fragmentStage, interface,
        by rw [Table.find?_insert, if_pos rfl], Nat.le_refl _⟩

/-- A quad that is created is told whether it feeds the position, under the next number. -/
theorem geometries_createQuad (device : SurfaceDevice) (program : ProgramId)
    (position : Option AttributeLocation) :
    Attempted (fun after => after.geometries = device.geometries)
      (fun made after => made = { number := device.lastNumber + 1 } ∧
        after.lastNumber = device.lastNumber + 1 ∧ ∃ buffer, after.geometries =
          device.geometries.insert made { buffer, feedsPosition := position.isSome })
      (device.createQuad program position) := by
  unfold createQuad
  split
  case h_1 => rfl
  case h_2 =>
    simp only
    split
    case h_1 => rfl
    case h_2 after passed => exact ⟨rfl, rfl, device.host.allocate.1, rfl⟩

/-- A program that is linked from two stages right after they were compiled is that of what
the front end has made of them. -/
theorem link_of_compiled {first second : SurfaceDevice} {vertexSource fragmentSource : String}
    {vertex fragment : StageId} {program : ProgramId}
    (compiled : device.compileStage .vertex vertexSource = (.ok vertex, first))
    (both : first.compileStage .fragment fragmentSource = (.ok fragment, second))
    (links : second.linkProgram vertex fragment = (.ok program, next)) :
    ∃ vertexModule fragmentModule linked,
      (device.host.parseStage .vertex vertexSource).1 = .ok vertexModule ∧
      (first.host.parseStage .fragment fragmentSource).1 = .ok fragmentModule ∧
      vertexModule.link fragmentModule = .ok linked.interface ∧
      next.programs.find? program = some linked ∧ program.number ≤ next.lastNumber := by
  rcases stages_of_compileStage compiled with
    ⟨vertexModule, vertexObject, vertexParsed, vertexNumber, firstNumber, firstStages⟩
  rcases stages_of_compileStage both with
    ⟨fragmentModule, fragmentObject, fragmentParsed, fragmentNumber, _, secondStages⟩
  rcases programs_of_linkProgram links with
    ⟨vertexStage, fragmentStage, linked, vertexFound, fragmentFound, interface, live, known⟩
  have different : fragment ≠ vertex := by
    rw [vertexNumber, fragmentNumber, firstNumber]
    simp
  rw [secondStages, Table.find?_insert, if_neg different, firstStages, Table.find?_insert,
    if_pos rfl] at vertexFound
  rw [secondStages, Table.find?_insert, if_pos rfl] at fragmentFound
  cases vertexFound
  cases fragmentFound
  exact ⟨vertexModule, fragmentModule, linked, vertexParsed, fragmentParsed, interface, live, known⟩

/-! ### Quads over runs -/

theorem geometries_compileStage (device : SurfaceDevice) (stage : Stage) (source : String) :
    (device.compileStage stage source).2.geometries = device.geometries := by
  unfold compileStage
  split
  case h_1 => rfl
  case h_2 =>
    simp only
    split <;> rfl

theorem geometries_linkProgram (device : SurfaceDevice) (vertex fragment : StageId) :
    (device.linkProgram vertex fragment).2.geometries = device.geometries := by
  have outcome := linkOutcome device vertex fragment
  generalize device.linkProgram vertex fragment = result at outcome
  cases outcome <;> rfl

/-- A quad stays as it is as long as it is held, and its number is never given again. -/
theorem geometry_perform {operation : DeviceOperation} {geometry : GeometryId}
    {quad : QuadGeometry} (known : geometry.number ≤ device.lastNumber)
    (found : (device.perform operation).geometries.find? geometry = some quad) :
    device.geometries.find? geometry = some quad := by
  cases operation with
  | compileStage stage source => rwa [perform, geometries_compileStage] at found
  | linkProgram vertex fragment => rwa [perform, geometries_linkProgram] at found
  | createQuad program position =>
      have created := geometries_createQuad device program position
      rw [perform] at found
      rcases attempt : device.createQuad program position with ⟨_ | other, next⟩
      case error =>
        rw [attempt] at created found
        rwa [show next.geometries = device.geometries from created] at found
      case ok =>
        rw [attempt] at created found
        rcases created with ⟨rfl, _, buffer, inserted⟩
        rw [inserted] at found
        rcases Table.find?_insert_cases found with ⟨rfl, _⟩ | ⟨_, before⟩
        · exact absurd known (Nat.not_succ_le_self _)
        · exact before
  | releaseGeometry other =>
      rw [perform, releaseGeometry, Table.find?_erase] at found
      split at found
      case isTrue => cases found
      case isFalse => exact found
  | setFloat location value =>
      rcases writeUniform_eq device location value.bytes with ⟨programs, written, _⟩
      exact (congrArg SurfaceDevice.geometries written) ▸ found
  | setPair location first second =>
      rcases writeUniform_eq device location (first.bytes ++ second.bytes) with
        ⟨programs, written, _⟩
      exact (congrArg SurfaceDevice.geometries written) ▸ found
  | draw => exact (sameHoldings_draw device).geometries ▸ found
  | resizeBacking size => exact (sameHoldings_resizeBacking device size).geometries ▸ found
  | releaseStage | releaseProgram | useProgram | bindQuad | resizeWindow => exact found

theorem geometry_after {operations : List DeviceOperation} {geometry : GeometryId}
    {quad : QuadGeometry} (known : geometry.number ≤ device.lastNumber)
    (found : (device.after operations).geometries.find? geometry = some quad) :
    device.geometries.find? geometry = some quad := by
  induction operations generalizing device with
  | nil => exact found
  | cons operation rest induction =>
      exact geometry_perform known
        (induction (Nat.le_trans known (lastNumber_perform device operation)) found)

/-! ## What comes of a build -/

/-- The compiled stages that the front end makes of a source, one after the other. -/
def Reads (device : SurfaceDevice) (source : String) (vertex fragment : ShaderModule) : Prop :=
  ∃ pair, splitStages source = .ok pair ∧
    (device.host.parseStage .vertex (Glsl.lower pair).vertex).1 = .ok vertex ∧
    ((device.compileStage .vertex (Glsl.lower pair).vertex).2.host.parseStage .fragment
      (Glsl.lower pair).fragment).1 = .ok fragment

/-- A program and a quad that were built together, and the interface that both are for. -/
structure IsBuilt (made : SurfaceDevice) (bindings : FrameBindings)
    (interface : ProgramInterface) : Prop where
  program : ∀ late linked, (made.after late).programs.find? bindings.program = some linked →
    linked.interface = interface
  geometry : ∃ buffer, made.geometries.find? bindings.geometry =
    some { buffer, feedsPosition := (interface.attributes.find? positionName).isSome }
  numbered : bindings.geometry.number ≤ made.lastNumber

theorem isBuilt_of_build {source : String} {bindings : FrameBindings}
    (built : Controller.build device source = (.ok bindings, made)) :
    ∃ operations vertex fragment interface, made = device.after operations ∧
      device.Reads source vertex fragment ∧ vertex.link fragment = .ok interface ∧
      made.IsBuilt bindings interface := by
  rcases steps_of_build built with
    ⟨pair, vertex, fragment, first, second, linked, splits, compiled, both, links, quad⟩
  rcases link_of_compiled compiled both links with
    ⟨vertexModule, fragmentModule, program, vertexParsed, fragmentParsed, interface, live, known⟩
  let position := linked.attributeLocation? bindings.program positionName
  let released := (linked.releaseStage vertex).releaseStage fragment
  have quad : released.createQuad bindings.program position = (.ok bindings.geometry, made) := quad
  have created := geometries_createQuad released bindings.program position
  rw [quad] at created
  rcases created with ⟨number, last, buffer, geometries⟩
  have compiledFirst : (device.compileStage .vertex (Glsl.lower pair).vertex).2 = first :=
    congrArg Prod.snd compiled
  have compiledSecond : (first.compileStage .fragment (Glsl.lower pair).fragment).2 = second :=
    congrArg Prod.snd both
  have linkedLast : (second.linkProgram vertex fragment).2 = linked := congrArg Prod.snd links
  have fromLinked : made = linked.after [.releaseStage vertex, .releaseStage fragment,
      .createQuad bindings.program position] :=
    (congrArg Prod.snd quad).symm
  have reached : made = device.after ([.compileStage .vertex (Glsl.lower pair).vertex,
      .compileStage .fragment (Glsl.lower pair).fragment, .linkProgram vertex fragment] ++
      [.releaseStage vertex, .releaseStage fragment, .createQuad bindings.program position]) := by
    rw [after_append, fromLinked]
    simp only [after_cons, after_nil, perform, compiledFirst, compiledSecond, linkedLast]
  refine ⟨_, vertexModule, fragmentModule, program.interface, reached,
    ⟨pair, splits, vertexParsed, compiledFirst ▸ fragmentParsed⟩, interface, ?_, ⟨buffer, ?_⟩, ?_⟩
  · intro late later found
    rw [fromLinked, ← after_append] at found
    rcases interface_after known found with ⟨old, foundOld, same⟩
    rw [live] at foundOld
    cases foundOld
    exact same
  · have asked : position.isSome = (program.interface.attributes.find? positionName).isSome := by
      simp only [position, attributeLocation?, live, Option.isSome_map]
    rw [geometries, Table.find?_insert, if_pos rfl, asked]
  · exact Nat.le_of_eq ((congrArg GeometryId.number number).trans last.symm)

end SurfaceDevice

/-! ## Fitting together -/

/-- Whether the buffer at a binding is one that a driver takes for all that is declared
there. -/
structure BufferFits (binding size : Nat) (declared : List LayoutEntry) (sizes : BlockSizes) :
    Prop where
  positive : 0 < size
  aligned : 16 ∣ size
  stages : ∀ block ∈ sizes, block.1 = binding → block.2 ≤ size
  layout : ∀ entry ∈ declared, entry.binding = binding → entry.minimalSize ≤ size

/-- Whether the entries of a bind group are those of its layout and of its program, each with
a buffer that fits. -/
structure GroupFits (host : Host) (linked : LinkedProgram) (vertex fragment : ShaderModule)
    (declared : List LayoutEntry) (entries : List (Nat × ObjectId)) : Prop where
  layout : entries.map Prod.fst = declared.map LayoutEntry.binding
  program : entries = linked.entries
  distinct : (entries.map Prod.fst).Nodup
  stages : ∀ binding, binding ∈ entries.map Prod.fst ↔
    binding ∈ (vertex.blocks ++ fragment.blocks).map Prod.fst
  buffers : ∀ entry ∈ entries, ∃ size,
    host.creation? entry.2 =
      some (.createBuffer entry.2 "zenith uniform block" size .writtenUniform) ∧
    BufferFits entry.1 size declared (vertex.blocks ++ fragment.blocks)

/-- Whether a draw call has set what its pipeline was created for, and nothing else. -/
structure DrawCall.Fits (call : DrawCall) (host : Host) (linked : LinkedProgram)
    (vertex fragment : ShaderModule) (descriptor : PipelineDescriptor)
    (layouts : List ObjectId) : Prop where
  pipeline : call.pipeline = some linked.pipeline ∧ host.creation? linked.pipeline =
    some (.createPipeline linked.pipeline "zenith program" descriptor)
  layout : host.creation? descriptor.layout =
    some (.createPipelineLayout descriptor.layout "zenith pipeline layout" layouts)
  /-- The slots with a vertex buffer are those that the pipeline declares. -/
  slots : call.vertexBuffers.map Prod.fst = List.range descriptor.vertexBuffers.length
  /-- The sets with a bind group are those of the pipeline's layout. -/
  sets : call.groups.map Prod.fst = List.range layouts.length
  bare : layouts = [] → linked.entries = []
  groups : ∀ index group, (index, group) ∈ call.groups → ∃ layout declared entries,
    layouts[index]? = some layout ∧
    host.creation? layout =
      some (.createBindGroupLayout layout "zenith uniform layout" declared) ∧
    host.creation? group =
      some (.createBindGroup group "zenith uniform bind group" layout entries) ∧
    GroupFits host linked vertex fragment declared entries

theorem BlockSizes.le_of_largest? {sizes : BlockSizes} {binding largest : Nat}
    (found : sizes.largest? binding = some largest) {block : Nat × Nat} (member : block ∈ sizes)
    (same : block.1 = binding) : block.2 ≤ largest := by
  refine (List.max?_eq_some_iff.mp found).2 block.2 (List.mem_map_of_mem ?_)
  simp [member, same]

namespace LinkedProgram

variable {host : Host} {linked : LinkedProgram} {blocks : BlockSizes}
variable {entries : List (Nat × ObjectId)} {vertex fragment : ShaderModule}

theorem keys_of_forall₂_bufferFor (buffers : List.Forall₂ (BufferFor host) blocks entries) :
    entries.map Prod.fst = blocks.map Prod.fst := by
  induction buffers with
  | nil => rfl
  | cons first _ induction => rw [List.map_cons, List.map_cons, induction, first.binding]

theorem exists_bufferFor (buffers : List.Forall₂ (BufferFor host) blocks entries)
    {entry : Nat × ObjectId} (member : entry ∈ entries) :
    ∃ block ∈ blocks, BufferFor host block entry := by
  induction buffers with
  | nil => cases member
  | cons first _ induction =>
      rcases List.mem_cons.mp member with rfl | later
      · exact ⟨_, .head _, first⟩
      · rcases induction later with ⟨block, known, made⟩
        exact ⟨block, .tail _ known, made⟩

theorem bufferSize_fits (blockSize : Nat) :
    0 < SurfaceDevice.bufferSize blockSize ∧ 16 ∣ SurfaceDevice.bufferSize blockSize ∧
      blockSize ≤ SurfaceDevice.bufferSize blockSize := by
  have rounded : SurfaceDevice.bufferSize blockSize = (max blockSize 1 + 15) / 16 * 16 := rfl
  omega

/-- The bind group of a linked program fits it and both of its stages. -/
theorem groupFits (union : ShaderModule.IsUnion vertex fragment linked.interface)
    (buffers : List.Forall₂ (BufferFor host) linked.interface.blocks linked.entries) :
    GroupFits host linked vertex fragment
      (linked.interface.blocks.map fun block => { binding := block.1, minimalSize := block.2 })
      linked.entries := by
  have keys := keys_of_forall₂_bufferFor buffers
  have map : Table.IsMap linked.interface.blocks := union.ascending.isMap
  have bindings (binding : Nat) : binding ∈ linked.entries.map Prod.fst ↔
      binding ∈ (vertex.blocks ++ fragment.blocks).map Prod.fst := by
    rw [keys, ← Table.isSome_find?_iff, union.blocks, BlockSizes.isSome_largest?_iff]
  refine ⟨?_, rfl, ?_, bindings, fun entry member => ?_⟩
  · rw [keys, List.map_map]
    rfl
  · rw [keys]
    exact map
  · rcases exists_bufferFor buffers member with ⟨block, known, made⟩
    rcases bufferSize_fits block.2 with ⟨positive, aligned, holds⟩
    have found : Table.find? linked.interface.blocks block.1 = some block.2 :=
      map.find?_iff_mem.mpr known
    refine ⟨_, made.buffer.creation, positive, aligned, ?_, ?_⟩
    · intro declared inside same
      rw [union.blocks] at found
      exact Nat.le_trans
        (BlockSizes.le_of_largest? found inside (same.trans made.binding)) holds
    · intro declared inside same
      rcases List.mem_map.mp inside with ⟨other, otherKnown, rfl⟩
      have otherFound := map.find?_iff_mem.mpr otherKnown
      have equal : other.1 = block.1 := same.trans made.binding
      rw [equal, found] at otherFound
      exact Nat.le_trans (Nat.le_of_eq (Option.some.inj otherFound).symm) holds

/-- A pass of a linked program with a quad that was made for it fits what both were created
for. -/
theorem CreatedWith.fits {descriptor : PipelineDescriptor} {groupLayout : Option ObjectId}
    {quad : QuadGeometry} (created : linked.CreatedWith host descriptor groupLayout)
    (union : ShaderModule.IsUnion vertex fragment linked.interface)
    (feeds : quad.feedsPosition = (linked.interface.attributes.find? positionName).isSome) :
    (SurfaceDevice.passCall linked (some quad)).Fits host linked vertex fragment descriptor
      groupLayout.toList where
  pipeline := ⟨rfl, created.pipeline.creation⟩
  layout := created.layout.creation
  slots := by
    rw [created.vertexBuffers]
    cases position : linked.interface.attributes.find? positionName <;>
      simp [SurfaceDevice.passCall, SurfaceDevice.vertexBuffers, feeds, position,
        Option.filter_some]
  sets := by
    cases layout : groupLayout with
    | none => simp [SurfaceDevice.passCall, (created.bare layout).1]
    | some object =>
        rcases (created.grouped object layout).2 with ⟨group, bound, _⟩
        simp [SurfaceDevice.passCall, bound]
  bare := by
    intro without
    cases layout : groupLayout with
    | none =>
        have buffers := created.buffers
        rw [(created.bare layout).2] at buffers
        cases empty : linked.entries with
        | nil => rfl
        | cons => rw [empty] at buffers; cases buffers
    | some object => simp [layout] at without
  groups := by
    intro index group member
    cases layout : groupLayout with
    | none => simp [SurfaceDevice.passCall, (created.bare layout).1] at member
    | some object =>
        rcases created.grouped object layout with ⟨madeLayout, other, bound, madeGroup⟩
        simp only [SurfaceDevice.passCall, bound, Option.toList_some, List.map_cons, List.map_nil,
          List.mem_singleton, Prod.mk.injEq] at member
        rcases member with ⟨rfl, rfl⟩
        exact ⟨object, _, linked.entries, rfl, madeLayout.creation, madeGroup.creation,
          groupFits union created.buffers⟩

end LinkedProgram

namespace SurfaceDevice

/-- After a build, and whatever is done in between, a draw of the program with its quad
records one call, which has set what its pipeline was created for. -/
theorem drawn_pass_fits {host : Host} {windowSize : Size} {first made drawn : SurfaceDevice}
    {early later : List DeviceOperation} {source : String} {bindings : FrameBindings}
    (created : create host windowSize = .ok first)
    (built : Controller.build (first.after early) source = (.ok bindings, made))
    (inUse : (made.after later).currentProgram = some bindings.program)
    (bound : (made.after later).currentGeometry = some bindings.geometry)
    (held : ((made.after later).geometries.find? bindings.geometry).isSome)
    (draws : (made.after later).draw = (.ok (), drawn)) :
    ∃ vertex fragment linked recorded call descriptor layouts,
      (first.after early).Reads source vertex fragment ∧
      (made.after later).programs.find? bindings.program = some linked ∧
      drawn.host.log = (made.after later).host.log ++ recorded ∧ drawCalls recorded = [call] ∧
      call.Fits drawn.host linked vertex fragment descriptor layouts := by
  rcases isBuilt_of_build built with
    ⟨operations, vertex, fragment, interface, reached, reads, links, isBuilt⟩
  rcases drawCalls_draw draws with ⟨program, linked, recorded, chosen, live, log, calls⟩
  rw [inUse] at chosen
  cases chosen
  have same : linked.interface = interface := isBuilt.program later linked live
  have union := ShaderModule.isUnion_of_link links
  rw [← same] at union
  rcases Option.isSome_iff_exists.mp held with ⟨quad, found⟩
  rcases isBuilt.geometry with ⟨buffer, quadMade⟩
  have quadKept := geometry_after isBuilt.numbered found
  rw [quadMade, ← same] at quadKept
  have feeds : quad.feedsPosition = (linked.interface.attributes.find? positionName).isSome := by
    cases quadKept
    rfl
  have all : (made.after later).AllCreated := by
    rw [reached, ← after_append, ← after_append]
    exact (allCreated_create created).after _
  have goesOn := goesOn_draw (made.after later)
  rw [draws] at goesOn
  rcases (all _ linked live).goesOn goesOn (.refl linked) with ⟨descriptor, groupLayout, creation⟩
  rw [bound, Option.bind_some, found] at calls
  exact ⟨vertex, fragment, linked, recorded, _, descriptor, _, reads, live, log, calls,
    creation.fits union feeds⟩

theorem eq_ok_of_toOption {Error Value : Type} {result : Except Error Value} {value : Value}
    (found : result.toOption = some value) : result = .ok value := by
  cases result <;> cases found
  rfl

/-- A vertex stage that takes the corners and has a uniform block. -/
def corneredModule : ShaderModule :=
  { blockModule "resolution" 0 (.vector 2 4) with
    entryPoints := [{ arguments := [{ name := positionName, location := some 0 }] }] }

theorem drawn_pass_fits_corners :
    let source := "// VERTEX SHADER\n#version 450\n// FRAGMENT SHADER\n#version 450"
    let first := scriptedDevice [] [some (.accepted corneredModule),
      some (.accepted (blockModule "time" 1 (.array 5 4)))]
    let bindings : FrameBindings := {
      program := { number := 3 }
      geometry := { number := 4 }
      position := some { number := 0 }
      time := some { binding := 1, offset := 0 }
      resolution := some { binding := 0, offset := 0 } }
    let made := (Controller.build (first.after []) source).2
    let device := made.after [.useProgram bindings.program, .bindQuad bindings.geometry]
    Controller.build (first.after []) source = (.ok bindings, made) ∧
      device.draw = (.ok (), device.draw.2) ∧
      ∃ vertex fragment linked recorded call descriptor layouts,
        (first.after []).Reads source vertex fragment ∧
        device.programs.find? bindings.program = some linked ∧
        device.draw.2.host.log = device.host.log ++ recorded ∧ drawCalls recorded = [call] ∧
        call.Fits device.draw.2.host linked vertex fragment descriptor layouts := by
  intro source first bindings made device
  have built : Controller.build (first.after []) source = (.ok bindings, made) :=
    Prod.ext (eq_ok_of_toOption (by decide +kernel)) rfl
  have draws : device.draw = (.ok (), device.draw.2) :=
    Prod.ext (eq_ok_of_toOption (by decide +kernel)) rfl
  have inUse : device.currentProgram = some bindings.program := by decide +kernel
  have bound : device.currentGeometry = some bindings.geometry := by decide +kernel
  have held : (device.geometries.find? bindings.geometry).isSome := by decide +kernel
  exact ⟨built, draws, drawn_pass_fits (create_scriptedHost _ _) built inUse bound held draws⟩

end SurfaceDevice

end LiveShader
