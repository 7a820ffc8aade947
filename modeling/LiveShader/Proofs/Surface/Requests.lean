import LiveShader.Proofs.Render.StableRelations
import LiveShader.Proofs.Surface.Creations
import LiveShader.Proofs.Surface.Holdings

/-! # What a surface device asks of its host

Each call of a device comes with requests of its own kinds: some make objects, some configure
the surface, some take a texture from it, and some record a pass. None of them is about the
title of the window. -/

namespace LiveShader

/-- What a request is about. -/
inductive RequestKind where
  | title
  | configuration
  | texture
  | object
  | pass
  | network
  deriving DecidableEq, Repr

def Request.kind : Request → RequestKind
  | .createWindow _ _ | .setTitle _ => .title
  | .configureSurface _ _ => .configuration
  | .acquireTexture => .texture
  | .parseStage _ _ | .createShaderModule _ _ _ _ | .createBindGroupLayout _ _ _
  | .createPipelineLayout _ _ _ | .createPipeline _ _ _ | .createBuffer _ _ _ _
  | .createFilledBuffer _ _ _ _ | .createBindGroup _ _ _ _ => .object
  | .announcePresent | .writeBuffer _ _ _ | .beginPass _ | .setPipeline _ | .setBindGroup _ _
  | .setVertexBuffer _ _ | .drawVertices _ _ | .submit | .present => .pass
  | .post _ _ _ _ => .network

namespace Host

/-- The requests of some kinds so far, oldest first. -/
def asked (host : Host) (kinds : List RequestKind) : List Request :=
  host.log.filter fun request => request.kind ∈ kinds

/-- Whether a host went on with requests of some kinds only. -/
def Asks (before : Host) (kinds : List RequestKind) (after : Host) : Prop :=
  ∃ requests, after.log = before.log ++ requests ∧ ∀ request ∈ requests, request.kind ∈ kinds

variable {before after : Host} {kinds others : List RequestKind}

theorem asks_of_log (log : after.log = before.log) : before.Asks kinds after :=
  ⟨[], log.trans (List.append_nil _).symm, nofun⟩

theorem Asks.refl (host : Host) : host.Asks kinds host :=
  asks_of_log rfl

theorem Asks.trans {first second third : Host} (early : first.Asks kinds second)
    (late : second.Asks kinds third) : first.Asks kinds third := by
  rcases early with ⟨before, log, allowed⟩
  rcases late with ⟨later, laterLog, laterAllowed⟩
  refine ⟨before ++ later, by rw [laterLog, log, List.append_assoc], fun request member => ?_⟩
  exact (List.mem_append.mp member).elim (allowed request) (laterAllowed request)

theorem Asks.mono {more : List RequestKind} (asks : before.Asks kinds after)
    (wider : kinds ⊆ more) : before.Asks more after := by
  rcases asks with ⟨requests, log, allowed⟩
  exact ⟨requests, log, fun request member => wider (allowed request member)⟩

theorem asks_record (host : Host) (request : Request) (allowed : request.kind ∈ kinds) :
    host.Asks kinds (host.record request) :=
  ⟨[request], rfl, fun _ member => List.mem_singleton.mp member ▸ allowed⟩

/-- Nothing was asked of the other kinds. -/
theorem Asks.asked_eq (asks : before.Asks kinds after) (apart : ∀ kind ∈ kinds, kind ∉ others) :
    after.asked others = before.asked others := by
  rcases asks with ⟨requests, log, allowed⟩
  have none : requests.filter (fun request => request.kind ∈ others) = [] := by
    rw [List.filter_eq_nil_iff]
    intro request member
    simpa using apart _ (allowed request member)
  rw [asked, log, List.filter_append, none, List.append_nil]
  rfl

theorem asked_record (host : Host) (request : Request) (among : request.kind ∈ kinds) :
    (host.record request).asked kinds = host.asked kinds ++ [request] := by
  simp [asked, record, among]

theorem asked_acquireTexture (host : Host) (among : .texture ∈ kinds) :
    host.acquireTexture.2.asked kinds = host.asked kinds ++ [.acquireTexture] := by
  simp [asked, log_acquireTexture, Request.kind, among]

theorem asks_parseStage (host : Host) (stage : Stage) (source : String) :
    host.Asks [.object] (host.parseStage stage source).2 := by
  have parsed : host.Asks [.object]
      ({ host with stages := host.stages.next.2 }.record (.parseStage stage source)) :=
    asks_record _ _ (List.mem_singleton.mpr rfl)
  unfold parseStage
  rcases answer : host.stages.next.1 with _ | _ | _ <;> simpa [answer] using parsed

theorem asks_acquireTexture (host : Host) : host.Asks [.texture] host.acquireTexture.2 :=
  ⟨[.acquireTexture], host.log_acquireTexture, by simp [Request.kind]⟩

theorem asks_recordAll {requests : List Request} (host : Host)
    (allowed : ∀ request ∈ requests, request.kind ∈ kinds) :
    host.Asks kinds (host.recordAll requests) :=
  ⟨requests, rfl, allowed⟩

end Host

namespace SurfaceDevice

/-- A new device has configured the surface, to a size that covers its window. -/
theorem log_create {host : Host} {windowSize : Size} {device : SurfaceDevice}
    (created : create host windowSize = .ok device) :
    device.configured = windowSize.atLeastOne ∧
      device.host.log = host.log ++ [.configureSurface device.format windowSize.atLeastOne] := by
  unfold create at created
  simp only at created
  split at created
  case h_1 => cases created
  case h_2 =>
    split at created
    case h_1 => cases created
    case h_2 =>
      split at created
      case h_1 | h_2 => cases created
      case h_3 =>
        cases created
        exact ⟨rfl, rfl⟩

/-! ## Making objects -/

theorem asks_compileStage (device : SurfaceDevice) (stage : Stage) (source : String) :
    device.host.Asks [.object] (device.compileStage stage source).2.host := by
  have parsed := device.host.asks_parseStage stage source
  unfold compileStage
  split
  case h_1 diagnostic host refused =>
    rw [refused] at parsed
    exact parsed
  case h_2 compiled host accepted =>
    rw [accepted] at parsed
    let made := host.allocate.2.record
      (.createShaderModule host.allocate.1 (moduleLabel stage) stage source.utf8ByteSize)
    have created : device.host.Asks [.object] made :=
      parsed.trans (host.allocate.2.asks_record _ (List.mem_singleton.mpr rfl))
    have ended : device.host.Asks [.object] made.endValidation.2 :=
      created.trans (Host.asks_of_log rfl)
    simp only
    split
    case h_1 diagnostic after refused =>
      rw [refused] at ended
      exact ended
    case h_2 after passed =>
      rw [passed] at ended
      exact ended

theorem asks_createQuad (device : SurfaceDevice) (program : ProgramId)
    (position : Option AttributeLocation) :
    device.host.Asks [.object] (device.createQuad program position).2.host := by
  unfold createQuad
  split
  case h_1 => exact .refl _
  case h_2 =>
    let made := device.host.allocate.2.record (.createFilledBuffer device.host.allocate.1
      "zenith quad" (quadCorners.flatMap Single.bytes) .vertex)
    have created : device.host.Asks [.object] made :=
      device.host.allocate.2.asks_record _ (List.mem_singleton.mpr rfl)
    have ended : device.host.Asks [.object] made.endValidation.2 :=
      created.trans (Host.asks_of_log rfl)
    simp only
    split
    case h_1 reason after refused =>
      rw [refused] at ended
      exact ended
    case h_2 after passed =>
      rw [passed] at ended
      exact ended

theorem asks_createGroupLayout (host : Host) (blocks : BlockSizes) :
    host.Asks [.object] (createGroupLayout host blocks).2 := by
  unfold createGroupLayout
  split
  case isTrue => exact .refl host
  case isFalse => exact host.allocate.2.asks_record _ (List.mem_singleton.mpr rfl)

theorem asks_createPipeline (host : Host) (format : TextureFormat)
    (vertex fragment : CompiledStage) (interface : ProgramInterface) :
    host.Asks [.object] (createPipeline host format vertex fragment interface).2 := by
  let grouped := createGroupLayout host interface.blocks
  let laid := grouped.2.allocate.2.record
    (.createPipelineLayout grouped.2.allocate.1 "zenith pipeline layout" grouped.1.toList)
  let done := laid.allocate.2.record (.createPipeline laid.allocate.1 "zenith program" {
    layout := grouped.2.allocate.1
    vertexModule := vertex.shaderModule
    vertexBuffers := vertexBuffers interface
    fragmentModule := fragment.shaderModule
    target := format })
  have layouts : host.Asks [.object] laid := (asks_createGroupLayout host interface.blocks).trans
    (grouped.2.allocate.2.asks_record _ (List.mem_singleton.mpr rfl))
  have pipelines : host.Asks [.object] done :=
    layouts.trans (laid.allocate.2.asks_record _ (List.mem_singleton.mpr rfl))
  have ended : host.Asks [.object] done.endValidation.2 :=
    pipelines.trans (Host.asks_of_log rfl)
  unfold createPipeline
  simp only
  split
  case h_1 diagnostic after refused => exact (congrArg Prod.snd refused : _ = after) ▸ ended
  case h_2 after passed => exact (congrArg Prod.snd passed : _ = after) ▸ ended

theorem asks_createUniformBuffers (host : Host) (blocks : BlockSizes) :
    host.Asks [.object] (createUniformBuffers host blocks).2 := by
  induction blocks generalizing host with
  | nil => exact .refl host
  | cons block rest induction =>
      have first := host.allocate.2.asks_record (.createBuffer host.allocate.1
        "zenith uniform block" (bufferSize block.2) .writtenUniform) (List.mem_singleton.mpr rfl)
      exact first.trans (induction _)

theorem asks_createBindGroup (host : Host) (layout : Option ObjectId)
    (blocks : Table Nat UniformBuffer) :
    host.Asks [.object] (createBindGroup host layout blocks).2 := by
  cases layout with
  | none => exact .refl host
  | some layout => exact host.allocate.2.asks_record _ (List.mem_singleton.mpr rfl)

theorem asks_linkProgram (device : SurfaceDevice) (vertex fragment : StageId) :
    device.host.Asks [.object] (device.linkProgram vertex fragment).2.host := by
  unfold linkProgram
  split
  case h_2 => exact .refl _
  case h_1 first second _ _ =>
    split
    case isFalse => exact .refl _
    case isTrue =>
      split
      case h_1 => exact .refl _
      case h_2 interface _ =>
        have piped := asks_createPipeline device.host device.format first second interface
        split
        case h_1 diagnostic host refused =>
          rw [refused] at piped
          exact piped
        case h_2 pipeline groupLayout host created =>
          rw [created] at piped
          exact (piped.trans (asks_createUniformBuffers host interface.blocks)).trans
            (asks_createBindGroup _ groupLayout _)

/-! ## Sizes, uniforms and draws -/

theorem asks_resizeBacking (device : SurfaceDevice) (size : Size) :
    device.host.Asks [.configuration] (device.resizeBacking size).host := by
  unfold resizeBacking configure
  split
  case isTrue => exact .refl _
  case isFalse => exact device.host.asks_record _ (List.mem_singleton.mpr rfl)

theorem asks_writeUniform (device : SurfaceDevice) (location : UniformLocation)
    (bytes : List UInt8) : device.host.Asks [] (device.writeUniform location bytes).host :=
  Host.asks_of_log (congrArg Host.log (writeUniform_host device location bytes).1)

theorem kind_of_mem_uploadRequests {blocks : Table Nat UniformBuffer} {request : Request}
    (member : request ∈ uploadRequests blocks) : request.kind = .pass := by
  rcases List.mem_map.mp member with ⟨entry, _, rfl⟩
  rfl

theorem kind_of_mem_passRequests {linked : LinkedProgram} {geometry : Option QuadGeometry}
    {request : Request} (member : request ∈ passRequests linked geometry) :
    request.kind = .pass := by
  simp only [passRequests, List.mem_append, List.mem_cons, List.mem_map, Option.mem_toList,
    Option.map_eq_some_iff, List.not_mem_nil, or_false] at member
  rcases member with (((rfl | rfl) | ⟨_, _, rfl⟩) | ⟨_, _, rfl⟩) | rfl | rfl | rfl | rfl <;> rfl

/-- The draw of a live program takes one texture from the surface. What else it asks for
records its pass. -/
theorem asks_draw_of_live {device : SurfaceDevice} {program : ProgramId} {linked : LinkedProgram}
    (inUse : device.currentProgram = some program)
    (live : device.programs.find? program = some linked) :
    device.host.acquireTexture.2.Asks [.pass] device.draw.2.host := by
  simp only [draw, inUse, live]
  split
  case h_1 host acquired | h_2 host acquired | h_3 host acquired =>
    rw [acquired]
    exact .refl _
  case h_4 error host _ _ _ acquired =>
    rw [acquired]
    exact .refl _
  case h_5 host acquired =>
    rw [acquired, upload_eq, drawPass_eq]
    have uploaded : host.Asks [.pass] (host.recordAll (uploadRequests linked.blocks)) :=
      host.asks_recordAll fun _ member =>
        List.mem_singleton.mpr (kind_of_mem_uploadRequests member)
    exact uploaded.trans (Host.asks_recordAll _ fun _ member =>
      List.mem_singleton.mpr (kind_of_mem_passRequests member))

theorem asks_draw (device : SurfaceDevice) :
    device.host.Asks [.texture, .pass] device.draw.2.host := by
  cases inUse : device.currentProgram with
  | none =>
      simp only [draw, inUse]
      exact .refl _
  | some program =>
      cases live : device.programs.find? program with
      | none =>
          simp only [draw, inUse, live]
          exact .refl _
      | some linked =>
          exact (device.host.asks_acquireTexture.mono (by simp)).trans
            ((asks_draw_of_live inUse live).mono (by simp))

/-! ## All calls -/

/-- Making and releasing objects comes with requests for objects only. -/
theorem isBuildStable_asks :
    IsBuildStable fun before after : SurfaceDevice => before.host.Asks [.object] after.host where
  refl device := .refl device.host
  trans early late := early.trans late
  compileStage := asks_compileStage
  releaseStage device _ := .refl device.host
  linkProgram := asks_linkProgram
  releaseProgram device _ := .refl device.host
  createQuad := asks_createQuad
  releaseGeometry device _ := .refl device.host

/-- No call of a device asks for another title. -/
theorem isCallStable_asks :
    IsCallStable fun before after : SurfaceDevice =>
      before.host.Asks [.object, .configuration, .texture, .pass] after.host where
  refl device := .refl device.host
  trans early late := early.trans late
  compileStage device stage source := (asks_compileStage device stage source).mono (by simp)
  releaseStage device _ := .refl device.host
  linkProgram device vertex fragment := (asks_linkProgram device vertex fragment).mono (by simp)
  releaseProgram device _ := .refl device.host
  createQuad device program position := (asks_createQuad device program position).mono (by simp)
  releaseGeometry device _ := .refl device.host
  resizeBacking device size := (asks_resizeBacking device size).mono (by simp)
  useProgram device _ := .refl device.host
  bindQuad device _ := .refl device.host
  setFloat device location value := (asks_writeUniform device location value.bytes).mono (by simp)
  setPair device location first second :=
    (asks_writeUniform device location (first.bytes ++ second.bytes)).mono (by simp)
  draw device := (asks_draw device).mono (by simp)

end SurfaceDevice

end LiveShader
