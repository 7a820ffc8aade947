import LiveShader.Proofs.Render.StableRelations
import LiveShader.Proofs.Surface.Transition

/-! # What a surface device holds

A device holds what its three tables list. Whatever is new has a number that nothing had
before, so making something adds it at the end of a table, and releasing it takes away
nothing else. -/

namespace LiveShader

/-- Taking away what was added last, and only there, gives the list back. -/
theorem filter_append_of_not_mem {Name : Type} [DecidableEq Name] {names : List Name} {name : Name}
    (fresh : name ∉ names) : (names ++ [name]).filter (· ≠ name) = names := by
  rw [List.filter_append, List.filter_eq_self.mpr]
  · simp
  · intro other member
    simpa using fun same : other = name => fresh (same ▸ member)

theorem filter_cons_of_not_mem {Name : Type} [DecidableEq Name] {names : List Name} {name : Name}
    (absent : name ∉ names) : (name :: names).filter (· ≠ name) = names := by
  rw [List.filter_cons_of_neg (by simp), List.filter_eq_self]
  intro other member
  simpa using fun same : other = name => absent (same ▸ member)

/-- A name with the next number is new. -/
theorem numbered_snoc {Name : Type} {number : Name → Nat} {names : List Name} {last : Nat}
    {made : Name} (known : ∀ name ∈ names, number name ≤ last) (next : number made = last + 1) :
    made ∉ names ∧ ∀ name ∈ names ++ [made], number name ≤ last + 1 := by
  constructor
  · intro member
    have below := known made member
    omega
  · intro name member
    rcases List.mem_append.mp member with among | same
    · exact Nat.le_succ_of_le (known name among)
    · rw [List.mem_singleton.mp same]
      exact Nat.le_of_eq next

/-- What the outcome of an attempt is: one thing holds after a failure, and another of what
was made. -/
def Attempted {Device Error Made : Type} (failed : Device → Prop)
    (made : Made → Device → Prop) : Except Error Made × Device → Prop
  | (.error _, after) => failed after
  | (.ok result, after) => made result after

/-- The error of a draw that gets no texture. -/
def AcquireError.drawError : AcquireError → DrawError
  | .lost | .outdated => .surfaceLost
  | .timeout => .surfaceTimeout
  | error => .fatal (.surface error.message)

namespace SurfaceDevice

variable {device next : SurfaceDevice}
variable {stages : List StageId} {programs : List ProgramId} {geometries : List GeometryId}

/-- A device holds these stages, programs and quads, and nothing else. -/
structure Holds (device : SurfaceDevice) (stages : List StageId) (programs : List ProgramId)
    (geometries : List GeometryId) : Prop where
  stageKeys : device.stages.map Prod.fst = stages
  programKeys : device.programs.map Prod.fst = programs
  geometryKeys : device.geometries.map Prod.fst = geometries
  stageNumbers : ∀ stage ∈ stages, stage.number ≤ device.lastNumber
  programNumbers : ∀ program ∈ programs, program.number ≤ device.lastNumber
  geometryNumbers : ∀ geometry ∈ geometries, geometry.number ≤ device.lastNumber

theorem holds_create {host : Host} {windowSize : Size}
    (created : create host windowSize = .ok device) : device.Holds [] [] [] := by
  rcases tables_of_create created with ⟨stages, programs, geometries⟩
  refine ⟨?_, ?_, ?_, ?_, ?_, ?_⟩ <;> simp [stages, programs, geometries]

/-- A device keeps what it holds. What its programs hold may change. -/
structure SameHoldings (device next : SurfaceDevice) : Prop where
  stages : next.stages = device.stages
  programKeys : next.programs.map Prod.fst = device.programs.map Prod.fst
  geometries : next.geometries = device.geometries
  lastNumber : next.lastNumber = device.lastNumber

theorem SameHoldings.refl (device : SurfaceDevice) : device.SameHoldings device :=
  ⟨rfl, rfl, rfl, rfl⟩

theorem SameHoldings.trans {last : SurfaceDevice} (first : device.SameHoldings next)
    (second : next.SameHoldings last) : device.SameHoldings last :=
  ⟨second.stages.trans first.stages, second.programKeys.trans first.programKeys,
    second.geometries.trans first.geometries, second.lastNumber.trans first.lastNumber⟩

namespace Holds

theorem transfer (holds : device.Holds stages programs geometries)
    (same : device.SameHoldings next) : next.Holds stages programs geometries where
  stageKeys := by rw [same.stages, holds.stageKeys]
  programKeys := by rw [same.programKeys, holds.programKeys]
  geometryKeys := by rw [same.geometries, holds.geometryKeys]
  stageNumbers := same.lastNumber ▸ holds.stageNumbers
  programNumbers := same.lastNumber ▸ holds.programNumbers
  geometryNumbers := same.lastNumber ▸ holds.geometryNumbers

/-! ## Making something -/

theorem addStage (holds : device.Holds stages programs geometries) (host : Host)
    (compiled : CompiledStage) :
    { number := device.lastNumber + 1 } ∉ stages ∧
      Holds { device with
        host
        lastNumber := device.lastNumber + 1
        stages := device.stages.insert { number := device.lastNumber + 1 } compiled }
        (stages ++ [{ number := device.lastNumber + 1 }]) programs geometries := by
  rcases numbered_snoc holds.stageNumbers rfl with ⟨fresh, numbered⟩
  refine ⟨fresh, ?_, holds.programKeys, holds.geometryKeys, numbered,
    fun program known => Nat.le_succ_of_le (holds.programNumbers program known),
    fun geometry known => Nat.le_succ_of_le (holds.geometryNumbers geometry known)⟩
  rw [← holds.stageKeys] at fresh ⊢
  exact Table.keys_insert_of_fresh fresh compiled

theorem addProgram (holds : device.Holds stages programs geometries) (host : Host)
    (linked : LinkedProgram) :
    { number := device.lastNumber + 1 } ∉ programs ∧
      Holds { device with
        host
        lastNumber := device.lastNumber + 1
        programs := device.programs.insert { number := device.lastNumber + 1 } linked }
        stages (programs ++ [{ number := device.lastNumber + 1 }]) geometries := by
  rcases numbered_snoc holds.programNumbers rfl with ⟨fresh, numbered⟩
  refine ⟨fresh, holds.stageKeys, ?_, holds.geometryKeys,
    fun stage known => Nat.le_succ_of_le (holds.stageNumbers stage known), numbered,
    fun geometry known => Nat.le_succ_of_le (holds.geometryNumbers geometry known)⟩
  rw [← holds.programKeys] at fresh ⊢
  exact Table.keys_insert_of_fresh fresh linked

theorem addGeometry (holds : device.Holds stages programs geometries) (host : Host)
    (quad : QuadGeometry) :
    { number := device.lastNumber + 1 } ∉ geometries ∧
      Holds { device with
        host
        lastNumber := device.lastNumber + 1
        geometries := device.geometries.insert { number := device.lastNumber + 1 } quad }
        stages programs (geometries ++ [{ number := device.lastNumber + 1 }]) := by
  rcases numbered_snoc holds.geometryNumbers rfl with ⟨fresh, numbered⟩
  refine ⟨fresh, holds.stageKeys, holds.programKeys, ?_,
    fun stage known => Nat.le_succ_of_le (holds.stageNumbers stage known),
    fun program known => Nat.le_succ_of_le (holds.programNumbers program known), numbered⟩
  rw [← holds.geometryKeys] at fresh ⊢
  exact Table.keys_insert_of_fresh fresh quad

/-- A failure leaves a device as it was, and a success adds one stage. -/
theorem compileStage (holds : device.Holds stages programs geometries) (stage : Stage)
    (source : String) :
    Attempted (fun after => after.Holds stages programs geometries)
      (fun made after => made ∉ stages ∧ after.Holds (stages ++ [made]) programs geometries)
      (device.compileStage stage source) := by
  unfold SurfaceDevice.compileStage
  split
  case h_1 => exact holds.transfer ⟨rfl, rfl, rfl, rfl⟩
  case h_2 compiled host accepted =>
    simp only
    split
    case h_1 => exact holds.transfer ⟨rfl, rfl, rfl, rfl⟩
    case h_2 after passed => exact holds.addStage after _

theorem linkProgram (holds : device.Holds stages programs geometries)
    (vertex fragment : StageId) :
    Attempted (fun after => after.Holds stages programs geometries)
      (fun made after => made ∉ programs ∧ after.Holds stages (programs ++ [made]) geometries)
      (device.linkProgram vertex fragment) := by
  unfold SurfaceDevice.linkProgram
  split
  case h_2 => exact holds
  case h_1 first second _ _ =>
    split
    case isFalse => exact holds
    case isTrue =>
      split
      case h_1 => exact holds
      case h_2 interface _ =>
        split
        case h_1 => exact holds.transfer ⟨rfl, rfl, rfl, rfl⟩
        case h_2 => exact holds.addProgram _ _

theorem createQuad (holds : device.Holds stages programs geometries) (program : ProgramId)
    (position : Option AttributeLocation) :
    Attempted (fun after => after.Holds stages programs geometries)
      (fun made after => made ∉ geometries ∧ after.Holds stages programs (geometries ++ [made]))
      (device.createQuad program position) := by
  unfold SurfaceDevice.createQuad
  split
  case h_1 => exact holds
  case h_2 =>
    simp only
    split
    case h_1 => exact holds.transfer ⟨rfl, rfl, rfl, rfl⟩
    case h_2 => exact holds.addGeometry _ _

/-! ## Releasing something -/

theorem releaseStage (holds : device.Holds stages programs geometries) (stage : StageId) :
    (device.releaseStage stage).Holds (stages.filter (· ≠ stage)) programs geometries where
  stageKeys := by rw [← holds.stageKeys, SurfaceDevice.releaseStage, Table.keys_erase]
  programKeys := holds.programKeys
  geometryKeys := holds.geometryKeys
  stageNumbers other member := holds.stageNumbers other (List.mem_filter.mp member).1
  programNumbers := holds.programNumbers
  geometryNumbers := holds.geometryNumbers

theorem releaseProgram (holds : device.Holds stages programs geometries) (program : ProgramId) :
    (device.releaseProgram program).Holds stages (programs.filter (· ≠ program)) geometries where
  stageKeys := holds.stageKeys
  programKeys := by rw [← holds.programKeys, SurfaceDevice.releaseProgram, Table.keys_erase]
  geometryKeys := holds.geometryKeys
  stageNumbers := holds.stageNumbers
  programNumbers other member := holds.programNumbers other (List.mem_filter.mp member).1
  geometryNumbers := holds.geometryNumbers

theorem releaseGeometry (holds : device.Holds stages programs geometries)
    (geometry : GeometryId) :
    (device.releaseGeometry geometry).Holds stages programs
      (geometries.filter (· ≠ geometry)) where
  stageKeys := holds.stageKeys
  programKeys := holds.programKeys
  geometryKeys := by rw [← holds.geometryKeys, SurfaceDevice.releaseGeometry, Table.keys_erase]
  stageNumbers := holds.stageNumbers
  programNumbers := holds.programNumbers
  geometryNumbers other member := holds.geometryNumbers other (List.mem_filter.mp member).1

/-! ## Building -/

/-- No stage outlives an attempt to link. -/
theorem linkStages {vertex fragment : StageId}
    (holds : device.Holds (stages ++ [vertex] ++ [fragment]) programs geometries)
    (freshVertex : vertex ∉ stages) (freshFragment : fragment ∉ stages ++ [vertex]) :
    Attempted (fun after => after.Holds stages programs geometries)
      (fun built after =>
        built.program ∉ programs ∧ after.Holds stages (programs ++ [built.program]) geometries)
      (LiveShader.linkStages device vertex fragment) := by
  have released : ((stages ++ [vertex] ++ [fragment]).filter (· ≠ vertex)).filter
      (· ≠ fragment) = stages := by
    have different : fragment ≠ vertex := by
      rintro rfl
      exact freshFragment (List.mem_append_right _ (List.mem_singleton.mpr rfl))
    have absent : fragment ∉ stages := fun known => freshFragment (List.mem_append_left _ known)
    rw [List.filter_append, filter_append_of_not_mem freshVertex,
      List.filter_cons_of_pos (by simpa using different), List.filter_nil,
      filter_append_of_not_mem absent]
  have outcome := holds.linkProgram vertex fragment
  simp only [LiveShader.linkStages, GraphicsDevice.linkProgram, GraphicsDevice.releaseStage]
  rcases linked : device.linkProgram vertex fragment with ⟨_ | program, after⟩
  case error =>
    rw [linked] at outcome
    rw [← released]
    exact (Holds.releaseStage outcome vertex).releaseStage fragment
  case ok =>
    rw [linked] at outcome
    rcases outcome with ⟨fresh, holdsProgram⟩
    rw [← released]
    exact ⟨fresh, (holdsProgram.releaseStage vertex).releaseStage fragment⟩

theorem buildProgram (holds : device.Holds stages programs geometries) (pair : StagePair) :
    Attempted (fun after => after.Holds stages programs geometries)
      (fun built after =>
        built.program ∉ programs ∧ after.Holds stages (programs ++ [built.program]) geometries)
      (LiveShader.buildProgram device pair) := by
  have vertexOutcome := holds.compileStage .vertex (Glsl.lower pair).vertex
  simp only [LiveShader.buildProgram, GraphicsDevice.compileStage, GraphicsDevice.releaseStage]
  rcases compiled : device.compileStage .vertex (Glsl.lower pair).vertex with ⟨_ | vertex, next⟩
  case error =>
    rw [compiled] at vertexOutcome
    exact vertexOutcome
  case ok =>
    rw [compiled] at vertexOutcome
    rcases vertexOutcome with ⟨freshVertex, holdsVertex⟩
    have fragmentOutcome := holdsVertex.compileStage .fragment (Glsl.lower pair).fragment
    simp only
    rcases both : next.compileStage .fragment (Glsl.lower pair).fragment with
      ⟨_ | fragment, after⟩
    case error =>
      rw [both] at fragmentOutcome
      have released := Holds.releaseStage fragmentOutcome vertex
      rwa [filter_append_of_not_mem freshVertex] at released
    case ok =>
      rw [both] at fragmentOutcome
      exact fragmentOutcome.2.linkStages freshVertex fragmentOutcome.1

/-- A build that fails leaves nothing behind, and one that succeeds a program and a quad. -/
theorem build (holds : device.Holds stages programs geometries) (source : String) :
    Attempted (fun after => after.Holds stages programs geometries)
      (fun bindings after => bindings.program ∉ programs ∧ bindings.geometry ∉ geometries ∧
        after.Holds stages (programs ++ [bindings.program]) (geometries ++ [bindings.geometry]))
      (Controller.build device source) := by
  unfold Controller.build
  split
  case h_1 => exact holds
  case h_2 pair _ =>
    have programOutcome := holds.buildProgram pair
    rcases linked : LiveShader.buildProgram device pair with ⟨_ | built, next⟩
    case error =>
      rw [linked] at programOutcome
      exact programOutcome
    case ok =>
      rw [linked] at programOutcome
      rcases programOutcome with ⟨fresh, holdsProgram⟩
      have quadOutcome := holdsProgram.createQuad built.program built.bindings.position
      simp only [GraphicsDevice.createQuad, GraphicsDevice.releaseProgram]
      rcases made : next.createQuad built.program built.bindings.position with
        ⟨_ | geometry, after⟩
      case error =>
        rw [made] at quadOutcome
        have released := Holds.releaseProgram quadOutcome built.program
        rwa [filter_append_of_not_mem fresh] at released
      case ok =>
        rw [made] at quadOutcome
        exact ⟨fresh, quadOutcome.1, quadOutcome.2⟩

end Holds

/-! ## Drawing -/

/-- What a draw needs: the program in use and the quad that is bound are held. -/
structure IsReady (device : SurfaceDevice) : Prop where
  program : ∃ program linked,
    device.currentProgram = some program ∧ device.programs.find? program = some linked
  geometry : ∃ geometry quad,
    device.currentGeometry = some geometry ∧ device.geometries.find? geometry = some quad

section

open FrameLoop

theorem sameHoldings_resizeBacking (device : SurfaceDevice) (size : Size) :
    device.SameHoldings (device.resizeBacking size) := by
  unfold resizeBacking
  split <;> exact ⟨rfl, rfl, rfl, rfl⟩

theorem writeUniform_eq (device : SurfaceDevice) (location : UniformLocation)
    (bytes : List UInt8) :
    ∃ programs, device.writeUniform location bytes = { device with programs } ∧
      programs.map Prod.fst = device.programs.map Prod.fst := by
  unfold writeUniform
  split
  case h_1 => exact ⟨device.programs, rfl, rfl⟩
  case h_2 => exact ⟨_, rfl, Table.keys_modify _ _ _⟩

/-- Feeding a device chooses what is drawn, and changes nothing else but what a program
holds. -/
theorem feed_eq (device : SurfaceDevice) (bindings : FrameBindings) (seconds : Single) :
    ∃ programs, feed device bindings seconds =
      { device with
        programs
        currentProgram := some bindings.program
        currentGeometry := some bindings.geometry } ∧
      programs.map Prod.fst = device.programs.map Prod.fst := by
  let chosen : SurfaceDevice :=
    { device with
      currentProgram := some bindings.program
      currentGeometry := some bindings.geometry }
  have timed : ∃ programs, feed device { bindings with resolution := none } seconds =
      { chosen with programs } ∧ programs.map Prod.fst = device.programs.map Prod.fst := by
    simp only [feed]
    cases bindings.time with
    | none => exact ⟨device.programs, rfl, rfl⟩
    | some location => exact chosen.writeUniform_eq location seconds.bytes
  rcases timed with ⟨programs, fed, keys⟩
  rcases bindings with ⟨program, geometry, position, time, _ | location⟩
  case none => exact ⟨programs, fed, keys⟩
  case some =>
    rcases writeUniform_eq { chosen with programs } location
      ((Single.ofNat device.configured.width).bytes ++
        (Single.ofNat device.configured.height).bytes) with ⟨written, same, keysWritten⟩
    refine ⟨written, ?_, keysWritten.trans keys⟩
    exact (congrArg (fun fed => writeUniform fed location _) fed).trans same

theorem sameHoldings_draw (device : SurfaceDevice) : device.SameHoldings device.draw.2 := by
  have outcome := drawOutcome device
  generalize device.draw = result at outcome
  cases outcome with
  | failed => exact ⟨rfl, rfl, rfl, rfl⟩
  | @drawn program linked host inUse live =>
      have known : program ∈ device.programs.map Prod.fst := by
        rw [← Table.isSome_find?_iff, live]
        rfl
      exact ⟨rfl, Table.keys_insert_of_known known _, rfl, rfl⟩

theorem sameHoldings_writeUniform (device : SurfaceDevice) (location : UniformLocation)
    (bytes : List UInt8) : device.SameHoldings (device.writeUniform location bytes) := by
  rcases writeUniform_eq device location bytes with ⟨programs, written, keys⟩
  rw [written]
  exact ⟨rfl, keys, rfl, rfl⟩

/-- A frame makes and releases nothing. -/
theorem isFrameStable_sameHoldings : IsFrameStable SameHoldings where
  refl := .refl
  trans := .trans
  resizeBacking := sameHoldings_resizeBacking
  useProgram _ _ := ⟨rfl, rfl, rfl, rfl⟩
  bindQuad _ _ := ⟨rfl, rfl, rfl, rfl⟩
  setFloat device location value := sameHoldings_writeUniform device location value.bytes
  setPair device location first second :=
    sameHoldings_writeUniform device location (first.bytes ++ second.bytes)
  draw := sameHoldings_draw

/-- A device that holds what a frame draws is ready once it is fed. -/
theorem isReady_feed (holds : device.Holds stages programs geometries)
    {bindings : FrameBindings} (program : bindings.program ∈ programs)
    (geometry : bindings.geometry ∈ geometries) (seconds : Single) :
    (feed (matchDisplay device) bindings seconds).IsReady := by
  have fed := (holds.transfer (isFrameStable_sameHoldings.matchDisplay device)).transfer
    (isFrameStable_sameHoldings.feed _ bindings seconds)
  have choice : (feed (matchDisplay device) bindings seconds).currentProgram =
        some bindings.program ∧
      (feed (matchDisplay device) bindings seconds).currentGeometry =
        some bindings.geometry := by
    rcases feed_eq (matchDisplay device) bindings seconds with ⟨_, same, _⟩
    rw [same]
    exact ⟨rfl, rfl⟩
  rw [← fed.programKeys, ← Table.isSome_find?_iff] at program
  rw [← fed.geometryKeys, ← Table.isSome_find?_iff] at geometry
  rcases Option.isSome_iff_exists.mp program with ⟨linked, live⟩
  rcases Option.isSome_iff_exists.mp geometry with ⟨quad, bound⟩
  exact ⟨⟨_, linked, choice.1, live⟩, ⟨_, quad, choice.2, bound⟩⟩

/-- Nothing that comes before the draw takes a texture from the surface. -/
theorem acquire_feed (device : SurfaceDevice) (bindings : FrameBindings) (seconds : Single) :
    (feed (matchDisplay device) bindings seconds).host.acquire = device.host.acquire := by
  have matched : (matchDisplay device).host.acquire = device.host.acquire := by
    unfold matchDisplay
    split
    case isTrue => rfl
    case isFalse =>
      simp only [GraphicsDevice.resizeBacking, resizeBacking]
      split <;> rfl
  rcases feed_eq (matchDisplay device) bindings seconds with ⟨_, fed, _⟩
  rw [fed]
  exact matched

end

/-- The result of a draw that has what it needs depends on the surface alone. -/
theorem IsReady.draw (ready : device.IsReady) :
    device.draw.1 = match device.host.acquire.next.1 with
      | none => .ok ()
      | some error => .error error.drawError := by
  rcases ready.program with ⟨program, linked, inUse, live⟩
  simp only [SurfaceDevice.draw, inUse, live, Host.acquireTexture]
  rcases device.host.acquire.next with ⟨_ | error, rest⟩
  case none => rfl
  case some => cases error <;> rfl

theorem IsReady.draw_ne_context (ready : device.IsReady) (reason : String) :
    device.draw.1 ≠ .error (.fatal (.context reason)) := by
  rw [ready.draw]
  cases device.host.acquire.next.1 with
  | none => nofun
  | some error => cases error <;> nofun

end SurfaceDevice

end LiveShader
