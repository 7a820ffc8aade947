import LiveShader.Proofs.Render.Operation
import LiveShader.Proofs.Render.RecorderObjects
import LiveShader.Proofs.Render.Transition

/-! # A controller agrees with its device

Over a recorder, what a controller believes to be on screen is exactly what is
live on the device, and no object is ever used after its release. This holds
after every run, whatever fails in it. -/

namespace LiveShader

variable {Clock Source : Type}

namespace Recorder

/-- Releasing the oldest program and the oldest quad leaves the newer ones. -/
theorem release_oldest {recorder : Recorder} {program : ProgramId} {geometry : GeometryId}
    {source : String} {programs : List (ProgramId × String)} {geometries : List GeometryId}
    (livePrograms : recorder.programs = (program, source) :: programs)
    (liveGeometries : recorder.geometries = geometry :: geometries)
    (otherPrograms : ∀ entry ∈ programs, entry.1 ≠ program)
    (otherGeometries : ∀ other ∈ geometries, other ≠ geometry) :
    (recorder.releaseGeometry geometry).releaseProgram program =
      { recorder with programs, geometries } := by
  have geometryReleased : recorder.releaseGeometry geometry = { recorder with geometries } := by
    rw [releaseGeometry_of_live (by simp [liveGeometries]), liveGeometries]
    simpa using otherGeometries
  rw [geometryReleased, releaseProgram_of_live (by simp [Recorder.livePrograms, livePrograms])]
  simp only [livePrograms]
  simpa using fun program source member => otherPrograms (program, source) member

end Recorder

namespace Controller

/-- The live objects of the device are those of the program on screen, the loop
draws them, and no object was ever misused. -/
structure IsConsistent (controller : Controller Recorder Clock Source) : Prop where
  stages : controller.device.liveStages = []
  programs : controller.device.livePrograms =
    (controller.live.map FrameBindings.program).toList
  geometries : controller.device.geometries =
    (controller.live.map FrameBindings.geometry).toList
  running : controller.live.isSome ↔ controller.loop.isRunning
  source : controller.live.isSome ↔ controller.runningSource.isSome
  bindings : controller.loop.bindings? = controller.live
  misuses : controller.device.misuses = []

/-- Consistency together with what its preservation rests on: new objects differ
from the live ones. -/
structure IsSteady (controller : Controller Recorder Clock Source) : Prop
    extends controller.IsConsistent where
  numbered : controller.device.WellNumbered

theorem isRunning_iff_bindings? (loop : FrameLoop Clock Source) :
    loop.isRunning ↔ loop.bindings?.isSome := by
  simp [FrameLoop.isRunning, FrameLoop.bindings?]

theorem isSteady_create (knownUniforms : List String) (clock : Clock) (time : Source) :
    (create (Recorder.create knownUniforms) clock time).IsSteady where
  stages := rfl
  programs := rfl
  geometries := rfl
  running := by simp [create, FrameLoop.create, FrameLoop.isRunning]
  source := by simp [create]
  bindings := rfl
  misuses := rfl
  numbered := Recorder.wellNumbered_create knownUniforms

namespace IsSteady

variable {before after : Controller Recorder Clock Source}

/-- Nothing is lost when neither the objects nor what is on screen change. -/
theorem transfer (steady : before.IsSteady)
    (device : Recorder.SameObjects before.device after.device)
    (live : after.live = before.live)
    (bindings : after.loop.bindings? = before.loop.bindings?)
    (source : after.runningSource = before.runningSource) : after.IsSteady where
  stages := by simpa only [Recorder.liveStages, device.stages] using steady.stages
  programs := by
    simpa only [Recorder.livePrograms, device.programs, live] using steady.programs
  geometries := by simpa only [device.geometries, live] using steady.geometries
  running := by
    rw [isRunning_iff_bindings?, live, bindings, ← isRunning_iff_bindings?]
    exact steady.running
  source := by simpa only [live, source] using steady.source
  bindings := by simpa only [live, bindings] using steady.bindings
  misuses := by simpa only [device.misuses] using steady.misuses
  numbered := steady.numbered.later device.stages device.programs device.geometries
    (Nat.le_of_eq device.nextNumber.symm)

/-- The live objects of a steady controller, as the device lists them. -/
theorem objects (steady : before.IsSteady) {live : FrameBindings}
    (something : before.live = some live) :
    (∃ source, before.device.programs = [(live.program, source)]) ∧
      before.device.geometries = [live.geometry] := by
  have programs := steady.programs
  rw [something] at programs
  rcases List.map_eq_singleton_iff.mp programs with ⟨⟨program, source⟩, only, same⟩
  refine ⟨⟨source, ?_⟩, ?_⟩
  · rw [only, ← same]
  · simpa [something] using steady.geometries

theorem noObjects (steady : before.IsSteady) (nothing : before.live = none) :
    before.device.programs = [] ∧ before.device.geometries = [] := by
  have programs := steady.programs
  have geometries := steady.geometries
  simp only [nothing, Option.map_none, Option.toList_none] at programs geometries
  exact ⟨List.map_eq_nil_iff.mp programs, geometries⟩

/-- Releasing what is on screen leaves only what was added to the device since. -/
theorem releaseBindings_device (steady : before.IsSteady) {recorder : Recorder}
    {programs : List (ProgramId × String)} {geometries : List GeometryId}
    (allPrograms : recorder.programs = before.device.programs ++ programs)
    (allGeometries : recorder.geometries = before.device.geometries ++ geometries)
    (programsFresh : ∀ entry ∈ programs, before.device.nextNumber ≤ entry.1.number)
    (geometriesFresh : ∀ geometry ∈ geometries, before.device.nextNumber ≤ geometry.number) :
    releaseBindings recorder before.live = { recorder with programs, geometries } := by
  cases something : before.live with
  | none =>
      rcases steady.noObjects something with ⟨noPrograms, noGeometries⟩
      simp only [noPrograms, noGeometries, List.nil_append] at allPrograms allGeometries
      simp only [releaseBindings, ← allPrograms, ← allGeometries]
  | some live =>
      rcases steady.objects something with ⟨⟨source, onlyProgram⟩, onlyGeometry⟩
      have programBelow : live.program.number < before.device.nextNumber :=
        steady.numbered.programs (live.program, source) (by simp [onlyProgram])
      have geometryBelow : live.geometry.number < before.device.nextNumber :=
        steady.numbered.geometries live.geometry (by simp [onlyGeometry])
      apply Recorder.release_oldest
      · rw [allPrograms, onlyProgram, List.singleton_append]
      · rw [allGeometries, onlyGeometry, List.singleton_append]
      · intro entry member equal
        have fresh := programsFresh entry member
        rw [equal] at fresh
        omega
      · intro other member equal
        have fresh := geometriesFresh other member
        rw [equal] at fresh
        omega

/-- A controller whose program was released, and whose loop ended, is steady. -/
theorem ended (steady : before.IsSteady)
    (device : after.device = { before.device with programs := [], geometries := [] })
    (live : after.live = none) (session : after.loop.session = none)
    (source : after.runningSource = none) : after.IsSteady where
  stages := by rw [device]; exact steady.stages
  programs := by simp [device, live, Recorder.livePrograms]
  geometries := by simp [device, live]
  running := by simp [live, FrameLoop.isRunning, session]
  source := by simp [live, source]
  bindings := by simp [live, FrameLoop.bindings?, session]
  misuses := by rw [device]; exact steady.misuses
  numbered :=
    { stages := by rw [device]; exact steady.numbered.stages
      programs := by simp [device]
      geometries := by simp [device] }

end IsSteady

/-! ## What each operation keeps -/

variable [FrameClock Clock]

theorem isSteady_stop {controller : Controller Recorder Clock Source}
    (steady : controller.IsSteady) : controller.stop.IsSteady := by
  have released := steady.releaseBindings_device (List.append_nil _).symm
    (List.append_nil _).symm (by simp) (by simp)
  rw [stop_eq]
  exact steady.ended released rfl (FrameLoop.stop_session _) rfl

variable [TimeSource Source]

theorem isSteady_execute {controller : Controller Recorder Clock Source}
    (steady : controller.IsSteady) (source : String) : (controller.execute source).2.IsSteady := by
  rcases Recorder.build_cases steady.numbered source with
    ⟨error, next, compiled, quadFailure, later, _, _, failed⟩ |
    ⟨bindings, next, compiled, sources, programFresh, programCounted, geometryFresh,
      geometryCounted, succeeded⟩
  · rw [execute_of_error failed]
    exact { steady with numbered := steady.numbered.later rfl rfl rfl later }
  · rw [execute_of_ok succeeded, steady.releaseBindings_device rfl rfl
      (by simpa using programFresh) (by simpa using geometryFresh)]
    exact
      { stages := steady.stages
        programs := rfl
        geometries := rfl
        running := by simp [FrameLoop.isRunning]
        source := by simp
        bindings := rfl
        misuses := steady.misuses
        numbered :=
          { stages := fun entry member => by
              have below := steady.numbered.stages entry member
              exact Nat.lt_trans below (Nat.lt_of_le_of_lt programFresh programCounted)
            programs := by simpa using programCounted
            geometries := by simpa using geometryCounted } }

theorem isSteady_onFrame {controller : Controller Recorder Clock Source}
    (steady : controller.IsSteady) (handle : FrameHandle) :
    (controller.onFrame handle).2.IsSteady := by
  by_cases awaited : controller.loop.Awaits handle
  · rcases awaited with ⟨session, running, pending⟩
    have onScreen : controller.live = some session.bindings := by
      rw [← steady.bindings, FrameLoop.bindings?, running]
      rfl
    rcases steady.objects onScreen with ⟨⟨source, program⟩, geometry⟩
    have programLive : session.bindings.program ∈ controller.device.livePrograms := by
      simp [Recorder.livePrograms, program]
    have geometryLive : session.bindings.geometry ∈ controller.device.geometries := by
      simp [geometry]
    have same := Recorder.sameObjects_drawFrame programLive geometryLive
      (TimeSource.sample controller.loop.time).1
    rcases drawn : FrameLoop.drawFrame controller.device session.bindings
      (TimeSource.sample controller.loop.time).1 with ⟨result, device⟩
    rw [drawn] at same
    cases result with
    | ok outcome =>
        rw [onFrame_of_ok running pending drawn]
        refine steady.transfer same rfl ?_ rfl
        simp [FrameLoop.bindings?, running]
    | error error =>
        rw [onFrame_of_error running pending drawn]
        have drawnSteady : IsSteady { controller with device } :=
          steady.transfer same rfl rfl rfl
        have released := drawnSteady.releaseBindings_device (List.append_nil _).symm
          (List.append_nil _).symm (by simp) (by simp)
        exact drawnSteady.ended released rfl rfl rfl
  · rw [onFrame_of_not_awaited awaited]
    exact steady

theorem isSteady_onRedraw {controller : Controller Recorder Clock Source}
    (steady : controller.IsSteady) : controller.onRedraw.2.IsSteady := by
  rcases taken : FrameClock.takeDue controller.loop.clock with ⟨due, clock⟩
  have waiting : IsSteady { controller with loop := { controller.loop with clock } } :=
    steady.transfer (.refl _) rfl rfl rfl
  cases due with
  | none =>
      rw [onRedraw_of_idle taken]
      exact waiting
  | some handle =>
      rw [onRedraw_of_due taken]
      exact isSteady_onFrame waiting handle

theorem isSteady_perform (controller : Controller Recorder Clock Source)
    (operation : ControllerOperation RecorderScript) (steady : controller.IsSteady) :
    (controller.perform operation).2.IsSteady := by
  cases operation with
  | execute source => exact isSteady_execute steady source
  | redraw => exact isSteady_onRedraw steady
  | frame handle => exact isSteady_onFrame steady handle
  | stop => exact isSteady_stop steady
  | teardown => exact isSteady_stop steady
  | script script =>
      refine steady.transfer ?_ rfl rfl rfl
      cases script <;> exact ⟨rfl, rfl, rfl, rfl, rfl⟩

/-- After every run over a recorder the controller, its loop and the device agree
on what is live, and nothing was ever misused. -/
theorem isConsistent_after (knownUniforms : List String) (clock : Clock) (time : Source)
    (operations : List (ControllerOperation RecorderScript)) :
    ((create (Recorder.create knownUniforms) clock time).after operations).IsConsistent :=
  (after_invariant IsSteady isSteady_perform _ operations
    (isSteady_create knownUniforms clock time)).toIsConsistent

end Controller

end LiveShader
