import LiveShader.Proofs.Render.Operation
import LiveShader.Proofs.Render.Transition

/-! # Relations that hold over every call of a device

A controller changes its device by calls alone. So a relation between the states of a device
holds over all that a controller does with it once it holds over each call. -/

namespace LiveShader

/-! ## Operations that draw -/

namespace Controller

variable {Script Device Clock Source : Type} [FrameClock Clock]
variable {controller : Controller Device Clock Source}

/-- The callback that an operation runs, if any. -/
def callback? (controller : Controller Device Clock Source) :
    ControllerOperation Script → Option FrameHandle
  | .frame handle => some handle
  | .redraw => (FrameClock.takeDue controller.loop.clock).1
  | _ => none

/-- Whether an operation runs the callback that the loop of a session waits
for. -/
def Draws (controller : Controller Device Clock Source) (operation : ControllerOperation Script)
    (session : RenderSession) : Prop :=
  ∃ handle, controller.callback? operation = some handle ∧
    controller.loop.session = some session ∧ session.pending = some handle

theorem not_awaits_of_not_draws {operation : ControllerOperation Script} {handle : FrameHandle}
    (runs : controller.callback? operation = some handle)
    (still : ∀ session, ¬controller.Draws operation session) :
    ¬controller.loop.Awaits handle := by
  intro awaited
  rcases awaited with ⟨session, running, pending⟩
  exact still session ⟨handle, runs, running, pending⟩

end Controller

/-! ## Relations over calls -/

variable {Device Clock Source : Type} [GraphicsDevice Device]

/-- Whether a relation holds over no call and over several. -/
structure IsStable (Leads : Device → Device → Prop) : Prop where
  refl (device : Device) : Leads device device
  trans {first second third : Device} (early : Leads first second) (late : Leads second third) :
    Leads first third

/-- Whether a relation holds over every call that makes or releases an object. -/
structure IsBuildStable (Leads : Device → Device → Prop) : Prop extends IsStable Leads where
  compileStage (device : Device) (stage : Stage) (source : String) :
    Leads device (GraphicsDevice.compileStage device stage source).2
  releaseStage (device : Device) (stage : StageId) :
    Leads device (GraphicsDevice.releaseStage device stage)
  linkProgram (device : Device) (vertex fragment : StageId) :
    Leads device (GraphicsDevice.linkProgram device vertex fragment).2
  releaseProgram (device : Device) (program : ProgramId) :
    Leads device (GraphicsDevice.releaseProgram device program)
  createQuad (device : Device) (program : ProgramId) (position : Option AttributeLocation) :
    Leads device (GraphicsDevice.createQuad device program position).2
  releaseGeometry (device : Device) (geometry : GeometryId) :
    Leads device (GraphicsDevice.releaseGeometry device geometry)

/-- Whether a relation holds over every call that a frame makes. -/
structure IsFrameStable (Leads : Device → Device → Prop) : Prop extends IsStable Leads where
  resizeBacking (device : Device) (size : Size) :
    Leads device (GraphicsDevice.resizeBacking device size)
  useProgram (device : Device) (program : ProgramId) :
    Leads device (GraphicsDevice.useProgram device program)
  bindQuad (device : Device) (geometry : GeometryId) :
    Leads device (GraphicsDevice.bindQuad device geometry)
  setFloat (device : Device) (location : UniformLocation) (value : Single) :
    Leads device (GraphicsDevice.setFloat device location value)
  setPair (device : Device) (location : UniformLocation) (first second : Single) :
    Leads device (GraphicsDevice.setPair device location first second)
  draw (device : Device) : Leads device (GraphicsDevice.draw device).2

/-- Whether a relation holds over every call. -/
structure IsCallStable (Leads : Device → Device → Prop) : Prop extends
  IsBuildStable Leads, IsFrameStable Leads

variable {Leads : Device → Device → Prop}

/-! ## Building and releasing -/

namespace IsBuildStable

variable (stable : IsBuildStable Leads)

include stable

theorem linkStages (device : Device) (vertex fragment : StageId) :
    Leads device (LiveShader.linkStages device vertex fragment).2 := by
  have attempted := stable.linkProgram device vertex fragment
  rcases linked : GraphicsDevice.linkProgram device vertex fragment with ⟨result, after⟩
  rw [linked] at attempted
  have released := stable.trans (stable.trans attempted (stable.releaseStage after vertex))
    (stable.releaseStage _ fragment)
  cases result <;> simpa only [LiveShader.linkStages, linked] using released

theorem buildProgram (device : Device) (pair : StagePair) :
    Leads device (LiveShader.buildProgram device pair).2 := by
  have vertexTried := stable.compileStage device .vertex (Glsl.lower pair).vertex
  rcases vertexCompiled :
    GraphicsDevice.compileStage device .vertex (Glsl.lower pair).vertex with ⟨vertex, middle⟩
  rw [vertexCompiled] at vertexTried
  cases vertex with
  | error diagnostic => simpa only [LiveShader.buildProgram, vertexCompiled] using vertexTried
  | ok vertex =>
      have fragmentTried := stable.trans vertexTried
        (stable.compileStage middle .fragment (Glsl.lower pair).fragment)
      rcases fragmentCompiled :
        GraphicsDevice.compileStage middle .fragment (Glsl.lower pair).fragment with
        ⟨fragment, after⟩
      rw [fragmentCompiled] at fragmentTried
      cases fragment with
      | error diagnostic =>
          simpa only [LiveShader.buildProgram, vertexCompiled, fragmentCompiled] using
            stable.trans fragmentTried (stable.releaseStage after vertex)
      | ok fragment =>
          simpa only [LiveShader.buildProgram, vertexCompiled, fragmentCompiled] using
            stable.trans fragmentTried (stable.linkStages after vertex fragment)

theorem build (device : Device) (source : String) :
    Leads device (Controller.build device source).2 := by
  cases splits : splitStages source with
  | error error => simpa only [Controller.build, splits] using stable.refl device
  | ok pair =>
      have linked := stable.buildProgram device pair
      rcases programBuilt : LiveShader.buildProgram device pair with ⟨built, middle⟩
      rw [programBuilt] at linked
      cases built with
      | error error => simpa only [Controller.build, splits, programBuilt] using linked
      | ok built =>
          have quadTried := stable.trans linked
            (stable.createQuad middle built.program built.bindings.position)
          rcases quadCreated :
            GraphicsDevice.createQuad middle built.program built.bindings.position with
            ⟨quad, after⟩
          rw [quadCreated] at quadTried
          cases quad with
          | error error =>
              simpa only [Controller.build, splits, programBuilt, quadCreated] using
                stable.trans quadTried (stable.releaseProgram after built.program)
          | ok geometry =>
              simpa only [Controller.build, splits, programBuilt, quadCreated] using quadTried

theorem releaseBindings (device : Device) (live : Option FrameBindings) :
    Leads device (Controller.releaseBindings device live) := by
  cases live with
  | none => exact stable.refl device
  | some live =>
      exact stable.trans (stable.releaseGeometry device live.geometry)
        (stable.releaseProgram _ live.program)

variable [FrameClock Clock] (controller : Controller Device Clock Source)

theorem stop : Leads controller.device controller.stop.device := by
  rw [Controller.stop_eq]
  exact stable.releaseBindings _ _

variable [TimeSource Source]

theorem execute (source : String) :
    Leads controller.device (controller.execute source).2.device := by
  have attempted := stable.build controller.device source
  rcases built : Controller.build controller.device source with ⟨result, after⟩
  rw [built] at attempted
  cases result with
  | error error =>
      rw [Controller.execute_of_error built]
      exact attempted
  | ok bindings =>
      rw [Controller.execute_of_ok built]
      exact stable.trans attempted (stable.releaseBindings _ _)

/-- After its draw a frame makes no call but for the release of what the loop has drawn. -/
theorem onFrame {session : RenderSession} {handle : FrameHandle}
    (running : controller.loop.session = some session) (pending : session.pending = some handle) :
    Leads (FrameLoop.drawFrame controller.device session.bindings
      (TimeSource.sample controller.loop.time).1).2 (controller.onFrame handle).2.device := by
  rcases drawn : FrameLoop.drawFrame controller.device session.bindings
    (TimeSource.sample controller.loop.time).1 with ⟨result, after⟩
  cases result with
  | ok outcome =>
      rw [Controller.onFrame_of_ok running pending drawn]
      exact stable.refl after
  | error error =>
      rw [Controller.onFrame_of_error running pending drawn]
      exact stable.releaseBindings after controller.live

theorem perform_of_draws {Script : Type} [ScriptedDevice Script Device]
    {operation : ControllerOperation Script} {session : RenderSession}
    (draws : controller.Draws operation session) :
    Leads (FrameLoop.drawFrame controller.device session.bindings
      (TimeSource.sample controller.loop.time).1).2 (controller.perform operation).2.device := by
  rcases draws with ⟨handle, runs, running, pending⟩
  cases operation with
  | frame given =>
      cases runs
      exact stable.onFrame controller running pending
  | redraw =>
      rcases taken : FrameClock.takeDue controller.loop.clock with ⟨due, clock⟩
      simp only [Controller.callback?, taken] at runs
      subst runs
      simp only [Controller.perform, Controller.onRedraw_of_due taken]
      exact stable.onFrame { controller with loop := { controller.loop with clock } } running
        pending
  | execute | stop | teardown | script => cases runs

/-- A relation that holds over builds holds over every operation that draws nothing, if the
surroundings keep it as well. -/
theorem perform {Script : Type} [ScriptedDevice Script Device]
    (follows : ∀ (device : Device) (script : Script),
      Leads device (ScriptedDevice.follow device script))
    {operation : ControllerOperation Script}
    (still : ∀ session, ¬controller.Draws operation session) :
    Leads controller.device (controller.perform operation).2.device := by
  cases operation with
  | execute source => exact stable.execute controller source
  | stop | teardown => exact stable.stop controller
  | script script => exact follows controller.device script
  | frame handle =>
      have stale : ¬controller.loop.Awaits handle := Controller.not_awaits_of_not_draws rfl still
      simp only [Controller.perform, Controller.onFrame_of_not_awaited stale]
      exact stable.refl _
  | redraw =>
      rcases taken : FrameClock.takeDue controller.loop.clock with ⟨due, clock⟩
      cases due with
      | none =>
          simp only [Controller.perform, Controller.onRedraw_of_idle taken]
          exact stable.refl _
      | some handle =>
          let waiting : Controller Device Clock Source :=
            { controller with loop := { controller.loop with clock } }
          have notAwaited : ¬controller.loop.Awaits handle :=
            Controller.not_awaits_of_not_draws (by simp [Controller.callback?, taken]) still
          have stale : ¬waiting.loop.Awaits handle := notAwaited
          simp only [Controller.perform, Controller.onRedraw_of_due taken]
          rw [Controller.onFrame_of_not_awaited stale]
          exact stable.refl _

end IsBuildStable

/-! ## Drawing -/

namespace IsFrameStable

variable (stable : IsFrameStable Leads)

include stable

theorem matchDisplay (device : Device) : Leads device (FrameLoop.matchDisplay device) := by
  unfold FrameLoop.matchDisplay
  split
  · exact stable.refl device
  · exact stable.resizeBacking device _

theorem feed (device : Device) (bindings : FrameBindings) (seconds : Single) :
    Leads device (FrameLoop.feed device bindings seconds) := by
  have bound := stable.trans (stable.useProgram device bindings.program)
    (stable.bindQuad _ bindings.geometry)
  unfold FrameLoop.feed
  cases bindings.time with
  | none =>
      cases bindings.resolution with
      | none => exact bound
      | some location => exact stable.trans bound (stable.setPair _ _ _ _)
  | some location =>
      have timed := stable.trans bound (stable.setFloat _ location seconds)
      cases bindings.resolution with
      | none => exact timed
      | some location => exact stable.trans timed (stable.setPair _ _ _ _)

theorem drawFrame (device : Device) (bindings : FrameBindings) (seconds : Single) :
    Leads device (FrameLoop.drawFrame device bindings seconds).2 := by
  have tried := stable.trans (stable.trans (stable.matchDisplay device)
    (stable.feed _ bindings seconds)) (stable.draw _)
  rw [FrameLoop.drawFrame_device]
  split
  case h_1 after lost =>
    rw [lost] at tried
    exact stable.trans tried (stable.resizeBacking after _)
  case h_2 after _ drawn =>
    rw [drawn] at tried
    exact tried

end IsFrameStable

/-! ## Operations -/

namespace IsCallStable

variable [FrameClock Clock] [TimeSource Source]
variable (stable : IsCallStable Leads) (controller : Controller Device Clock Source)

include stable

theorem onFrame (handle : FrameHandle) :
    Leads controller.device (controller.onFrame handle).2.device := by
  by_cases awaited : controller.loop.Awaits handle
  · rcases awaited with ⟨session, running, pending⟩
    exact stable.trans (stable.drawFrame controller.device session.bindings _)
      (stable.toIsBuildStable.onFrame controller running pending)
  · rw [Controller.onFrame_of_not_awaited awaited]
    exact stable.refl _

theorem onRedraw : Leads controller.device controller.onRedraw.2.device := by
  rcases taken : FrameClock.takeDue controller.loop.clock with ⟨due, clock⟩
  cases due with
  | none =>
      rw [Controller.onRedraw_of_idle taken]
      exact stable.refl _
  | some handle =>
      rw [Controller.onRedraw_of_due taken]
      exact stable.onFrame { controller with loop := { controller.loop with clock } } handle

theorem perform {Script : Type} [ScriptedDevice Script Device]
    (follows : ∀ (device : Device) (script : Script),
      Leads device (ScriptedDevice.follow device script))
    (operation : ControllerOperation Script) :
    Leads controller.device (controller.perform operation).2.device := by
  cases operation with
  | execute source => exact stable.execute controller source
  | redraw => exact stable.onRedraw controller
  | frame handle => exact stable.onFrame controller handle
  | stop | teardown => exact stable.stop controller
  | script script => exact follows controller.device script

end IsCallStable

end LiveShader
