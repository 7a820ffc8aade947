import LiveShader.Proofs.Render.FailedBuild

/-! # Devices behind devices

A view shows the device that is behind another one, such as behind one that keeps notes. If
every operation passes on what it is asked for, a controller cannot tell the two apart. -/

namespace LiveShader

/-- Whether the operations of a device answer and do what they answer and do on the device
that is shown. -/
structure IsView {Outer Inner : Type} [GraphicsDevice Outer] [GraphicsDevice Inner]
    (view : Outer → Inner) : Prop where
  compileStage (device : Outer) (stage : Stage) (source : String) :
    GraphicsDevice.compileStage (view device) stage source =
      Prod.map id view (GraphicsDevice.compileStage device stage source)
  releaseStage (device : Outer) (stage : StageId) :
    GraphicsDevice.releaseStage (view device) stage =
      view (GraphicsDevice.releaseStage device stage)
  linkProgram (device : Outer) (vertex fragment : StageId) :
    GraphicsDevice.linkProgram (view device) vertex fragment =
      Prod.map id view (GraphicsDevice.linkProgram device vertex fragment)
  releaseProgram (device : Outer) (program : ProgramId) :
    GraphicsDevice.releaseProgram (view device) program =
      view (GraphicsDevice.releaseProgram device program)
  attributeLocation? (device : Outer) (program : ProgramId) (name : String) :
    GraphicsDevice.attributeLocation? (view device) program name =
      GraphicsDevice.attributeLocation? device program name
  uniformLocation? (device : Outer) (program : ProgramId) (name : String) :
    GraphicsDevice.uniformLocation? (view device) program name =
      GraphicsDevice.uniformLocation? device program name
  createQuad (device : Outer) (program : ProgramId) (position : Option AttributeLocation) :
    GraphicsDevice.createQuad (view device) program position =
      Prod.map id view (GraphicsDevice.createQuad device program position)
  releaseGeometry (device : Outer) (geometry : GeometryId) :
    GraphicsDevice.releaseGeometry (view device) geometry =
      view (GraphicsDevice.releaseGeometry device geometry)
  displaySize (device : Outer) :
    GraphicsDevice.displaySize (view device) = GraphicsDevice.displaySize device
  backingSize (device : Outer) :
    GraphicsDevice.backingSize (view device) = GraphicsDevice.backingSize device
  resizeBacking (device : Outer) (size : Size) :
    GraphicsDevice.resizeBacking (view device) size =
      view (GraphicsDevice.resizeBacking device size)
  useProgram (device : Outer) (program : ProgramId) :
    GraphicsDevice.useProgram (view device) program =
      view (GraphicsDevice.useProgram device program)
  bindQuad (device : Outer) (geometry : GeometryId) :
    GraphicsDevice.bindQuad (view device) geometry = view (GraphicsDevice.bindQuad device geometry)
  setFloat (device : Outer) (location : UniformLocation) (value : Single) :
    GraphicsDevice.setFloat (view device) location value =
      view (GraphicsDevice.setFloat device location value)
  setPair (device : Outer) (location : UniformLocation) (first second : Single) :
    GraphicsDevice.setPair (view device) location first second =
      view (GraphicsDevice.setPair device location first second)
  draw (device : Outer) :
    GraphicsDevice.draw (view device) = Prod.map id view (GraphicsDevice.draw device)

variable {Script Outer Inner Clock Source : Type}
variable [GraphicsDevice Outer] [GraphicsDevice Inner] {view : Outer → Inner}

/-! ## Building and drawing -/

namespace IsView

variable (isView : IsView view) (device : Outer)

include isView

theorem linkStages (vertex fragment : StageId) :
    LiveShader.linkStages (view device) vertex fragment =
      Prod.map id view (LiveShader.linkStages device vertex fragment) := by
  have shown := isView.linkProgram device vertex fragment
  rcases linked : GraphicsDevice.linkProgram device vertex fragment with ⟨result, after⟩
  rw [linked] at shown
  cases result <;>
    simp only [LiveShader.linkStages, shown, linked, Prod.map, id, isView.releaseStage,
      resolveBindings, isView.attributeLocation?, isView.uniformLocation?]

theorem buildProgram (pair : StagePair) :
    LiveShader.buildProgram (view device) pair =
      Prod.map id view (LiveShader.buildProgram device pair) := by
  have shownVertex := isView.compileStage device .vertex (Glsl.lower pair).vertex
  rcases vertexCompiled :
    GraphicsDevice.compileStage device .vertex (Glsl.lower pair).vertex with ⟨vertex, middle⟩
  rw [vertexCompiled] at shownVertex
  cases vertex with
  | error diagnostic =>
      simp only [LiveShader.buildProgram, shownVertex, vertexCompiled, Prod.map, id]
  | ok vertex =>
      have shownFragment := isView.compileStage middle .fragment (Glsl.lower pair).fragment
      rcases fragmentCompiled :
        GraphicsDevice.compileStage middle .fragment (Glsl.lower pair).fragment with
        ⟨fragment, after⟩
      rw [fragmentCompiled] at shownFragment
      cases fragment with
      | error diagnostic =>
          simp only [LiveShader.buildProgram, shownVertex, vertexCompiled, shownFragment,
            fragmentCompiled, Prod.map, id, isView.releaseStage]
      | ok fragment =>
          have linked := isView.linkStages after vertex fragment
          simp only [Prod.map, id] at shownVertex shownFragment
          simp only [LiveShader.buildProgram, shownVertex, vertexCompiled, shownFragment,
            fragmentCompiled, linked]

theorem build (source : String) :
    Controller.build (view device) source =
      Prod.map id view (Controller.build device source) := by
  cases splits : splitStages source with
  | error error => simp only [Controller.build, splits, Prod.map, id]
  | ok pair =>
      have shownProgram := isView.buildProgram device pair
      rcases programBuilt : LiveShader.buildProgram device pair with ⟨built, middle⟩
      rw [programBuilt] at shownProgram
      cases built with
      | error error =>
          simp only [Controller.build, splits, shownProgram, programBuilt, Prod.map, id]
      | ok built =>
          have shownQuad := isView.createQuad middle built.program built.bindings.position
          rcases quadCreated :
            GraphicsDevice.createQuad middle built.program built.bindings.position with
            ⟨quad, after⟩
          rw [quadCreated] at shownQuad
          cases quad <;>
            simp only [Controller.build, splits, shownProgram, programBuilt, shownQuad,
              quadCreated, Prod.map, id, isView.releaseProgram]

theorem releaseBindings (live : Option FrameBindings) :
    Controller.releaseBindings (view device) live =
      view (Controller.releaseBindings device live) := by
  cases live with
  | none => rfl
  | some live =>
      simp only [Controller.releaseBindings, isView.releaseGeometry, isView.releaseProgram]

theorem matchDisplay : FrameLoop.matchDisplay (view device) =
    view (FrameLoop.matchDisplay device) := by
  unfold FrameLoop.matchDisplay
  rw [isView.displaySize, isView.backingSize, isView.resizeBacking]
  split <;> rfl

theorem feed (bindings : FrameBindings) (seconds : Single) :
    FrameLoop.feed (view device) bindings seconds =
      view (FrameLoop.feed device bindings seconds) := by
  unfold FrameLoop.feed
  cases bindings.time <;> cases bindings.resolution <;>
    simp only [isView.backingSize, isView.useProgram, isView.bindQuad, isView.setFloat,
      isView.setPair]

theorem drawFrame (bindings : FrameBindings) (seconds : Single) :
    FrameLoop.drawFrame (view device) bindings seconds =
      Prod.map id view (FrameLoop.drawFrame device bindings seconds) := by
  have shown := isView.draw (FrameLoop.feed (FrameLoop.matchDisplay device) bindings seconds)
  rcases drawn : GraphicsDevice.draw
    (FrameLoop.feed (FrameLoop.matchDisplay device) bindings seconds) with ⟨result, after⟩
  rw [drawn] at shown
  simp only [FrameLoop.drawFrame, isView.matchDisplay, isView.feed, isView.backingSize, shown,
    drawn, Prod.map, id]
  cases result with
  | ok _ => rfl
  | error error =>
      cases error with
      | surfaceLost => simp only [isView.resizeBacking]
      | surfaceTimeout | fatal => rfl

end IsView

/-! ## Controllers -/

namespace Controller

/-- The same controller, on the device that a view shows. -/
def viewed (controller : Controller Outer Clock Source) (view : Outer → Inner) :
    Controller Inner Clock Source :=
  { device := view controller.device
    loop := controller.loop
    live := controller.live
    state := controller.state
    failure := controller.failure
    runningSource := controller.runningSource }

/-- An answer, with its controller on the device that a view shows. -/
def answerViewed {Answer : Type} (view : Outer → Inner)
    (answer : Answer × Controller Outer Clock Source) :
    Answer × Controller Inner Clock Source :=
  (answer.1, answer.2.viewed view)

variable [FrameClock Clock] (isView : IsView view)
variable (controller : Controller Outer Clock Source)

include isView

theorem stop_viewed : (controller.viewed view).stop = controller.stop.viewed view := by
  simp only [stop_eq, viewed, isView.releaseBindings]

variable [TimeSource Source]

theorem execute_viewed (source : String) :
    (controller.viewed view).execute source = answerViewed view (controller.execute source) := by
  have shown := isView.build controller.device source
  rcases built : build controller.device source with ⟨result, after⟩
  rw [built] at shown
  have viewedBuilt : build (controller.viewed view).device source = (result, view after) := shown
  cases result with
  | error error =>
      rw [execute_of_error built, execute_of_error viewedBuilt]
      rfl
  | ok bindings =>
      rw [execute_of_ok built, execute_of_ok viewedBuilt]
      simp only [answerViewed, viewed, isView.releaseBindings]

theorem onFrame_viewed (handle : FrameHandle) :
    (controller.viewed view).onFrame handle = answerViewed view (controller.onFrame handle) := by
  by_cases awaited : controller.loop.Awaits handle
  · rcases awaited with ⟨session, running, pending⟩
    have viewedRunning : (controller.viewed view).loop.session = some session := running
    have shown := isView.drawFrame controller.device session.bindings
      (TimeSource.sample controller.loop.time).1
    rcases drawn : FrameLoop.drawFrame controller.device session.bindings
      (TimeSource.sample controller.loop.time).1 with ⟨result, after⟩
    rw [drawn] at shown
    have viewedDrawn : FrameLoop.drawFrame (controller.viewed view).device session.bindings
        (TimeSource.sample (controller.viewed view).loop.time).1 = (result, view after) := shown
    cases result with
    | ok outcome =>
        rw [onFrame_of_ok running pending drawn, onFrame_of_ok viewedRunning pending viewedDrawn]
        rfl
    | error error =>
        rw [onFrame_of_error running pending drawn,
          onFrame_of_error viewedRunning pending viewedDrawn]
        simp only [answerViewed, viewed, isView.releaseBindings]
  · have viewedStale : ¬(controller.viewed view).loop.Awaits handle := awaited
    rw [onFrame_of_not_awaited awaited, onFrame_of_not_awaited viewedStale]
    rfl

/-! ## Runs -/

variable [ScriptedDevice Script Outer] [ScriptedDevice Script Inner]
variable (follows : ∀ (device : Outer) (script : Script),
  ScriptedDevice.follow (view device) script = view (ScriptedDevice.follow device script))

include follows

theorem perform_viewed (operation : ControllerOperation Script) :
    (controller.viewed view).perform operation =
      answerViewed view (controller.perform operation) := by
  cases operation with
  | execute source =>
      simp only [perform, execute_viewed isView]
      rfl
  | frame handle =>
      simp only [perform, onFrame_viewed isView]
      rfl
  | redraw =>
      rcases taken : FrameClock.takeDue controller.loop.clock with ⟨due, clock⟩
      have viewedTaken : FrameClock.takeDue (controller.viewed view).loop.clock = (due, clock) :=
        taken
      cases due with
      | none =>
          simp only [perform, onRedraw_of_idle taken, onRedraw_of_idle viewedTaken]
          rfl
      | some handle =>
          have run := onFrame_viewed isView
            { controller with loop := { controller.loop with clock } } handle
          simp only [perform, onRedraw_of_due taken, onRedraw_of_due viewedTaken]
          exact congrArg (fun answer => (OperationResult.framed answer.1, answer.2)) run
  | stop => exact congrArg (Prod.mk OperationResult.done) (stop_viewed isView controller)
  | teardown => exact congrArg (Prod.mk OperationResult.done) (stop_viewed isView controller)
  | script script =>
      simp only [perform, viewed, answerViewed, follows]

/-- A run on the device that is shown gives the same answers and comes to the same end. -/
theorem run_viewed (operations : List (ControllerOperation Script)) :
    (controller.viewed view).results operations = controller.results operations ∧
      (controller.viewed view).after operations = (controller.after operations).viewed view := by
  induction operations generalizing controller with
  | nil => exact ⟨rfl, rfl⟩
  | cons operation rest induction =>
      rw [results, results, after_cons, after_cons, perform_viewed isView controller follows]
      rcases induction (controller.perform operation).2 with ⟨answers, last⟩
      exact ⟨congrArg (List.cons _) answers, last⟩

end Controller

end LiveShader
