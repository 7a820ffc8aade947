import LiveShader.Proofs.Render.Consistency

/-! # A failed build leaves the screen alone

A source that does not build uses up numbers, is noted and may meet the failure that
waits for the next quad. The controller says that it has failed and keeps the failure.
Nothing else changes, so what is on screen goes on as if the source had never been
executed. -/

namespace LiveShader

variable {Clock Source : Type}

/-! ## What builds leave on a recorder -/

/-- What a failed build may change on a recorder. No draw reads any of it. -/
structure BuildTraces where
  nextNumber : Nat
  compiled : List (Stage × String)
  quadFailure : Option ResourceError

namespace Recorder

/-- The same recorder after other builds. -/
def bearing (recorder : Recorder) (traces : BuildTraces) : Recorder :=
  { recorder with
    nextNumber := traces.nextNumber
    compiled := traces.compiled
    quadFailure := traces.quadFailure }

variable (recorder : Recorder) (traces : BuildTraces)

theorem check_bearing (isLive : Bool) (misuse : Misuse) :
    (recorder.bearing traces).check isLive misuse =
      (recorder.check isLive misuse).bearing traces := by
  cases isLive <;> rfl

theorem releaseProgram_bearing (program : ProgramId) :
    (recorder.bearing traces).releaseProgram program =
      (recorder.releaseProgram program).bearing traces := by
  unfold releaseProgram
  rw [check_bearing]
  rfl

theorem releaseGeometry_bearing (geometry : GeometryId) :
    (recorder.bearing traces).releaseGeometry geometry =
      (recorder.releaseGeometry geometry).bearing traces := by
  unfold releaseGeometry
  rw [check_bearing]
  rfl

theorem releaseBindings_bearing (live : Option FrameBindings) :
    Controller.releaseBindings (recorder.bearing traces) live =
      (Controller.releaseBindings recorder live).bearing traces := by
  cases live with
  | none => rfl
  | some bindings =>
      simp only [Controller.releaseBindings, GraphicsDevice.releaseGeometry,
        GraphicsDevice.releaseProgram, releaseGeometry_bearing, releaseProgram_bearing]

theorem useProgram_bearing (program : ProgramId) :
    (recorder.bearing traces).useProgram program =
      (recorder.useProgram program).bearing traces := by
  unfold useProgram
  rw [check_bearing]
  rfl

theorem bindQuad_bearing (geometry : GeometryId) :
    (recorder.bearing traces).bindQuad geometry =
      (recorder.bindQuad geometry).bearing traces := by
  unfold bindQuad
  rw [check_bearing]
  rfl

theorem draw_bearing :
    (recorder.bearing traces).draw = (recorder.draw.1, recorder.draw.2.bearing traces) := by
  cases queued : recorder.drawFailures <;> simp only [draw, bearing, queued]

theorem matchDisplay_bearing :
    FrameLoop.matchDisplay (recorder.bearing traces) =
      (FrameLoop.matchDisplay recorder).bearing traces := by
  have displayed : GraphicsDevice.displaySize (recorder.bearing traces) =
      GraphicsDevice.displaySize recorder := rfl
  have backed : GraphicsDevice.backingSize (recorder.bearing traces) =
      GraphicsDevice.backingSize recorder := rfl
  unfold FrameLoop.matchDisplay
  rw [displayed, backed]
  split <;> rfl

theorem feed_bearing (bindings : FrameBindings) (seconds : Single) :
    FrameLoop.feed (recorder.bearing traces) bindings seconds =
      (FrameLoop.feed recorder bindings seconds).bearing traces := by
  unfold FrameLoop.feed
  simp only [GraphicsDevice.useProgram, GraphicsDevice.bindQuad, useProgram_bearing,
    bindQuad_bearing]
  cases bindings.time <;> cases bindings.resolution <;> rfl

theorem drawFrame_bearing (bindings : FrameBindings) (seconds : Single) :
    FrameLoop.drawFrame (recorder.bearing traces) bindings seconds =
      ((FrameLoop.drawFrame recorder bindings seconds).1,
        (FrameLoop.drawFrame recorder bindings seconds).2.bearing traces) := by
  unfold FrameLoop.drawFrame
  simp only [matchDisplay_bearing, feed_bearing, GraphicsDevice.draw, draw_bearing]
  rcases (FrameLoop.feed (FrameLoop.matchDisplay recorder) bindings seconds).draw with
    ⟨result, device⟩
  cases result with
  | ok _ => rfl
  | error error => cases error <;> rfl

end Recorder

/-! ## Controllers that show the same -/

namespace Controller

/-- Two controllers differ at most in what they say of themselves and in what builds
have left on their recorders. -/
structure SameScreen (first second : Controller Recorder Clock Source) : Prop where
  loop : second.loop = first.loop
  live : second.live = first.live
  runningSource : second.runningSource = first.runningSource
  device : ∃ traces, second.device = first.device.bearing traces

variable {first second : Controller Recorder Clock Source}

variable [FrameClock Clock]

theorem SameScreen.stop (same : first.SameScreen second) :
    first.stop.SameScreen second.stop := by
  rcases same with ⟨loop, live, source, traces, device⟩
  rw [stop_eq, stop_eq, loop, live, device, Recorder.releaseBindings_bearing]
  exact ⟨rfl, rfl, rfl, traces, rfl⟩

variable [TimeSource Source]

theorem SameScreen.onFrame (same : first.SameScreen second) (handle : FrameHandle) :
    (second.onFrame handle).1 = (first.onFrame handle).1 ∧
      (first.onFrame handle).2.SameScreen (second.onFrame handle).2 := by
  by_cases awaited : first.loop.Awaits handle
  · rcases awaited with ⟨session, running, pending⟩
    rcases same with ⟨loop, live, source, traces, device⟩
    have runningToo : second.loop.session = some session := loop ▸ running
    rcases drawn : FrameLoop.drawFrame first.device session.bindings
      (TimeSource.sample first.loop.time).1 with ⟨result, after⟩
    have drawnToo := Recorder.drawFrame_bearing first.device traces session.bindings
      (TimeSource.sample first.loop.time).1
    rw [drawn, ← device, ← loop] at drawnToo
    cases result with
    | ok outcome =>
        rw [onFrame_of_ok running pending drawn, onFrame_of_ok runningToo pending drawnToo]
        exact ⟨rfl, by rw [loop], live, source, traces, rfl⟩
    | error error =>
        rw [onFrame_of_error running pending drawn, onFrame_of_error runningToo pending drawnToo,
          live, Recorder.releaseBindings_bearing]
        exact ⟨rfl, by rw [loop], rfl, rfl, traces, rfl⟩
  · have notAwaited : ¬second.loop.Awaits handle := same.loop ▸ awaited
    rw [onFrame_of_not_awaited awaited, onFrame_of_not_awaited notAwaited]
    exact ⟨rfl, same⟩

theorem SameScreen.onRedraw (same : first.SameScreen second) :
    second.onRedraw.1 = first.onRedraw.1 ∧ first.onRedraw.2.SameScreen second.onRedraw.2 := by
  rcases taken : FrameClock.takeDue first.loop.clock with ⟨due, clock⟩
  have takenToo : FrameClock.takeDue second.loop.clock = (due, clock) := same.loop ▸ taken
  have waiting : SameScreen { first with loop := { first.loop with clock } }
      { second with loop := { second.loop with clock } } :=
    ⟨by rw [same.loop], same.live, same.runningSource, same.device⟩
  cases due with
  | none =>
      rw [onRedraw_of_idle taken, onRedraw_of_idle takenToo]
      exact ⟨rfl, waiting⟩
  | some handle =>
      rw [onRedraw_of_due taken, onRedraw_of_due takenToo]
      exact waiting.onFrame handle

omit [FrameClock Clock] [TimeSource Source] in
theorem SameScreen.script (same : first.SameScreen second) (script : RecorderScript) :
    SameScreen { first with device := ScriptedDevice.follow first.device script }
      { second with device := ScriptedDevice.follow second.device script } := by
  rcases same with ⟨loop, live, source, traces, device⟩
  refine ⟨loop, live, source, ?_⟩
  rw [device]
  cases script with
  | display | backing | drawFailure => exact ⟨traces, rfl⟩
  | quadFailure error => exact ⟨{ traces with quadFailure := some error }, rfl⟩

/-! ## Runs without builds -/

end Controller

/-- Whether an operation tries to build a source. -/
def ControllerOperation.Builds {Script : Type} : ControllerOperation Script → Prop
  | .execute _ => True
  | _ => False

namespace Controller

section

variable {Script Device : Type} [GraphicsDevice Device] [ScriptedDevice Script Device]
variable [FrameClock Clock] [TimeSource Source]

/-- What the operations of a run answer. -/
def results (controller : Controller Device Clock Source) :
    List (ControllerOperation Script) → List OperationResult
  | [] => []
  | operation :: rest =>
      (controller.perform operation).1 :: (controller.perform operation).2.results rest

end

variable [FrameClock Clock] [TimeSource Source] {before after : Controller Recorder Clock Source}

theorem SameScreen.perform (same : before.SameScreen after)
    {operation : ControllerOperation RecorderScript} (still : ¬operation.Builds) :
    (after.perform operation).1 = (before.perform operation).1 ∧
      (before.perform operation).2.SameScreen (after.perform operation).2 := by
  cases operation with
  | execute source => exact absurd trivial still
  | redraw =>
      rcases same.onRedraw with ⟨answer, next⟩
      exact ⟨congrArg OperationResult.framed answer, next⟩
  | frame handle =>
      rcases same.onFrame handle with ⟨answer, next⟩
      exact ⟨congrArg OperationResult.framed answer, next⟩
  | stop => exact ⟨rfl, same.stop⟩
  | teardown => exact ⟨rfl, same.stop⟩
  | script script => exact ⟨rfl, same.script script⟩

/-- Controllers that show the same go on to answer and show the same, as long as nothing
is built. -/
theorem SameScreen.run (same : before.SameScreen after)
    {later : List (ControllerOperation RecorderScript)}
    (still : ∀ operation ∈ later, ¬operation.Builds) :
    after.results later = before.results later ∧
      (before.after later).SameScreen (after.after later) := by
  induction later generalizing before after with
  | nil => exact ⟨rfl, same⟩
  | cons operation rest induction =>
      rcases List.forall_mem_cons.mp still with ⟨stillNow, stillLater⟩
      rcases same.perform stillNow with ⟨answer, next⟩
      rcases induction next stillLater with ⟨answers, last⟩
      exact ⟨by rw [results, results, answer, answers], last⟩

/-! ## Failed builds -/

/-- What a source that failed to build has changed. -/
structure FailsWith (before after : Controller Recorder Clock Source) (source : String)
    (error : BuildError) : Prop extends before.SameScreen after where
  state : after.state = .failed
  failure : after.failure = some { source, error }
  numbers : before.device.nextNumber ≤ after.device.nextNumber
  notes : before.device.compiled <+: after.device.compiled
  quad : Recorder.QuadSpent before.device.quadFailure after.device.quadFailure error

theorem failsWith_execute {source : String} {error : BuildError}
    (numbered : before.device.WellNumbered)
    (failed : before.execute source = (.error error, after)) :
    before.FailsWith after source error := by
  rcases Recorder.build_cases numbered source with
    ⟨reason, nextNumber, compiled, quadFailure, later, noted, spent, failing⟩ |
    ⟨bindings, _, _, _, _, _, _, _, succeeded⟩
  · rw [execute_of_error failing] at failed
    cases failed
    exact
      { loop := rfl
        live := rfl
        runningSource := rfl
        device := ⟨{ nextNumber, compiled, quadFailure }, rfl⟩
        state := rfl
        failure := rfl
        numbers := later
        notes := noted
        quad := spent }
  · rw [execute_of_ok succeeded] at failed
    cases failed

/-- A failure that is kept after an execute is the one it has answered with. -/
theorem execute_of_failure {controller : Controller Recorder Clock Source} {source : String}
    {error : BuildError}
    (kept : (controller.execute source).2.failure = some { source, error }) :
    controller.execute source = (.error error, (controller.execute source).2) := by
  rcases built : build controller.device source with ⟨result, device⟩
  cases result with
  | error reason =>
      rw [execute_of_error built] at kept ⊢
      cases kept
      rfl
  | ok bindings =>
      rw [execute_of_ok built] at kept
      cases kept

/-- After any run, a source that does not build changes nothing but the state, the
failure, the notes of the compiler, the numbers in use and a failure that waited for
the quad. Every later run without builds answers, draws, resizes and feeds its program
as if the source had not been executed. -/
theorem failed_execute_unseen {knownUniforms : List String} {clock : Clock} {time : Source}
    {operations : List (ControllerOperation RecorderScript)} {source : String}
    {error : BuildError}
    (reached : before = (create (Recorder.create knownUniforms) clock time).after operations)
    (failed : before.execute source = (.error error, after)) :
    before.FailsWith after source error ∧
      ∀ later : List (ControllerOperation RecorderScript),
        (∀ operation ∈ later, ¬operation.Builds) →
          after.results later = before.results later ∧
            (before.after later).SameScreen (after.after later) := by
  have steady : before.IsSteady := by
    rw [reached]
    exact after_invariant IsSteady isSteady_perform _ operations
      (isSteady_create knownUniforms clock time)
  have fails := failsWith_execute steady.numbered failed
  exact ⟨fails, fun later still => fails.toSameScreen.run still⟩

/-- A program runs, and the quad of what is to replace it is refused. -/
theorem failed_execute_unseen_without_quad :
    let source := "// VERTEX SHADER\n#version 450\n// FRAGMENT SHADER\n#version 450"
    let refused : ResourceError := .allocation "quad" "out of memory"
    let operations : List (ControllerOperation RecorderScript) :=
      [.execute source, .redraw, .script (.quadFailure refused)]
    let later : List (ControllerOperation RecorderScript) := [.redraw, .redraw]
    let before := (create (Recorder.create []) ManualClock.initial Stopwatch.initial).after
      operations
    let after := (before.execute source).2
    before.runningSource = some source ∧
      before.execute source = (.error (.resource refused), after) ∧
      before.FailsWith after source (.resource refused) ∧
      after.results later = before.results later ∧
      (before.after later).SameScreen (after.after later) := by
  intro source refused operations later before after
  have running : before.runningSource = some source := by decide +kernel
  have kept : after.failure = some { source, error := .resource refused } := by decide +kernel
  have failed := execute_of_failure kept
  rcases failed_execute_unseen rfl failed with ⟨fails, unseen⟩
  exact ⟨running, failed, fails, unseen later (by simp [later, ControllerOperation.Builds])⟩

end Controller

end LiveShader
