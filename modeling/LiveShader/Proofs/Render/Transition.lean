import LiveShader.Render.Controller

/-! # What the operations of a controller do

Each operation is described once, for any device, clock and time source. -/

namespace LiveShader

variable {Device Clock Source : Type}

/-! ## The render loop -/

namespace FrameLoop

/-- Whether a callback is the one that the loop waits for. -/
def Awaits (loop : FrameLoop Clock Source) (handle : FrameHandle) : Prop :=
  ∃ session, loop.session = some session ∧ session.pending = some handle

@[simp] theorem stop_session [FrameClock Clock] (loop : FrameLoop Clock Source) :
    loop.stop.2.session = none := by
  unfold stop
  split
  case h_1 idle => exact idle
  case h_2 => rfl

@[simp] theorem stop_time [FrameClock Clock] (loop : FrameLoop Clock Source) :
    loop.stop.2.time = loop.time := by
  unfold stop
  split <;> rfl

theorem stop_of_not_running [FrameClock Clock] {loop : FrameLoop Clock Source}
    (idle : loop.session = none) : loop.stop = (none, loop) := by
  simp [stop, idle]

@[simp] theorem stop_stop [FrameClock Clock] (loop : FrameLoop Clock Source) :
    loop.stop.2.stop = (none, loop.stop.2) :=
  stop_of_not_running (stop_session loop)

theorem start_eq [FrameClock Clock] [TimeSource Source] (loop : FrameLoop Clock Source)
    (bindings : FrameBindings) :
    loop.start bindings =
      { clock := (FrameClock.request loop.stop.2.clock).2
        time := TimeSource.restart loop.time
        session := some
          { bindings, pending := some (FrameClock.request loop.stop.2.clock).1 } } := by
  simp [start]

section

variable [GraphicsDevice Device] [FrameClock Clock] [TimeSource Source]

theorem onFrame_of_not_awaited {loop : FrameLoop Clock Source} (device : Device)
    {handle : FrameHandle} (stale : ¬loop.Awaits handle) :
    loop.onFrame device handle = (.ok .ignored, loop, device) := by
  cases running : loop.session with
  | none => simp [onFrame, running]
  | some session =>
      have different : session.pending ≠ some handle :=
        fun pending => stale ⟨session, running, pending⟩
      simp [onFrame, running, different]

/-- What comes of a frame whose draw has a result. -/
def frameResult : Except DrawError Unit → Except ResourceError FrameOutcome
  | .ok () => .ok .drawn
  | .error .surfaceLost | .error .surfaceTimeout => .ok .skipped
  | .error (.fatal error) => .error error

theorem frameResult_eq_error_iff {result : Except DrawError Unit} {error : ResourceError} :
    frameResult result = .error error ↔ result = .error (.fatal error) := by
  rcases result with failure | _
  · cases failure <;> simp [frameResult]
  · simp [frameResult]

theorem drawFrame_result (device : Device) (bindings : FrameBindings) (seconds : Single) :
    (drawFrame device bindings seconds).1 =
      frameResult (GraphicsDevice.draw (feed (matchDisplay device) bindings seconds)).1 := by
  unfold drawFrame
  simp only
  split <;> simp [frameResult, *]

theorem drawFrame_device (device : Device) (bindings : FrameBindings) (seconds : Single) :
    (drawFrame device bindings seconds).2 =
      match GraphicsDevice.draw (feed (matchDisplay device) bindings seconds) with
      | (.error .surfaceLost, after) =>
          GraphicsDevice.resizeBacking after (GraphicsDevice.backingSize (matchDisplay device))
      | (_, after) => after := by
  rcases drawn : GraphicsDevice.draw (feed (matchDisplay device) bindings seconds) with
    ⟨failure | _, after⟩
  · cases failure <;> simp only [drawFrame, drawn]
  · simp only [drawFrame, drawn]

/-- A frame of a session is drawn, skipped or fails. -/
theorem drawFrame_ne_ignored (device : Device) (bindings : FrameBindings) (seconds : Single) :
    (drawFrame device bindings seconds).1 ≠ .ok .ignored := by
  rw [drawFrame_result]
  rcases (GraphicsDevice.draw (feed (matchDisplay device) bindings seconds)).1 with error | _
  · cases error <;> nofun
  · nofun

/-- A frame that draws, or fails to, without ending the loop. -/
theorem onFrame_of_ok {loop : FrameLoop Clock Source} {device after : Device}
    {handle : FrameHandle} {session : RenderSession} {outcome : FrameOutcome}
    (running : loop.session = some session) (pending : session.pending = some handle)
    (drawn : drawFrame device session.bindings (TimeSource.sample loop.time).1 =
      (.ok outcome, after)) :
    loop.onFrame device handle = (.ok outcome,
      { clock := (FrameClock.request loop.clock).2
        time := (TimeSource.sample loop.time).2
        session := some { session with pending := some (FrameClock.request loop.clock).1 } },
      after) := by
  simp [onFrame, running, pending, drawn]

/-- A frame that ends the loop. -/
theorem onFrame_of_error {loop : FrameLoop Clock Source} {device after : Device}
    {handle : FrameHandle} {session : RenderSession} {error : ResourceError}
    (running : loop.session = some session) (pending : session.pending = some handle)
    (drawn : drawFrame device session.bindings (TimeSource.sample loop.time).1 =
      (.error error, after)) :
    loop.onFrame device handle = (.error error,
      { loop with time := (TimeSource.sample loop.time).2, session := none }, after) := by
  simp [onFrame, running, pending, drawn]

end

end FrameLoop

/-! ## The controller -/

namespace Controller

section

variable [GraphicsDevice Device]

/-- The device after what was on screen is released. -/
def releaseBindings (device : Device) : Option FrameBindings → Device
  | none => device
  | some live =>
      GraphicsDevice.releaseProgram (GraphicsDevice.releaseGeometry device live.geometry)
        live.program

theorem releaseLive_eq (controller : Controller Device Clock Source) :
    controller.releaseLive = { controller with
      device := releaseBindings controller.device controller.live
      live := none } := by
  rcases controller with ⟨device, loop, live, state, failure, runningSource⟩
  cases live <;> rfl

variable [FrameClock Clock]

theorem stop_eq (controller : Controller Device Clock Source) :
    controller.stop = { controller with
      device := releaseBindings controller.device controller.live
      loop := controller.loop.stop.2
      live := none
      state := .idle
      failure := none
      runningSource := none } := by
  simp [stop, stopLoop, releaseLive_eq]

variable [TimeSource Source]

theorem execute_of_error {controller : Controller Device Clock Source} {source : String}
    {error : BuildError} {after : Device}
    (failed : build controller.device source = (.error error, after)) :
    controller.execute source = (.error error, { controller with
      device := after, state := .failed, failure := some { source, error } }) := by
  simp [execute, failed]

theorem execute_of_ok {controller : Controller Device Clock Source} {source : String}
    {bindings : FrameBindings} {after : Device}
    (succeeded : build controller.device source = (.ok bindings, after)) :
    controller.execute source = (.ok (), {
      device := releaseBindings after controller.live
      loop := {
        clock := (FrameClock.request controller.loop.stop.2.clock).2
        time := TimeSource.restart controller.loop.time
        session := some {
          bindings, pending := some (FrameClock.request controller.loop.stop.2.clock).1 } }
      live := some bindings
      state := .running
      failure := none
      runningSource := some source }) := by
  simp [execute, succeeded, install, stopLoop, releaseLive_eq, FrameLoop.start_eq]

theorem onFrame_of_not_awaited {controller : Controller Device Clock Source}
    {handle : FrameHandle} (stale : ¬controller.loop.Awaits handle) :
    controller.onFrame handle = (.ok .ignored, controller) := by
  simp [onFrame, FrameLoop.onFrame_of_not_awaited controller.device stale]

theorem onFrame_of_ok {controller : Controller Device Clock Source} {after : Device}
    {handle : FrameHandle} {session : RenderSession} {outcome : FrameOutcome}
    (running : controller.loop.session = some session) (pending : session.pending = some handle)
    (drawn : FrameLoop.drawFrame controller.device session.bindings
      (TimeSource.sample controller.loop.time).1 = (.ok outcome, after)) :
    controller.onFrame handle = (.ok outcome, { controller with
      device := after
      loop := {
        clock := (FrameClock.request controller.loop.clock).2
        time := (TimeSource.sample controller.loop.time).2
        session := some { session with
          pending := some (FrameClock.request controller.loop.clock).1 } } }) := by
  simp [onFrame, FrameLoop.onFrame_of_ok running pending drawn]

theorem onFrame_of_error {controller : Controller Device Clock Source} {after : Device}
    {handle : FrameHandle} {session : RenderSession} {error : ResourceError}
    (running : controller.loop.session = some session) (pending : session.pending = some handle)
    (drawn : FrameLoop.drawFrame controller.device session.bindings
      (TimeSource.sample controller.loop.time).1 = (.error error, after)) :
    controller.onFrame handle = (.error error, { controller with
      device := releaseBindings after controller.live
      loop := { controller.loop with
        time := (TimeSource.sample controller.loop.time).2
        session := none }
      live := none
      state := .idle
      runningSource := none }) := by
  simp [onFrame, FrameLoop.onFrame_of_error running pending drawn, releaseLive_eq]

theorem onFrame_ne_ignored {controller : Controller Device Clock Source} {session : RenderSession}
    {handle : FrameHandle} (running : controller.loop.session = some session)
    (pending : session.pending = some handle) :
    (controller.onFrame handle).1 ≠ .ok .ignored := by
  have outcome := FrameLoop.drawFrame_ne_ignored controller.device session.bindings
    (TimeSource.sample controller.loop.time).1
  rcases drawn : FrameLoop.drawFrame controller.device session.bindings
    (TimeSource.sample controller.loop.time).1 with ⟨result, device⟩
  rw [drawn] at outcome
  cases result with
  | ok outcome => rwa [onFrame_of_ok running pending drawn]
  | error error => rwa [onFrame_of_error running pending drawn]

theorem onRedraw_of_idle {controller : Controller Device Clock Source} {clock : Clock}
    (idle : FrameClock.takeDue controller.loop.clock = (none, clock)) :
    controller.onRedraw =
      (.ok .ignored, { controller with loop := { controller.loop with clock } }) := by
  simp [onRedraw, idle]

theorem onRedraw_of_due {controller : Controller Device Clock Source} {clock : Clock}
    {handle : FrameHandle} (due : FrameClock.takeDue controller.loop.clock = (some handle, clock)) :
    controller.onRedraw =
      onFrame { controller with loop := { controller.loop with clock } } handle := by
  simp [onRedraw, due]

/-- A frame leaves the state as it is, or it ends the loop and the state is idle. The kept
failure stays either way. -/
theorem onFrame_cases (controller : Controller Device Clock Source) (handle : FrameHandle) :
    (∃ outcome, (controller.onFrame handle).1 = .ok outcome ∧
      (controller.onFrame handle).2.state = controller.state ∧
      (controller.onFrame handle).2.failure = controller.failure ∧
      (controller.onFrame handle).2.loop.isRunning = controller.loop.isRunning) ∨
    ∃ error, (controller.onFrame handle).1 = .error error ∧
      (controller.onFrame handle).2.state = .idle ∧
      (controller.onFrame handle).2.failure = controller.failure ∧
      ¬(controller.onFrame handle).2.loop.isRunning := by
  by_cases awaited : controller.loop.Awaits handle
  · rcases awaited with ⟨session, running, pending⟩
    rcases drawn : FrameLoop.drawFrame controller.device session.bindings
      (TimeSource.sample controller.loop.time).1 with ⟨result, device⟩
    cases result with
    | ok outcome =>
        rw [onFrame_of_ok running pending drawn]
        exact .inl ⟨outcome, rfl, rfl, rfl, by simp [FrameLoop.isRunning, running]⟩
    | error error =>
        rw [onFrame_of_error running pending drawn]
        exact .inr ⟨error, rfl, rfl, rfl, by simp [FrameLoop.isRunning]⟩
  · rw [onFrame_of_not_awaited awaited]
    exact .inl ⟨.ignored, rfl, rfl, rfl, rfl⟩

theorem onRedraw_cases (controller : Controller Device Clock Source) :
    (∃ outcome, controller.onRedraw.1 = .ok outcome ∧
      controller.onRedraw.2.state = controller.state ∧
      controller.onRedraw.2.failure = controller.failure ∧
      controller.onRedraw.2.loop.isRunning = controller.loop.isRunning) ∨
    ∃ error, controller.onRedraw.1 = .error error ∧
      controller.onRedraw.2.state = .idle ∧
      controller.onRedraw.2.failure = controller.failure ∧
      ¬controller.onRedraw.2.loop.isRunning := by
  rcases taken : FrameClock.takeDue controller.loop.clock with ⟨due, clock⟩
  cases due with
  | none =>
      rw [onRedraw_of_idle taken]
      exact .inl ⟨.ignored, rfl, rfl, rfl, rfl⟩
  | some handle =>
      rw [onRedraw_of_due taken]
      exact onFrame_cases { controller with loop := { controller.loop with clock } } handle

end

end Controller

end LiveShader
