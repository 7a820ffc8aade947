import LiveShader.Proofs.Render.FrameCalls

/-! # The time of each frame

With a time that advances in steps, the frames after a success are shown the times
of the indices 0, 1, 2 and so on. Every frame that is not ignored takes its index,
whether or not it reaches the screen and whether or not its program uses the time.
Ignored frames and builds that fail take none. -/

namespace LiveShader

/-! ## Devices that note the numbers written to them -/

/-- A device that keeps the single numbers written to uniforms, oldest first. -/
class FloatLog (Device : Type) [GraphicsDevice Device] where
  floats : Device → List (UniformLocation × Single)
  setFloat (device : Device) (location : UniformLocation) (value : Single) :
    floats (GraphicsDevice.setFloat device location value) = floats device ++ [(location, value)]
  setPair (device : Device) (location : UniformLocation) (first second : Single) :
    floats (GraphicsDevice.setPair device location first second) = floats device
  compileStage (device : Device) (stage : Stage) (source : String) :
    floats (GraphicsDevice.compileStage device stage source).2 = floats device
  releaseStage (device : Device) (stage : StageId) :
    floats (GraphicsDevice.releaseStage device stage) = floats device
  linkProgram (device : Device) (vertex fragment : StageId) :
    floats (GraphicsDevice.linkProgram device vertex fragment).2 = floats device
  releaseProgram (device : Device) (program : ProgramId) :
    floats (GraphicsDevice.releaseProgram device program) = floats device
  createQuad (device : Device) (program : ProgramId) (position : Option AttributeLocation) :
    floats (GraphicsDevice.createQuad device program position).2 = floats device
  releaseGeometry (device : Device) (geometry : GeometryId) :
    floats (GraphicsDevice.releaseGeometry device geometry) = floats device
  resizeBacking (device : Device) (size : Size) :
    floats (GraphicsDevice.resizeBacking device size) = floats device
  useProgram (device : Device) (program : ProgramId) :
    floats (GraphicsDevice.useProgram device program) = floats device
  bindQuad (device : Device) (geometry : GeometryId) :
    floats (GraphicsDevice.bindQuad device geometry) = floats device
  draw (device : Device) : floats (GraphicsDevice.draw device).2 = floats device

attribute [simp] FloatLog.setFloat FloatLog.setPair FloatLog.compileStage FloatLog.releaseStage
  FloatLog.linkProgram FloatLog.releaseProgram FloatLog.createQuad FloatLog.releaseGeometry
  FloatLog.resizeBacking FloatLog.useProgram FloatLog.bindQuad FloatLog.draw

/-- The number that a call writes to a uniform. -/
def FrameCall.float? : FrameCall → Option (UniformLocation × Single)
  | .writeFloat location value => some (location, value)
  | _ => none

/-- Any device can be logged. -/
instance {Device : Type} [GraphicsDevice Device] : FloatLog (Logged Device) where
  floats logged := logged.calls.filterMap FrameCall.float?
  setFloat logged location value := by
    simp [GraphicsDevice.setFloat, Logged.note, FrameCall.float?]
  setPair logged location first second := by
    simp [GraphicsDevice.setPair, Logged.note, FrameCall.float?]
  compileStage _ _ _ := rfl
  releaseStage _ _ := rfl
  linkProgram _ _ _ := rfl
  releaseProgram _ _ := rfl
  createQuad _ _ _ := rfl
  releaseGeometry _ _ := rfl
  resizeBacking logged size := by
    simp [GraphicsDevice.resizeBacking, Logged.note, FrameCall.float?]
  useProgram logged program := by
    simp [GraphicsDevice.useProgram, Logged.note, FrameCall.float?]
  bindQuad logged geometry := by
    simp [GraphicsDevice.bindQuad, Logged.note, FrameCall.float?]
  draw logged := by
    simp [GraphicsDevice.draw, Logged.answer, Logged.drawCall, FrameCall.float?]

/-- The write of a single number. -/
def UniformWrite.float? (write : UniformWrite) : Option (UniformLocation × Single) :=
  match write.value with
  | .float value => some (write.location, value)
  | .pair _ _ => none

namespace Recorder

@[simp] theorem check_writes (recorder : Recorder) (isLive : Bool) (misuse : Misuse) :
    (recorder.check isLive misuse).writes = recorder.writes := by
  cases isLive <;> rfl

instance : FloatLog Recorder where
  floats recorder := recorder.writes.filterMap UniformWrite.float?
  setFloat recorder location value := by
    simp [GraphicsDevice.setFloat, writeUniform, UniformWrite.float?]
  setPair recorder location first second := by
    simp [GraphicsDevice.setPair, writeUniform, UniformWrite.float?]
  compileStage recorder stage source := by
    simp only [GraphicsDevice.compileStage, compileStage]
    split <;> rfl
  releaseStage recorder stage := by
    simp [GraphicsDevice.releaseStage, releaseStage]
  linkProgram recorder vertex fragment := by
    simp only [GraphicsDevice.linkProgram, linkProgram]
    split <;> rfl
  releaseProgram recorder program := by
    simp [GraphicsDevice.releaseProgram, releaseProgram]
  createQuad recorder program position := by
    simp only [GraphicsDevice.createQuad, createQuad]
    split <;> simp
  releaseGeometry recorder geometry := by
    simp [GraphicsDevice.releaseGeometry, releaseGeometry]
  resizeBacking recorder size := rfl
  useProgram recorder program := by
    simp [GraphicsDevice.useProgram, useProgram]
  bindQuad recorder geometry := by
    simp [GraphicsDevice.bindQuad, bindQuad]
  draw recorder := by
    simp only [GraphicsDevice.draw, draw]
    split <;> rfl

end Recorder

/-! ## What builds and frames write -/

section

open FloatLog

variable {Device : Type} [GraphicsDevice Device] [FloatLog Device]

/-- Building and releasing write no single number. -/
theorem isBuildStable_floats :
    IsBuildStable fun before after : Device => floats after = floats before where
  refl _ := rfl
  trans early late := late.trans early
  compileStage := FloatLog.compileStage
  releaseStage := FloatLog.releaseStage
  linkProgram := FloatLog.linkProgram
  releaseProgram := FloatLog.releaseProgram
  createQuad := FloatLog.createQuad
  releaseGeometry := FloatLog.releaseGeometry

theorem floats_matchDisplay (device : Device) :
    floats (FrameLoop.matchDisplay device) = floats device := by
  unfold FrameLoop.matchDisplay
  split <;> simp

theorem floats_feed (device : Device) (bindings : FrameBindings) (seconds : Single) :
    floats (FrameLoop.feed device bindings seconds) =
      floats device ++ (bindings.time.map fun location => (location, seconds)).toList := by
  unfold FrameLoop.feed
  cases bindings.time <;> cases bindings.resolution <;> simp

/-- A frame writes its time once, or not at all if its program does not use it. -/
theorem floats_drawFrame (device : Device) (bindings : FrameBindings) (seconds : Single) :
    floats (FrameLoop.drawFrame device bindings seconds).2 =
      floats device ++ (bindings.time.map fun location => (location, seconds)).toList := by
  rcases drawn : GraphicsDevice.draw
    (FrameLoop.feed (FrameLoop.matchDisplay device) bindings seconds) with ⟨result, after⟩
  have kept := FloatLog.draw (FrameLoop.feed (FrameLoop.matchDisplay device) bindings seconds)
  rw [drawn, floats_feed, floats_matchDisplay] at kept
  simp only [FrameLoop.drawFrame, drawn]
  cases result with
  | ok _ => exact kept
  | error error =>
      cases error with
      | surfaceLost => rw [FloatLog.resizeBacking, kept]
      | surfaceTimeout | fatal => exact kept

end

/-! ## Frames and starts among the answers -/

namespace OperationResult

/-- Whether a frame was run, whatever came of it. -/
def isFrame : OperationResult → Bool
  | .framed (.ok .ignored) => false
  | .framed _ => true
  | _ => false

/-- Whether a program was installed. -/
def isStart : OperationResult → Bool
  | .built (.ok ()) => true
  | _ => false

theorem isStart_built_iff {result : Except BuildError Unit} :
    (OperationResult.built result).isStart ↔ result = .ok () := by
  cases result <;> simp [isStart]

theorem isFrame_framed_iff {result : Except ResourceError FrameOutcome} :
    (OperationResult.framed result).isFrame ↔ result ≠ .ok .ignored := by
  rcases result with error | outcome
  · simp [isFrame]
  · cases outcome <;> simp [isFrame]

theorem isFrame_of_isStart {answer : OperationResult} (start : answer.isStart) :
    answer.isFrame = false := by
  cases answer with
  | built result => rfl
  | framed | done => simp [isStart] at start

end OperationResult

/-! ## What an operation does with the time -/

namespace Controller

open FloatLog

variable {Script Device Clock Source : Type}

/-- The time stands still. The loop goes on with the same program or ends. -/
structure LeavesTime (before after : Controller Device Clock Source) : Prop where
  time : after.loop.time = before.loop.time
  goesOn : after.loop.bindings? = before.loop.bindings? ∨ after.loop.bindings? = none

variable [GraphicsDevice Device] [FrameClock Clock]

theorem leavesTime_stop (controller : Controller Device Clock Source) :
    controller.LeavesTime controller.stop := by
  rw [stop_eq]
  exact ⟨FrameLoop.stop_time _, .inr (by simp [FrameLoop.bindings?])⟩

variable [FloatLog Device]

variable [TimeSource Source]

/-- A frame takes one sample and writes it if its program uses the time. The loop goes
on with the same program or ends. -/
structure PlaysFrame (before after : Controller Device Clock Source) (bindings : FrameBindings) :
    Prop where
  playing : before.loop.bindings? = some bindings
  sampled : after.loop.time = (TimeSource.sample before.loop.time).2
  written : floats after.device = floats before.device ++
    (bindings.time.map fun location => (location, (TimeSource.sample before.loop.time).1)).toList
  goesOn : after.loop.bindings? = some bindings ∨ after.loop.bindings? = none

theorem onFrame_plays (controller : Controller Device Clock Source) (handle : FrameHandle) :
    controller.onFrame handle = (.ok .ignored, controller) ∨
      (controller.onFrame handle).1 ≠ .ok .ignored ∧
        ∃ bindings, controller.PlaysFrame (controller.onFrame handle).2 bindings := by
  by_cases awaited : controller.loop.Awaits handle
  · rcases awaited with ⟨session, running, pending⟩
    let seconds := (TimeSource.sample controller.loop.time).1
    have playing : controller.loop.bindings? = some session.bindings := by
      simp [FrameLoop.bindings?, running]
    have shown : (controller.onFrame handle).1 ≠ .ok .ignored :=
      onFrame_ne_ignored running pending
    have written := floats_drawFrame controller.device session.bindings seconds
    rcases drawn : FrameLoop.drawFrame controller.device session.bindings seconds with
      ⟨result, device⟩
    rw [drawn] at written
    refine .inr ⟨shown, session.bindings, ?_⟩
    cases result with
    | ok outcome =>
        rw [onFrame_of_ok running pending drawn]
        exact ⟨playing, rfl, written, .inl rfl⟩
    | error error =>
        rw [onFrame_of_error running pending drawn]
        exact ⟨playing, rfl, (isBuildStable_floats.releaseBindings _ _).trans written, .inr rfl⟩
  · exact .inl (onFrame_of_not_awaited awaited)

variable [ScriptedDevice Script Device]

/-- How an operation treats the time of the loop that it meets. -/
inductive TimeStep (controller : Controller Device Clock Source)
    (operation : ControllerOperation Script) : Prop where
  | frame (isFrame : (controller.perform operation).1.isFrame) (bindings : FrameBindings)
      (plays : controller.PlaysFrame (controller.perform operation).2 bindings)
  | start (isStart : (controller.perform operation).1.isStart)
      (restarted : (controller.perform operation).2.loop.time =
        TimeSource.restart controller.loop.time)
      (written : floats (controller.perform operation).2.device = floats controller.device)
  | still (notFrame : (controller.perform operation).1.isFrame = false)
      (leaves : controller.LeavesTime (controller.perform operation).2)
      (written : (∀ script, operation ≠ .script script) →
        floats (controller.perform operation).2.device = floats controller.device)

/-- An operation that runs a callback, with nothing but the clock changed before. -/
theorem timeStep_of_callback {controller : Controller Device Clock Source}
    {operation : ControllerOperation Script} (clock : Clock) (handle : FrameHandle)
    (performed : controller.perform operation =
      (.framed (onFrame { controller with loop := { controller.loop with clock } } handle).1,
        (onFrame { controller with loop := { controller.loop with clock } } handle).2)) :
    controller.TimeStep operation := by
  let waiting : Controller Device Clock Source :=
    { controller with loop := { controller.loop with clock } }
  rcases waiting.onFrame_plays handle with ignored | ⟨shown, bindings, plays⟩
  · have answered : controller.perform operation = (.framed (.ok .ignored), waiting) := by
      rw [performed, ignored]
    exact .still (by rw [answered]; rfl) (by rw [answered]; exact ⟨rfl, .inl rfl⟩)
      (by rw [answered]; exact fun _ => rfl)
  · refine .frame ?_ bindings ?_ <;> rw [performed]
    · exact OperationResult.isFrame_framed_iff.mpr shown
    · exact ⟨plays.playing, plays.sampled, plays.written, plays.goesOn⟩

theorem timeStep (controller : Controller Device Clock Source)
    (operation : ControllerOperation Script) : controller.TimeStep operation := by
  cases operation with
  | execute source =>
      rcases built : build controller.device source with ⟨result, device⟩
      have written := isBuildStable_floats.build controller.device source
      rw [built] at written
      cases result with
      | error error =>
          have performed := execute_of_error built
          refine .still ?_ ?_ ?_ <;> simp only [perform, performed]
          · rfl
          · exact ⟨rfl, .inl rfl⟩
          · exact fun _ => written
      | ok bindings =>
          have performed := execute_of_ok built
          refine .start ?_ ?_ ?_ <;> simp only [perform, performed]
          · rfl
          · exact (isBuildStable_floats.releaseBindings _ _).trans written
  | redraw =>
      rcases taken : FrameClock.takeDue controller.loop.clock with ⟨due, clock⟩
      cases due with
      | none =>
          have performed : controller.perform (.redraw : ControllerOperation Script) =
              (.framed (.ok .ignored),
                { controller with loop := { controller.loop with clock } }) := by
            simp only [perform, onRedraw_of_idle taken]
          refine .still ?_ ?_ ?_ <;> rw [performed]
          · rfl
          · exact ⟨rfl, .inl rfl⟩
          · exact fun _ => rfl
      | some handle =>
          exact timeStep_of_callback clock handle (by simp only [perform, onRedraw_of_due taken])
  | frame handle => exact timeStep_of_callback controller.loop.clock handle rfl
  | stop | teardown =>
      exact .still rfl (leavesTime_stop controller) fun _ => isBuildStable_floats.stop controller
  | script script => exact .still rfl ⟨rfl, .inl rfl⟩ fun other => absurd rfl (other script)

end Controller

/-! ## The index of a frame

The index is kept by the time itself. Between a success and the next one it is the
number of frames that were not ignored. -/

namespace Controller

open FloatLog

variable {Script Device Clock : Type} [GraphicsDevice Device] [FloatLog Device]
variable [ScriptedDevice Script Device] [FrameClock Clock]

theorem step_perform (controller : Controller Device Clock SteppedTime)
    (operation : ControllerOperation Script) :
    (controller.perform operation).2.loop.time.step = controller.loop.time.step := by
  rcases controller.timeStep operation with ⟨_, _, plays⟩ | ⟨_, restarted, _⟩ | ⟨_, leaves, _⟩
  · rw [plays.sampled]
    rfl
  · rw [restarted]
    rfl
  · rw [leaves.time]

/-- The next frame has an index and is one of the program with some bindings. Indices
are 64 bits wide; frames beyond the last one share it. -/
structure IsAt (controller : Controller Device Clock SteppedTime) (step : Single)
    (bindings : FrameBindings) (index : Nat) : Prop where
  time : controller.loop.time = { step, frame := min index SteppedTime.lastFrame }
  playing : ∀ other ∈ controller.loop.bindings?, other = bindings

section

variable {controller started : Controller Device Clock SteppedTime} {step : Single}
variable {bindings : FrameBindings} {index : Nat}

omit [FloatLog Device] in
theorem isAt_execute {source : String} (succeeded : controller.execute source = (.ok (), started))
    (playing : started.loop.bindings? = some bindings) :
    started.IsAt controller.loop.time.step bindings 0 := by
  rcases built : build controller.device source with ⟨result, device⟩
  cases result with
  | error error =>
      rw [execute_of_error built] at succeeded
      cases succeeded
  | ok made =>
      refine ⟨?_, fun other member => Option.some.inj (member.symm.trans playing)⟩
      rw [execute_of_ok built] at succeeded
      cases succeeded
      rw [Nat.zero_min]
      rfl

theorem IsAt.perform {operation : ControllerOperation Script}
    (isAt : controller.IsAt step bindings index)
    (notStart : ¬(controller.perform operation).1.isStart) :
    (controller.perform operation).2.IsAt step bindings
      (index + if (controller.perform operation).1.isFrame then 1 else 0) := by
  rcases controller.timeStep operation with
    ⟨isFrame, shown, plays⟩ | ⟨isStart, _, _⟩ | ⟨notFrame, leaves, _⟩
  · have same : shown = bindings := isAt.playing shown plays.playing
    subst same
    refine ⟨?_, ?_⟩
    · have counted : min (min index SteppedTime.lastFrame + 1) SteppedTime.lastFrame =
          min (index + 1) SteppedTime.lastFrame := by omega
      rw [plays.sampled, isAt.time, if_pos isFrame, ← counted]
      rfl
    · rcases plays.goesOn with playing | ended
      · simp [playing]
      · simp [ended]
  · exact absurd isStart notStart
  · refine ⟨?_, ?_⟩
    · rw [leaves.time, isAt.time, notFrame]
      rfl
    · rcases leaves.goesOn with same | ended
      · rw [same]
        exact isAt.playing
      · simp [ended]

theorem IsAt.after {between : List (ControllerOperation Script)}
    (isAt : controller.IsAt step bindings index)
    (uninterrupted : ∀ answer ∈ controller.results between, ¬answer.isStart) :
    (controller.after between).IsAt step bindings
      (index + (controller.results between).countP OperationResult.isFrame) := by
  induction between generalizing controller index with
  | nil => exact isAt
  | cons operation rest induction =>
      rw [results] at uninterrupted
      rcases List.forall_mem_cons.mp uninterrupted with ⟨now, later⟩
      have last := induction (isAt.perform now) later
      rw [results, List.countP_cons, Nat.add_comm (List.countP _ _), ← Nat.add_assoc]
      exact last

end

/-- What an operation does with the time when the frames of some bindings have come to
`seconds`. -/
structure ShowsTime (controller : Controller Device Clock SteppedTime)
    (operation : ControllerOperation Script) (bindings : FrameBindings) (seconds : Single) :
    Prop where
  sampled : (controller.perform operation).1.isFrame →
    TimeSource.sample controller.loop.time = (seconds, (controller.perform operation).2.loop.time)
  written : (controller.perform operation).1.isFrame →
    floats (controller.perform operation).2.device =
      floats controller.device ++ (bindings.time.map fun location => (location, seconds)).toList
  still : ¬(controller.perform operation).1.isFrame → ¬(controller.perform operation).1.isStart →
    (controller.perform operation).2.loop.time = controller.loop.time
  unwritten : ¬(controller.perform operation).1.isFrame → (∀ script, operation ≠ .script script) →
    floats (controller.perform operation).2.device = floats controller.device

theorem IsAt.showsTime {controller : Controller Device Clock SteppedTime} {step : Single}
    {bindings : FrameBindings} {index : Nat} (isAt : controller.IsAt step bindings index)
    (operation : ControllerOperation Script) :
    controller.ShowsTime operation bindings
      (SteppedTime.secondsAt step (min index SteppedTime.lastFrame)) := by
  rcases controller.timeStep operation with
    ⟨isFrame, shown, plays⟩ | ⟨isStart, _, written⟩ | ⟨notFrame, leaves, written⟩
  · have same : shown = bindings := isAt.playing shown plays.playing
    subst same
    have seconds : (TimeSource.sample controller.loop.time).1 =
        SteppedTime.secondsAt step (min index SteppedTime.lastFrame) := by
      rw [isAt.time]
      rfl
    refine ⟨fun _ => ?_, fun _ => ?_, fun quiet => absurd isFrame quiet,
      fun quiet => absurd isFrame quiet⟩
    · rw [← seconds, plays.sampled]
    · rw [← seconds, plays.written]
  · have notFrame := OperationResult.isFrame_of_isStart isStart
    exact ⟨by simp [notFrame], by simp [notFrame], fun _ notStart => absurd isStart notStart,
      fun _ _ => written⟩
  · exact ⟨by simp [notFrame], by simp [notFrame], fun _ _ => leaves.time, fun _ => written⟩

/-- After a success, and as long as there is no other, the frame behind `index` frames
that were not ignored is shown the time of that index. -/
theorem frame_shows_its_index {device : Device} {clock : Clock} {step : Single}
    {before between : List (ControllerOperation Script)} {source : String}
    {bindings : FrameBindings} {index : Nat} {started : Controller Device Clock SteppedTime}
    (succeeded :
      ((create device clock (SteppedTime.ofStep step)).after before).execute source =
        (.ok (), started))
    (playing : started.loop.bindings? = some bindings)
    (uninterrupted : ∀ answer ∈ started.results between, ¬answer.isStart)
    (counted : (started.results between).countP OperationResult.isFrame = index)
    (operation : ControllerOperation Script) :
    (started.after between).ShowsTime operation bindings
      (SteppedTime.secondsAt step (min index SteppedTime.lastFrame)) := by
  have stepped :
      ((create device clock (SteppedTime.ofStep step)).after before).loop.time.step = step :=
    after_invariant
      (fun controller : Controller Device Clock SteppedTime => controller.loop.time.step = step)
      (fun controller operation held => (step_perform controller operation).trans held) _ before rfl
  have isAt := (isAt_execute succeeded playing).after uninterrupted
  rw [stepped, Nat.zero_add, counted] at isAt
  exact isAt.showsTime operation

/-- Of the frames since the success one was drawn, one was skipped and one was stale, and
a source did not build. The next one has index 2. -/
theorem frame_shows_its_index_behind_skipped :
    let source := "// VERTEX SHADER\n#version 450\n// FRAGMENT SHADER\n#version 450\n" ++
      "uniform float time;"
    let step := Single.ofNat 1
    let before : List (ControllerOperation RecorderScript) := [.execute "", .redraw]
    let between : List (ControllerOperation RecorderScript) :=
      [.redraw, .script (.drawFailure .surfaceLost), .redraw, .frame { number := 1 }, .execute ""]
    let controller := (create (Recorder.create ["time"]) ManualClock.initial
      (SteppedTime.ofStep step)).after before
    let started := (controller.execute source).2
    let bindings : FrameBindings := {
      program := { number := 3 }
      geometry := { number := 4 }
      position := none
      time := some { binding := 0, offset := 0 }
      resolution := none }
    controller.execute source = (.ok (), started) ∧
      started.loop.bindings? = some bindings ∧
      (∀ answer ∈ started.results between, ¬answer.isStart) ∧
      (started.results between).countP OperationResult.isFrame = 2 ∧
      ((started.after between).perform (.redraw : ControllerOperation RecorderScript)).1.isFrame ∧
      (started.after between).ShowsTime (.redraw : ControllerOperation RecorderScript) bindings
        (SteppedTime.secondsAt step (min 2 SteppedTime.lastFrame)) := by
  intro source step before between controller started bindings
  have happens : (OperationResult.built (controller.execute source).1).isStart ∧
      started.loop.bindings? = some bindings ∧
      (∀ answer ∈ started.results between, ¬answer.isStart) ∧
      (started.results between).countP OperationResult.isFrame = 2 ∧
      ((started.after between).perform
        (.redraw : ControllerOperation RecorderScript)).1.isFrame := by
    decide +kernel
  rcases happens with ⟨succeeded, playing, uninterrupted, counted, isFrame⟩
  have executed : controller.execute source = (.ok (), started) :=
    Prod.ext (OperationResult.isStart_built_iff.mp succeeded) rfl
  exact ⟨executed, playing, uninterrupted, counted, isFrame,
    frame_shows_its_index executed playing uninterrupted counted .redraw⟩

end Controller

end LiveShader
