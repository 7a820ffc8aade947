import LiveShader.Proofs.Render.FrameCalls
import LiveShader.Proofs.Render.RecorderObjects

/-! # The effect of a frame

A frame on a recorder brings the drawing buffer to the size it is shown at, feeds what the
program uses of the time and the size, draws once and, unless the draw fails fatally, requests
the next frame. Nothing else changes. -/

namespace LiveShader

/-! ## Frames on a recorder -/

namespace Recorder

open FrameLoop

/-- The failure of the next draw. -/
def nextFailure? (recorder : Recorder) : Option DrawError :=
  recorder.drawFailures.head?

def nextDraw (recorder : Recorder) : Except DrawError Unit :=
  match recorder.nextFailure? with
  | some error => .error error
  | none => .ok ()

/-- What a frame makes of a recorder. -/
def framed (recorder : Recorder) (bindings : FrameBindings) (seconds : Single) : Recorder :=
  let size := recorder.display
  { recorder with
    backing := size
    resizes := recorder.resizes ++ (if size = recorder.backing then [] else [size]) ++
      (if recorder.nextFailure? = some .surfaceLost then [size] else [])
    usedProgram := some bindings.program
    boundGeometry := some bindings.geometry
    writes := recorder.writes ++
      (bindings.time.map fun location => { location, value := .float seconds }).toList ++
      (bindings.resolution.map fun location =>
        { location, value := .pair (.ofNat size.width) (.ofNat size.height) }).toList
    drawFailures := recorder.drawFailures.tail
    draws := recorder.draws + if recorder.nextFailure? = none then 1 else 0
    drawn := recorder.drawn ++ if recorder.nextFailure? = none then [bindings.program] else [] }

variable {recorder : Recorder} {bindings : FrameBindings}

theorem matchDisplay_eq (recorder : Recorder) :
    matchDisplay recorder = { recorder with
      backing := recorder.display
      resizes := recorder.resizes ++
        if recorder.display = recorder.backing then [] else [recorder.display] } := by
  by_cases same : recorder.display = recorder.backing
  · have kept : matchDisplay recorder = recorder := if_pos same
    rw [kept, if_pos same, List.append_nil]
    exact congrArg (fun size => { recorder with backing := size }) same.symm
  · have resized : matchDisplay recorder = recorder.resizeBacking recorder.display := if_neg same
    rw [resized, if_neg same]
    rfl

theorem feed_eq (program : bindings.program ∈ recorder.livePrograms)
    (geometry : bindings.geometry ∈ recorder.geometries) (seconds : Single) :
    feed recorder bindings seconds = { recorder with
      usedProgram := some bindings.program
      boundGeometry := some bindings.geometry
      writes := recorder.writes ++
        (bindings.time.map fun location => { location, value := .float seconds }).toList ++
        (bindings.resolution.map fun location => {
          location
          value := .pair (.ofNat recorder.backing.width)
            (.ofNat recorder.backing.height) }).toList } := by
  have used := useProgram_of_live program
  have bound : ({ recorder with usedProgram := some bindings.program } : Recorder).bindQuad
      bindings.geometry = { recorder with
        usedProgram := some bindings.program
        boundGeometry := some bindings.geometry } := bindQuad_of_live geometry
  unfold feed
  simp only [GraphicsDevice.useProgram, GraphicsDevice.bindQuad, used, bound]
  cases bindings.time <;> cases bindings.resolution <;>
    simp [GraphicsDevice.setFloat, GraphicsDevice.setPair, GraphicsDevice.backingSize,
      writeUniform]

/-- A recorder on which a frame is about to draw. -/
theorem feed_matchDisplay (program : bindings.program ∈ recorder.livePrograms)
    (geometry : bindings.geometry ∈ recorder.geometries) (seconds : Single) :
    feed (matchDisplay recorder) bindings seconds =
      { recorder.framed bindings seconds with
        resizes := recorder.resizes ++
          if recorder.display = recorder.backing then [] else [recorder.display]
        drawFailures := recorder.drawFailures
        draws := recorder.draws
        drawn := recorder.drawn } := by
  rw [feed_eq, matchDisplay_eq]
  · rfl
  · rwa [matchDisplay_eq]
  · rwa [matchDisplay_eq]

theorem draw_eq (recorder : Recorder) :
    recorder.draw = (recorder.nextDraw, { recorder with
      drawFailures := recorder.drawFailures.tail
      draws := recorder.draws + if recorder.nextFailure? = none then 1 else 0
      drawn := recorder.drawn ++
        if recorder.nextFailure? = none then recorder.usedProgram.toList else [] }) := by
  unfold draw nextDraw nextFailure?
  cases failures : recorder.drawFailures with
  | nil => simp
  | cons error rest => simp

theorem drawFrame_eq (program : bindings.program ∈ recorder.livePrograms)
    (geometry : bindings.geometry ∈ recorder.geometries) (seconds : Single) :
    drawFrame recorder bindings seconds =
      (frameResult recorder.nextDraw, recorder.framed bindings seconds) := by
  have size : GraphicsDevice.backingSize (matchDisplay recorder) = recorder.display := by
    rw [matchDisplay_eq]
    rfl
  have ready := feed_matchDisplay program geometry seconds
  unfold drawFrame
  simp only [size, ready, GraphicsDevice.draw, draw_eq]
  unfold framed nextDraw nextFailure?
  cases failures : recorder.drawFailures with
  | nil => simp [frameResult]
  | cons error rest =>
      cases error <;> simp [frameResult, GraphicsDevice.resizeBacking, resizeBacking]

/-- What a frame asks of a recorder: the sizes agree when it draws. -/
theorem frameCalls_eq (program : bindings.program ∈ recorder.livePrograms)
    (geometry : bindings.geometry ∈ recorder.geometries) (seconds : Single) :
    frameCalls recorder bindings seconds =
      (if recorder.display = recorder.backing then [] else [.resize recorder.display]) ++
        bindings.feedCalls recorder.display seconds ++
        [.draw recorder.display recorder.display recorder.nextDraw] ++
        recoverCalls recorder.display recorder.nextDraw := by
  have size : GraphicsDevice.backingSize (matchDisplay recorder) = recorder.display := by
    rw [matchDisplay_eq]
    rfl
  have ready := feed_matchDisplay program geometry seconds
  have drawn : Logged.drawCall (feed (matchDisplay recorder) bindings seconds) =
      .draw recorder.display recorder.display recorder.nextDraw := by
    rw [ready]
    simp only [Logged.drawCall, GraphicsDevice.draw, draw_eq]
    rfl
  have result : (GraphicsDevice.draw (feed (matchDisplay recorder) bindings seconds)).1 =
      recorder.nextDraw := by
    rw [ready]
    simp only [GraphicsDevice.draw, draw_eq]
    rfl
  simp only [frameCalls, size, drawn, result]
  rfl

end Recorder

/-! ## Callbacks -/

namespace FrameLoop

variable {Source : Type} [TimeSource Source]
variable {loop : FrameLoop ManualClock Source} {recorder : Recorder} {handle : FrameHandle}

/-- A callback runs a frame of a session: one draw of its program and quad, with what they need
before it, and one request for the next frame unless the draw fails fatally. -/
structure RunsFrame (loop : FrameLoop ManualClock Source) (recorder : Recorder)
    (handle : FrameHandle) (session : RenderSession) : Prop where
  running : loop.session = some session
  pending : session.pending = some handle
  answer : (loop.onFrame recorder handle).1 = frameResult recorder.nextDraw
  calls : (loop.onFrame ({ device := recorder, calls := [] } : Logged Recorder) handle).2.2.calls =
    (if recorder.display = recorder.backing then [] else [.resize recorder.display]) ++
      session.bindings.feedCalls recorder.display (TimeSource.sample loop.time).1 ++
      [.draw recorder.display recorder.display recorder.nextDraw] ++
      recoverCalls recorder.display recorder.nextDraw
  device : (loop.onFrame recorder handle).2.2 =
    recorder.framed session.bindings (TimeSource.sample loop.time).1
  time : (loop.onFrame recorder handle).2.1.time = (TimeSource.sample loop.time).2
  goesOn : (∀ error, recorder.nextDraw ≠ .error (.fatal error)) →
    let next : FrameHandle := { number := loop.clock.lastNumber + 1 }
    (loop.onFrame recorder handle).2.1.session = some { session with pending := some next } ∧
      (loop.onFrame recorder handle).2.1.clock = { loop.clock with
        lastNumber := next.number
        pending := some next
        requests := loop.clock.requests + 1 }
  ends : ∀ error, recorder.nextDraw = .error (.fatal error) →
    (loop.onFrame recorder handle).2.1.session = none ∧
      (loop.onFrame recorder handle).2.1.clock = loop.clock

theorem runsFrame {session : RenderSession} (running : loop.session = some session)
    (pending : session.pending = some handle)
    (program : session.bindings.program ∈ recorder.livePrograms)
    (geometry : session.bindings.geometry ∈ recorder.geometries) :
    loop.RunsFrame recorder handle session := by
  have logged := congrArg (fun answer => answer.2.2.calls)
    (onFrame_logged recorder [] running pending)
  have calls := logged.trans (Recorder.frameCalls_eq program geometry _)
  have drawn := Recorder.drawFrame_eq program geometry (TimeSource.sample loop.time).1
  cases result : frameResult recorder.nextDraw with
  | ok outcome =>
      rw [result] at drawn
      have run := onFrame_of_ok running pending drawn
      refine ⟨running, pending, ?_, calls, ?_, ?_, fun _ => ?_, fun error fatal => ?_⟩
      · rw [run, result]
      · rw [run]
      · rw [run]
      · rw [run]
        exact ⟨rfl, rfl⟩
      · exact absurd (result.symm.trans (frameResult_eq_error_iff.mpr fatal)) nofun
  | error error =>
      rw [result] at drawn
      have run := onFrame_of_error running pending drawn
      refine ⟨running, pending, ?_, calls, ?_, ?_, fun calm => ?_, fun _ _ => ?_⟩
      · rw [run, result]
      · rw [run]
      · rw [run]
      · exact absurd (frameResult_eq_error_iff.mp result) (calm error)
      · rw [run]
        exact ⟨rfl, rfl⟩

/-- On any recorder where the program and the quad of a running session are live, a callback
that is ignored calls nothing and changes nothing, and any other one runs one frame. -/
theorem onFrame_effect (handle : FrameHandle)
    (live : ∀ session, loop.session = some session →
      session.bindings.program ∈ recorder.livePrograms ∧
        session.bindings.geometry ∈ recorder.geometries) :
    ((loop.onFrame recorder handle).1 = .ok .ignored →
      (loop.onFrame recorder handle).2 = (loop, recorder) ∧
        (loop.onFrame ({ device := recorder, calls := [] } : Logged Recorder) handle).2.2.calls =
          []) ∧
    ((loop.onFrame recorder handle).1 ≠ .ok .ignored →
      ∃ session, loop.RunsFrame recorder handle session) := by
  by_cases awaited : loop.Awaits handle
  · rcases awaited with ⟨session, running, pending⟩
    rcases live session running with ⟨program, geometry⟩
    have runs := runsFrame running pending program geometry
    refine ⟨fun ignored => ?_, fun _ => ⟨session, runs⟩⟩
    have drawn := Recorder.drawFrame_eq program geometry (TimeSource.sample loop.time).1
    have shown := drawFrame_ne_ignored recorder session.bindings (TimeSource.sample loop.time).1
    rw [drawn] at shown
    exact absurd (runs.answer.symm.trans ignored) shown
  · have passed := onFrame_of_not_awaited recorder awaited
    rw [passed, onFrame_logged_of_not_awaited recorder [] awaited]
    exact ⟨fun _ => ⟨rfl, rfl⟩, fun shown => absurd rfl shown⟩

/-- The surface is lost in the first frame after the window has grown. -/
theorem onFrame_effect_lost :
    let operations : List (ControllerOperation RecorderScript) :=
      [.execute ("// VERTEX SHADER\n#version 450\n// FRAGMENT SHADER\n#version 450\n" ++
          "uniform vec2 resolution;"),
        .script (.display { width := 640, height := 480 }), .script (.drawFailure .surfaceLost)]
    let controller := (Controller.create (Recorder.create ["resolution"]) ManualClock.initial
      Stopwatch.initial).after operations
    (∀ session, controller.loop.session = some session →
      session.bindings.program ∈ controller.device.livePrograms ∧
        session.bindings.geometry ∈ controller.device.geometries) ∧
      (controller.loop.onFrame controller.device { number := 1 }).1.toOption = some .skipped ∧
      ∃ session, controller.loop.RunsFrame controller.device { number := 1 } session := by
  intro operations controller
  have live : ∀ session ∈ controller.loop.session,
      session.bindings.program ∈ controller.device.livePrograms ∧
        session.bindings.geometry ∈ controller.device.geometries := by
    decide +kernel
  have skipped : (controller.loop.onFrame controller.device { number := 1 }).1.toOption =
      some .skipped := by
    decide +kernel
  have shown : (controller.loop.onFrame controller.device { number := 1 }).1 ≠ .ok .ignored := by
    intro ignored
    rw [ignored] at skipped
    cases skipped
  exact ⟨live, skipped, (onFrame_effect { number := 1 } live).2 shown⟩

end FrameLoop

end LiveShader
