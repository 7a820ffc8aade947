import LiveShader.Proofs.Render.Truthfulness
import LiveShader.Window.RedrawClock

/-! # Callbacks that outlive their loop

A loop that is stopped, torn down or replaced withdraws the callback that it waits for, and a
redraw takes the callback from the clock before the frame is run. But a frame that is run by its
handle leaves the callback with the clock, and if a fatal draw error ends the loop then, nobody
withdraws it. In any other way to end a loop no callback stays behind. -/

namespace LiveShader

/-- A clock that keeps the callback that was requested last until it is withdrawn or taken. -/
class SlotClock (Clock : Type) [FrameClock Clock] where
  pending : Clock → Option FrameHandle
  pending_request (clock : Clock) :
    pending (FrameClock.request clock).2 = some (FrameClock.request clock).1
  pending_cancel (clock : Clock) (handle : FrameHandle) :
    pending (FrameClock.cancel clock handle) =
      if pending clock = some handle then none else pending clock
  takeDue (clock : Clock) : (FrameClock.takeDue clock).1 = pending clock
  pending_takeDue (clock : Clock) : pending (FrameClock.takeDue clock).2 = none

instance : SlotClock ManualClock where
  pending := ManualClock.pending
  pending_request _ := rfl
  pending_cancel clock handle := by
    simp only [FrameClock.cancel]
    split <;> rfl
  takeDue _ := rfl
  pending_takeDue _ := rfl

instance : SlotClock RedrawClock where
  pending := RedrawClock.pending
  pending_request _ := rfl
  pending_cancel clock handle := by
    simp only [FrameClock.cancel]
    split <;> rfl
  takeDue _ := rfl
  pending_takeDue _ := rfl

open SlotClock

variable {Script Device Clock Source : Type}

namespace FrameLoop

variable {loop : FrameLoop Clock Source} {handle : FrameHandle}

theorem isRunning_of_awaits (awaited : loop.Awaits handle) : loop.isRunning := by
  rcases awaited with ⟨session, running, _⟩
  simp [isRunning, running]

theorem session_of_not_isRunning (idle : ¬loop.isRunning) : loop.session = none := by
  simpa [isRunning] using idle

variable [FrameClock Clock] [SlotClock Clock]

/-- A loop runs and waits for a callback that its clock has pending. -/
def WaitsFor (loop : FrameLoop Clock Source) (handle : FrameHandle) : Prop :=
  loop.Awaits handle ∧ pending loop.clock = some handle

/-- A running loop waits for what its clock has pending. -/
def IsDue (loop : FrameLoop Clock Source) : Prop :=
  loop.isRunning → ∃ handle, loop.WaitsFor handle

/-- Stopping a loop withdraws the callback that it waits for. -/
theorem pending_stop (waits : loop.WaitsFor handle) : pending loop.stop.2.clock = none := by
  rcases waits with ⟨⟨session, running, awaited⟩, due⟩
  simp [stop, running, awaited, pending_cancel, due]

end FrameLoop

namespace Controller

variable [FrameClock Clock] [SlotClock Clock]

/-- No callback is pending at the clock of a controller whose loop does not run. -/
def IsWithdrawn (controller : Controller Device Clock Source) : Prop :=
  ¬controller.loop.isRunning → pending controller.loop.clock = none

variable [GraphicsDevice Device] [TimeSource Source] [ScriptedDevice Script Device]
variable {controller : Controller Device Clock Source}

/-! ## What one operation does to the callback -/

/-- What becomes of the loop and of the callback that it has pending. -/
inductive Settles (controller : Controller Device Clock Source)
    (operation : ControllerOperation Script) : Prop
  | stays (loop : (controller.perform operation).2.loop = controller.loop)
      (calm : ¬controller.EndsFatally operation)
  | waits (handle : FrameHandle) (waits : (controller.perform operation).2.loop.WaitsFor handle)
      (calm : ¬controller.EndsFatally operation)
  | withdrawn (idle : ¬(controller.perform operation).2.loop.isRunning)
      (clean : pending (controller.perform operation).2.loop.clock = none)
      (taken : controller.EndsFatally operation → operation = .redraw)
  | forgotten (handle : FrameHandle) (direct : operation = .frame handle)
      (fatal : controller.EndsFatally operation)
      (idle : ¬(controller.perform operation).2.loop.isRunning)
      (left : pending (controller.perform operation).2.loop.clock = some handle)

/-- A frame that does not end the loop waits for the callback that it has requested, and one
that does leaves the clock alone. -/
theorem onFrame_settles {handle : FrameHandle} (awaited : controller.loop.Awaits handle) :
    (∃ outcome next, (controller.onFrame handle).1 = .ok outcome ∧
      (controller.onFrame handle).2.loop.WaitsFor next) ∨
    ∃ error, (controller.onFrame handle).1 = .error error ∧
      ¬(controller.onFrame handle).2.loop.isRunning ∧
      (controller.onFrame handle).2.loop.clock = controller.loop.clock := by
  rcases awaited with ⟨session, running, awaited⟩
  rcases drawn : FrameLoop.drawFrame controller.device session.bindings
    (TimeSource.sample controller.loop.time).1 with ⟨result, device⟩
  cases result with
  | ok outcome =>
      rw [onFrame_of_ok running awaited drawn]
      exact .inl ⟨outcome, _, rfl, ⟨_, rfl, rfl⟩, pending_request _⟩
  | error error =>
      rw [onFrame_of_error running awaited drawn]
      exact .inr ⟨error, rfl, by simp [FrameLoop.isRunning], rfl⟩

theorem settles_stop (due : controller.loop.IsDue) {operation : ControllerOperation Script}
    (performed : controller.perform operation = (.done, controller.stop)) :
    controller.Settles operation := by
  have calm : ¬controller.EndsFatally operation := by simp [EndsFatally, performed]
  have loop : (controller.perform operation).2.loop = controller.loop.stop.2 := by
    rw [performed, stop_eq]
  by_cases running : controller.loop.isRunning
  · rcases due running with ⟨handle, waits⟩
    refine .withdrawn ?_ ?_ fun fatal => absurd fatal calm
    · simp [loop, FrameLoop.isRunning]
    · rw [loop]
      exact FrameLoop.pending_stop waits
  · have idle := FrameLoop.session_of_not_isRunning running
    exact .stays (by rw [loop, FrameLoop.stop_of_not_running idle]) calm

theorem settles_redraw (due : controller.loop.IsDue) :
    controller.Settles (.redraw : ControllerOperation Script) := by
  rcases taken : FrameClock.takeDue controller.loop.clock with ⟨next, clock⟩
  have wasDue : next = pending controller.loop.clock := by
    rw [← takeDue, taken]
  have clean : pending clock = none := by
    have left := pending_takeDue controller.loop.clock
    rwa [taken] at left
  let waiting : Controller Device Clock Source :=
    { controller with loop := { controller.loop with clock } }
  -- If the loop runs, what was taken from the clock is what the loop waits for.
  by_cases running : controller.loop.isRunning
  · rcases due running with ⟨handle, awaited, pendingNow⟩
    rw [pendingNow] at wasDue
    subst wasDue
    have performed : controller.perform (.redraw : ControllerOperation Script) =
        (.framed (waiting.onFrame handle).1, (waiting.onFrame handle).2) := by
      simp only [perform, onRedraw_of_due taken, waiting]
    have awaited : waiting.loop.Awaits handle := awaited
    rcases onFrame_settles awaited with ⟨outcome, later, drawn, waits⟩ | ⟨error, _, idle, same⟩
    · exact .waits later (by rwa [performed]) (by simp [EndsFatally, performed, drawn])
    · refine .withdrawn (by rwa [performed]) ?_ fun _ => rfl
      rw [performed, same]
      exact clean
  · have idle := FrameLoop.session_of_not_isRunning running
    have ignored : controller.perform (.redraw : ControllerOperation Script) =
        (.framed (.ok .ignored), waiting) := by
      cases next with
      | none => simp only [perform, onRedraw_of_idle taken, waiting]
      | some handle =>
          have stale : ¬waiting.loop.Awaits handle := by
            rintro ⟨session, runs, _⟩
            cases idle.symm.trans runs
          have passed : waiting.onFrame handle = (.ok .ignored, waiting) :=
            onFrame_of_not_awaited stale
          simp only [waiting] at passed
          simp only [perform, onRedraw_of_due taken, passed, waiting]
    refine .withdrawn ?_ ?_ fun _ => rfl
    · rw [ignored]
      exact running
    · rw [ignored]
      exact clean

theorem settles (due : controller.loop.IsDue) (operation : ControllerOperation Script) :
    controller.Settles operation := by
  cases operation with
  | execute source =>
      rcases built : build controller.device source with ⟨result, device⟩
      cases result with
      | error error =>
          have performed := execute_of_error built
          exact .stays (by simp only [perform, performed]) (by simp [EndsFatally, perform])
      | ok bindings =>
          have performed := execute_of_ok built
          refine .waits (FrameClock.request controller.loop.stop.2.clock).1 ?_
            (by simp [EndsFatally, perform])
          simp only [perform, performed]
          exact ⟨⟨_, rfl, rfl⟩, pending_request _⟩
  | redraw => exact settles_redraw due
  | frame handle =>
      by_cases awaited : controller.loop.Awaits handle
      · rcases due (FrameLoop.isRunning_of_awaits awaited) with
          ⟨other, ⟨session, running, awaitedOther⟩, pendingNow⟩
        have same : other = handle := by
          rcases awaited with ⟨_, runs, waits⟩
          cases running.symm.trans runs
          exact Option.some.inj (awaitedOther.symm.trans waits)
        subst same
        rcases onFrame_settles awaited with
          ⟨outcome, next, drawn, waits⟩ | ⟨error, failed, idle, clock⟩
        · exact .waits next waits (by simp [EndsFatally, perform, drawn])
        · refine .forgotten other rfl ⟨error, by simp only [perform, failed]⟩ idle ?_
          simp only [perform, clock]
          exact pendingNow
      · have ignored := onFrame_of_not_awaited awaited
        exact .stays (by simp only [perform, ignored]) (by simp [EndsFatally, perform, ignored])
  | stop => exact settles_stop due rfl
  | teardown => exact settles_stop due rfl
  | script script => exact .stays rfl (by simp [EndsFatally, perform])

theorem isDue_perform (due : controller.loop.IsDue) (operation : ControllerOperation Script) :
    (controller.perform operation).2.loop.IsDue := by
  rcases settles due operation with ⟨loop, _⟩ | ⟨handle, waits, _⟩ | ⟨idle, _, _⟩ |
    ⟨_, _, _, idle, _⟩
  · rwa [loop]
  · exact fun _ => ⟨handle, waits⟩
  · exact fun running => absurd running idle
  · exact fun running => absurd running idle

theorem isWithdrawn_perform_iff (due : controller.loop.IsDue) (clean : controller.IsWithdrawn)
    (operation : ControllerOperation Script) :
    (controller.perform operation).2.IsWithdrawn ↔
      (controller.EndsFatally operation → operation = .redraw) := by
  rcases settles due operation with ⟨loop, calm⟩ | ⟨handle, waits, calm⟩ | ⟨_, none, taken⟩ |
    ⟨handle, direct, fatal, idle, left⟩
  · refine iff_of_true ?_ fun fatal => absurd fatal calm
    rwa [IsWithdrawn, loop]
  · exact iff_of_true (fun idle => absurd (FrameLoop.isRunning_of_awaits waits.1) idle)
      fun fatal => absurd fatal calm
  · exact iff_of_true (fun _ => none) taken
  · refine iff_of_false (fun withdrawn => ?_) fun taken => ?_
    · exact absurd (left.symm.trans (withdrawn idle)) nofun
    · exact absurd (direct.symm.trans (taken fatal)) nofun

/-! ## Runs -/

/-- Whether every fatal draw error of a run strikes in a redraw, which has taken the callback
from the clock. -/
def FailsInRedraws (controller : Controller Device Clock Source) :
    List (ControllerOperation Script) → Prop
  | [] => True
  | operation :: rest =>
      (controller.EndsFatally operation → operation = .redraw) ∧
        (controller.perform operation).2.FailsInRedraws rest

/-- Throughout a run no callback outlives its loop exactly when no fatal draw error strikes in
a frame that is run by its handle. -/
theorem throughout_isWithdrawn_iff (device : Device) {clock : Clock} (fresh : pending clock = none)
    (time : Source) (operations : List (ControllerOperation Script)) :
    (create device clock time).Throughout IsWithdrawn operations ↔
      (create device clock time).FailsInRedraws operations := by
  have due : (create device clock time).loop.IsDue := by
    simp [FrameLoop.IsDue, create, FrameLoop.create, FrameLoop.isRunning]
  have clean : (create device clock time).IsWithdrawn := fun _ => fresh
  exact throughout_iff (fun controller => controller.loop.IsDue) (fun _ => trivial)
    (fun _ _ _ => Iff.rfl)
    (fun _ operation due => isDue_perform due operation)
    (fun _ operation due clean => isWithdrawn_perform_iff due clean operation)
    _ operations due clean

/-- A redraw that fails leaves nothing pending at the clock of a window. -/
theorem throughout_isWithdrawn_iff_redraw :
    let operations : List (ControllerOperation RecorderScript) :=
      [.execute "// VERTEX SHADER\n#version 450\n// FRAGMENT SHADER\n#version 450",
        .script (.drawFailure (.fatal (.surface "out of memory"))), .redraw]
    let controller := create (Recorder.create []) RedrawClock.initial Stopwatch.initial
    pending RedrawClock.initial = none ∧ ¬(controller.after operations).loop.isRunning ∧
      controller.FailsInRedraws operations ∧ controller.Throughout IsWithdrawn operations := by
  intro operations controller
  have fails : controller.FailsInRedraws operations := by
    refine ⟨fun fatal => ?_, fun fatal => ?_, fun _ => rfl, trivial⟩ <;>
      rcases frame_of_endsFatally fatal with ⟨⟨⟩⟩ | ⟨_, ⟨⟩⟩
  exact ⟨rfl, by decide +kernel, fails,
    (throughout_isWithdrawn_iff _ rfl _ operations).mpr fails⟩

/-- A frame that is run by its handle fails: the loop has ended, and the clock still has its
callback pending. -/
theorem callback_outlives_loop :
    let operations : List (ControllerOperation RecorderScript) :=
      [.execute "// VERTEX SHADER\n#version 450\n// FRAGMENT SHADER\n#version 450",
        .script (.drawFailure (.fatal (.surface "out of memory"))), .frame { number := 1 }]
    let controller := (create (Recorder.create []) ManualClock.initial Stopwatch.initial).after
      operations
    ¬controller.loop.isRunning ∧ pending controller.loop.clock = some { number := 1 } ∧
      ¬controller.IsWithdrawn := by
  intro operations controller
  have idle : ¬controller.loop.isRunning := by decide +kernel
  have left : pending controller.loop.clock = some { number := 1 } := by decide +kernel
  exact ⟨idle, left, fun withdrawn => absurd (left.symm.trans (withdrawn idle)) nofun⟩

end Controller

end LiveShader
