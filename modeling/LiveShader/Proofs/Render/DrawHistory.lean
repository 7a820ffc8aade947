import LiveShader.Proofs.History
import LiveShader.Proofs.Render.FrameCalls

/-! # When and what a controller draws

The history of a run lists the programs that were installed, the ends of the
render loop, and every draw that was asked of the device. With a clock driven by
hand each callback leads to at most one draw, each draw is of what the last
success installed, and a running loop always has its callback pending. -/

namespace LiveShader

variable {Script Device Clock Source : Type}

/-! ## Draws among the calls -/

/-- A draw that was asked of a device, whatever came of it. -/
structure DrawAttempt where
  program : Option ProgramId
  geometry : Option GeometryId
  deriving DecidableEq, Repr

/-- The draw of a session's program and quad. -/
def FrameBindings.attempt (bindings : FrameBindings) : DrawAttempt :=
  { program := some bindings.program, geometry := some bindings.geometry }

/-- The draws among some calls, each of the program in use and the quad bound at that
moment. -/
def drawAttempts (used : Option ProgramId) (bound : Option GeometryId) :
    List FrameCall → List DrawAttempt
  | [] => []
  | .use program :: rest => drawAttempts (some program) bound rest
  | .bind geometry :: rest => drawAttempts used (some geometry) rest
  | .draw _ _ _ :: rest =>
      { program := used, geometry := bound } :: drawAttempts used bound rest
  | .resize _ :: rest | .writeFloat _ _ :: rest | .writePair _ _ _ :: rest =>
      drawAttempts used bound rest

/-- A frame draws once, with the session's program in use and its quad bound. -/
theorem drawAttempts_frameCalls [GraphicsDevice Device] (device : Device)
    (bindings : FrameBindings) (seconds : Single) :
    drawAttempts none none (frameCalls device bindings seconds) = [bindings.attempt] := by
  have recovered (size : Size) (result : Except DrawError Unit) :
      drawAttempts (some bindings.program) (some bindings.geometry) (recoverCalls size result) =
        [] := by
    cases result with
    | ok _ => rfl
    | error error => cases error <;> rfl
  have drawn (size : Size) (rest : List FrameCall) :
      drawAttempts none none (bindings.feedCalls size seconds ++ rest) =
        drawAttempts (some bindings.program) (some bindings.geometry) rest := by
    unfold FrameBindings.feedCalls
    cases bindings.time <;> cases bindings.resolution <;> rfl
  have checked (rest : List FrameCall) :
      drawAttempts none none (checkCalls device ++ rest) = drawAttempts none none rest := by
    unfold checkCalls
    split <;> rfl
  simp only [frameCalls, List.append_assoc, checked, drawn, List.singleton_append,
    Logged.drawCall, drawAttempts, recovered, FrameBindings.attempt]

/-! ## Happenings -/

/-- What is told of a run. -/
inductive RenderHappening where
  /-- A source was executed with success. -/
  | installed (bindings : FrameBindings)
  /-- The loop was stopped, torn down or ended by a fatal draw error. -/
  | ended
  /-- A draw was asked of the device while a callback was run. -/
  | attempted (callback : Option FrameHandle) (attempt : DrawAttempt)
  deriving DecidableEq, Repr

namespace RenderHappening

def IsAttempt : RenderHappening → Prop
  | attempted _ _ => True
  | _ => False

def callback? : RenderHappening → Option FrameHandle
  | attempted callback _ => callback
  | _ => none

end RenderHappening

/-! ## Histories of runs -/

namespace Controller

variable [GraphicsDevice Device] [ScriptedDevice Script Device]
variable [FrameClock Clock] [TimeSource Source]

/-- The draws that an operation asks of the device. -/
def attempts (controller : Controller Device Clock Source)
    (operation : ControllerOperation Script) : List DrawAttempt :=
  drawAttempts none none (controller.logged.perform operation).2.device.calls

/-- What an operation installs or ends. -/
def turn (controller : Controller Device Clock Source) :
    ControllerOperation Script → List RenderHappening
  | .execute source =>
      match (build controller.device source).1 with
      | .ok bindings => [.installed bindings]
      | .error _ => []
  | .redraw =>
      match controller.onRedraw.1 with
      | .ok _ => []
      | .error _ => [.ended]
  | .frame handle =>
      match (controller.onFrame handle).1 with
      | .ok _ => []
      | .error _ => [.ended]
  | .stop => [.ended]
  | .teardown => [.ended]
  | .script _ => []

def happenings (controller : Controller Device Clock Source)
    (operation : ControllerOperation Script) : List RenderHappening :=
  (controller.attempts operation).map (.attempted (controller.callback? operation)) ++
    controller.turn operation

def history (controller : Controller Device Clock Source) :
    List (ControllerOperation Script) → List RenderHappening
  | [] => []
  | operation :: rest =>
      controller.happenings operation ++ (controller.perform operation).2.history rest

theorem attempts_of_draws {controller : Controller Device Clock Source}
    {operation : ControllerOperation Script} {session : RenderSession}
    (draws : controller.Draws operation session) :
    controller.attempts operation = [session.bindings.attempt] := by
  rw [attempts, calls_perform_of_draws controller draws]
  exact drawAttempts_frameCalls _ _ _

theorem attempts_of_not_draws {controller : Controller Device Clock Source}
    {operation : ControllerOperation Script}
    (still : ∀ session, ¬controller.Draws operation session) :
    controller.attempts operation = [] := by
  rw [attempts, calls_perform_of_not_draws controller still]
  rfl

end Controller

/-! ## What is on screen -/

/-- Since the success that installed some bindings nothing but draws has
happened. -/
def Shows (past : List RenderHappening) (bindings : FrameBindings) : Prop :=
  ∃ early late, past = early ++ .installed bindings :: late ∧
    ∀ happening ∈ late, happening.IsAttempt

/-- Every draw runs a callback and draws what is on screen. -/
def RenderHappening.IsExplained (past : List RenderHappening) : RenderHappening → Prop
  | attempted callback attempt =>
      ∃ handle bindings, callback = some handle ∧ Shows past bindings ∧
        attempt = bindings.attempt
  | _ => True

/-- The callbacks that led to draws. -/
def drawnHandles (past : List RenderHappening) : List FrameHandle :=
  past.filterMap RenderHappening.callback?

theorem Shows.append_attempt {past : List RenderHappening} {bindings : FrameBindings}
    (shows : Shows past bindings) {happening : RenderHappening} (attempt : happening.IsAttempt) :
    Shows (past ++ [happening]) bindings := by
  rcases shows with ⟨early, late, rfl, attempts⟩
  refine ⟨early, late ++ [happening], by simp, ?_⟩
  intro other member
  rcases List.mem_append.mp member with earlier | last
  · exact attempts other earlier
  · rw [List.mem_singleton.mp last]
    exact attempt

theorem shows_append_installed (past : List RenderHappening) (bindings : FrameBindings) :
    Shows (past ++ [.installed bindings]) bindings :=
  ⟨past, [], rfl, by simp⟩

theorem drawnHandles_append_other (past : List RenderHappening) {happening : RenderHappening}
    (other : ¬happening.IsAttempt) : drawnHandles (past ++ [happening]) = drawnHandles past := by
  cases happening with
  | attempted => exact absurd trivial other
  | installed => simp [drawnHandles, RenderHappening.callback?]
  | ended => simp [drawnHandles, RenderHappening.callback?]

theorem drawnHandles_append_attempt (past : List RenderHappening) (handle : FrameHandle)
    (attempt : DrawAttempt) :
    drawnHandles (past ++ [.attempted (some handle) attempt]) = drawnHandles past ++ [handle] := by
  simp [drawnHandles, RenderHappening.callback?]

/-! ## A loop and its clock -/

/-- The callback that was requested last. -/
def ManualClock.last (clock : ManualClock) : FrameHandle :=
  { number := clock.lastNumber }

theorem ManualClock.last_not_mem {clock : ManualClock} {handles : List FrameHandle}
    (below : ∀ handle ∈ handles, handle.number < clock.lastNumber) : clock.last ∉ handles :=
  fun member => Nat.lt_irrefl _ (below clock.last member)

/-- A controller is where its past has brought it: a running loop draws what is
on screen and waits, with its clock, for a callback that was never drawn. -/
structure Tracks (past : List RenderHappening) (controller : Controller Device ManualClock Source) :
    Prop where
  explained : Obeys RenderHappening.IsExplained past
  distinct : (drawnHandles past).Nodup
  issued : ∀ handle ∈ drawnHandles past, handle.number ≤ controller.loop.clock.lastNumber
  shows : ∀ session, controller.loop.session = some session → Shows past session.bindings
  waiting : ∀ session, controller.loop.session = some session →
    session.pending = some controller.loop.clock.last ∧
      controller.loop.clock.pending = some controller.loop.clock.last
  unused : ∀ session, controller.loop.session = some session →
    controller.loop.clock.last ∉ drawnHandles past

namespace Tracks

variable {past : List RenderHappening} {before after : Controller Device ManualClock Source}

theorem create (device : Device) (time : Source) :
    Tracks [] (Controller.create device .initial time) where
  explained := obeys_nil
  distinct := .nil
  issued := by simp [drawnHandles]
  shows := by simp [Controller.create, FrameLoop.create]
  waiting := by simp [Controller.create, FrameLoop.create]
  unused := by simp [Controller.create, FrameLoop.create]

/-- Only the loop matters, and not whatever else changes. -/
theorem sameLoop (tracks : Tracks past before) (loop : after.loop = before.loop) :
    Tracks past after where
  explained := tracks.explained
  distinct := tracks.distinct
  issued := by rw [loop]; exact tracks.issued
  shows := by rw [loop]; exact tracks.shows
  waiting := by rw [loop]; exact tracks.waiting
  unused := by rw [loop]; exact tracks.unused

/-- Without a session there is nothing to wait for. -/
theorem idle (tracks : Tracks past before) (idle : after.loop.session = none)
    (clock : before.loop.clock.lastNumber ≤ after.loop.clock.lastNumber) : Tracks past after where
  explained := tracks.explained
  distinct := tracks.distinct
  issued := fun handle member => Nat.le_trans (tracks.issued handle member) clock
  shows := by simp [idle]
  waiting := by simp [idle]
  unused := by simp [idle]

theorem ended (tracks : Tracks past before) (idle : after.loop.session = none)
    (clock : before.loop.clock.lastNumber ≤ after.loop.clock.lastNumber) :
    Tracks (past ++ [.ended]) after where
  explained := tracks.explained.snoc trivial
  distinct := by
    rw [drawnHandles_append_other past id]
    exact tracks.distinct
  issued := by
    rw [drawnHandles_append_other past id]
    exact fun handle member => Nat.le_trans (tracks.issued handle member) clock
  shows := by simp [idle]
  waiting := by simp [idle]
  unused := by simp [idle]

/-- A success starts a loop that waits for a new callback. -/
theorem installed (tracks : Tracks past before) {bindings : FrameBindings}
    (running : after.loop.session = some { bindings, pending := some after.loop.clock.last })
    (pending : after.loop.clock.pending = some after.loop.clock.last)
    (clock : before.loop.clock.lastNumber < after.loop.clock.lastNumber) :
    Tracks (past ++ [.installed bindings]) after where
  explained := tracks.explained.snoc trivial
  distinct := by
    rw [drawnHandles_append_other past id]
    exact tracks.distinct
  issued := by
    rw [drawnHandles_append_other past id]
    intro handle member
    exact Nat.le_trans (tracks.issued handle member) (Nat.le_of_lt clock)
  shows := by
    intro session same
    rw [running] at same
    cases same
    exact shows_append_installed past bindings
  waiting := by
    intro session same
    rw [running] at same
    cases same
    exact ⟨rfl, pending⟩
  unused := by
    intro _ _
    rw [drawnHandles_append_other past id]
    apply ManualClock.last_not_mem
    intro handle member
    exact Nat.lt_of_le_of_lt (tracks.issued handle member) clock

theorem issued_with_last (tracks : Tracks past before) :
    ∀ handle ∈ drawnHandles past ++ [before.loop.clock.last],
      handle.number ≤ before.loop.clock.lastNumber := by
  intro handle member
  rcases List.mem_append.mp member with earlier | now
  · exact tracks.issued handle earlier
  · rw [List.mem_singleton.mp now]
    exact Nat.le_refl _

/-- A draw uses the awaited callback up. The loop then ends or waits for a new
one. -/
theorem attempted (tracks : Tracks past before) {session : RenderSession}
    (running : before.loop.session = some session)
    (clock : before.loop.clock.lastNumber ≤ after.loop.clock.lastNumber)
    (renewed : ∀ next, after.loop.session = some next →
      next = { session with pending := some after.loop.clock.last } ∧
        after.loop.clock.pending = some after.loop.clock.last ∧
        before.loop.clock.lastNumber < after.loop.clock.lastNumber) :
    Tracks (past ++ [.attempted (some before.loop.clock.last) session.bindings.attempt])
      after where
  explained := tracks.explained.snoc
    ⟨before.loop.clock.last, session.bindings, rfl, tracks.shows session running, rfl⟩
  distinct := by
    rw [drawnHandles_append_attempt]
    refine List.nodup_append.mpr ⟨tracks.distinct, by simp, ?_⟩
    intro handle member now same equal
    rw [equal, List.mem_singleton.mp same] at member
    exact tracks.unused session running member
  issued := by
    rw [drawnHandles_append_attempt]
    intro handle member
    exact Nat.le_trans (tracks.issued_with_last handle member) clock
  shows := by
    intro next follows
    rcases renewed next follows with ⟨rfl, _, _⟩
    exact (tracks.shows session running).append_attempt trivial
  waiting := by
    intro next follows
    rcases renewed next follows with ⟨rfl, pending, _⟩
    exact ⟨rfl, pending⟩
  unused := by
    intro next follows
    rcases renewed next follows with ⟨_, _, later⟩
    rw [drawnHandles_append_attempt]
    apply ManualClock.last_not_mem
    intro handle member
    exact Nat.lt_of_le_of_lt (tracks.issued_with_last handle member) later

end Tracks

/-! ## Each operation -/

namespace FrameLoop

theorem stop_lastNumber (loop : FrameLoop ManualClock Source) :
    loop.stop.2.clock.lastNumber = loop.clock.lastNumber := by
  cases running : loop.session with
  | none => rw [stop_of_not_running running]
  | some session =>
      cases pending : session.pending with
      | none => simp [stop, running, pending]
      | some handle =>
          simp only [stop, running, pending, FrameClock.cancel]
          split <;> rfl

end FrameLoop

namespace Tracks

variable [GraphicsDevice Device]
variable {past : List RenderHappening} {controller : Controller Device ManualClock Source}

theorem stop (tracks : Tracks past controller) :
    Tracks (past ++ [.ended]) controller.stop := by
  rw [Controller.stop_eq]
  exact tracks.ended (FrameLoop.stop_session _) (Nat.le_of_eq (FrameLoop.stop_lastNumber _).symm)

variable [TimeSource Source]

theorem execute (tracks : Tracks past controller) (source : String) :
    Tracks (past ++ controller.turn (.execute source : ControllerOperation Script))
      (controller.execute source).2 := by
  rcases built : Controller.build controller.device source with ⟨result, device⟩
  cases result with
  | error error =>
      rw [Controller.execute_of_error built]
      simp only [Controller.turn, built, List.append_nil]
      exact tracks.sameLoop rfl
  | ok bindings =>
      rw [Controller.execute_of_ok built]
      simp only [Controller.turn, built]
      refine tracks.installed rfl rfl ?_
      have unchanged := FrameLoop.stop_lastNumber controller.loop
      simp only [FrameClock.request]
      omega

/-- The awaited callback is run by a controller that may have taken it from its
clock before. -/
theorem onFrame (tracks : Tracks past controller) {session : RenderSession}
    {ready : Controller Device ManualClock Source}
    (running : controller.loop.session = some session)
    (readySession : ready.loop.session = controller.loop.session)
    (readyClock : ready.loop.clock.lastNumber = controller.loop.clock.lastNumber) :
    Tracks
      (past ++ [.attempted (some controller.loop.clock.last) session.bindings.attempt] ++
        match (ready.onFrame controller.loop.clock.last).1 with
        | .ok _ => []
        | .error _ => [.ended])
      (ready.onFrame controller.loop.clock.last).2 := by
  rcases tracks.waiting session running with ⟨pending, _⟩
  rw [running] at readySession
  rcases drawn : FrameLoop.drawFrame ready.device session.bindings
    (TimeSource.sample ready.loop.time).1 with ⟨result, device⟩
  cases result with
  | ok outcome =>
      rw [Controller.onFrame_of_ok readySession pending drawn]
      simp only [List.append_nil]
      refine tracks.attempted running ?_ ?_
      · simp only [FrameClock.request]
        omega
      · intro next follows
        cases follows
        refine ⟨rfl, rfl, ?_⟩
        simp only [FrameClock.request]
        omega
  | error error =>
      rw [Controller.onFrame_of_error readySession pending drawn]
      have drew : Tracks _ { ready with loop := { ready.loop with session := none } } :=
        tracks.attempted running (Nat.le_of_eq readyClock.symm) (by simp)
      exact drew.ended rfl (Nat.le_refl _)

variable [ScriptedDevice Script Device]

/-- Every operation adds to the past what it did. -/
theorem perform (tracks : Tracks past controller) (operation : ControllerOperation Script) :
    Tracks (past ++ controller.happenings operation) (controller.perform operation).2 := by
  by_cases draws : ∃ session, controller.Draws operation session
  · rcases draws with ⟨session, draws⟩
    rw [Controller.happenings, Controller.attempts_of_draws draws, List.map_singleton,
      ← List.append_assoc]
    rcases draws with ⟨handle, runs, running, pending⟩
    rcases tracks.waiting session running with ⟨waits, due⟩
    cases waits.symm.trans pending
    rw [runs]
    cases operation with
    | frame given =>
        cases runs
        exact tracks.onFrame running rfl rfl
    | redraw =>
        simp only [Controller.turn, Controller.perform, Controller.onRedraw, FrameClock.takeDue,
          due]
        exact tracks.onFrame running rfl rfl
    | execute | stop | teardown | script => cases runs
  · have still : ∀ session, ¬controller.Draws operation session :=
      fun session draw => draws ⟨session, draw⟩
    rw [Controller.happenings, Controller.attempts_of_not_draws still, List.map_nil,
      List.nil_append]
    cases operation with
    | execute source => exact tracks.execute source
    | stop => exact tracks.stop
    | teardown => exact tracks.stop
    | script script =>
        simp only [Controller.turn, List.append_nil]
        exact tracks.sameLoop rfl
    | frame handle =>
        have stale : ¬controller.loop.Awaits handle :=
          Controller.not_awaits_of_not_draws rfl still
        simp only [Controller.turn, Controller.perform, Controller.onFrame_of_not_awaited stale,
          List.append_nil]
        exact tracks
    | redraw =>
        -- A running loop would have its callback due, and draw.
        have idle : controller.loop.session = none := by
          cases running : controller.loop.session with
          | none => rfl
          | some session =>
              rcases tracks.waiting session running with ⟨waits, due⟩
              exact absurd ⟨_, due, running, waits⟩ (still session)
        have ignored : controller.onRedraw = (.ok .ignored, { controller with
            loop := { controller.loop with
              clock := { controller.loop.clock with pending := none } } }) := by
          cases due : controller.loop.clock.pending <;>
            simp [Controller.onRedraw, FrameClock.takeDue, due, Controller.onFrame,
              FrameLoop.onFrame, idle]
        simp only [Controller.turn, Controller.perform, ignored, List.append_nil]
        exact tracks.idle idle (Nat.le_refl _)

/-- The past of a whole run is its history. -/
theorem run (tracks : Tracks past controller) (operations : List (ControllerOperation Script)) :
    Tracks (past ++ controller.history operations) (controller.after operations) := by
  induction operations generalizing past controller with
  | nil =>
      simp only [Controller.history, List.append_nil]
      exact tracks
  | cons operation rest induction =>
      simp only [Controller.history, Controller.after_cons, ← List.append_assoc]
      exact induction (tracks.perform operation)

/-- A running loop never lets the next redraw pass. -/
theorem redraws (tracks : Tracks past controller) {session : RenderSession}
    (running : controller.loop.session = some session) :
    controller.loop.clock.pending = session.pending ∧ controller.onRedraw.1 ≠ .ok .ignored := by
  rcases tracks.waiting session running with ⟨pending, due⟩
  refine ⟨due.trans pending.symm, ?_⟩
  have taken : FrameClock.takeDue controller.loop.clock =
      (some controller.loop.clock.last, { controller.loop.clock with pending := none }) := by
    simp only [FrameClock.takeDue, due]
  rw [Controller.onRedraw_of_due taken]
  exact Controller.onFrame_ne_ignored running pending

end Tracks

/-- In every run no callback leads to two draws, every draw is of what the last
success installed with no end in between, and whenever the loop runs its clock
has the awaited callback due, so that the next redraw is not ignored. -/
theorem Controller.history_disciplined [GraphicsDevice Device] [ScriptedDevice Script Device]
    [TimeSource Source] (device : Device) (time : Source)
    (operations : List (ControllerOperation Script)) :
    let controller : Controller Device ManualClock Source := .create device .initial time
    let final := controller.after operations
    (drawnHandles (controller.history operations)).Nodup ∧
      Obeys RenderHappening.IsExplained (controller.history operations) ∧
      ∀ session, final.loop.session = some session →
        final.loop.clock.pending = session.pending ∧ final.onRedraw.1 ≠ .ok .ignored := by
  intro controller final
  have tracks : Tracks ([] ++ controller.history operations) final :=
    (Tracks.create device time).run operations
  rw [List.nil_append] at tracks
  exact ⟨tracks.distinct, tracks.explained, fun session running => tracks.redraws running⟩

end LiveShader
