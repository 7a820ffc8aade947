import LiveShader.Proofs.Render.Operation
import LiveShader.Proofs.Render.Transition

/-! # What a controller says of itself

The state of a controller, the failure it keeps and its render loop are written
apart from each other. They agree after every run in which no fatal draw error
strikes while the state is failed. Such an error ends the loop of the older program
and makes the state idle, but the failure stays. -/

namespace LiveShader

variable {Script Device Clock Source : Type}

namespace Controller

/-- The state tells whether a failure is kept, and not less than is so of the
loop. -/
structure IsTruthful (controller : Controller Device Clock Source) : Prop where
  failed : controller.state = .failed ↔ controller.failure.isSome
  running : controller.state = .running → controller.loop.isRunning
  idle : controller.state = .idle → ¬controller.loop.isRunning
  settled : controller.state ≠ .building

/-- What holds of the state even when a kept failure is out of step with it. -/
structure IsSettled (controller : Controller Device Clock Source) : Prop where
  failed : controller.state = .failed → controller.failure.isSome
  running : controller.state = .running → controller.loop.isRunning
  idle : controller.state = .idle → ¬controller.loop.isRunning
  settled : controller.state ≠ .building

variable {before after : Controller Device Clock Source}

theorem IsTruthful.isSettled (truthful : before.IsTruthful) : before.IsSettled :=
  ⟨truthful.failed.mp, truthful.running, truthful.idle, truthful.settled⟩

theorem IsSettled.isTruthful (settled : before.IsSettled)
    (failed : before.failure.isSome → before.state = .failed) : before.IsTruthful :=
  ⟨⟨settled.failed, failed⟩, settled.running, settled.idle, settled.settled⟩

theorem isTruthful_create (device : Device) (clock : Clock) (time : Source) :
    (create device clock time).IsTruthful := by
  constructor <;> simp [create, FrameLoop.create, FrameLoop.isRunning]

/-! ## What one operation changes -/

/-- How an operation that ends no loop by a draw error moves the state, the failure
and the loop. -/
inductive Moves (before after : Controller Device Clock Source) : Prop where
  | stays (state : after.state = before.state) (failure : after.failure = before.failure)
      (loop : after.loop.isRunning = before.loop.isRunning)
  | starts (state : after.state = .running) (failure : after.failure = none)
      (loop : after.loop.isRunning)
  | fails (state : after.state = .failed) (failure : after.failure.isSome)
  | stops (state : after.state = .idle) (failure : after.failure = none)
      (loop : ¬after.loop.isRunning)

/-- What a fatal draw error changes. The failure of an earlier build is kept. -/
structure Breaks (before after : Controller Device Clock Source) : Prop where
  state : after.state = .idle
  failure : after.failure = before.failure
  loop : ¬after.loop.isRunning

theorem Moves.isSettled (moves : before.Moves after) (settled : before.IsSettled) :
    after.IsSettled := by
  cases moves with
  | stays state failure loop =>
      refine ⟨?_, ?_, ?_, ?_⟩ <;> simp only [state, failure, loop]
      · exact settled.failed
      · exact settled.running
      · exact settled.idle
      · exact settled.settled
  | starts state failure loop => constructor <;> simp [state, loop]
  | fails state failure => constructor <;> simp [state, failure]
  | stops state failure loop => constructor <;> simp [state, loop]

theorem Moves.isTruthful (moves : before.Moves after) (truthful : before.IsTruthful) :
    after.IsTruthful := by
  refine (moves.isSettled truthful.isSettled).isTruthful ?_
  cases moves with
  | stays state failure loop =>
      rw [state, failure]
      exact truthful.failed.mpr
  | starts state failure loop => simp [failure]
  | fails state failure => exact fun _ => state
  | stops state failure loop => simp [failure]

theorem Breaks.isSettled (breaks : before.Breaks after) : after.IsSettled := by
  constructor <;> simp [breaks.state, breaks.loop]

/-- After a fatal draw error the controller is truthful exactly when it was not
failed before. -/
theorem Breaks.isTruthful_iff (breaks : before.Breaks after) (truthful : before.IsTruthful) :
    after.IsTruthful ↔ before.state ≠ .failed := by
  rw [Ne, truthful.failed, ← breaks.failure]
  constructor
  · intro afterwards kept
    have failed := afterwards.failed.mpr kept
    rw [breaks.state] at failed
    cases failed
  · intro forgotten
    exact breaks.isSettled.isTruthful fun kept => absurd kept forgotten

section

variable [GraphicsDevice Device] [FrameClock Clock]

theorem moves_stop (controller : Controller Device Clock Source) :
    controller.Moves controller.stop := by
  rw [stop_eq]
  exact .stops rfl rfl (by simp [FrameLoop.isRunning])

variable [TimeSource Source]

theorem moves_execute (controller : Controller Device Clock Source) (source : String) :
    controller.Moves (controller.execute source).2 := by
  rcases built : build controller.device source with ⟨result, device⟩
  cases result with
  | error error =>
      rw [execute_of_error built]
      exact .fails rfl rfl
  | ok bindings =>
      rw [execute_of_ok built]
      exact .starts rfl rfl rfl

theorem moves_onFrame (controller : Controller Device Clock Source) (handle : FrameHandle) :
    (∃ outcome, (controller.onFrame handle).1 = .ok outcome ∧
      controller.Moves (controller.onFrame handle).2) ∨
    ∃ error, (controller.onFrame handle).1 = .error error ∧
      controller.Breaks (controller.onFrame handle).2 := by
  rcases onFrame_cases controller handle with
    ⟨outcome, drawn, state, failure, loop⟩ | ⟨error, failed, state, failure, loop⟩
  · exact .inl ⟨outcome, drawn, .stays state failure loop⟩
  · exact .inr ⟨error, failed, state, failure, loop⟩

theorem moves_onRedraw (controller : Controller Device Clock Source) :
    (∃ outcome, controller.onRedraw.1 = .ok outcome ∧
      controller.Moves controller.onRedraw.2) ∨
    ∃ error, controller.onRedraw.1 = .error error ∧
      controller.Breaks controller.onRedraw.2 := by
  rcases onRedraw_cases controller with
    ⟨outcome, drawn, state, failure, loop⟩ | ⟨error, failed, state, failure, loop⟩
  · exact .inl ⟨outcome, drawn, .stays state failure loop⟩
  · exact .inr ⟨error, failed, state, failure, loop⟩

end

/-! ## Runs -/

variable [GraphicsDevice Device] [ScriptedDevice Script Device]
variable [FrameClock Clock] [TimeSource Source]

/-- Whether an operation meets a fatal draw error. -/
def EndsFatally (controller : Controller Device Clock Source)
    (operation : ControllerOperation Script) : Prop :=
  ∃ error, (controller.perform operation).1 = .framed (.error error)

/-- Only a frame can meet a draw error. -/
theorem frame_of_endsFatally {controller : Controller Device Clock Source}
    {operation : ControllerOperation Script}
    (fatal : controller.EndsFatally operation) :
    operation = .redraw ∨ ∃ handle, operation = .frame handle := by
  rcases fatal with ⟨error, failed⟩
  cases operation with
  | redraw => exact .inl rfl
  | frame handle => exact .inr ⟨handle, rfl⟩
  | execute | stop | teardown | script => simp [perform] at failed

theorem perform_cases (controller : Controller Device Clock Source)
    (operation : ControllerOperation Script) :
    (¬controller.EndsFatally operation ∧ controller.Moves (controller.perform operation).2) ∨
      (controller.EndsFatally operation ∧
        controller.Breaks (controller.perform operation).2) := by
  cases operation with
  | execute source => exact .inl ⟨by simp [EndsFatally, perform], moves_execute controller source⟩
  | stop => exact .inl ⟨by simp [EndsFatally, perform], moves_stop controller⟩
  | teardown => exact .inl ⟨by simp [EndsFatally, perform], moves_stop controller⟩
  | script script => exact .inl ⟨by simp [EndsFatally, perform], .stays rfl rfl rfl⟩
  | frame handle =>
      rcases moves_onFrame controller handle with ⟨outcome, drawn, moves⟩ | ⟨error, failed, breaks⟩
      · exact .inl ⟨by simp [EndsFatally, perform, drawn], moves⟩
      · exact .inr ⟨⟨error, by simp [perform, failed]⟩, breaks⟩
  | redraw =>
      rcases moves_onRedraw controller with ⟨outcome, drawn, moves⟩ | ⟨error, failed, breaks⟩
      · exact .inl ⟨by simp [EndsFatally, perform, drawn], moves⟩
      · exact .inr ⟨⟨error, by simp [perform, failed]⟩, breaks⟩

theorem isSettled_perform (controller : Controller Device Clock Source)
    (operation : ControllerOperation Script) (settled : controller.IsSettled) :
    (controller.perform operation).2.IsSettled := by
  rcases perform_cases controller operation with ⟨_, moves⟩ | ⟨_, breaks⟩
  · exact moves.isSettled settled
  · exact breaks.isSettled

theorem isTruthful_perform_iff (controller : Controller Device Clock Source)
    (operation : ControllerOperation Script) (truthful : controller.IsTruthful) :
    (controller.perform operation).2.IsTruthful ↔
      (controller.EndsFatally operation → controller.state ≠ .failed) := by
  rcases perform_cases controller operation with ⟨calm, moves⟩ | ⟨fatal, breaks⟩
  · exact iff_of_true (moves.isTruthful truthful) fun fatal => absurd fatal calm
  · rw [breaks.isTruthful_iff truthful]
    exact ⟨fun unfailed _ => unfailed, fun spared => spared fatal⟩

/-- Whether a property holds before and after every operation of a run. -/
def Throughout (property : Controller Device Clock Source → Prop)
    (controller : Controller Device Clock Source) : List (ControllerOperation Script) → Prop
  | [] => property controller
  | operation :: rest =>
      property controller ∧ Throughout property (controller.perform operation).2 rest

/-- Whether no fatal draw error of a run strikes while the state is failed. -/
def IsSpared (controller : Controller Device Clock Source) :
    List (ControllerOperation Script) → Prop
  | [] => True
  | operation :: rest =>
      (controller.EndsFatally operation → controller.state ≠ .failed) ∧
        (controller.perform operation).2.IsSpared rest

theorem Throughout.initially {property : Controller Device Clock Source → Prop}
    {controller : Controller Device Clock Source}
    {operations : List (ControllerOperation Script)}
    (throughout : controller.Throughout property operations) : property controller := by
  cases operations with
  | nil => exact throughout
  | cons operation rest => exact throughout.1

/-- If an operation passes a property on exactly under some condition, the property holds
throughout exactly the runs that meet the condition at each operation. -/
theorem throughout_iff (invariant : Controller Device Clock Source → Prop)
    {property : Controller Device Clock Source → Prop}
    {condition : Controller Device Clock Source → ControllerOperation Script → Prop}
    {meets : Controller Device Clock Source → List (ControllerOperation Script) → Prop}
    (meets_nil : ∀ controller, meets controller [])
    (meets_cons : ∀ controller operation rest, meets controller (operation :: rest) ↔
      condition controller operation ∧ meets (controller.perform operation).2 rest)
    (kept : ∀ controller (operation : ControllerOperation Script), invariant controller →
      invariant (controller.perform operation).2)
    (step : ∀ controller operation, invariant controller → property controller →
      (property (controller.perform operation).2 ↔ condition controller operation))
    (controller : Controller Device Clock Source) (operations : List (ControllerOperation Script))
    (holds : invariant controller) (initially : property controller) :
    controller.Throughout property operations ↔ meets controller operations := by
  induction operations generalizing controller with
  | nil => exact iff_of_true initially (meets_nil controller)
  | cons operation rest induction =>
      have now := step controller operation holds initially
      have keeps := kept controller operation holds
      rw [meets_cons]
      constructor
      · rintro ⟨_, later⟩
        have next := later.initially
        exact ⟨now.mp next, (induction _ keeps next).mp later⟩
      · rintro ⟨allowed, later⟩
        have next := now.mpr allowed
        exact ⟨initially, (induction _ keeps next).mpr later⟩

/-- In every run the state is never building and says of the loop what is so, and a
failed state has its failure. A kept failure has a failed state throughout the run
exactly when no fatal draw error strikes while the state is failed. -/
theorem isSettled_and_truthful_iff (device : Device) (clock : Clock) (time : Source)
    (operations : List (ControllerOperation Script)) :
    ((create device clock time).after operations).IsSettled ∧
      ((create device clock time).Throughout IsTruthful operations ↔
        (create device clock time).IsSpared operations) :=
  ⟨after_invariant IsSettled isSettled_perform _ operations
      (isTruthful_create device clock time).isSettled,
    throughout_iff (fun _ => True) (fun _ => trivial) (fun _ _ _ => Iff.rfl)
      (fun _ _ _ => trivial)
      (fun controller operation _ => isTruthful_perform_iff controller operation) _ operations
      trivial (isTruthful_create device clock time)⟩

/-- A program runs, its replacement does not build, and the running one meets a fatal
draw error: the controller is idle and still keeps the failure. -/
theorem failure_outlives_loop :
    let operations : List (ControllerOperation RecorderScript) :=
      [.execute "// VERTEX SHADER\n#version 450\n// FRAGMENT SHADER\n#version 450",
        .execute "f", .script (.drawFailure (.fatal (.surface "out of memory"))), .redraw]
    let controller := (create (Recorder.create []) ManualClock.initial Stopwatch.initial).after
      operations
    controller.state = .idle ∧
      controller.failure = some { source := "f", error := .split (.missingMarker .vertex) } ∧
      ¬controller.IsTruthful := by
  intro operations controller
  have seen : (controller.state, controller.failure) =
      (.idle, some { source := "f", error := .split (.missingMarker .vertex) }) := by
    decide +kernel
  rcases Prod.mk.inj seen with ⟨state, failure⟩
  refine ⟨state, failure, fun truthful => ?_⟩
  have failed := truthful.failed.mpr (by rw [failure]; rfl)
  rw [state] at failed
  cases failed

end Controller

end LiveShader
