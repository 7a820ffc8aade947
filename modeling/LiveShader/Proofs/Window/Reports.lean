import LiveShader.Proofs.Render.Transition
import LiveShader.Window.Preview

/-! # What a window reports

A window that stays open says nothing without a change of its controller's state, and
every change is reported once: a command leads to one report, and a window event leads to
none unless it ends the render loop. The last report tells the state, and the reports
together tell the failure that is kept. -/

namespace LiveShader

/-! ## What a report tells -/

namespace RenderEvent

/-- The state that a report tells of. -/
def state : RenderEvent → ExecutionState
  | .running _ _ => .running
  | .buildFailed _ _ => .failed
  | .stopped | .loopFailed _ | .closed => .idle

/-- The failure that is kept after what is reported, given the one kept before. The end
of a render loop says nothing about builds. -/
def kept (report : RenderEvent) (before : Option BuildFailure) : Option BuildFailure :=
  match report with
  | .running _ _ | .stopped | .closed => none
  | .buildFailed _ failure => some failure
  | .loopFailed _ => before

/-- The generation whose build a report is about. -/
def generation? : RenderEvent → Option Nat
  | .running generation _ | .buildFailed generation _ => some generation
  | .stopped | .loopFailed _ | .closed => none

end RenderEvent

def WindowCommand.generation? : WindowCommand → Option Nat
  | .execute generation _ => some generation
  | .stop | .shutdown => none

/-- What can come of a command. The outcome of a build is reported under the generation
that the source was submitted with. -/
inductive WindowCommand.LeadsTo : WindowCommand → RenderEvent → Prop where
  | running (generation : Nat) (source : String) :
      LeadsTo (.execute generation source) (.running generation source)
  | buildFailed (generation : Nat) (source : String) (error : BuildError) :
      LeadsTo (.execute generation source) (.buildFailed generation { source, error })
  | stopped : LeadsTo .stop .stopped

theorem WindowCommand.LeadsTo.generation? {command : WindowCommand} {report : RenderEvent}
    (leadsTo : command.LeadsTo report) : report.generation? = command.generation? := by
  cases leadsTo <;> rfl

/-! ## What a window does -/

namespace PreviewWindow

variable {before after : PreviewWindow}

/-- A window has made one report, which tells what has become of its controller. -/
structure Reports (before after : PreviewWindow) (report : RenderEvent) : Prop where
  events : after.events = before.events ++ [report]
  state : after.controller.state = report.state
  failure : after.controller.failure = report.kept before.controller.failure

/-- A window has nothing to report. -/
structure IsSilent (before after : PreviewWindow) : Prop where
  events : after.events = before.events
  state : after.controller.state = before.controller.state
  failure : after.controller.failure = before.controller.failure

/-- A window that has not been told anything yet. -/
structure IsFresh (preview : PreviewWindow) : Prop where
  events : preview.events = []
  state : preview.controller.state = .idle
  failure : preview.controller.failure = none

/-- A window that has been opened shows nothing on a device that has just been created. -/
theorem exists_create_of_spawn {host : Host} {config : WindowConfig} {preview : PreviewWindow}
    (spawned : spawn host config = .ok preview) :
    ∃ asked device,
      asked.log = host.log ++ [.createWindow (windowTitle config.title .idle) config.size] ∧
      SurfaceDevice.create asked config.size = .ok device ∧
      preview =
        { controller := .create device .initial .initial
          baseTitle := config.title
          isOpen := true
          events := []
          loopError := none } := by
  rcases loop : host.eventLoop.next with ⟨_ | reason, eventLoop⟩
  case some => simp [spawn, loop] at spawned
  case none =>
    rcases shown : host.window.next with ⟨_ | reason, window⟩
    case some => simp [spawn, loop, shown] at spawned
    case none =>
      simp only [spawn, loop, shown] at spawned
      split at spawned
      case h_1 => cases spawned
      case h_2 device created => exact ⟨_, device, rfl, created, (Except.ok.inj spawned).symm⟩

theorem isFresh_spawn {host : Host} {config : WindowConfig} {preview : PreviewWindow}
    (spawned : spawn host config = .ok preview) : preview.IsFresh := by
  rcases exists_create_of_spawn spawned with ⟨_, device, _, _, rfl⟩
  exact ⟨rfl, rfl, rfl⟩

/-- A window that is still open after a command has reported what came of it. -/
theorem handleCommand_reports (preview : PreviewWindow) (command : WindowCommand)
    (stays : (preview.handleCommand command).isOpen) :
    ∃ report, command.LeadsTo report ∧
      preview.Reports (preview.handleCommand command) report := by
  cases command with
  | execute generation source =>
      rcases built : Controller.build preview.controller.device source with ⟨result, device⟩
      cases result with
      | ok bindings =>
          simp only [handleCommand, execute, Controller.execute_of_ok built]
          exact ⟨_, .running generation source, rfl, rfl, rfl⟩
      | error error =>
          simp only [handleCommand, execute, Controller.execute_of_error built]
          exact ⟨_, .buildFailed generation source error, rfl, rfl, rfl⟩
  | stop =>
      simp only [handleCommand, Controller.stop_eq]
      exact ⟨.stopped, .stopped, rfl, rfl, rfl⟩
  | shutdown => cases stays

theorem redraw_cases (preview : PreviewWindow) :
    preview.IsSilent preview.redraw ∨
      ∃ reason, preview.Reports preview.redraw (.loopFailed reason) := by
  rcases drawn : preview.controller.onRedraw with ⟨result, controller⟩
  have cases := preview.controller.onRedraw_cases
  rw [drawn] at cases
  simp only [redraw, drawn]
  rcases cases with ⟨outcome, rfl, state, failure, _⟩ | ⟨error, rfl, state, failure, _⟩
  · exact .inl ⟨rfl, state, failure⟩
  · exact .inr ⟨error.message, rfl, state, failure⟩

theorem isSilent_arrive (preview : PreviewWindow) (event : WindowEvent) :
    preview.IsSilent (preview.arrive event) := by
  cases event <;> exact ⟨rfl, rfl, rfl⟩

/-- A window that is still open after an event has at most reported that its render loop
has ended. -/
theorem deliver_cases (preview : PreviewWindow) (event : WindowEvent)
    (stays : (preview.deliver event).2.isOpen) :
    preview.IsSilent (preview.deliver event).2 ∨
      ∃ reason, preview.Reports (preview.deliver event).2 (.loopFailed reason) := by
  have arrived := isSilent_arrive preview event
  by_cases opened : (preview.arrive event).isOpen
  case neg =>
    simp only [deliver, opened]
    exact .inl arrived
  case pos =>
    simp only [deliver, opened, if_true] at stays ⊢
    cases event with
    | resized size => exact .inl ⟨rfl, rfl, rfl⟩
    | redrawRequested =>
        rcases redraw_cases (preview.arrive .redrawRequested) with silent | ⟨reason, reports⟩
        · exact .inl ⟨silent.events, silent.state, silent.failure⟩
        · exact .inr ⟨reason, reports.events, reports.state, reports.failure⟩
    | closeRequested | destroyed =>
        -- The end of the event loop closes the window.
        cases stays
    | other => exact .inl arrived

end PreviewWindow

end LiveShader
