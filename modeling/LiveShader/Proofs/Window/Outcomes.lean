import Mathlib.Data.List.Forall2
import LiveShader.Proofs.Window.Operation

/-! # What comes of commands

A window reports what came of a command as soon as it has handled it. Later builds, stops
and failed redraws change what the controller keeps, but not what was reported. So the
outcomes among the reports are those of the commands, in their order. -/

namespace LiveShader

/-- Whether a report tells what came of a command. -/
def RenderEvent.isOutcome : RenderEvent → Bool
  | .running _ _ | .buildFailed _ _ | .stopped => true
  | .loopFailed _ | .closed => false

/-- The commands of a run that something is reported of, oldest first. -/
def answered : List WindowOperation → List WindowCommand
  | [] => []
  | .command (.execute generation source) :: rest => .execute generation source :: answered rest
  | .command .stop :: rest => .stop :: answered rest
  | _ :: rest => answered rest

namespace PreviewWindow

/-! ## One operation -/

/-- What comes of an operation. The outcome of a build is what the build itself has come to. -/
def outcome? (preview : PreviewWindow) : WindowOperation → Option RenderEvent
  | .command (.execute generation source) =>
      match (preview.controller.execute source).1 with
      | .ok () => some (.running generation source)
      | .error error => some (.buildFailed generation { source, error })
  | .command .stop => some .stopped
  | _ => none

def outcomes (preview : PreviewWindow) : List WindowOperation → List RenderEvent
  | [] => []
  | operation :: rest =>
      (preview.outcome? operation).toList ++ (preview.perform operation).outcomes rest

theorem events_execute (preview : PreviewWindow) (generation : Nat) (source : String) :
    (preview.handleCommand (.execute generation source)).events =
      preview.events ++ (preview.outcome? (.command (.execute generation source))).toList := by
  rcases built : Controller.build preview.controller.device source with ⟨result, device⟩
  cases result with
  | ok bindings =>
      simp only [handleCommand, execute, outcome?, Controller.execute_of_ok built]
      rfl
  | error error =>
      simp only [handleCommand, execute, outcome?, Controller.execute_of_error built]
      rfl

theorem events_handleEvent (preview : PreviewWindow) (event : WindowEvent) :
    ∃ notices, (preview.handleEvent event).events = preview.events ++ notices ∧
      notices.filter RenderEvent.isOutcome = [] := by
  cases event with
  | resized size | other => exact ⟨[], (List.append_nil _).symm, rfl⟩
  | redrawRequested =>
      rcases preview.redraw_cases with silent | ⟨reason, reports⟩
      · exact ⟨[], silent.events.trans (List.append_nil _).symm, rfl⟩
      · exact ⟨[.loopFailed reason], reports.events, rfl⟩
  | closeRequested | destroyed => exact ⟨[.closed], rfl, rfl⟩

/-- The outcomes that were taken or wait to be taken after an operation are those before it
and what came of it. -/
theorem isOutcome_perform (preview : PreviewWindow) (operation : WindowOperation) :
    (preview.received [operation] ++ (preview.perform operation).events).filter
        RenderEvent.isOutcome =
      preview.events.filter RenderEvent.isOutcome ++ (preview.outcome? operation).toList := by
  cases operation with
  | command command =>
      cases command with
      | execute generation source =>
          have events := preview.events_execute generation source
          simp only [received, perform, List.nil_append, events, List.filter_append]
          congr 1
          simp only [outcome?]
          split <;> rfl
      | stop => simp [received, perform, handleCommand, report, updateTitle, withHost, outcome?,
          RenderEvent.isOutcome]
      | shutdown => simp [received, perform, handleCommand, updateTitle, exit, withHost, outcome?]
  | event event =>
      rcases (preview.arrive event).events_handleEvent event with ⟨notices, events, others⟩
      simp only [received, perform, List.nil_append, events, List.filter_append, others,
        (preview.isSilent_arrive event).events, outcome?, Option.toList_none]
  | exiting => simp [received, perform, exit, withHost, outcome?]
  | taken count =>
      simp only [received, perform, List.append_nil, List.take_append_drop, outcome?,
        Option.toList_none]
  | world host nanoseconds => simp [received, perform, pass, withHost, outcome?]

/-! ## Runs -/

theorem received_cons (preview : PreviewWindow) (operation : WindowOperation)
    (rest : List WindowOperation) :
    preview.received (operation :: rest) =
      preview.received [operation] ++ (preview.perform operation).received rest := by
  cases operation <;> simp [received]

theorem leadsTo_outcomes (preview : PreviewWindow) (operations : List WindowOperation) :
    List.Forall₂ WindowCommand.LeadsTo (answered operations) (preview.outcomes operations) := by
  induction operations generalizing preview with
  | nil => exact .nil
  | cons operation rest induction =>
      have later := induction (preview.perform operation)
      cases operation with
      | command command =>
          cases command with
          | execute generation source =>
              simp only [answered, outcomes, outcome?]
              split
              case h_1 => exact .cons (.running generation source) later
              case h_2 error _ => exact .cons (.buildFailed generation source error) later
          | stop => exact .cons .stopped later
          | shutdown => exact later
      | event | exiting | taken | world => exact later

/-- In every run, the outcomes among the reports are those of the commands that start or
stop something, one for each and in their order. -/
theorem filter_isOutcome_received (preview : PreviewWindow) (operations : List WindowOperation) :
    (preview.received operations ++ (preview.after operations).events).filter
        RenderEvent.isOutcome =
      preview.events.filter RenderEvent.isOutcome ++ preview.outcomes operations ∧
    List.Forall₂ WindowCommand.LeadsTo (answered operations) (preview.outcomes operations) := by
  refine ⟨?_, preview.leadsTo_outcomes operations⟩
  induction operations generalizing preview with
  | nil => exact (List.append_nil _).symm
  | cons operation rest induction =>
      have now := preview.isOutcome_perform operation
      have later := induction (preview.perform operation)
      rw [List.filter_append] at now later ⊢
      rw [received_cons, after_cons, List.filter_append, List.append_assoc, later,
        ← List.append_assoc, now, List.append_assoc]
      rfl

end PreviewWindow

end LiveShader
