import LiveShader.Proofs.Window.Reports

/-! # Runs of a window

The event loop handles commands, window events and its own end one at a time. A loop that
was told to end still handles what had come by then, so any operation may follow any other.
In between, time passes, the host changes and reports are taken. -/

namespace LiveShader

inductive WindowOperation where
  | command (command : WindowCommand)
  | event (event : WindowEvent)
  /-- The event loop ends. -/
  | exiting
  /-- So many of the oldest reports are taken. -/
  | taken (count : Nat)
  /-- Time passes, and the host has other answers from now on. -/
  | world (host : Host) (nanoseconds : Nat)

namespace PreviewWindow

/-! ## Operations -/

/-- What can be seen of a window that is opened where everything succeeds. -/
theorem exists_quiet_spawn {Seen : Type} {see : PreviewWindow → Seen} {seen : Seen}
    (shown : (spawn .quiet .standard).toOption.map see = some seen) :
    ∃ preview, spawn .quiet .standard = .ok preview ∧ see preview = seen := by
  cases spawned : spawn .quiet .standard with
  | error failure =>
      rw [spawned] at shown
      cases shown
  | ok preview =>
      rw [spawned] at shown
      exact ⟨preview, rfl, Option.some.inj shown⟩

/-- The window after some time, at a host that may have changed. -/
def pass (preview : PreviewWindow) (host : Host) (nanoseconds : Nat) : PreviewWindow :=
  let preview := preview.withHost host
  let loop := preview.controller.loop
  { preview with controller :=
    { preview.controller with loop := { loop with time := loop.time.advance nanoseconds } } }

def perform (preview : PreviewWindow) : WindowOperation → PreviewWindow
  | .command command => preview.handleCommand command
  | .event event => (preview.arrive event).handleEvent event
  | .exiting => preview.exit
  | .taken count => { preview with events := preview.events.drop count }
  | .world host nanoseconds => preview.pass host nanoseconds

/-! ## Runs -/

def after (preview : PreviewWindow) (operations : List WindowOperation) : PreviewWindow :=
  operations.foldl perform preview

/-- The reports that are taken during a run, oldest first. -/
def received (preview : PreviewWindow) : List WindowOperation → List RenderEvent
  | [] => []
  | .taken count :: rest =>
      preview.events.take count ++ (preview.perform (.taken count)).received rest
  | operation :: rest => (preview.perform operation).received rest

theorem after_cons (preview : PreviewWindow) (operation : WindowOperation)
    (rest : List WindowOperation) :
    preview.after (operation :: rest) = (preview.perform operation).after rest :=
  rfl

end PreviewWindow

end LiveShader
