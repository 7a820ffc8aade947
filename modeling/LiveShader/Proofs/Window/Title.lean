import LiveShader.Proofs.Surface.Requests
import LiveShader.Proofs.Window.LiveObjects

/-! # The title of a window

The state of a controller changes when it is given a source or told to stop, and when a frame
fails. The title is set anew after each of these, and nothing else sets it. It is not set
when a window is closed. -/

namespace LiveShader

/-- The title that a request gives to a window. -/
def Request.title? : Request → Option String
  | .createWindow title _ | .setTitle title => some title
  | _ => none

namespace Host

/-- The title of the window, as it was given last. -/
def title? (host : Host) : Option String :=
  (host.log.filterMap Request.title?).getLast?

variable {before after : Host}

@[simp] theorem title?_record_setTitle (host : Host) (title : String) :
    (host.record (.setTitle title)).title? = some title := by
  simp [title?, record, Request.title?]

theorem title?_of_log (log : after.log = before.log) : after.title? = before.title? := by
  rw [title?, log, title?]

/-- Requests of other kinds leave the title. -/
theorem Asks.title? {kinds : List RequestKind} (asks : before.Asks kinds after)
    (silent : .title ∉ kinds) : after.title? = before.title? := by
  rcases asks with ⟨requests, log, allowed⟩
  have none : requests.filterMap Request.title? = [] := by
    rw [List.filterMap_eq_nil_iff]
    intro request member
    cases request with
    | createWindow | setTitle => exact absurd (allowed _ member) silent
    | _ => rfl
  rw [Host.title?, log, List.filterMap_append, none, List.append_nil]
  rfl

end Host

namespace PreviewWindow

/-- The title shows the controller's state behind a text that does not change. -/
structure IsTitled (preview : PreviewWindow) (base : String) : Prop where
  baseTitle : preview.baseTitle = base
  title : preview.host.title? = some (windowTitle base preview.controller.state)

variable {before after preview : PreviewWindow} {base : String}

theorem isTitled_spawn {host : Host} {config : WindowConfig}
    (spawned : spawn host config = .ok preview) : preview.IsTitled config.title := by
  rcases exists_create_of_spawn spawned with ⟨asked, device, opened, created, rfl⟩
  have configured : asked.Asks [.configuration] device.host :=
    ⟨_, (SurfaceDevice.log_create created).2, by simp [Request.kind]⟩
  have titled : device.host.title? = some (windowTitle config.title .idle) := by
    rw [configured.title? (by simp)]
    simp [Host.title?, opened, Request.title?]
  exact ⟨rfl, titled⟩

/-! ## One operation -/

theorem isTitled_updateTitle (same : preview.baseTitle = base) :
    preview.updateTitle.IsTitled base :=
  ⟨same, by rw [← same]; exact Host.title?_record_setTitle _ _⟩

theorem IsTitled.transfer (titled : before.IsTitled base)
    (baseTitle : after.baseTitle = before.baseTitle)
    (title : after.host.title? = before.host.title?)
    (state : after.controller.state = before.controller.state) : after.IsTitled base :=
  ⟨baseTitle.trans titled.baseTitle, by rw [title, titled.title, state]⟩

theorem baseTitle_execute (preview : PreviewWindow) (generation : Nat) (source : String) :
    (preview.execute generation source).baseTitle = preview.baseTitle := by
  unfold execute
  split
  case h_1 => rfl
  case h_2 => split <;> rfl

theorem IsTitled.redraw (titled : preview.IsTitled base) : preview.redraw.IsTitled base := by
  have asks := SurfaceDevice.isCallStable_asks.onRedraw preview.controller
  rcases drawn : preview.controller.onRedraw with ⟨result, controller⟩
  have cases := preview.controller.onRedraw_cases
  rw [drawn] at asks cases
  simp only [PreviewWindow.redraw, drawn]
  rcases cases with ⟨outcome, rfl, state, _⟩ | ⟨error, rfl, _⟩
  · exact titled.transfer rfl (asks.title? (by simp)) state
  · exact isTitled_updateTitle titled.baseTitle

theorem IsTitled.exit (titled : preview.IsTitled base) (idle : preview.controller.state = .idle) :
    preview.exit.IsTitled base := by
  have asks := SurfaceDevice.isCallStable_asks.stop preview.controller
  refine titled.transfer rfl ?_ ?_
  · exact (Host.title?_of_log rfl).trans (asks.title? (by simp))
  · rw [idle]
    simp [PreviewWindow.exit, Controller.teardown, Controller.stop_eq, withHost]

theorem IsTitled.perform (titled : preview.IsTitled base) {operation : WindowOperation}
    (stays : operation.endsLoop → operation = .command .shutdown)
    (alone : ∀ host nanoseconds, operation = .world host nanoseconds →
      host.title? = preview.host.title?) :
    (preview.perform operation).IsTitled base := by
  cases operation with
  | command command =>
      cases command with
      | execute generation source =>
          exact isTitled_updateTitle ((preview.baseTitle_execute _ _).trans titled.baseTitle)
      | stop => exact isTitled_updateTitle titled.baseTitle
      | shutdown =>
          refine (isTitled_updateTitle ?_).exit ?_
          · exact titled.baseTitle
          · simp [updateTitle, withHost, Controller.teardown, Controller.stop_eq]
  | event event =>
      cases event with
      | resized | other => exact titled.transfer rfl rfl rfl
      | redrawRequested =>
          have arrived : (preview.arrive .redrawRequested).IsTitled base :=
            titled.transfer rfl rfl rfl
          exact arrived.redraw
      | closeRequested | destroyed => cases stays rfl
  | exiting => cases stays rfl
  | taken count => exact titled.transfer rfl rfl rfl
  | world host nanoseconds => exact titled.transfer rfl (alone host nanoseconds rfl) rfl

/-! ## Runs -/

/-- Whether nothing but the window itself sets its title during a run. -/
def TitlesItself (preview : PreviewWindow) : List WindowOperation → Prop
  | [] => True
  | operation :: rest =>
      (∀ host nanoseconds, operation = .world host nanoseconds →
        host.title? = preview.host.title?) ∧ (preview.perform operation).TitlesItself rest

theorem isTitled_after {operations : List WindowOperation} (titled : preview.IsTitled base)
    (stays : ∀ operation ∈ operations, ¬operation.endsLoop)
    (alone : preview.TitlesItself operations) : (preview.after operations).IsTitled base := by
  induction operations generalizing preview with
  | nil => exact titled
  | cons operation rest induction =>
      rcases List.forall_mem_cons.mp stays with ⟨now, later⟩
      exact induction (titled.perform (fun ends => absurd ends now) alone.1) later alone.2

/-- As long as its event loop is not told to end, the title of a window shows what the controller
does, after each command and each event. It also does after the command that shuts the window
down. -/
theorem title_shows_state {host : Host} {config : WindowConfig} {preview : PreviewWindow}
    (spawned : spawn host config = .ok preview) {operations : List WindowOperation}
    (stays : ∀ operation ∈ operations, ¬operation.endsLoop)
    (alone : preview.TitlesItself operations) :
    let window := preview.after operations
    let ended := window.perform (.command .shutdown)
    window.host.title? = some (windowTitle config.title window.controller.state) ∧
      ended.host.title? = some (windowTitle config.title ended.controller.state) := by
  intro window ended
  have titled : window.IsTitled config.title :=
    isTitled_after (isTitled_spawn spawned) stays alone
  have endTitled : ended.IsTitled config.title := titled.perform (fun _ => rfl) nofun
  exact ⟨titled.title, endTitled.title⟩

/-- A source does not build while another one is shown, and then the surface has no memory for
a frame of that one. -/
theorem title_shows_state_failed :
    let host := { Host.quiet with acquire := [none, some .outOfMemory] }
    let rebuilt : List WindowOperation :=
      [.command (.execute 1 plainShader), .event .redrawRequested, .command (.execute 2 "")]
    let failed := rebuilt ++ [.event .redrawRequested]
    ∃ preview, spawn host .standard = .ok preview ∧
      (∀ operation ∈ failed, ¬operation.endsLoop) ∧ preview.TitlesItself failed ∧
      (preview.after rebuilt).host.title? = some "Zenith [failed]" ∧
      (preview.after failed).host.title? = some "Zenith [idle]" := by
  intro host rebuilt failed
  have ran : (spawn host .standard).toOption.map (fun preview =>
      ((preview.after rebuilt).controller.state, (preview.after failed).controller.state)) =
      some (.failed, .idle) := by
    decide +kernel
  cases spawned : spawn host .standard with
  | error failure =>
      rw [spawned] at ran
      cases ran
  | ok preview =>
      rw [spawned] at ran
      rcases Prod.mk.inj (Option.some.inj ran) with ⟨stateRebuilt, stateFailed⟩
      have stays : ∀ operation ∈ rebuilt, ¬operation.endsLoop := by decide
      have staysFailed : ∀ operation ∈ failed, ¬operation.endsLoop := by decide
      have alone : preview.TitlesItself rebuilt := ⟨nofun, nofun, nofun, trivial⟩
      have aloneFailed : preview.TitlesItself failed := ⟨nofun, nofun, nofun, nofun, trivial⟩
      have shown := (title_shows_state spawned stays alone).1
      have shownFailed := (title_shows_state spawned staysFailed aloneFailed).1
      rw [stateRebuilt] at shown
      rw [stateFailed] at shownFailed
      exact ⟨preview, rfl, staysFailed, aloneFailed, shown, shownFailed⟩

end PreviewWindow

end LiveShader
