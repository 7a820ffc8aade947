import LiveShader.Proofs.Surface.LiveObjects
import LiveShader.Proofs.Window.Operation

/-! # What a window keeps on its device

Commands, redraws and the end of a window may come in any order, and also after the window
was torn down. Whatever comes, its device holds what the render loop draws and nothing else,
a frame finds what it draws, and at the end of the loop nothing is left. -/

namespace LiveShader

/-- Whether an operation ends the event loop. -/
def WindowOperation.endsLoop : WindowOperation → Bool
  | .command .shutdown | .event .closeRequested | .event .destroyed | .exiting => true
  | _ => false

namespace PreviewWindow

/-- The tables of the device list the two objects that the render loop draws, or nothing if
no loop runs. -/
structure ListsSession (preview : PreviewWindow) : Prop where
  stages : preview.controller.device.stages = []
  programs : preview.controller.device.programs.map Prod.fst =
    (preview.controller.loop.session.map fun session => session.bindings.program).toList
  geometries : preview.controller.device.geometries.map Prod.fst =
    (preview.controller.loop.session.map fun session => session.bindings.geometry).toList

/-- The device as it is when an operation draws, if that draws. -/
def drawing? (preview : PreviewWindow) : WindowOperation → Option SurfaceDevice
  | .event .redrawRequested => (preview.arrive .redrawRequested).controller.drawing?
  | _ => none

/-- A redraw comes to what its draw comes to, and is ignored if nothing is drawn. -/
theorem onRedraw_eq_elim (preview : PreviewWindow) :
    (preview.arrive .redrawRequested).controller.onRedraw.1 =
      (preview.drawing? (.event .redrawRequested)).elim (.ok .ignored)
        fun device => FrameLoop.frameResult device.draw.1 := by
  cases drawing : preview.drawing? (.event .redrawRequested) with
  | none => exact (Controller.onRedraw_of_not_drawing drawing).1
  | some device => exact Controller.onRedraw_of_drawing drawing

variable {before : PreviewWindow}

/-! ## One operation -/

theorem holdsLive_spawn {host : Host} {config : WindowConfig} {preview : PreviewWindow}
    (spawned : spawn host config = .ok preview) : preview.controller.HoldsLive := by
  rcases exists_create_of_spawn spawned with ⟨_, device, _, created, rfl⟩
  exact .create (SurfaceDevice.holds_create created) _ _

theorem holdsLive_withHost (live : before.controller.HoldsLive) (host : Host) :
    (before.withHost host).controller.HoldsLive :=
  live.transfer ⟨rfl, rfl, rfl, rfl⟩ rfl rfl

theorem holdsLive_exit (live : before.controller.HoldsLive) :
    before.exit.controller.HoldsLive :=
  live.stop.transfer ⟨rfl, rfl, rfl, rfl⟩ rfl rfl

theorem holdsLive_execute (live : before.controller.HoldsLive) (generation : Nat)
    (source : String) : (before.execute generation source).controller.HoldsLive := by
  have executed := live.execute source
  unfold execute
  split
  case h_1 controller done =>
    rw [done] at executed
    exact executed
  case h_2 error controller failed =>
    rw [failed] at executed
    split <;> exact executed

theorem holdsLive_redraw (live : before.controller.HoldsLive) :
    before.redraw.controller.HoldsLive := by
  have drawn := live.onRedraw
  unfold redraw
  split
  case h_1 outcome controller done =>
    rw [done] at drawn
    exact drawn
  case h_2 error controller failed =>
    rw [failed] at drawn
    exact holdsLive_withHost drawn _

theorem holdsLive_arrive (live : before.controller.HoldsLive) (event : WindowEvent) :
    (before.arrive event).controller.HoldsLive := by
  cases event with
  | resized size => exact live.transfer ⟨rfl, rfl, rfl, rfl⟩ rfl rfl
  | redrawRequested => exact live.transfer (.refl _) rfl rfl
  | closeRequested | destroyed | other => exact live

theorem holdsLive_perform (live : before.controller.HoldsLive) (operation : WindowOperation) :
    (before.perform operation).controller.HoldsLive := by
  cases operation with
  | command command =>
      cases command with
      | execute generation source =>
          exact holdsLive_withHost (holdsLive_execute live generation source) _
      | stop => exact holdsLive_withHost live.stop _
      | shutdown => exact holdsLive_exit (holdsLive_withHost live.stop _)
  | event event =>
      have arrived := holdsLive_arrive live event
      cases event with
      | resized size => exact arrived.transfer (.refl _) rfl rfl
      | redrawRequested => exact holdsLive_redraw arrived
      | closeRequested | destroyed => exact holdsLive_exit live.stop
      | other => exact arrived
  | exiting => exact holdsLive_exit live
  | taken count => exact live
  | world host nanoseconds => exact live.transfer ⟨rfl, rfl, rfl, rfl⟩ rfl rfl

theorem holds_exit (live : before.controller.HoldsLive) :
    before.exit.controller.device.Holds [] [] [] :=
  live.holds_stop.transfer ⟨rfl, rfl, rfl, rfl⟩

theorem holds_of_endsLoop (live : before.controller.HoldsLive) {operation : WindowOperation}
    (ends : operation.endsLoop) : (before.perform operation).controller.device.Holds [] [] [] := by
  cases operation with
  | command command =>
      cases command with
      | shutdown => exact holds_exit (holdsLive_withHost live.stop _)
      | execute | stop => cases ends
  | event event =>
      cases event with
      | closeRequested | destroyed => exact holds_exit live.stop
      | resized | redrawRequested | other => cases ends
  | exiting => exact holds_exit live
  | taken | world => cases ends

/-- The end of a render loop is reported for a redraw whose surface gives no texture. -/
theorem loopFailed_mem_perform (live : before.controller.HoldsLive) {operation : WindowOperation}
    {reason : String} (reported : .loopFailed reason ∈ (before.perform operation).events) :
    .loopFailed reason ∈ before.events ∨ operation = .event .redrawRequested ∧
      ∃ refused, before.host.acquire.next.1 = some refused ∧
        reason = (ResourceError.surface refused.message).message := by
  cases operation with
  | command command =>
      cases command with
      | execute generation source =>
          simp only [perform, handleCommand, updateTitle, execute] at reported
          split at reported
          case h_1 => exact .inl (by simpa [withHost, report] using reported)
          case h_2 => split at reported <;> exact .inl (by simpa [withHost, report] using reported)
      | stop => exact .inl (by simpa [perform, handleCommand, report, updateTitle, withHost] using
          reported)
      | shutdown => exact .inl reported
  | event event =>
      cases event with
      | redrawRequested =>
          have arrived := holdsLive_arrive live .redrawRequested
          simp only [perform, handleEvent, redraw] at reported
          split at reported
          case h_1 => exact .inl reported
          case h_2 error controller failed =>
            rcases arrived.onRedraw_error (congrArg Prod.fst failed) with ⟨refused, acquired, same⟩
            rcases List.mem_append.mp reported with earlier | now
            · exact .inl earlier
            · cases List.mem_singleton.mp now
              exact .inr ⟨rfl, refused, acquired, by rw [same]⟩
      | resized size | other => exact .inl reported
      | closeRequested | destroyed =>
          exact .inl (by simpa [perform, arrive, handleEvent, close, report, exit, withHost] using
            reported)
  | exiting => exact .inl reported
  | taken count => exact .inl (List.mem_of_mem_drop reported)
  | world host nanoseconds => exact .inl reported

/-! ## Runs -/

theorem holdsLive_after (live : before.controller.HoldsLive) (operations : List WindowOperation) :
    (before.after operations).controller.HoldsLive := by
  induction operations generalizing before with
  | nil => exact live
  | cons operation rest induction => exact induction (holdsLive_perform live operation)

theorem listsSession_of_holdsLive (live : before.controller.HoldsLive) : before.ListsSession := by
  have same := live.bindings
  have holds := live.holds
  rw [← same] at holds
  refine ⟨List.map_eq_nil_iff.mp holds.stageKeys, ?_, ?_⟩
  · rw [holds.programKeys, FrameLoop.bindings?, Option.map_map]
    rfl
  · rw [holds.geometryKeys, FrameLoop.bindings?, Option.map_map]
    rfl

/-- At any moment of a run, whatever fails on the way, the tables of the device list what the
render loop draws. If a redraw comes next, what comes of it is what comes of its draw, which
finds a program and a quad and fails only if the surface gives no texture. Nothing else ends a
render loop by an error. Nothing is left at the end of the event loop. -/
theorem listsSession_after {host : Host} {config : WindowConfig} {preview : PreviewWindow}
    (spawned : spawn host config = .ok preview) (operations : List WindowOperation)
    (operation : WindowOperation) :
    let window := preview.after operations
    window.ListsSession ∧
      (∀ device, window.drawing? operation = some device → device.IsReady ∧
        ∀ reason, device.draw.1 ≠ .error (.fatal (.context reason))) ∧
      (operation = .event .redrawRequested →
        (window.arrive .redrawRequested).controller.onRedraw.1 =
          (window.drawing? operation).elim (.ok .ignored)
            fun device => FrameLoop.frameResult device.draw.1) ∧
      (∀ reason, .loopFailed reason ∈ (window.perform operation).events →
        .loopFailed reason ∈ window.events ∨ operation = .event .redrawRequested ∧
          ∃ refused, window.host.acquire.next.1 = some refused ∧
            reason = (ResourceError.surface refused.message).message) ∧
      (operation.endsLoop → (window.perform operation).controller.device.stages = [] ∧
        (window.perform operation).controller.device.programs = [] ∧
        (window.perform operation).controller.device.geometries = []) := by
  intro window
  have live : window.controller.HoldsLive := holdsLive_after (holdsLive_spawn spawned) operations
  refine ⟨listsSession_of_holdsLive live, ?_, ?_, fun reason => loopFailed_mem_perform live, ?_⟩
  · intro device drawing
    have ready : device.IsReady := by
      cases operation with
      | event event =>
          cases event with
          | redrawRequested =>
              exact (holdsLive_arrive live .redrawRequested).isReady_drawing drawing
          | resized | closeRequested | destroyed | other => cases drawing
      | command | exiting | taken | world => cases drawing
    exact ⟨ready, ready.draw_ne_context⟩
  · rintro rfl
    exact window.onRedraw_eq_elim
  · intro ends
    have holds := holds_of_endsLoop live ends
    exact ⟨List.map_eq_nil_iff.mp holds.stageKeys, List.map_eq_nil_iff.mp holds.programKeys,
      List.map_eq_nil_iff.mp holds.geometryKeys⟩

def plainShader : String := "// VERTEX SHADER\n#version 450\n// FRAGMENT SHADER\n#version 450"

/-- A window that was closed is given two sources before its event loop ends, and then has no
memory for a frame. -/
theorem listsSession_after_teardown :
    ∃ preview, spawn .quiet .standard = .ok preview ∧
      let window := preview.after
        [.event .closeRequested, .command (.execute 1 plainShader),
          .command (.execute 2 plainShader),
          .world { Host.quiet with acquire := [some .outOfMemory] } 0]
      window.ListsSession ∧ window.controller.device.programs.map Prod.fst = [⟨7⟩] ∧
        (∃ device, window.drawing? (.event .redrawRequested) = some device ∧ device.IsReady) ∧
        (window.perform (.event .redrawRequested)).events =
          [.closed, .running 1 plainShader, .running 2 plainShader,
            .loopFailed (ResourceError.surface AcquireError.outOfMemory.message).message] := by
  have ran : ((spawn .quiet .standard).toOption.map fun preview =>
      let window := preview.after
        [.event .closeRequested, .command (.execute 1 plainShader),
          .command (.execute 2 plainShader),
          .world { Host.quiet with acquire := [some .outOfMemory] } 0]
      (window.controller.device.programs.map Prod.fst,
        (window.drawing? (.event .redrawRequested)).isSome,
        (window.perform (.event .redrawRequested)).events)) =
      some ([⟨7⟩], true, [.closed, .running 1 plainShader, .running 2 plainShader,
        .loopFailed (ResourceError.surface AcquireError.outOfMemory.message).message]) := by
    decide +kernel
  rcases exists_quiet_spawn ran with ⟨preview, spawned, seen⟩
  simp only [Prod.mk.injEq] at seen
  rcases seen with ⟨programs, drawing, events⟩
  rcases Option.isSome_iff_exists.mp drawing with ⟨device, drawing⟩
  have lists := listsSession_after spawned
    [.event .closeRequested, .command (.execute 1 plainShader), .command (.execute 2 plainShader),
      .world { Host.quiet with acquire := [some .outOfMemory] } 0] (.event .redrawRequested)
  exact ⟨preview, spawned, lists.1, programs, ⟨device, drawing, (lists.2.1 device drawing).1⟩,
    events⟩

end PreviewWindow

end LiveShader
