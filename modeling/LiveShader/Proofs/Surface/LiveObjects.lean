import LiveShader.Proofs.Render.Transition
import LiveShader.Proofs.Surface.Holdings

/-! # What a controller keeps on a surface device

The device of a controller holds the program and the quad that its loop draws, and nothing
else. So each frame finds what it draws, and only the surface can make it fail. -/

namespace LiveShader

namespace Controller

variable {Device Clock Source : Type}

section

variable [GraphicsDevice Device] [FrameClock Clock] [TimeSource Source]

/-- The device as it is when the next redraw draws, if that redraw is a frame. -/
def drawing? (controller : Controller Device Clock Source) : Option Device :=
  (FrameClock.takeDue controller.loop.clock).1.bind fun handle =>
    controller.loop.session.bind fun session =>
      if session.pending = some handle then
        some (FrameLoop.feed (FrameLoop.matchDisplay controller.device) session.bindings
          (TimeSource.sample controller.loop.time).1)
      else
        none

variable {controller : Controller Device Clock Source}

theorem drawing?_eq_some {device : Device} (drawing : controller.drawing? = some device) :
    ∃ handle session, (FrameClock.takeDue controller.loop.clock).1 = some handle ∧
      controller.loop.session = some session ∧ session.pending = some handle ∧
      device = FrameLoop.feed (FrameLoop.matchDisplay controller.device) session.bindings
        (TimeSource.sample controller.loop.time).1 := by
  rcases Option.bind_eq_some_iff.mp drawing with ⟨handle, due, rest⟩
  rcases Option.bind_eq_some_iff.mp rest with ⟨session, running, fed⟩
  split at fed
  case isTrue pending => exact ⟨handle, session, due, running, pending, (Option.some.inj fed).symm⟩
  case isFalse => cases fed

theorem onFrame_result {handle : FrameHandle} {session : RenderSession}
    (running : controller.loop.session = some session) (pending : session.pending = some handle) :
    (controller.onFrame handle).1 = (FrameLoop.drawFrame controller.device session.bindings
      (TimeSource.sample controller.loop.time).1).1 := by
  rcases drawn : FrameLoop.drawFrame controller.device session.bindings
    (TimeSource.sample controller.loop.time).1 with ⟨result, device⟩
  cases result with
  | ok outcome => rw [onFrame_of_ok running pending drawn]
  | error error => rw [onFrame_of_error running pending drawn]

/-- A redraw that is a frame comes to what its one draw comes to. -/
theorem onRedraw_of_drawing {device : Device} (drawing : controller.drawing? = some device) :
    controller.onRedraw.1 = FrameLoop.frameResult (GraphicsDevice.draw device).1 := by
  rcases drawing?_eq_some drawing with ⟨handle, session, due, running, pending, rfl⟩
  rcases taken : FrameClock.takeDue controller.loop.clock with ⟨next, clock⟩
  rw [taken] at due
  cases due
  have waiting : ({ controller with loop := { controller.loop with clock } } :
      Controller Device Clock Source).loop.session = some session := running
  rw [onRedraw_of_due taken, onFrame_result waiting pending]
  exact FrameLoop.drawFrame_result _ _ _

/-- Nothing is drawn in a redraw that is no frame. -/
theorem onRedraw_of_not_drawing (idle : controller.drawing? = none) :
    controller.onRedraw.1 = .ok .ignored ∧ controller.onRedraw.2.device = controller.device := by
  rcases taken : FrameClock.takeDue controller.loop.clock with ⟨due, clock⟩
  cases due with
  | none =>
      rw [onRedraw_of_idle taken]
      exact ⟨rfl, rfl⟩
  | some handle =>
      have stale : ¬({ controller.loop with clock } : FrameLoop Clock Source).Awaits handle := by
        rintro ⟨session, running, pending⟩
        have running : controller.loop.session = some session := running
        simp [drawing?, taken, running, pending] at idle
      have ignored : onFrame { controller with loop := { controller.loop with clock } } handle =
          (.ok .ignored, { controller with loop := { controller.loop with clock } }) :=
        onFrame_of_not_awaited stale
      rw [onRedraw_of_due taken, ignored]
      exact ⟨rfl, rfl⟩

end

/-! ## Live objects -/

/-- The device holds the program and the quad on screen and nothing else, and the loop draws
them. -/
structure HoldsLive (controller : Controller SurfaceDevice Clock Source) : Prop where
  holds : controller.device.Holds [] (controller.live.map FrameBindings.program).toList
    (controller.live.map FrameBindings.geometry).toList
  bindings : controller.loop.bindings? = controller.live

theorem holds_releaseBindings {device : SurfaceDevice} {live : Option FrameBindings}
    {programs : List ProgramId} {geometries : List GeometryId}
    (holds : device.Holds [] ((live.map FrameBindings.program).toList ++ programs)
      ((live.map FrameBindings.geometry).toList ++ geometries))
    (apart : ∀ bindings, live = some bindings →
      bindings.program ∉ programs ∧ bindings.geometry ∉ geometries) :
    (releaseBindings device live).Holds [] programs geometries := by
  cases live with
  | none => exact holds
  | some bindings =>
      rcases apart bindings rfl with ⟨otherProgram, otherGeometry⟩
      have released := (holds.releaseGeometry bindings.geometry).releaseProgram bindings.program
      have onlyPrograms : ((some bindings).map FrameBindings.program).toList ++ programs =
          bindings.program :: programs := rfl
      have onlyGeometries : ((some bindings).map FrameBindings.geometry).toList ++ geometries =
          bindings.geometry :: geometries := rfl
      rw [onlyPrograms, onlyGeometries, filter_cons_of_not_mem otherProgram,
        filter_cons_of_not_mem otherGeometry] at released
      exact released

namespace HoldsLive

variable {before after : Controller SurfaceDevice Clock Source}

theorem create {device : SurfaceDevice} (empty : device.Holds [] [] []) (clock : Clock)
    (time : Source) : (Controller.create device clock time).HoldsLive :=
  ⟨empty, rfl⟩

theorem transfer (live : before.HoldsLive) (device : before.device.SameHoldings after.device)
    (same : after.live = before.live)
    (bindings : after.loop.bindings? = before.loop.bindings?) : after.HoldsLive where
  holds := by
    rw [same]
    exact live.holds.transfer device
  bindings := by rw [bindings, same, live.bindings]

/-- Releasing what is on screen leaves nothing. -/
theorem released (live : before.HoldsLive) :
    (releaseBindings before.device before.live).Holds [] [] [] := by
  apply holds_releaseBindings
  · simpa only [List.append_nil] using live.holds
  · exact fun _ _ => ⟨List.not_mem_nil, List.not_mem_nil⟩

variable [FrameClock Clock]

theorem stop (live : before.HoldsLive) : before.stop.HoldsLive := by
  rw [stop_eq]
  exact ⟨live.released, by simp [FrameLoop.bindings?]⟩

theorem holds_stop (live : before.HoldsLive) : before.stop.device.Holds [] [] [] := by
  rw [stop_eq]
  exact live.released

variable [TimeSource Source]

theorem execute (live : before.HoldsLive) (source : String) :
    (before.execute source).2.HoldsLive := by
  have outcome := live.holds.build source
  rcases built : Controller.build before.device source with ⟨_ | bindings, after⟩
  case error =>
    rw [built] at outcome
    rw [execute_of_error built]
    exact ⟨outcome, live.bindings⟩
  case ok =>
    rw [built] at outcome
    rcases outcome with ⟨freshProgram, freshGeometry, holds⟩
    rw [execute_of_ok built]
    -- What was on screen goes after the new objects were made, so they are others.
    refine ⟨holds_releaseBindings holds fun shown onScreen => ?_, rfl⟩
    rw [onScreen] at freshProgram freshGeometry
    exact ⟨fun member => freshProgram (by simpa using (List.mem_singleton.mp member).symm),
      fun member => freshGeometry (by simpa using (List.mem_singleton.mp member).symm)⟩

theorem onFrame (live : before.HoldsLive) (handle : FrameHandle) :
    (before.onFrame handle).2.HoldsLive := by
  by_cases awaited : before.loop.Awaits handle
  · rcases awaited with ⟨session, running, pending⟩
    have same := SurfaceDevice.isFrameStable_sameHoldings.drawFrame before.device session.bindings
      (TimeSource.sample before.loop.time).1
    rcases drawn : FrameLoop.drawFrame before.device session.bindings
      (TimeSource.sample before.loop.time).1 with ⟨result, device⟩
    rw [drawn] at same
    cases result with
    | ok outcome =>
        rw [onFrame_of_ok running pending drawn]
        refine live.transfer same rfl ?_
        simp [FrameLoop.bindings?, running]
    | error error =>
        rw [onFrame_of_error running pending drawn]
        have drawnLive : HoldsLive { before with device } := live.transfer same rfl rfl
        exact ⟨drawnLive.released, rfl⟩
  · rw [onFrame_of_not_awaited awaited]
    exact live

theorem onRedraw (live : before.HoldsLive) : before.onRedraw.2.HoldsLive := by
  rcases taken : FrameClock.takeDue before.loop.clock with ⟨due, clock⟩
  have waiting : HoldsLive { before with loop := { before.loop with clock } } :=
    live.transfer (.refl _) rfl rfl
  cases due with
  | none =>
      rw [onRedraw_of_idle taken]
      exact waiting
  | some handle =>
      rw [onRedraw_of_due taken]
      exact waiting.onFrame handle

omit [FrameClock Clock] [TimeSource Source] in
/-- A frame finds what it draws. -/
theorem isReady_session {session : RenderSession} (live : before.HoldsLive)
    (running : before.loop.session = some session) (seconds : Single) :
    (FrameLoop.feed (FrameLoop.matchDisplay before.device) session.bindings seconds).IsReady := by
  have onScreen : before.live = some session.bindings := by
    rw [← live.bindings, FrameLoop.bindings?, running]
    rfl
  have holds := live.holds
  rw [onScreen] at holds
  exact SurfaceDevice.isReady_feed holds (List.mem_singleton.mpr rfl)
    (List.mem_singleton.mpr rfl) seconds

theorem isReady_drawing {device : SurfaceDevice} (live : before.HoldsLive)
    (drawing : before.drawing? = some device) : device.IsReady := by
  rcases drawing?_eq_some drawing with ⟨_, _, _, running, _, rfl⟩
  exact live.isReady_session running _

/-- A redraw fails if the surface does, and in no other way. -/
theorem onRedraw_error {error : ResourceError} (live : before.HoldsLive)
    (failed : before.onRedraw.1 = .error error) :
    ∃ refused, before.device.host.acquire.next.1 = some refused ∧
      error = .surface refused.message := by
  cases drawing : before.drawing? with
  | none =>
      rw [(onRedraw_of_not_drawing drawing).1] at failed
      cases failed
  | some device =>
      have result := (live.isReady_drawing drawing).draw
      have same : device.host.acquire = before.device.host.acquire := by
        rcases drawing?_eq_some drawing with ⟨_, session, _, _, _, rfl⟩
        exact SurfaceDevice.acquire_feed _ _ _
      have drawn : FrameLoop.frameResult device.draw.1 = .error error :=
        (onRedraw_of_drawing drawing).symm.trans failed
      rw [result, same] at drawn
      cases acquired : before.device.host.acquire.next.1 with
      | none =>
          rw [acquired] at drawn
          cases drawn
      | some refused =>
          rw [acquired] at drawn
          refine ⟨refused, rfl, ?_⟩
          cases refused <;> cases drawn <;> rfl

end HoldsLive

end Controller

end LiveShader
