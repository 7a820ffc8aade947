import LiveShader.Proofs.Render.FrameCalls
import LiveShader.Proofs.Surface.LiveObjects
import LiveShader.Proofs.Surface.Requests
import LiveShader.Proofs.Surface.UniformWrites
import LiveShader.Window.RedrawClock

/-! # The size of the surface

A window can have any size at any time, also none at all. The surface is configured to sizes
with pixels only, when it is created, when a frame finds the window at another such size, and
when a frame has lost it. -/

namespace LiveShader

/-- The surroundings of a surface give its window new sizes. -/
instance : ScriptedDevice Size SurfaceDevice where
  follow := SurfaceDevice.resizeWindow

/-- The size that a request configures the surface to. -/
def Request.configuredSize? : Request → Option Size
  | .configureSurface _ size => some size
  | _ => none

namespace SurfaceDevice

/-! ## Configurations since a device was created -/

/-- Since it was created at a host, a device has configured its surface to sizes with pixels,
and the last of them is the one it goes by. -/
def IsConfiguredSince (host : Host) (device : SurfaceDevice) : Prop :=
  ∃ requests, device.host.log = host.log ++ requests ∧
    (∀ size ∈ requests.filterMap Request.configuredSize?, ¬size.isEmpty) ∧
    (requests.filterMap Request.configuredSize?).getLast? = some device.configured

variable {host : Host} {device next : SurfaceDevice} {kinds : List RequestKind}

theorem IsConfiguredSince.hasPixels (configured : device.IsConfiguredSince host) :
    ¬device.configured.isEmpty := by
  rcases configured with ⟨requests, _, pixels, last⟩
  exact pixels _ (List.mem_of_getLast? last)

/-- Requests that do not configure the surface leave it as it is. -/
theorem IsConfiguredSince.asks (configured : device.IsConfiguredSince host)
    (asks : device.host.Asks kinds next.host) (silent : .configuration ∉ kinds)
    (same : next.configured = device.configured) : next.IsConfiguredSince host := by
  rcases configured with ⟨requests, log, pixels, last⟩
  rcases asks with ⟨more, laterLog, allowed⟩
  have none : more.filterMap Request.configuredSize? = [] := by
    rw [List.filterMap_eq_nil_iff]
    intro request member
    cases request with
    | configureSurface => exact absurd (allowed _ member) silent
    | _ => rfl
  have sizes : (requests ++ more).filterMap Request.configuredSize? =
      requests.filterMap Request.configuredSize? := by
    rw [List.filterMap_append, none, List.append_nil]
  refine ⟨requests ++ more, by rw [laterLog, log, List.append_assoc], ?_, ?_⟩
  · rwa [sizes]
  · rwa [sizes, same]

theorem IsConfiguredSince.resizeBacking (configured : device.IsConfiguredSince host)
    (size : Size) : (device.resizeBacking size).IsConfiguredSince host := by
  unfold SurfaceDevice.resizeBacking
  split
  case isTrue => exact configured
  case isFalse hasPixels =>
    rcases configured with ⟨requests, log, pixels, last⟩
    refine ⟨requests ++ [.configureSurface device.format size], ?_, ?_, ?_⟩
    · simp only [configure, Host.record, log, List.append_assoc]
    · intro other member
      rw [List.filterMap_append] at member
      rcases List.mem_append.mp member with early | now
      · exact pixels other early
      · rwa [List.mem_singleton.mp now]
    · simp [configure, Request.configuredSize?]

theorem isEmpty_atLeastOne (size : Size) : ¬size.atLeastOne.isEmpty := by
  simp [Size.isEmpty, Size.atLeastOne]

theorem isConfiguredSince_create {windowSize : Size}
    (created : create host windowSize = .ok device) : device.IsConfiguredSince host := by
  rcases log_create created with ⟨configured, log⟩
  refine ⟨_, log, fun size member => ?_, by rw [configured]; rfl⟩
  rw [List.mem_singleton.mp member]
  exact isEmpty_atLeastOne windowSize

/-! ### Calls -/

theorem configured_compileStage (device : SurfaceDevice) (stage : Stage) (source : String) :
    (device.compileStage stage source).2.configured = device.configured := by
  unfold compileStage
  split
  case h_1 => rfl
  case h_2 =>
    simp only
    split <;> rfl

theorem configured_linkProgram (device : SurfaceDevice) (vertex fragment : StageId) :
    (device.linkProgram vertex fragment).2.configured = device.configured := by
  have outcome := linkOutcome device vertex fragment
  generalize device.linkProgram vertex fragment = result at outcome
  cases outcome <;> rfl

theorem configured_createQuad (device : SurfaceDevice) (program : ProgramId)
    (position : Option AttributeLocation) :
    (device.createQuad program position).2.configured = device.configured := by
  unfold createQuad
  split
  case h_1 => rfl
  case h_2 =>
    simp only
    split <;> rfl

theorem configured_writeUniform (device : SurfaceDevice) (location : UniformLocation)
    (bytes : List UInt8) :
    (device.writeUniform location bytes).configured = device.configured := by
  rcases writeUniform_eq device location bytes with ⟨programs, written, _⟩
  rw [written]

theorem configured_draw (device : SurfaceDevice) :
    device.draw.2.configured = device.configured := by
  have outcome := drawOutcome device
  generalize device.draw = result at outcome
  cases outcome <;> rfl

/-- No call configures the surface to a size without pixels. -/
theorem isCallStable_isConfiguredSince (host : Host) :
    IsCallStable fun before after : SurfaceDevice =>
      before.IsConfiguredSince host → after.IsConfiguredSince host where
  refl _ := id
  trans early late := late ∘ early
  compileStage device stage source configured :=
    configured.asks (asks_compileStage device stage source) (by simp)
      (configured_compileStage device stage source)
  releaseStage _ _ := id
  linkProgram device vertex fragment configured :=
    configured.asks (asks_linkProgram device vertex fragment) (by simp)
      (configured_linkProgram device vertex fragment)
  releaseProgram _ _ := id
  createQuad device program position configured :=
    configured.asks (asks_createQuad device program position) (by simp)
      (configured_createQuad device program position)
  releaseGeometry _ _ := id
  resizeBacking _ size configured := configured.resizeBacking size
  useProgram _ _ := id
  bindQuad _ _ := id
  setFloat device location value configured :=
    configured.asks (asks_writeUniform device location value.bytes) (by simp)
      (configured_writeUniform device location value.bytes)
  setPair device location first second configured :=
    configured.asks (asks_writeUniform device location (first.bytes ++ second.bytes)) (by simp)
      (configured_writeUniform device location (first.bytes ++ second.bytes))
  draw device configured :=
    configured.asks (asks_draw device) (by simp) (configured_draw device)

/-! ## One frame -/

section

open FrameLoop

/-- The size of the next frame: that of the window, or the last one if the window has no
pixels. -/
def frameSize (device : SurfaceDevice) : Size :=
  if device.windowSize.isEmpty then device.configured else device.windowSize

/-- What comes of taking the next texture from the surface. -/
def nextDraw (device : SurfaceDevice) : Except DrawError Unit :=
  match device.host.acquire.next.1 with
  | none => .ok ()
  | some error => .error error.drawError

/-- What the next frame asks of the surface: to be configured if the size has changed, for a
texture, and to be configured again if it is lost or outdated. -/
def surfaceRequests (device : SurfaceDevice) : List Request :=
  (if device.frameSize = device.configured then []
    else [.configureSurface device.format device.frameSize]) ++
  [.acquireTexture] ++
  match device.host.acquire.next.1 with
  | some .lost | some .outdated => [.configureSurface device.format device.frameSize]
  | _ => []

theorem isEmpty_frameSize (pixels : ¬device.configured.isEmpty) : ¬device.frameSize.isEmpty := by
  unfold frameSize
  split
  case isTrue => exact pixels
  case isFalse shown => exact shown

theorem matchDisplay_eq (device : SurfaceDevice) :
    matchDisplay device = if device.frameSize = device.configured then device
      else configure { device with configured := device.frameSize } := by
  by_cases same : device.windowSize = device.configured
  · have kept : matchDisplay device = device := if_pos same
    have unchanged : device.frameSize = device.configured := by
      rw [frameSize, same, ite_self]
    rw [kept, if_pos unchanged]
  · have resized : matchDisplay device = device.resizeBacking device.windowSize := if_neg same
    rw [resized, resizeBacking, frameSize]
    by_cases empty : device.windowSize.isEmpty
    · rw [if_pos empty, if_pos empty, if_pos rfl]
    · rw [if_neg empty, if_neg empty, if_neg same]

theorem configured_matchDisplay (device : SurfaceDevice) :
    (matchDisplay device).configured = device.frameSize := by
  rw [matchDisplay_eq]
  split
  case isTrue same => exact same.symm
  case isFalse => rfl

theorem asked_matchDisplay (device : SurfaceDevice) :
    (matchDisplay device).host.asked [.configuration, .texture] =
      device.host.asked [.configuration, .texture] ++
        if device.frameSize = device.configured then []
        else [.configureSurface device.format device.frameSize] := by
  rw [matchDisplay_eq]
  split
  case isTrue => exact (List.append_nil _).symm
  case isFalse => exact device.host.asked_record _ (by simp [Request.kind])

variable {bindings : FrameBindings} {seconds : Single}

theorem draw_feed (ready : (feed (matchDisplay device) bindings seconds).IsReady) :
    (feed (matchDisplay device) bindings seconds).draw.1 = device.nextDraw := by
  rw [ready.draw, acquire_feed]
  rfl

theorem asked_draw (ready : (feed (matchDisplay device) bindings seconds).IsReady) :
    (feed (matchDisplay device) bindings seconds).draw.2.host.asked [.configuration, .texture] =
      (matchDisplay device).host.asked [.configuration, .texture] ++ [.acquireTexture] := by
  rcases ready.program with ⟨program, linked, inUse, live⟩
  rw [(asks_draw_of_live inUse live).asked_eq (by simp),
    Host.asked_acquireTexture _ (by simp)]
  rcases feed_eq (matchDisplay device) bindings seconds with ⟨_, fed, _⟩
  rw [fed]

theorem format_draw_feed (device : SurfaceDevice) (bindings : FrameBindings) (seconds : Single) :
    (feed (matchDisplay device) bindings seconds).draw.2.format = device.format := by
  have matched : (matchDisplay device).format = device.format := by
    rw [matchDisplay_eq]
    split <;> rfl
  rcases feed_eq (matchDisplay device) bindings seconds with ⟨_, fed, _⟩
  have outcome := drawOutcome (feed (matchDisplay device) bindings seconds)
  generalize (feed (matchDisplay device) bindings seconds).draw = result at outcome
  cases outcome <;> rw [fed] <;> exact matched

theorem asked_drawFrame (ready : (feed (matchDisplay device) bindings seconds).IsReady)
    (pixels : ¬device.configured.isEmpty) :
    (drawFrame device bindings seconds).2.host.asked [.configuration, .texture] =
      device.host.asked [.configuration, .texture] ++ device.surfaceRequests := by
  have drawn := asked_draw ready
  have result := draw_feed ready
  have format := format_draw_feed device bindings seconds
  have size := configured_matchDisplay device
  rw [asked_matchDisplay, List.append_assoc] at drawn
  rw [drawFrame_device, surfaceRequests, ← List.append_assoc, ← drawn]
  simp only [GraphicsDevice.draw, GraphicsDevice.backingSize, size]
  generalize (feed (matchDisplay device) bindings seconds).draw = attempt at result format ⊢
  rcases attempt with ⟨outcome, after⟩
  simp only at result format
  -- A lost or outdated surface is configured again, to the size that the frame was drawn at.
  have recovered : (after.resizeBacking device.frameSize).host.asked [.configuration, .texture] =
      after.host.asked [.configuration, .texture] ++
        [.configureSurface device.format device.frameSize] := by
    rw [resizeBacking, if_neg (isEmpty_frameSize pixels), ← format]
    exact after.host.asked_record _ (by simp [Request.kind])
  subst result
  unfold nextDraw
  cases device.host.acquire.next.1 with
  | none => exact (List.append_nil _).symm
  | some error =>
      cases error with
      | lost | outdated => exact recovered
      | timeout | outOfMemory | other => exact (List.append_nil _).symm

/-- The calls of a frame. What it feeds and what it draws at is the size of the next frame. -/
theorem frameCalls_eq (ready : (feed (matchDisplay device) bindings seconds).IsReady) :
    frameCalls device bindings seconds =
      (if device.windowSize = device.configured then [] else [.resize device.windowSize]) ++
        bindings.feedCalls device.frameSize seconds ++
        [.draw device.windowSize device.frameSize device.nextDraw] ++
        recoverCalls device.frameSize device.nextDraw := by
  have size := configured_matchDisplay device
  have window : (matchDisplay device).windowSize = device.windowSize := by
    rw [matchDisplay_eq]
    split <;> rfl
  have sizes : (feed (matchDisplay device) bindings seconds).windowSize = device.windowSize ∧
      (feed (matchDisplay device) bindings seconds).configured = device.frameSize := by
    rcases feed_eq (matchDisplay device) bindings seconds with ⟨_, fed, _⟩
    rw [fed]
    exact ⟨window, size⟩
  have drawn : Logged.drawCall (feed (matchDisplay device) bindings seconds) =
      .draw device.windowSize device.frameSize device.nextDraw := by
    simp only [Logged.drawCall, GraphicsDevice.displaySize, GraphicsDevice.backingSize,
      GraphicsDevice.draw, sizes.1, sizes.2, draw_feed ready]
  simp only [frameCalls, drawn, GraphicsDevice.draw, draw_feed ready, GraphicsDevice.backingSize,
    size]
  rfl

end

end SurfaceDevice

/-! ## Runs -/

namespace Controller

variable {Clock Source : Type} [FrameClock Clock] [TimeSource Source]
variable {controller : Controller SurfaceDevice Clock Source}

theorem HoldsLive.perform (live : controller.HoldsLive) (operation : ControllerOperation Size) :
    (controller.perform operation).2.HoldsLive := by
  cases operation with
  | execute source => exact live.execute source
  | redraw => exact live.onRedraw
  | frame handle => exact live.onFrame handle
  | stop | teardown => exact live.stop
  | script size => exact live.transfer ⟨rfl, rfl, rfl, rfl⟩ rfl rfl

/-- Whether no operation of a run draws. -/
def IsQuiet (controller : Controller SurfaceDevice Clock Source) :
    List (ControllerOperation Size) → Prop
  | [] => True
  | operation :: rest =>
      (∀ session, ¬controller.Draws operation session) ∧
        (controller.perform operation).2.IsQuiet rest

theorem asks_of_isQuiet {operations : List (ControllerOperation Size)}
    (quiet : controller.IsQuiet operations) :
    controller.device.host.Asks [.object] (controller.after operations).device.host := by
  induction operations generalizing controller with
  | nil => exact .refl _
  | cons operation rest induction =>
      rcases quiet with ⟨still, later⟩
      have now := SurfaceDevice.isBuildStable_asks.perform controller
        (fun device _ => .refl device.host) still
      exact now.trans (induction later)

/-- What a frame asks of the surface is asked by the operation that runs it. -/
theorem asked_of_draws {operation : ControllerOperation Size} {session : RenderSession}
    (live : controller.HoldsLive) (pixels : ¬controller.device.configured.isEmpty)
    (draws : controller.Draws operation session) :
    (controller.perform operation).2.device.host.asked [.configuration, .texture] =
      controller.device.host.asked [.configuration, .texture] ++
        controller.device.surfaceRequests := by
  have released := SurfaceDevice.isBuildStable_asks.perform_of_draws controller draws
  rcases draws with ⟨_, _, running, _⟩
  rw [released.asked_eq (by simp)]
  exact SurfaceDevice.asked_drawFrame (live.isReady_session running _) pixels

/-- A frame is drawn at the size of its window, or at the last size with pixels. -/
structure DrawsAtSize (controller : Controller SurfaceDevice Clock Source)
    (operation : ControllerOperation Size) (session : RenderSession) : Prop where
  hasPixels : ¬controller.device.frameSize.isEmpty
  calls : (controller.logged.perform operation).2.device.calls =
    (if controller.device.windowSize = controller.device.configured then []
      else [.resize controller.device.windowSize]) ++
      session.bindings.feedCalls controller.device.frameSize
        (TimeSource.sample controller.loop.time).1 ++
      [.draw controller.device.windowSize controller.device.frameSize controller.device.nextDraw] ++
      recoverCalls controller.device.frameSize controller.device.nextDraw
  asked : ∀ later, (controller.perform operation).2.IsQuiet later →
    ((controller.perform operation).2.after later).device.host.asked [.configuration, .texture] =
      controller.device.host.asked [.configuration, .texture] ++ controller.device.surfaceRequests

/-- Whatever sizes a window is given and whatever its surface answers, the surface is configured
to sizes with pixels only. A frame feeds and is drawn at the size of the window if that has
pixels, and otherwise at the last size that was configured. Up to the next frame the surface is
asked for nothing but what the frame asks for, which is one more configuration, to the same
size, if the surface was lost or outdated. -/
theorem surface_has_pixels {host : Host} {windowSize : Size} {device : SurfaceDevice}
    (created : SurfaceDevice.create host windowSize = .ok device) (clock : Clock) (time : Source)
    (operations : List (ControllerOperation Size)) :
    let controller := (create device clock time).after operations
    controller.device.IsConfiguredSince host ∧
      ∀ operation session, controller.Draws operation session →
        controller.DrawsAtSize operation session := by
  intro controller
  have live : controller.HoldsLive :=
    after_invariant HoldsLive (fun _ operation live => live.perform operation) _ operations
      (.create (SurfaceDevice.holds_create created) clock time)
  have configured : controller.device.IsConfiguredSince host :=
    after_invariant
      (fun controller : Controller SurfaceDevice Clock Source =>
        controller.device.IsConfiguredSince host)
      (fun controller operation configured =>
        (SurfaceDevice.isCallStable_isConfiguredSince host).perform controller
          (fun _ _ configured => configured) operation configured)
      _ operations (SurfaceDevice.isConfiguredSince_create created)
  refine ⟨configured, fun operation session draws => ⟨?_, ?_, fun later quiet => ?_⟩⟩
  · exact SurfaceDevice.isEmpty_frameSize configured.hasPixels
  · rw [calls_perform_of_draws controller draws]
    rcases draws with ⟨_, _, running, _⟩
    exact SurfaceDevice.frameCalls_eq (live.isReady_session running _)
  · rw [(asks_of_isQuiet quiet).asked_eq (by simp)]
    exact asked_of_draws live configured.hasPixels draws

/-- A window without width is drawn one pixel wide, and loses its surface in the first frame. -/
theorem surface_has_pixels_without_width :
    let host := SurfaceDevice.scriptedHost [some .lost] []
    let operations : List (ControllerOperation Size) :=
      [.execute "// VERTEX SHADER\n#version 450\n// FRAGMENT SHADER\n#version 450"]
    ∃ device, SurfaceDevice.create host { width := 0, height := 7 } = .ok device ∧
      let controller := (create device RedrawClock.initial Stopwatch.initial).after operations
      controller.device.IsConfiguredSince host ∧
        controller.device.surfaceRequests = [.acquireTexture,
          .configureSurface { name := "Bgra8Unorm" } { width := 1, height := 7 }] ∧
        ∃ session, controller.Draws (.redraw : ControllerOperation Size) session ∧
          controller.DrawsAtSize .redraw session := by
  intro host operations
  have ran : ((SurfaceDevice.create host { width := 0, height := 7 }).toOption.map fun device =>
      let controller := (create device RedrawClock.initial Stopwatch.initial).after operations
      (controller.device.surfaceRequests, controller.drawing?.isSome)) =
      some ([.acquireTexture,
        .configureSurface { name := "Bgra8Unorm" } { width := 1, height := 7 }], true) := by
    decide +kernel
  cases created : SurfaceDevice.create host { width := 0, height := 7 } with
  | error failure =>
      rw [created] at ran
      cases ran
  | ok device =>
      rw [created] at ran
      rcases Prod.mk.inj (Option.some.inj ran) with ⟨requests, drawing⟩
      rcases Option.isSome_iff_exists.mp drawing with ⟨ready, drawing⟩
      rcases drawing?_eq_some drawing with ⟨handle, session, due, running, pending, _⟩
      have holds := surface_has_pixels created RedrawClock.initial Stopwatch.initial operations
      have draws : ((create device RedrawClock.initial Stopwatch.initial).after operations).Draws
          (.redraw : ControllerOperation Size) session := ⟨handle, due, running, pending⟩
      exact ⟨device, rfl, holds.1, requests, session, draws, holds.2 _ session draws⟩

end Controller

end LiveShader
