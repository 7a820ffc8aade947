import LiveShader.Proofs.Studio.Response

/-! # What a preview refuses

Few events make the studio tell the preview anything, and each of them one thing only. The
answer of the preview is then the result of the event. So a refusal becomes the result, and
nothing is printed about it. -/

namespace LiveShader

/-! ## Telling a preview -/

section

variable {View : Type} [Preview View]

/-- Tells a preview one thing. -/
def Preview.tell (view : View) : PreviewCall → Except WindowError Unit × View
  | .execute generation source => Preview.execute view generation source
  | .stop => Preview.stop view

/-- Whether a preview refuses what it is told. -/
def Preview.Refuses (view : View) (call : PreviewCall) (error : WindowError) : Prop :=
  (Preview.tell view call).1 = .error error

end

/-- What a window is told by its studio. -/
def PreviewCall.command : PreviewCall → WindowCommand
  | .execute generation source => .execute generation source
  | .stop => .stop

namespace PreviewWindow

variable {preview : PreviewWindow}

theorem tell_eq_send (preview : PreviewWindow) (call : PreviewCall) :
    Preview.tell preview call = preview.send call.command := by
  cases call <;> rfl

theorem tell_of_closed (closed : ¬preview.isOpen) (call : PreviewCall) :
    Preview.tell preview call = (.error .closed, preview) := by
  rw [tell_eq_send, send, if_neg closed]

theorem tell_of_open (opened : preview.isOpen) (call : PreviewCall) :
    Preview.tell preview call = (.ok (), preview.handleCommand call.command) := by
  rw [tell_eq_send, send, if_pos opened]

/-- A window refuses nothing while it is open and everything afterwards. -/
theorem refuses_iff (preview : PreviewWindow) (call : PreviewCall) (error : WindowError) :
    Preview.Refuses preview call error ↔ ¬preview.isOpen ∧ error = .closed := by
  unfold Preview.Refuses
  by_cases opened : preview.isOpen
  · simp [tell_of_open opened, opened]
  · simp [tell_of_closed opened, opened, eq_comm]

theorem isOpen_handleCommand (preview : PreviewWindow) (call : PreviewCall) :
    (preview.handleCommand call.command).isOpen = preview.isOpen := by
  cases call with
  | execute generation source =>
      simp only [PreviewCall.command, handleCommand, execute]
      split
      case h_1 => rfl
      case h_2 => split <;> rfl
  | stop => rfl

end PreviewWindow

/-! ## What an event comes to -/

namespace Studio

variable {View : Type}

/-- What the studio tells the preview because of an event. -/
def told? (studio : Studio View) : StudioEvent → Option PreviewCall
  | .command .stop => some .stop
  | .command .run => studio.lastSource.map (.execute studio.cycle.generation)
  | .generated ticket (.ok text) | .fixed ticket (.ok text) =>
      if ticket.generation = studio.cycle.generation then
        some (.execute studio.cycle.generation (Fence.strip text))
      else
        none
  | _ => none

/-- What an event comes to that makes the studio tell the preview something. -/
structure Passes [Preview View] (studio : Studio View) (call : PreviewCall)
    (reaction : Reaction View) : Prop where
  result : reaction.result = (Preview.tell studio.preview call).1.map fun () => .proceed
  preview : reaction.studio.preview = (Preview.tell studio.preview call).2
  printed : reaction.printed = []
  requests : reaction.requests = []

/-- What an event comes to that does not concern the preview. -/
structure Spares (studio : Studio View) (reaction : Reaction View) : Prop where
  result : ∃ flow, reaction.result = .ok flow
  preview : reaction.studio.preview = studio.preview

theorem told?_eq (studio : Studio View) (event : StudioEvent) :
    studio.told? event = (studio.move (.event event)).call? studio.cycle.generation := by
  cases event with
  | consoleClosed => rfl
  | command command =>
      cases command with
      | prompt description => exact (call?_promptMove _ description).symm
      | preset name =>
          simp only [told?, move, commandMove]
          cases studio.presets.find? name with
          | none => rfl
          | some description => exact (call?_promptMove _ description).symm
      | fix =>
          simp only [told?, move, commandMove]
          split
          case h_1 => rfl
          case h_2 =>
            split
            case isTrue => exact (call?_fixMove _ studio _).symm
            case isFalse => rfl
      | run =>
          simp only [told?, move, commandMove]
          cases studio.lastSource <;> rfl
      | stop | source | presets | status | help | quit => rfl
  | generated ticket result =>
      by_cases current : ticket.generation = studio.cycle.generation <;>
        cases result <;>
        simp [told?, move, FixCycle.completeGenerate, current, Resolution.move, StudioMove.call?]
  | fixed ticket result =>
      by_cases current : ticket.generation = studio.cycle.generation <;>
        cases result <;>
        simp [told?, move, FixCycle.completeFix, current, Resolution.move, StudioMove.call?]

variable [Preview View] (studio : Studio View)

theorem passes_submit (source : String) :
    studio.Passes (.execute studio.cycle.generation source) (studio.submit source) :=
  ⟨rfl, rfl, rfl, rfl⟩

theorem act_cases (move : StudioMove) :
    match move.call? studio.cycle.generation with
    | some call => studio.Passes call (studio.act move)
    | none => studio.Spares (studio.act move) := by
  cases move with
  | submit source => exact passes_submit studio source
  | stop => exact ⟨rfl, rfl, rfl, rfl⟩
  | wait | prompt | fix => exact ⟨⟨.proceed, rfl⟩, rfl⟩
  | leave => exact ⟨⟨.quit, rfl⟩, rfl⟩

theorem handle_cases (event : StudioEvent) :
    match studio.told? event with
    | some call => studio.Passes call (studio.handle event)
    | none => studio.Spares (studio.handle event) := by
  have comes : (studio.handle event).ComesTo _ _ := studio.respond_comesTo (.event event)
  have acts := act_cases (studio.informed (.event event)) (studio.move (.event event))
  have quiet := comes.printed
  have preview : (studio.informed (.event event)).preview = studio.preview := by
    rw [informed_event]
  rw [informed_generation, ← told?_eq] at acts quiet
  cases told : studio.told? event with
  | some call =>
      simp only [told] at acts quiet
      exact
        { result := by rw [comes.result, acts.result, preview]
          preview := by rw [comes.studio, acts.preview, preview]
          printed := quiet rfl
          requests := by rw [comes.requests, acts.requests] }
  | none =>
      simp only [told] at acts
      exact
        { result := by rw [comes.result]; exact acts.result
          preview := by rw [comes.studio, acts.preview, preview] }

/-- Only the end of the window ends a session on its part. -/
theorem onRender_result (report : RenderEvent) :
    (studio.onRender report).result = .ok (if report = .closed then .quit else .proceed) := by
  rw [(studio.onRender_comesTo report).result]
  cases report with
  | buildFailed generation failure =>
      rw [reportMove, fixMove]
      split
      case isTrue => split <;> rfl
      case isFalse => rfl
  | running | stopped | loopFailed | closed => rfl

theorem onRender_preview (report : RenderEvent) :
    (studio.onRender report).studio.preview = studio.preview := by
  rcases studio.respond_report report with ⟨cycle, responded, _⟩
  exact (congrArg preview responded).trans (studio.informed_report_preview report)

/-- A studio cannot go on from an event exactly if the preview refuses what it is told, and
then the user is told nothing. -/
theorem handle_eq_error_iff (event : StudioEvent) (error : WindowError) :
    (studio.handle event).result = .error error ↔
      ∃ call, studio.told? event = some call ∧ Preview.Refuses studio.preview call error := by
  have cases := handle_cases studio event
  cases told : studio.told? event with
  | none =>
      simp only [told] at cases
      rcases cases.result with ⟨flow, result⟩
      simp [result]
  | some call =>
      simp only [told] at cases
      rw [cases.result]
      cases answer : (Preview.tell studio.preview call).1 <;>
        simp [Preview.Refuses, answer, Except.map]

theorem printed_of_refused {event : StudioEvent} {error : WindowError}
    (refused : (studio.handle event).result = .error error) :
    (studio.handle event).printed = [] := by
  rcases (handle_eq_error_iff studio event error).mp refused with ⟨call, told, _⟩
  have cases := handle_cases studio event
  simp only [told] at cases
  exact cases.printed

end Studio

end LiveShader
