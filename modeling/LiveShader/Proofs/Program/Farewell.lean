import LiveShader.Proofs.Program.Steps

/-! # How a session ends

A session may come to a command or a response after the window has closed and before it
takes the report of that. If this makes it tell the window something, the session ends there
with the refusal. Otherwise it gets to the report and ends as the window has ended. -/

namespace LiveShader

/-! ## The end of the window -/

namespace PreviewWindow

variable {preview : PreviewWindow}

/-- How the event loop of a window has ended. -/
def farewell (preview : PreviewWindow) : Except WindowError Unit :=
  match preview.loopError with
  | some reason => .error (.loop reason)
  | none => .ok ()

/-- Whether a window that has closed has its end among the reports that wait. -/
def AnnouncesEnd (preview : PreviewWindow) : Prop :=
  ¬preview.isOpen → .closed ∈ preview.events

theorem farewell_ne_closed (preview : PreviewWindow) : preview.farewell ≠ .error .closed := by
  unfold farewell
  split <;> simp

theorem isOpen_redraw (preview : PreviewWindow) : preview.redraw.isOpen = preview.isOpen := by
  unfold redraw
  split <;> rfl

theorem announcesEnd_handleEvent (opened : preview.isOpen) (event : WindowEvent) :
    (preview.handleEvent event).AnnouncesEnd := by
  intro closed
  cases event with
  | resized size | other => exact absurd opened closed
  | redrawRequested =>
      rw [handleEvent, isOpen_redraw] at closed
      exact absurd opened closed
  | closeRequested | destroyed => exact List.mem_append_right _ (List.mem_singleton.mpr rfl)

theorem arrive_same (preview : PreviewWindow) (event : WindowEvent) :
    (preview.arrive event).isOpen = preview.isOpen ∧
      (preview.arrive event).events = preview.events ∧
      (preview.arrive event).farewell = preview.farewell := by
  cases event <;> exact ⟨rfl, rfl, rfl⟩

theorem deliver_of_open (opened : preview.isOpen) (event : WindowEvent) :
    (preview.deliver event).2 = (preview.arrive event).handleEvent event := by
  rw [← (preview.arrive_same event).1] at opened
  simp only [deliver, if_pos opened]

theorem deliver_of_closed (closed : ¬preview.isOpen) (event : WindowEvent) :
    (preview.deliver event).2 = preview.arrive event := by
  rw [← (preview.arrive_same event).1] at closed
  simp only [deliver, if_neg closed]

theorem announcesEnd_deliver (announces : preview.AnnouncesEnd) (event : WindowEvent) :
    (preview.deliver event).2.AnnouncesEnd := by
  have same := preview.arrive_same event
  by_cases opened : preview.isOpen
  · rw [deliver_of_open opened]
    exact announcesEnd_handleEvent (same.1.trans opened) event
  · rw [deliver_of_closed opened, AnnouncesEnd, same.1, same.2.1]
    exact announces

theorem shutdown_eq_farewell (preview : PreviewWindow) :
    preview.shutdown.1 = preview.shutdown.2.farewell := by
  simp only [shutdown, farewell]
  split <;> simp [*]

theorem shutdown_of_closed (closed : ¬preview.isOpen) : preview.shutdown.2 = preview := by
  simp only [shutdown, send, if_neg closed]
  split <;> rfl

theorem not_isOpen_shutdown (preview : PreviewWindow) : ¬preview.shutdown.2.isOpen := by
  by_cases opened : preview.isOpen
  · simp only [shutdown, send, if_pos opened]
    split <;> exact Bool.false_ne_true
  · rwa [shutdown_of_closed opened]

end PreviewWindow

namespace Session

/-! ## Coming late -/

/-- Whether a step makes a session that goes on tell something to a window that has closed. -/
def comesLate (session : Session) (step : SessionStep) : Bool :=
  session.ending.isNone && !session.window.isOpen && (session.told? step).isSome

/-- Whether some step of a run comes late. -/
def anyLate (session : Session) : List SessionStep → Bool
  | [] => false
  | step :: rest => session.comesLate step || (session.perform step).anyLate rest

/-! ## How a session stands -/

/-- A session that goes on. -/
structure GoesOn (session : Session) : Prop where
  ending : session.ending = none
  announces : session.window.AnnouncesEnd

/-- A session that has ended as its window has. -/
structure HasLeft (session : Session) : Prop where
  ending : session.ending = some session.window.farewell
  closed : ¬session.window.isOpen

section

variable {session : Session} {reaction : Reaction PreviewWindow}

/-- A session in which a reaction of the studio is known, before it ends if it does. -/
def takeOver (session : Session) (reaction : Reaction PreviewWindow) : Session :=
  Session.request { session with
    studio := reaction.studio
    printed := session.printed ++ reaction.printed } reaction.requests

theorem goesOn_opened {host : Host} {config : WindowConfig} {preview : PreviewWindow}
    (spawned : PreviewWindow.spawn host config = .ok preview) (client : GenerationClient)
    (arguments : Arguments) (settings : Settings) :
    (opened preview client arguments settings).GoesOn := by
  rcases PreviewWindow.exists_create_of_spawn spawned with ⟨_, device, _, _, rfl⟩
  exact ⟨rfl, fun closed => absurd rfl closed⟩

theorem hasLeft_finish (session : Session) : (session.finish none).HasLeft where
  ending := congrArg some session.window.shutdown_eq_farewell
  closed := session.window.not_isOpen_shutdown

theorem react_of_proceed (proceeds : reaction.result = .ok .proceed) :
    session.react reaction = session.takeOver reaction := by
  simp only [react, proceeds, takeOver]

theorem react_of_quit (quits : reaction.result = .ok .quit) :
    session.react reaction = (session.takeOver reaction).finish none := by
  simp only [react, quits, takeOver]

theorem react_of_error {error : WindowError} (refused : reaction.result = .error error) :
    session.react reaction = (session.takeOver reaction).finish (some error) := by
  simp only [react, refused, takeOver]

theorem takeOver_eq (session : Session) (reaction : Reaction PreviewWindow) :
    ∃ host, (session.takeOver reaction).window = reaction.studio.preview.withHost host ∧
      (session.takeOver reaction).ending = session.ending := by
  rcases request_eq { session with
    studio := reaction.studio
    printed := session.printed ++ reaction.printed } reaction.requests with ⟨host, queue, same⟩
  rw [takeOver, same]
  exact ⟨host, rfl, rfl⟩

theorem goesOn_react (ending : session.ending = none)
    (proceeds : reaction.result = .ok .proceed)
    (announces : reaction.studio.preview.AnnouncesEnd) : (session.react reaction).GoesOn := by
  rcases session.takeOver_eq reaction with ⟨host, shown, same⟩
  rw [react_of_proceed proceeds]
  exact ⟨same.trans ending, by rwa [shown]⟩

theorem hasLeft_react (quits : reaction.result = .ok .quit) :
    (session.react reaction).HasLeft := by
  rw [react_of_quit quits]
  exact hasLeft_finish _

/-- A window that has closed is not changed by the end of the session. -/
theorem farewell_react (closed : ¬reaction.studio.preview.isOpen)
    (quits : reaction.result = .ok .quit) :
    (session.react reaction).window.farewell = reaction.studio.preview.farewell := by
  rcases session.takeOver_eq reaction with ⟨host, shown, _⟩
  have still : ((session.takeOver reaction).finish none).window =
      (session.takeOver reaction).window := by
    apply PreviewWindow.shutdown_of_closed
    rwa [shown]
  rw [react_of_quit quits, still, shown]
  rfl

end

/-! ## One step -/

/-- What the window is told while it is open is done. -/
theorem goesOn_react_of_passes {session : Session} {call : PreviewCall}
    {reaction : Reaction PreviewWindow} (ending : session.ending = none)
    (opened : session.window.isOpen) (passes : session.studio.Passes call reaction) :
    (session.react reaction).GoesOn := by
  have told : Preview.tell session.studio.preview call =
      (.ok (), session.window.handleCommand call.command) :=
    PreviewWindow.tell_of_open opened call
  apply goesOn_react ending
  · rw [passes.result, told]
    rfl
  · intro closed
    rw [passes.preview, told, PreviewWindow.isOpen_handleCommand] at closed
    exact absurd opened closed

theorem stands_react_of_spares {session : Session} {reaction : Reaction PreviewWindow}
    (goesOn : session.GoesOn) (spares : session.studio.Spares reaction) :
    (session.react reaction).GoesOn ∨ (session.react reaction).HasLeft := by
  rcases spares.result with ⟨flow, result⟩
  cases flow with
  | proceed =>
      apply Or.inl
      apply goesOn_react goesOn.ending result
      rw [spares.preview]
      exact goesOn.announces
  | quit => exact .inr (hasLeft_react result)

/-- A session breaks off if its window refuses what it is told. -/
theorem ending_react_of_passes {session : Session} {call : PreviewCall}
    {reaction : Reaction PreviewWindow} (closed : ¬session.window.isOpen)
    (passes : session.studio.Passes call reaction) :
    (session.react reaction).ending = some (.error .closed) := by
  have told : Preview.tell session.studio.preview call = (.error .closed, session.window) :=
    PreviewWindow.tell_of_closed closed call
  have refused : reaction.result = .error .closed := by
    rw [passes.result, told]
    rfl
  rw [react_of_error refused]
  rfl

/-- Nothing more comes of a session that has ended. -/
theorem perform_of_ended {session : Session} (ended : session.ending.isSome)
    (step : SessionStep) :
    (session.perform step).ending = session.ending ∧
      (¬session.window.isOpen → ¬(session.perform step).window.isOpen ∧
        (session.perform step).window.farewell = session.window.farewell) := by
  cases step with
  | begun | reported | handled =>
      rw [perform, if_pos ended]
      exact ⟨rfl, fun closed => ⟨closed, rfl⟩⟩
  | typed bytes =>
      rcases session.readBytes_eq bytes with ⟨_, _, _, _, same⟩
      rw [perform, same]
      exact ⟨rfl, fun closed => ⟨closed, rfl⟩⟩
  | inputEnded =>
      rcases session.readEnd_eq with ⟨_, _, _, same⟩
      rw [perform, same]
      exact ⟨rfl, fun closed => ⟨closed, rfl⟩⟩
  | window event =>
      refine ⟨rfl, fun closed => ?_⟩
      rcases session.window.arrive_same event with ⟨isOpen, _, farewell⟩
      rw [perform, PreviewWindow.deliver_of_closed closed]
      exact ⟨(isOpen ▸ closed : ¬(session.window.arrive event).isOpen), farewell⟩
  | world host nanoseconds => exact ⟨rfl, fun closed => ⟨closed, rfl⟩⟩

theorem HasLeft.perform {session : Session} (left : session.HasLeft) (step : SessionStep) :
    (session.perform step).HasLeft := by
  have ended : session.ending.isSome := by
    rw [left.ending]
    rfl
  rcases perform_of_ended ended step with ⟨ending, window⟩
  rcases window left.closed with ⟨closed, farewell⟩
  exact ⟨by rw [ending, farewell, left.ending], closed⟩

theorem comesLate_iff (session : Session) (step : SessionStep) :
    session.comesLate step ↔
      session.ending = none ∧ ¬session.window.isOpen ∧ ∃ call, session.told? step = some call := by
  simp [comesLate, Option.isSome_iff_exists, and_assoc]

/-- What comes of a step that tells the window nothing, or tells it to a window that is open. -/
theorem GoesOn.perform {session : Session} (goesOn : session.GoesOn) {step : SessionStep}
    (timely : ¬session.comesLate step) :
    (session.perform step).GoesOn ∨ (session.perform step).HasLeft := by
  have ending := goesOn.ending
  have unended : ¬session.ending.isSome := by simp [ending]
  have opened : ∀ call, session.told? step = some call → session.window.isOpen := by
    intro call told
    apply Decidable.of_not_not
    intro closed
    exact timely ((session.comesLate_iff step).mpr ⟨ending, closed, call, told⟩)
  cases step with
  | begun source prompt =>
      rw [Session.perform, if_neg unended]
      cases source with
      | some source =>
          exact .inl (goesOn_react_of_passes ending (opened _ rfl)
            (session.studio.passes_submit source))
      | none =>
          cases prompt with
          | none => exact .inl goesOn
          | some prompt =>
              exact stands_react_of_spares goesOn
                (session.studio.handle_cases (.command (.prompt prompt)))
  | reported =>
      rw [Session.perform, if_neg unended]
      split
      case h_1 => exact .inl goesOn
      case h_2 report events waiting =>
        have result := (session.withWindow
          { session.window with events }).studio.onRender_result report
        by_cases last : report = .closed
        · rw [if_pos last] at result
          exact .inr (hasLeft_react result)
        · rw [if_neg last] at result
          apply Or.inl
          apply goesOn_react ending result
          -- The report that was taken is not the end, so the end still waits behind it.
          rw [Studio.onRender_preview]
          intro closed
          have announced := goesOn.announces closed
          rw [waiting] at announced
          exact (List.mem_cons.mp announced).resolve_left (Ne.symm last)
  | handled index =>
      rw [Session.perform, if_neg unended]
      split
      case h_1 => exact .inl goesOn
      case h_2 event found =>
        have cases := session.studio.handle_cases event
        have sends : session.told? (.handled index) = session.studio.told? event := by
          rw [told?, found]
          rfl
        rw [sends] at opened
        cases told : session.studio.told? event with
        | some call =>
            simp only [told] at cases
            exact .inl (goesOn_react_of_passes ending (opened call told) cases)
        | none =>
            simp only [told] at cases
            exact stands_react_of_spares ⟨ending, goesOn.announces⟩ cases
  | typed bytes =>
      rcases session.readBytes_eq bytes with ⟨_, _, _, _, same⟩
      rw [Session.perform, same]
      exact .inl ⟨ending, goesOn.announces⟩
  | inputEnded =>
      rcases session.readEnd_eq with ⟨_, _, _, same⟩
      rw [Session.perform, same]
      exact .inl ⟨ending, goesOn.announces⟩
  | window event =>
      exact .inl ⟨ending, PreviewWindow.announcesEnd_deliver goesOn.announces event⟩
  | world host nanoseconds => exact .inl ⟨ending, goesOn.announces⟩

theorem ending_perform_of_comesLate {session : Session} {step : SessionStep}
    (late : session.comesLate step) : (session.perform step).ending = some (.error .closed) := by
  rcases (session.comesLate_iff step).mp late with ⟨ending, closed, call, told⟩
  have unended : ¬session.ending.isSome := by simp [ending]
  cases step with
  | begun source prompt =>
      cases source with
      | none => cases told
      | some source =>
          rw [perform, if_neg unended]
          exact ending_react_of_passes closed (session.studio.passes_submit source)
  | handled index =>
      rcases Option.bind_eq_some_iff.mp told with ⟨event, found, told⟩
      have cases := session.studio.handle_cases event
      simp only [told] at cases
      simp only [perform, if_neg unended, found]
      exact ending_react_of_passes (by exact closed) cases
  | reported | typed | inputEnded | window | world => cases told

/-! ## Runs -/

theorem HasLeft.after {session : Session} (left : session.HasLeft) (steps : List SessionStep) :
    (session.after steps).HasLeft := by
  induction steps generalizing session with
  | nil => exact left
  | cons step rest induction => exact induction (left.perform step)

theorem ending_after_of_ended {session : Session} (ended : session.ending.isSome)
    (steps : List SessionStep) : (session.after steps).ending = session.ending := by
  induction steps generalizing session with
  | nil => rfl
  | cons step rest induction =>
      have same := (perform_of_ended ended step).1
      exact (induction (by rwa [same])).trans same

theorem ending_after_of_anyLate {session : Session} {steps : List SessionStep}
    (late : session.anyLate steps) : (session.after steps).ending = some (.error .closed) := by
  induction steps generalizing session with
  | nil => cases late
  | cons step rest induction =>
      rcases Bool.or_eq_true_iff.mp late with now | later
      · have ending := ending_perform_of_comesLate now
        exact (ending_after_of_ended (by rw [ending]; rfl) rest).trans ending
      · exact induction later

theorem GoesOn.after {session : Session} (goesOn : session.GoesOn) {steps : List SessionStep}
    (timely : ¬session.anyLate steps) :
    (session.after steps).GoesOn ∨ (session.after steps).HasLeft := by
  induction steps generalizing session with
  | nil => exact .inl goesOn
  | cons step rest induction =>
      simp only [anyLate, Bool.or_eq_true, not_or] at timely
      rcases goesOn.perform timely.1 with next | left
      · exact induction next timely.2
      · exact .inr (left.after rest)

/-- A session that takes its reports gets to the end of a window that has closed. -/
theorem exists_reported {session : Session} (goesOn : session.GoesOn)
    (closed : ¬session.window.isOpen) :
    ∃ count ≤ session.window.events.length,
      (session.after (List.replicate count .reported)).ending =
        some session.window.farewell := by
  have announced := goesOn.announces closed
  generalize waiting : session.window.events = events at announced
  induction events generalizing session with
  | nil => cases announced
  | cons report events induction =>
      let taken := session.withWindow { session.window with events }
      have unended : ¬session.ending.isSome := by simp [goesOn.ending]
      have step : session.perform .reported = taken.react (taken.studio.onRender report) := by
        rw [perform, if_neg unended, waiting]
      have result := taken.studio.onRender_result report
      have preview := taken.studio.onRender_preview report
      by_cases last : report = .closed
      · rw [if_pos last] at result
        refine ⟨1, Nat.succ_le_succ (Nat.zero_le _), ?_⟩
        have ending : (session.perform .reported).ending =
            some (session.perform .reported).window.farewell := by
          rw [step]
          exact (hasLeft_react result).ending
        have same : (session.perform .reported).window.farewell = session.window.farewell := by
          rw [step, farewell_react (by rw [preview]; exact closed) result, preview]
          rfl
        exact ending.trans (congrArg some same)
      · rw [if_neg last] at result
        -- One report fewer waits, and the end is still among the others.
        have later : .closed ∈ events := (List.mem_cons.mp announced).resolve_left (Ne.symm last)
        rcases taken.takeOver_eq (taken.studio.onRender report) with ⟨host, shown, same⟩
        rw [preview] at shown
        rw [react_of_proceed result] at step
        rw [← step] at shown same
        have next : (session.perform .reported).GoesOn :=
          ⟨same.trans goesOn.ending, fun _ => by rw [shown]; exact later⟩
        rcases induction next (by rw [shown]; exact closed) (by rw [shown]; rfl) later with
          ⟨count, bound, ending⟩
        refine ⟨count + 1, Nat.succ_le_succ bound, ending.trans ?_⟩
        rw [shown]
        rfl

/-- A session ends as its window does, unless it comes to something for the window between
its closing and the report of it. Then it ends with the refusal, which is the result of the
event, and the user is told nothing by the studio. -/
theorem ending_closed_iff {host : Host} {config : WindowConfig} {preview : PreviewWindow}
    (spawned : PreviewWindow.spawn host config = .ok preview) (client : GenerationClient)
    (arguments : Arguments) (settings : Settings) (steps : List SessionStep) :
    (∀ {View : Type} [Preview View] (studio : Studio View) (event : StudioEvent)
      (error : WindowError),
      ((studio.handle event).result = .error error ↔
        ∃ call, studio.told? event = some call ∧ Preview.Refuses studio.preview call error) ∧
      ((studio.handle event).result = .error error → (studio.handle event).printed = [])) ∧
    (∀ (window : PreviewWindow) (call : PreviewCall) (error : WindowError),
      Preview.Refuses window call error ↔ ¬window.isOpen ∧ error = .closed) ∧
    let first := opened preview client arguments settings
    let session := first.after steps
    (session.ending = some (.error .closed) ↔ first.anyLate steps) ∧
      (¬first.anyLate steps →
        session.ending = none ∨ session.ending = some session.window.farewell) ∧
      (session.ending = none → ¬session.window.isOpen →
        ∃ count ≤ session.window.events.length,
          (session.after (List.replicate count .reported)).ending =
            some session.window.farewell) := by
  refine ⟨fun studio event error => ⟨studio.handle_eq_error_iff event error,
    studio.printed_of_refused⟩, PreviewWindow.refuses_iff, ?_⟩
  intro first session
  have goesOn : first.GoesOn := goesOn_opened spawned client arguments settings
  have timelyEnding : ¬first.anyLate steps → session.GoesOn ∨ session.HasLeft :=
    fun timely => goesOn.after timely
  refine ⟨⟨?_, ending_after_of_anyLate⟩, ?_, ?_⟩
  · intro ending
    apply Decidable.of_not_not
    intro timely
    rcases timelyEnding timely with goesOn | left
    · cases ending.symm.trans goesOn.ending
    · exact session.window.farewell_ne_closed
        (Option.some.inj (left.ending.symm.trans ending))
  · intro timely
    rcases timelyEnding timely with goesOn | left
    · exact .inl goesOn.ending
    · exact .inr left.ending
  · intro ending closed
    have timely : ¬first.anyLate steps := by
      intro late
      cases ending.symm.trans (ending_after_of_anyLate late)
    rcases timelyEnding timely with goesOn | left
    · exact exists_reported goesOn closed
    · cases ending.symm.trans left.ending

/-! ## Two sessions -/

def localUrl : Url where
  scheme := "http".toList
  authority := some { userinfo := [], host := "localhost".toList, port := none }
  isDotted := false
  path := .segments [[]]
  query := none
  fragment := none

def localClient : GenerationClient :=
  { generateUrl := localUrl, fixUrl := localUrl, timeout := Endpoint.defaultTimeout }

/-- The status is asked for while the window closes, and the session ends with its window. -/
theorem ending_closed_iff_status :
    ∃ preview, PreviewWindow.spawn .quiet .standard = .ok preview ∧
      let steps : List SessionStep :=
        [.typed ":status\n".toUTF8.toList, .window .closeRequested, .handled 0]
      ¬((opened preview localClient .empty .standard).after steps).window.isOpen ∧
        ((opened preview localClient .empty .standard).after steps).ending = none ∧
        ∃ count ≤ 1, (((opened preview localClient .empty .standard).after steps).after
          (List.replicate count .reported)).ending = some (.ok ()) := by
  have ran : ((PreviewWindow.spawn .quiet .standard).toOption.map fun preview =>
      let session := (opened preview localClient .empty .standard).after
        [.typed ":status\n".toUTF8.toList, .window .closeRequested, .handled 0]
      (session.ending.isNone, session.window.isOpen, session.window.events.length,
        session.window.loopError)) = some (true, false, 1, none) := by
    decide +kernel
  rcases PreviewWindow.exists_quiet_spawn ran with ⟨preview, spawned, seen⟩
  simp only [Prod.mk.injEq] at seen
  rcases seen with ⟨goesOn, closed, count, ended⟩
  have ending := Option.isNone_iff_eq_none.mp goesOn
  have notOpen := (Bool.eq_false_iff).mp closed
  have reaches := (ending_closed_iff spawned _ _ _ _).2.2.2.2 ending notOpen
  rw [count, PreviewWindow.farewell, ended] at reaches
  exact ⟨preview, spawned, notOpen, ending, reaches⟩

/-- The window closes while a line waits that stops it. The session comes to the line first,
and ends with the refusal. -/
theorem ending_closed_of_stop :
    (let closed : RecordingPreview := { isClosed := true, calls := [] }
      let reaction := (Studio.create closed [] false).handle (.command .stop)
      reaction.result = .error .closed ∧ reaction.printed = []) ∧
    ∃ preview, PreviewWindow.spawn .quiet .standard = .ok preview ∧
      let steps : List SessionStep :=
        [.typed ":stop\n".toUTF8.toList, .window .closeRequested, .handled 0]
      ((opened preview localClient .empty .standard).after steps).window.events = [.closed] ∧
        ((opened preview localClient .empty .standard).after steps).ending =
          some (.error .closed) := by
  have ran : ((PreviewWindow.spawn .quiet .standard).toOption.map fun preview =>
      let session := (opened preview localClient .empty .standard).after
        [.typed ":stop\n".toUTF8.toList, .window .closeRequested, .handled 0]
      (session.window.events, session.ending.map fun ending =>
        match ending with
        | .error error => some error
        | .ok () => none)) = some ([.closed], some (some .closed)) := by
    decide +kernel
  rcases PreviewWindow.exists_quiet_spawn ran with ⟨preview, spawned, seen⟩
  simp only [Prod.mk.injEq] at seen
  refine ⟨⟨rfl, rfl⟩, preview, spawned, seen.1, ?_⟩
  rcases Option.map_eq_some_iff.mp seen.2 with ⟨_ | _, ending, same⟩
  · cases same
    exact ending
  · cases same

end Session

end LiveShader
