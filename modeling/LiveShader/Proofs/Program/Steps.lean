import LiveShader.Program.Session
import LiveShader.Proofs.Studio.Refusal
import LiveShader.Proofs.Window.Operation

/-! # Runs of a session

The reports of the window and the commands and responses come on two ways, and a session
takes from either at any time. What it does by itself, taking the reports first, is one of
these runs. -/

namespace LiveShader

/-- What can happen to a session. -/
inductive SessionStep where
  /-- The session is given what it was started with. -/
  | begun (source prompt : Option String)
  /-- The oldest report of the window is taken. -/
  | reported
  /-- A command or a response is taken, in whatever order they came in. -/
  | handled (index : Nat)
  | typed (bytes : List UInt8)
  | inputEnded
  | window (event : WindowEvent)
  /-- Time passes, and the host has other answers from now on. -/
  | world (host : Host) (nanoseconds : Nat)

namespace Session

/-! ## Runs -/

/-- Reads the rest of the input at its end. -/
def readEnd (session : Session) : Session :=
  let session :=
    if session.unfinished.isEmpty then session else session.readLine session.unfinished
  session.hangUp

/-- What a step makes of a session. Nothing is taken after the end. -/
def perform (session : Session) : SessionStep → Session
  | .begun source prompt =>
      if session.ending.isSome then session else session.begin source prompt
  | .reported =>
      if session.ending.isSome then session else
        match session.window.events with
        | [] => session
        | report :: events =>
            let session := session.withWindow { session.window with events }
            session.react (session.studio.onRender report)
  | .handled index =>
      if session.ending.isSome then session else
        match session.queue[index]? with
        | none => session
        | some event =>
            let session := { session with queue := session.queue.eraseIdx index }
            session.react (session.studio.handle event)
  | .typed bytes => session.readBytes bytes
  | .inputEnded => session.readEnd
  | .window event => session.withWindow (session.window.deliver event).2
  | .world host nanoseconds => session.withWindow (session.window.pass host nanoseconds)

def after (session : Session) (steps : List SessionStep) : Session :=
  steps.foldl perform session

/-- What the window is told in a step. -/
def told? (session : Session) : SessionStep → Option PreviewCall
  | .begun source _ => source.map (.execute session.studio.cycle.generation)
  | .handled index => session.queue[index]?.bind session.studio.told?
  | _ => none

/-! ## The session's own functions as runs -/

theorem advance?_eq_perform {session next : Session} (advanced : session.advance? = some next) :
    ∃ step, next = session.perform step := by
  unfold advance? at advanced
  split at advanced
  case isTrue => cases advanced
  case isFalse goesOn =>
    split at advanced
    case h_1 report events waiting =>
      refine ⟨.reported, ?_⟩
      rw [perform, if_neg goesOn, waiting]
      exact (Option.some.inj advanced).symm
    case h_2 event queue _ waiting =>
      refine ⟨.handled 0, ?_⟩
      rw [perform, if_neg goesOn, waiting]
      exact (Option.some.inj advanced).symm
    case h_3 => cases advanced

theorem advance_eq_after (session : Session) (bound : Nat) :
    ∃ steps, session.advance bound = session.after steps := by
  induction bound generalizing session with
  | zero => exact ⟨[], rfl⟩
  | succ bound induction =>
      rw [advance]
      split
      case h_1 next advanced =>
        rcases advance?_eq_perform advanced with ⟨step, rfl⟩
        rcases induction (session.perform step) with ⟨steps, same⟩
        exact ⟨step :: steps, same⟩
      case h_2 => exact ⟨[], rfl⟩

theorem settle_eq_after (session : Session) : ∃ steps, session.settle = session.after steps :=
  session.advance_eq_after _

theorem type_eq_after (session : Session) (bytes : List UInt8) :
    ∃ steps, session.type bytes = session.after (.typed bytes :: steps) :=
  settle_eq_after _

theorem endInput_eq_after (session : Session) :
    ∃ steps, session.endInput = session.after (.inputEnded :: steps) :=
  settle_eq_after _

theorem deliver_eq_after (session : Session) (event : WindowEvent) :
    ∃ steps, (session.deliver event).2 = session.after (.window event :: steps) :=
  settle_eq_after _

/-- A session that has started has gone on from the opening of its window. -/
theorem start_eq_after {world : World} {arguments : Arguments} {session : Session}
    (started : start world arguments = .ok session) :
    ∃ host config preview client settings source steps,
      PreviewWindow.spawn host config = .ok preview ∧
        session = (opened preview client arguments settings).after
          (.begun source arguments.prompt :: steps) := by
  simp only [start, bind, Except.bind] at started
  split at started
  case h_1 => cases started
  case h_2 settings _ =>
    split at started
    case h_1 => cases started
    case h_2 size _ =>
      split at started
      case h_1 => cases started
      case h_2 client _ =>
        split at started
        case h_1 => cases started
        case h_2 source _ =>
          split at started
          case h_1 => cases started
          case h_2 preview opening =>
            -- Starting renames the error of the opening and leaves its success.
            have spawned : PreviewWindow.spawn (world.client arguments settings).2
                { WindowConfig.standard with size } = .ok preview := by
              revert opening
              cases PreviewWindow.spawn (world.client arguments settings).2
                { WindowConfig.standard with size } with
              | error failure => exact fun opening => nomatch opening
              | ok shown => exact fun opening => congrArg Except.ok (Except.ok.inj opening)
            rcases settle_eq_after
              ((opened preview client arguments settings).begin source arguments.prompt) with
              ⟨steps, settled⟩
            exact ⟨_, _, preview, client, settings, source, steps, spawned,
              (Except.ok.inj started).symm.trans settled⟩

/-! ## What a step leaves alone -/

theorem request_eq (session : Session) (requests : List StudioRequest) :
    ∃ host queue, session.request requests =
      { session.withWindow (session.window.withHost host) with queue } := by
  induction requests generalizing session with
  | nil => exact ⟨session.host, session.queue, rfl⟩
  | cons request rest induction =>
      rw [Session.request]
      rcases induction _ with ⟨host, queue, same⟩
      exact ⟨host, queue, same⟩

theorem enqueue_eq (session : Session) (event : StudioEvent) :
    ∃ queue isListening, session.enqueue event = { session with queue, isListening } := by
  unfold enqueue
  split
  case isTrue => exact ⟨session.queue, false, rfl⟩
  case isFalse => exact ⟨_, session.isListening, rfl⟩

theorem hangUp_eq (session : Session) :
    ∃ queue isListening, session.hangUp = { session with queue, isListening } := by
  unfold hangUp
  split
  case isTrue =>
    rcases session.enqueue_eq .consoleClosed with ⟨queue, _, same⟩
    exact ⟨queue, false, by rw [same]⟩
  case isFalse => exact ⟨session.queue, session.isListening, rfl⟩

theorem readLine_eq (session : Session) (line : List UInt8) :
    ∃ queue isListening printed,
      session.readLine line = { session with queue, isListening, printed } := by
  unfold readLine
  split
  case isTrue => exact ⟨session.queue, session.isListening, session.printed, rfl⟩
  case isFalse =>
    split
    case h_1 =>
      rcases session.hangUp_eq with ⟨queue, isListening, same⟩
      exact ⟨queue, isListening, session.printed, same⟩
    case h_2 =>
      split
      case h_1 => exact ⟨session.queue, session.isListening, session.printed, rfl⟩
      case h_2 command _ =>
        rcases session.enqueue_eq (.command command) with ⟨queue, isListening, same⟩
        exact ⟨queue, isListening, session.printed, same⟩
      case h_3 => exact ⟨session.queue, session.isListening, _, rfl⟩

theorem readBytes_eq (session : Session) (bytes : List UInt8) :
    ∃ queue isListening printed unfinished, session.readBytes bytes =
      { session with queue, isListening, printed, unfinished } := by
  induction bytes generalizing session with
  | nil => exact ⟨_, _, _, _, rfl⟩
  | cons byte rest induction =>
      rw [readBytes]
      split
      case isTrue =>
        rcases session.readLine_eq session.unfinished with ⟨queue, isListening, printed, read⟩
        rcases induction { session.readLine session.unfinished with unfinished := [] } with
          ⟨queue, isListening, printed, unfinished, same⟩
        rw [read] at same ⊢
        exact ⟨queue, isListening, printed, unfinished, same⟩
      case isFalse =>
        rcases induction { session with unfinished := session.unfinished ++ [byte] } with
          ⟨queue, isListening, printed, unfinished, same⟩
        exact ⟨queue, isListening, printed, unfinished, same⟩

theorem readEnd_eq (session : Session) :
    ∃ queue isListening printed,
      session.readEnd = { session with queue, isListening, printed } := by
  unfold readEnd
  split
  case isTrue =>
    rcases session.hangUp_eq with ⟨queue, isListening, same⟩
    exact ⟨queue, isListening, session.printed, same⟩
  case isFalse =>
    rcases session.readLine_eq session.unfinished with ⟨queue, isListening, printed, read⟩
    rw [read]
    rcases hangUp_eq { session with queue, isListening, printed } with ⟨queue, isListening, same⟩
    exact ⟨queue, isListening, printed, same⟩

end Session

end LiveShader
