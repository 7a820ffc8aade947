import LiveShader.Proofs.Studio.Offers
import LiveShader.Proofs.Window.Reports

/-! # A studio and its window

The studio and the window share nothing. Commands go to the window in one queue and
reports come back in another, each in its order, while commands of the console, responses
of the service and events of the window come in between at any time. Both sides are those
of a session; only here the window need not have handled a command by the time the studio
goes on. What the window has handled and what the studio has taken is noted beside the
two. -/

namespace LiveShader

/-! ## Parts -/

/-- The commands on their way to a window, oldest first. The way to an open window takes
every command. -/
structure Outbox where
  commands : List WindowCommand

namespace Outbox

def send (outbox : Outbox) (command : WindowCommand) : Except WindowError Unit × Outbox :=
  (.ok (), { commands := outbox.commands ++ [command] })

instance : Preview Outbox where
  execute outbox generation source := outbox.send (.execute generation source)
  stop outbox := outbox.send .stop

end Outbox

/-- A report that the studio has taken, with the generation that was current then and
what the renderer was said to be doing before. -/
structure TakenReport where
  report : RenderEvent
  generation : Nat
  label : ExecutionState
  deriving DecidableEq, Repr

structure Exchange where
  studio : Studio Outbox
  window : PreviewWindow
  /-- The commands that the window has handled, oldest first. -/
  handled : List WindowCommand
  /-- The reports that the studio has taken, oldest first. -/
  taken : List TakenReport

inductive ExchangeStep where
  /-- A command of the console or a response of the service. -/
  | told (event : StudioEvent)
  /-- The window handles the oldest command. -/
  | command
  /-- The studio takes the oldest report. -/
  | report
  | window (event : WindowEvent)
  /-- Time passes, and the host has other answers from now on. -/
  | world (host : Host) (nanoseconds : Nat)

namespace Exchange

/-- The beginning of a session, with the source it is started with. -/
def opened (window : PreviewWindow) (presets : Presets) (autoFix : Bool)
    (started : Option String) : Exchange where
  studio := .opened { commands := [] } presets autoFix started
  window
  handled := []
  taken := []

def commands (exchange : Exchange) : List WindowCommand :=
  exchange.studio.preview.commands

def reports (exchange : Exchange) : List RenderEvent :=
  exchange.window.events

def generation (exchange : Exchange) : Nat :=
  exchange.studio.cycle.generation

/-- Whether nothing is on its way. -/
def IsQuiet (exchange : Exchange) : Prop :=
  exchange.commands = [] ∧ exchange.reports = []

/-- Goes on with what the studio has become, unless the session ends. -/
def accept? (exchange : Exchange) (reaction : Reaction Outbox) : Option Exchange :=
  match reaction.result with
  | .ok .proceed => some { exchange with studio := reaction.studio }
  | _ => none

/-- Goes on with what the window has become, unless it is closed. -/
def show? (exchange : Exchange) (window : PreviewWindow) : Option Exchange :=
  if window.isOpen then some { exchange with window } else none

/-- One step, where it is possible and the session goes on after it. -/
def step? (exchange : Exchange) : ExchangeStep → Option Exchange
  | .told event => exchange.accept? (exchange.studio.handle event)
  | .command =>
      match exchange.commands with
      | [] => none
      | command :: commands =>
          show? { exchange with
            studio := { exchange.studio with preview := { commands } }
            handled := exchange.handled ++ [command] } (exchange.window.send command).2
  | .report =>
      match exchange.reports with
      | [] => none
      | report :: events =>
          accept? { exchange with
            window := { exchange.window with events }
            taken := exchange.taken ++ [{
              report
              generation := exchange.generation
              label := exchange.studio.renderState }] } (exchange.studio.onRender report)
  | .window event => exchange.show? (exchange.window.deliver event).2
  | .world host nanoseconds =>
      let window := exchange.window.withHost host
      let loop := window.controller.loop
      some { exchange with
        window := { window with
          controller := { window.controller with
            loop := { loop with time := loop.time.advance nanoseconds } } } }

/-- A run, where all its steps are possible. -/
def run? (exchange : Exchange) (steps : List ExchangeStep) : Option Exchange :=
  steps.foldlM step? exchange

/-- A session from the opening of its window on. -/
def session? (host : Host) (config : WindowConfig) (presets : Presets) (autoFix : Bool)
    (started : Option String) (steps : List ExchangeStep) : Option Exchange :=
  match PreviewWindow.spawn host config with
  | .error _ => none
  | .ok window => (opened window presets autoFix started).run? steps

end Exchange

/-! ## What the studio makes of it -/

namespace RenderEvent

/-- What the renderer is said to be doing after a report was taken in a generation. A
build of another generation that has failed is passed over. -/
def shown (report : RenderEvent) (generation : Nat) (before : ExecutionState) :
    ExecutionState :=
  match report with
  | .buildFailed built _ => if built = generation then .failed else before
  | _ => report.state

/-- The failure that the studio knows of after a report was taken in a generation. -/
def noted (report : RenderEvent) (generation : Nat) (before : Option BuildFailure) :
    Option BuildFailure :=
  if report.generation?.all (· = generation) then report.kept before else before

section

variable {report : RenderEvent} {generation built : Nat} {before : Option BuildFailure}

theorem noted_of_current (about : report.generation? = some generation) :
    report.noted generation before = report.kept before := by
  simp [noted, about]

theorem noted_of_other (about : report.generation? = some built) (other : built ≠ generation) :
    report.noted generation before = before := by
  simp [noted, about, other]

end

end RenderEvent

namespace Studio

/-- How a report that the session survives is taken. -/
structure Takes (before : Studio Outbox) (report : RenderEvent) (after : Studio Outbox) :
    Prop where
  preview : after.preview = before.preview
  generation : after.cycle.generation = before.cycle.generation
  failure : after.lastFailure = report.noted before.cycle.generation before.lastFailure
  label : after.renderState = report.shown before.cycle.generation before.renderState

/-- What a command of the console or a response of the service can lead to: nothing that
matters here, the next generation, or one command to the window. -/
inductive Turns (before after : Studio Outbox) : Prop where
  | stays (preview : after.preview = before.preview)
      (generation : after.cycle.generation = before.cycle.generation)
      (failure : after.lastFailure = before.lastFailure)
      (label : after.renderState = before.renderState)
  | restarts (preview : after.preview = before.preview)
      (generation : after.cycle.generation = before.cycle.generation + 1)
      (failure : after.lastFailure = none)
      (label : after.renderState = before.renderState)
  | sends {command : WindowCommand}
      (preview : after.preview = { commands := before.preview.commands ++ [command] })
      (generation : after.cycle.generation = before.cycle.generation)
      (failure : after.lastFailure = before.lastFailure)
      (current : ∀ generation, command.generation? = some generation →
        generation = before.cycle.generation)

section

variable {studio : Studio Outbox}

theorem informed_report {report : RenderEvent} (goesOn : report ≠ .closed) :
    (studio.informed (.report report)).lastFailure =
        report.noted studio.cycle.generation studio.lastFailure ∧
      (studio.informed (.report report)).renderState =
        report.shown studio.cycle.generation studio.renderState := by
  cases report with
  | running generation source =>
      by_cases current : generation = studio.cycle.generation <;>
        simp [informed, RenderEvent.noted, RenderEvent.kept, RenderEvent.generation?,
          RenderEvent.shown, RenderEvent.state, current]
  | buildFailed generation failure =>
      by_cases current : generation = studio.cycle.generation <;>
        simp [informed, RenderEvent.noted, RenderEvent.kept, RenderEvent.generation?,
          RenderEvent.shown, current]
  | stopped | loopFailed reason => exact ⟨rfl, rfl⟩
  | closed => exact absurd rfl goesOn

theorem takes_onRender {report : RenderEvent}
    (proceeds : (studio.onRender report).result = .ok .proceed) :
    studio.Takes report (studio.onRender report).studio := by
  have goesOn : report ≠ .closed := by
    rintro rfl
    cases proceeds
  rcases informed_report goesOn with ⟨failure, label⟩
  rcases studio.respond_report report with ⟨cycle, responded, generation⟩
  have after : (studio.onRender report).studio = _ := responded
  rw [after]
  exact ⟨studio.informed_report_preview report, generation, failure, label⟩

theorem turns_submit (source : String) : studio.Turns (studio.submit source).studio :=
  @Turns.sends studio _ (.execute studio.cycle.generation source) rfl rfl rfl
    fun _ same => (Option.some.inj same).symm

theorem turns_handle (event : StudioEvent) : studio.Turns (studio.handle event).studio := by
  have same := studio.informed_generation (.event event)
  have comes : (studio.handle event).studio = _ := (studio.respond_comesTo (.event event)).studio
  rw [comes, informed_event]
  generalize (studio.informed (.event event)).cycle = cycle at same
  cases studio.move (.event event) with
  | wait | leave | fix => exact .stays rfl same rfl rfl
  | prompt description => exact .restarts rfl (congrArg (· + 1) same) rfl rfl
  | submit source =>
      exact @Turns.sends studio _ (.execute cycle.generation source) rfl same rfl
        fun _ tag => (Option.some.inj tag).symm.trans same
  | stop => exact @Turns.sends studio _ .stop rfl same rfl fun _ tag => by cases tag

end

end Studio

/-! ## What a step can do -/

namespace Exchange

/-- The ways from one moment to the next. -/
inductive Goes (before : Exchange) : Exchange → Prop where
  | told {studio : Studio Outbox} (turns : before.studio.Turns studio) :
      Goes before { before with studio }
  | handled {command : WindowCommand} {commands : List WindowCommand} {report : RenderEvent}
      {window : PreviewWindow} (waiting : before.commands = command :: commands)
      (leadsTo : command.LeadsTo report) (reports : before.window.Reports window report) :
      Goes before { before with
        studio := { before.studio with preview := { commands } }
        window
        handled := before.handled ++ [command] }
  | taken {report : RenderEvent} {events : List RenderEvent} {studio : Studio Outbox}
      (waiting : before.reports = report :: events)
      (takes : before.studio.Takes report studio) :
      Goes before { before with
        studio
        window := { before.window with events }
        taken := before.taken ++ [{
          report
          generation := before.generation
          label := before.studio.renderState }] }
  | unnoticed {window : PreviewWindow} (silent : before.window.IsSilent window) :
      Goes before { before with window }
  | loopFailed {window : PreviewWindow} {reason : String}
      (reports : before.window.Reports window (.loopFailed reason)) :
      Goes before { before with window }

variable {before after exchange : Exchange}

theorem accept?_eq_some {reaction : Reaction Outbox}
    (accepted : before.accept? reaction = some after) :
    reaction.result = .ok .proceed ∧ after = { before with studio := reaction.studio } := by
  unfold accept? at accepted
  split at accepted
  case h_1 proceeds => exact ⟨proceeds, (Option.some.inj accepted).symm⟩
  case h_2 => cases accepted

theorem show?_eq_some {window : PreviewWindow} (shown : before.show? window = some after) :
    window.isOpen ∧ after = { before with window } := by
  unfold show? at shown
  split at shown
  case isTrue opened => exact ⟨opened, (Option.some.inj shown).symm⟩
  case isFalse => cases shown

theorem goes_of_step {step : ExchangeStep} (stepped : before.step? step = some after) :
    before.Goes after := by
  cases step with
  | told event =>
      rcases accept?_eq_some stepped with ⟨_, rfl⟩
      exact .told (Studio.turns_handle event)
  | command =>
      cases waiting : before.commands with
      | nil => simp [step?, waiting] at stepped
      | cons command commands =>
          simp only [step?, waiting] at stepped
          rcases show?_eq_some stepped with ⟨stays, rfl⟩
          -- A window that is open afterwards was open before and has handled the command.
          by_cases opened : before.window.isOpen
          · simp only [PreviewWindow.send, opened, if_true] at stays ⊢
            rcases before.window.handleCommand_reports command stays with
              ⟨report, leadsTo, reports⟩
            exact .handled waiting leadsTo reports
          · simp [PreviewWindow.send, opened] at stays
  | report =>
      cases waiting : before.reports with
      | nil => simp [step?, waiting] at stepped
      | cons report events =>
          simp only [step?, waiting] at stepped
          rcases accept?_eq_some stepped with ⟨proceeds, rfl⟩
          exact .taken waiting (Studio.takes_onRender proceeds)
  | window event =>
      rcases show?_eq_some stepped with ⟨stays, rfl⟩
      rcases before.window.deliver_cases event stays with silent | ⟨reason, reports⟩
      · exact .unnoticed silent
      · exact .loopFailed reports
  | world host nanoseconds =>
      cases stepped
      exact .unnoticed ⟨rfl, rfl, rfl⟩

/-- What is kept on every way holds after every run that starts from where it holds. -/
theorem run_invariant {invariant : Exchange → Prop}
    (kept : ∀ before after, Goes before after → invariant before → invariant after)
    {steps : List ExchangeStep} (initially : invariant before)
    (ran : before.run? steps = some after) : invariant after := by
  induction steps generalizing before with
  | nil =>
      cases ran
      exact initially
  | cons step rest induction =>
      rcases stepped : before.step? step with _ | next
      · simp [run?, stepped] at ran
      · simp only [run?, List.foldlM_cons, stepped] at ran
        exact induction (kept _ _ (goes_of_step stepped) initially) ran

/-- A source to start with is submitted like any other. -/
theorem session_invariant {invariant : Exchange → Prop}
    (kept : ∀ before after, Goes before after → invariant before → invariant after)
    {host : Host} {config : WindowConfig} {presets : Presets} {autoFix : Bool}
    {started : Option String} {steps : List ExchangeStep}
    (initially : ∀ window : PreviewWindow, window.IsFresh →
      invariant (opened window presets autoFix none))
    (ran : session? host config presets autoFix started steps = some after) :
    invariant after := by
  unfold session? at ran
  split at ran
  case h_1 => cases ran
  case h_2 window spawned =>
    have first := initially window (PreviewWindow.isFresh_spawn spawned)
    cases started with
    | none => exact run_invariant kept first ran
    | some source =>
        exact run_invariant kept (kept _ _ (.told (Studio.turns_submit source)) first) ran

end Exchange

end LiveShader
