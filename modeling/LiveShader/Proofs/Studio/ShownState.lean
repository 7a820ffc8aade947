import LiveShader.Proofs.Studio.Exchange

/-! # What the renderer is said to be doing

Once nothing is on its way, the renderer is said to be doing what the controller does,
unless the report taken last was passed over: it told of a failed build of an earlier
generation, which the studio takes no notice of. Then the controller has failed, and
nothing is to come that would say so. -/

namespace LiveShader

namespace TakenReport

/-- What the renderer was said to be doing once the report was taken. -/
def shown (taken : TakenReport) : ExecutionState :=
  taken.report.shown taken.generation taken.label

/-- Whether a report told of a failure that is not shown: the build was of another
generation, and the renderer was not said to have failed before. -/
def IsPassedOver (taken : TakenReport) : Prop :=
  (∃ generation failure, taken.report = .buildFailed generation failure ∧
    generation ≠ taken.generation) ∧ taken.label ≠ .failed

theorem shown_eq_state_iff (taken : TakenReport) :
    taken.shown = taken.report.state ↔ ¬taken.IsPassedOver := by
  rcases taken with ⟨report, generation, label⟩
  cases report with
  | running | stopped | loopFailed | closed => simp [shown, RenderEvent.shown, IsPassedOver]
  | buildFailed built failure =>
      by_cases current : built = generation <;>
        simp [shown, RenderEvent.shown, RenderEvent.state, IsPassedOver, current]

end TakenReport

namespace Exchange

variable {before after exchange : Exchange}

/-- Everything that the window has reported, oldest first. -/
def reported (exchange : Exchange) : List RenderEvent :=
  exchange.taken.map TakenReport.report ++ exchange.reports

/-- The last report tells the controller's state, and the last one that was taken tells
what the renderer is said to be doing, unless a source or a stop is on its way. -/
structure AgreesOnState (exchange : Exchange) : Prop where
  state : exchange.window.controller.state =
    (exchange.reported.getLast?.map RenderEvent.state).getD .idle
  label : exchange.IsQuiet →
    exchange.studio.renderState = (exchange.taken.getLast?.map TakenReport.shown).getD .idle

namespace AgreesOnState

theorem snoc {report : RenderEvent} (reports : after.reports = before.reports ++ [report])
    (taken : after.taken = before.taken)
    (state : after.window.controller.state = report.state) : after.AgreesOnState where
  state := by
    rw [reported, taken, reports, ← List.append_assoc, List.getLast?_concat, state]
    rfl
  label := fun quiet => by simp [quiet.2] at reports

theorem goes (agrees : before.AgreesOnState) (goes : before.Goes after) :
    after.AgreesOnState := by
  rcases agrees with ⟨state, label⟩
  cases goes with
  | told turns =>
      refine ⟨state, fun quiet => ?_⟩
      cases turns with
      | stays preview generation failure same | restarts preview generation failure same =>
          rw [same]
          refine label ⟨?_, quiet.2⟩
          rw [commands, ← preview]
          exact quiet.1
      | sends preview generation failure current =>
          -- What was just sent is on its way.
          have sent := quiet.1
          simp [commands, preview] at sent
  | handled waiting leadsTo reports => exact snoc reports.events rfl reports.state
  | @taken report events studio waiting takes =>
      -- Taking a report moves it from one list to the other.
      refine ⟨?_, fun _ => ?_⟩
      · have same := state
        rw [reported, waiting] at same
        simpa [reported, Exchange.reports] using same
      · rw [List.getLast?_concat, takes.label]
        rfl
  | unnoticed silent =>
      refine ⟨?_, fun quiet => label ⟨quiet.1, ?_⟩⟩
      · rw [silent.state, state]
        simp only [reported, Exchange.reports, silent.events]
      · rw [Exchange.reports, ← silent.events]
        exact quiet.2
  | loopFailed reports => exact snoc reports.events rfl reports.state

theorem opened {window : PreviewWindow} (fresh : window.IsFresh) (presets : Presets)
    (autoFix : Bool) : (opened window presets autoFix none).AgreesOnState where
  state := by
    rw [reported, Exchange.reports, Exchange.opened, fresh.events, fresh.state]
    rfl
  label := fun _ => rfl

end AgreesOnState

/-- Whenever nothing is on its way, the renderer is said to be doing what the controller
does, if and only if the report taken last was not passed over. -/
theorem renderState_of_quiet_iff {host : Host} {config : WindowConfig} {presets : Presets}
    {autoFix : Bool} {started : Option String} {steps : List ExchangeStep}
    (ran : session? host config presets autoFix started steps = some exchange)
    (quiet : exchange.IsQuiet) :
    exchange.studio.renderState = exchange.window.controller.state ↔
      ∀ last, exchange.taken.getLast? = some last → ¬last.IsPassedOver := by
  have agrees : exchange.AgreesOnState :=
    session_invariant (fun _ _ goes agrees => AgreesOnState.goes agrees goes)
      (fun _ fresh => .opened fresh presets autoFix) ran
  rw [agrees.state, agrees.label quiet, reported, quiet.2, List.append_nil, List.getLast?_map]
  cases exchange.taken.getLast? with
  | none => simp
  | some last => simpa using last.shown_eq_state_iff

/-- A source fails to build, and is shown to have failed. -/
theorem renderState_of_quiet_failed :
    let steps : List ExchangeStep :=
      [.told (.command (.prompt "waves")), .told (.generated { generation := 1 } (.ok "f")),
        .command, .report]
    ∃ exchange, session? .quiet .standard [] false none steps = some exchange ∧
      exchange.IsQuiet ∧ exchange.window.controller.state = .failed ∧
      exchange.studio.renderState = exchange.window.controller.state := by
  intro steps
  let last : TakenReport :=
    { report := .buildFailed 1 { source := "f", error := .split (.missingMarker .vertex) }
      generation := 1
      label := .building }
  have seen : (session? .quiet .standard [] false none steps).map (fun exchange =>
      (exchange.commands, exchange.reports, exchange.window.controller.state,
        exchange.taken.getLast?)) = some ([], [], .failed, some last) := by
    decide +kernel
  rcases Option.map_eq_some_iff.mp seen with ⟨exchange, ran, same⟩
  simp only [Prod.mk.injEq] at same
  rcases same with ⟨commands, reports, state, taken⟩
  refine ⟨exchange, ran, ⟨commands, reports⟩, state,
    (renderState_of_quiet_iff ran ⟨commands, reports⟩).mpr ?_⟩
  rintro latest same ⟨⟨built, failure, report, other⟩, _⟩
  cases taken.symm.trans same
  cases report
  exact other rfl

/-- A source fails to build after the next prompt. Nothing is on its way any more, and the
renderer is still said to be building. -/
theorem building_of_quiet_passed_over :
    let steps : List ExchangeStep :=
      [.told (.command (.prompt "waves")), .told (.generated { generation := 1 } (.ok "f")),
        .told (.command (.prompt "clouds")), .command, .report]
    ∃ exchange, session? .quiet .standard [] false none steps = some exchange ∧
      exchange.IsQuiet ∧ exchange.window.controller.state = .failed ∧
      exchange.studio.renderState = .building ∧
      exchange.studio.status.head? = some "renderer:  building" := by
  intro steps
  have seen : (session? .quiet .standard [] false none steps).map (fun exchange =>
      (exchange.commands, exchange.reports, exchange.window.controller.state,
        exchange.studio.renderState, exchange.studio.status.head?)) =
      some ([], [], .failed, .building, some "renderer:  building") := by
    decide +kernel
  rcases Option.map_eq_some_iff.mp seen with ⟨exchange, ran, same⟩
  simp only [Prod.mk.injEq] at same
  rcases same with ⟨commands, reports, state, label, shown⟩
  exact ⟨exchange, ran, ⟨commands, reports⟩, state, label, shown⟩

end Exchange

end LiveShader
