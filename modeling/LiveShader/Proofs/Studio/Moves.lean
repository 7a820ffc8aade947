import LiveShader.Proofs.Service.Progress
import LiveShader.Proofs.Studio.Input

/-! # What a studio makes of an input

A studio first takes note of an input: a report tells what the renderer does and what has
failed, and the response to a fix moves the cycle on. Then it makes a move, and there are few
moves that it can make. Besides that it only prints. So whatever a studio keeps or does is
seen from its note and its move, without going through the inputs again. -/

namespace LiveShader

variable {View : Type}

/-- What a studio does once it has taken note of an input. -/
inductive StudioMove where
  | wait
  /-- The session ends. -/
  | leave
  /-- The next generation begins, and a shader is asked for. -/
  | prompt (description : String)
  /-- A fix of a failure is asked for, and an attempt is reserved for it. -/
  | fix (failure : BuildFailure)
  | submit (source : String)
  | stop
  deriving DecidableEq, Repr

/-- What the preview is told in a move of a generation. -/
def StudioMove.call? (generation : Nat) : StudioMove → Option PreviewCall
  | .submit source => some (.execute generation source)
  | .stop => some .stop
  | .wait | .leave | .prompt _ | .fix _ => none

/-- The move that a response leads to. -/
def Resolution.move : Resolution → StudioMove
  | .apply source => .submit source
  | .stale | .failed _ => .wait

namespace Studio

/-! ## Notes and moves -/

/-- The studio that has taken note of an input. -/
def informed (studio : Studio View) : StudioInput View → Studio View
  | .event (.fixed ticket result) =>
      { studio with cycle := (studio.cycle.completeFix ticket result).2 }
  | .event _ => studio
  | .report (.running generation _) =>
      { studio with
        renderState := .running
        lastFailure := if generation = studio.cycle.generation then none else studio.lastFailure }
  | .report (.buildFailed generation failure) =>
      { studio with
        renderState :=
          if generation = studio.cycle.generation then .failed else studio.renderState
        lastFailure :=
          if generation = studio.cycle.generation then some failure else studio.lastFailure }
  | .report .stopped => { studio with renderState := .idle, lastFailure := none }
  | .report (.loopFailed _) => { studio with renderState := .idle }
  | .report .closed => studio
  | .preview view => { studio with preview := view }

/-- The move to ask for a shader. -/
def promptMove (description : String) : StudioMove :=
  if Text.isBlankString description then .wait else .prompt description

/-- The move to ask for a fix, which takes an attempt that is free. -/
def fixMove (studio : Studio View) (failure : BuildFailure) : StudioMove :=
  if studio.cycle.attemptsUsed + studio.cycle.inFlight < studio.cycle.maxAttempts then
    .fix failure
  else
    .wait

def commandMove (studio : Studio View) : ConsoleCommand → StudioMove
  | .prompt description => promptMove description
  | .preset name => ((studio.presets.find? name).map promptMove).getD .wait
  | .fix =>
      match studio.lastFailure with
      | none => .wait
      | some failure => if failure.error.isFixable then studio.fixMove failure else .wait
  | .run => (studio.lastSource.map .submit).getD .wait
  | .stop => .stop
  | .quit => .leave
  | .source | .presets | .status | .help => .wait

def reportMove (studio : Studio View) : RenderEvent → StudioMove
  | .buildFailed generation failure =>
      if generation = studio.cycle.generation ∧ failure.error.isFixable ∧ studio.autoFix then
        studio.fixMove failure
      else
        .wait
  | .closed => .leave
  | .running _ _ | .stopped | .loopFailed _ => .wait

/-- The move that a studio makes on an input. -/
def move (studio : Studio View) : StudioInput View → StudioMove
  | .event (.command command) => studio.commandMove command
  | .event .consoleClosed => .leave
  | .event (.generated ticket result) => (studio.cycle.completeGenerate ticket result).1.move
  | .event (.fixed ticket result) => (studio.cycle.completeFix ticket result).1.move
  | .report report => studio.reportMove report
  | .preview _ => .wait

/-! ## What a note changes -/

section

variable (studio : Studio View) (input : StudioInput View)

@[simp] theorem informed_presets : (studio.informed input).presets = studio.presets := by
  unfold informed
  split <;> rfl

@[simp] theorem informed_generation :
    (studio.informed input).cycle.generation = studio.cycle.generation := by
  unfold informed
  split
  case h_1 => exact FixCycle.completeFix_generation _ _ _
  all_goals rfl

theorem precedes_informed : studio.cycle.Precedes (studio.informed input).cycle := by
  unfold informed
  split
  case h_1 => exact FixCycle.precedes_completeFix _ _ _
  all_goals exact .refl _

/-- A command or a response changes nothing but the cycle. -/
theorem informed_event (event : StudioEvent) :
    studio.informed (.event event) =
      { studio with cycle := (studio.informed (.event event)).cycle } := by
  cases event <;> rfl

theorem informed_report_preview (report : RenderEvent) :
    (studio.informed (.report report)).preview = studio.preview := by
  cases report <;> rfl

/-- Notes and moves have nothing to do with what the preview was told before. -/
theorem informed_noted_calls : (studio.noted.informed input.noted).preview.calls = [] := by
  cases input with
  | event event => cases event <;> rfl
  | report report => cases report <;> rfl
  | preview view => rfl

theorem move_noted : studio.noted.move input.noted = studio.move input := by
  cases input with
  | event event => cases event <;> rfl
  | report report => rfl
  | preview view => rfl

variable {studio input}

/-- A failure that is at hand was reported just now, or it was at hand before. -/
theorem reported_or_kept {failure : BuildFailure}
    (failed : (studio.informed input).lastFailure = some failure) :
    input = .report (.buildFailed studio.cycle.generation failure) ∨
      studio.lastFailure = some failure := by
  cases input with
  | event event =>
      rw [informed_event] at failed
      exact .inr failed
  | preview view => exact .inr failed
  | report report =>
      cases report with
      | running generation source =>
          by_cases current : generation = studio.cycle.generation
          · simp [informed, current] at failed
          · simp only [informed, if_neg current] at failed
            exact .inr failed
      | buildFailed generation other =>
          by_cases current : generation = studio.cycle.generation
          · simp only [informed, if_pos current, Option.some.injEq] at failed
            exact .inl (by rw [current, failed])
          · simp only [informed, if_neg current] at failed
            exact .inr failed
      | stopped => cases failed
      | loopFailed reason | closed => exact .inr failed

end

/-! ## When a move is made -/

section

variable (studio : Studio View)

theorem fixMove_of_left {studio : Studio View}
    (left : studio.cycle.attemptsUsed + studio.cycle.inFlight < studio.cycle.maxAttempts)
    (failure : BuildFailure) : studio.fixMove failure = .fix failure :=
  if_pos left

theorem fixMove_of_exhausted {studio : Studio View}
    (exhausted : studio.cycle.maxAttempts ≤ studio.cycle.attemptsUsed + studio.cycle.inFlight)
    (failure : BuildFailure) : studio.fixMove failure = .wait :=
  if_neg (Nat.not_lt_of_le exhausted)

theorem move_fix {failure : BuildFailure} (failed : studio.lastFailure = some failure)
    (fixable : failure.error.isFixable)
    (left : studio.cycle.attemptsUsed + studio.cycle.inFlight < studio.cycle.maxAttempts) :
    studio.move (.event (.command .fix)) = .fix failure := by
  simp only [move, commandMove, failed, fixable, if_true, fixMove_of_left left]

/-- What it takes for a move to be made on an input. -/
inductive Makes (studio : Studio View) : StudioInput View → StudioMove → Prop where
  | wait (input : StudioInput View) : Makes studio input .wait
  | leave (input : StudioInput View) : Makes studio input .leave
  | prompt {description : String} (command : ConsoleCommand)
      (worded : ¬Text.isBlankString description) :
      Makes studio (.event (.command command)) (.prompt description)
  | fix {failure : BuildFailure} (failed : studio.lastFailure = some failure)
      (fixable : failure.error.isFixable)
      (left : studio.cycle.attemptsUsed + studio.cycle.inFlight < studio.cycle.maxAttempts) :
      Makes studio (.event (.command .fix)) (.fix failure)
  /-- A failed build is repaired at once. -/
  | repair {failure : BuildFailure} (fixable : failure.error.isFixable)
      (left : studio.cycle.attemptsUsed + studio.cycle.inFlight < studio.cycle.maxAttempts) :
      Makes studio (.report (.buildFailed studio.cycle.generation failure)) (.fix failure)
  | rerun {source : String} (last : studio.lastSource = some source) :
      Makes studio (.event (.command .run)) (.submit source)
  | generated {ticket : Ticket} (text : String)
      (current : ticket.generation = studio.cycle.generation) :
      Makes studio (.event (.generated ticket (.ok text))) (.submit (Fence.strip text))
  | fixed {ticket : Ticket} (text : String)
      (current : ticket.generation = studio.cycle.generation) :
      Makes studio (.event (.fixed ticket (.ok text))) (.submit (Fence.strip text))
  | stop : Makes studio (.event (.command .stop)) .stop

theorem makes_promptMove (command : ConsoleCommand) (description : String) :
    studio.Makes (.event (.command command)) (promptMove description) := by
  unfold promptMove
  split
  case isTrue => exact .wait _
  case isFalse worded => exact .prompt command worded

theorem makes_commandMove (command : ConsoleCommand) :
    studio.Makes (.event (.command command)) (studio.commandMove command) := by
  cases command with
  | prompt description => exact studio.makes_promptMove _ description
  | preset name =>
      rw [commandMove]
      cases studio.presets.find? name with
      | none => exact .wait _
      | some description => exact studio.makes_promptMove _ description
  | fix =>
      rw [commandMove]
      split
      case h_1 => exact .wait _
      case h_2 failure failed =>
        split
        case isTrue fixable =>
          unfold fixMove
          split
          case isTrue left => exact .fix failed fixable left
          case isFalse => exact .wait _
        case isFalse => exact .wait _
  | run =>
      rw [commandMove]
      cases last : studio.lastSource with
      | none => exact .wait _
      | some source => exact .rerun last
  | stop => exact .stop
  | quit => exact .leave _
  | source | presets | status | help => exact .wait _

theorem makes_reportMove (report : RenderEvent) :
    studio.Makes (.report report) (studio.reportMove report) := by
  cases report with
  | buildFailed generation failure =>
      rw [reportMove]
      split
      case isTrue allowed =>
        rcases allowed with ⟨rfl, fixable, _⟩
        unfold fixMove
        split
        case isTrue left => exact .repair fixable left
        case isFalse => exact .wait _
      case isFalse => exact .wait _
  | closed => exact .leave _
  | running | stopped | loopFailed => exact .wait _

theorem makes_move (input : StudioInput View) : studio.Makes input (studio.move input) := by
  cases input with
  | preview view => exact .wait _
  | report report => exact makes_reportMove studio report
  | event event =>
      cases event with
      | command command => exact makes_commandMove studio command
      | consoleClosed => exact .leave _
      | generated ticket result =>
          rw [move]
          rcases resolved : studio.cycle.completeGenerate ticket result with ⟨resolution, cycle⟩
          cases resolution with
          | apply source =>
              rcases FixCycle.completeGenerate_apply resolved with ⟨current, text, rfl, rfl⟩
              exact .generated text current
          | stale | failed => exact .wait _
      | fixed ticket result =>
          rw [move]
          rcases resolved : studio.cycle.completeFix ticket result with ⟨resolution, cycle⟩
          cases resolution with
          | apply source =>
              rcases FixCycle.completeFix_apply resolved with ⟨current, text, rfl, rfl⟩
              exact .fixed text current
          | stale | failed => exact .wait _

end

/-! ## Moves that tell the preview nothing -/

section

variable (generation : Nat) (studio : Studio View)

@[simp] theorem call?_promptMove (description : String) :
    (promptMove description).call? generation = none := by
  unfold promptMove
  split <;> rfl

@[simp] theorem call?_fixMove (failure : BuildFailure) :
    (studio.fixMove failure).call? generation = none := by
  unfold fixMove
  split <;> rfl

@[simp] theorem call?_reportMove (report : RenderEvent) :
    (studio.reportMove report).call? generation = none := by
  cases report with
  | buildFailed built failure =>
      rw [reportMove]
      split
      case isTrue => exact call?_fixMove _ _ _
      case isFalse => rfl
  | running | stopped | loopFailed | closed => rfl

end

variable [Preview View]

/-- What comes of a move, but for what is printed. -/
def act (studio : Studio View) : StudioMove → Reaction View
  | .wait => .silent studio
  | .leave => .quit studio
  | .prompt description =>
      let cycle := { FixCycle.create studio.cycle.maxAttempts with
        generation := studio.cycle.generation + 1 }
      { Reaction.silent { studio with cycle, lastFailure := none } with
        requests := [.generate { ticket := cycle.ticket, description }] }
  | .fix failure =>
      let diagnostic := failure.error.repairText
      let cycle := { studio.cycle with
        inFlight := studio.cycle.inFlight + 1, lastDiagnostic := some diagnostic }
      { Reaction.silent { studio with cycle } with
        requests := [.fix { ticket := cycle.ticket, code := failure.source, diagnostic }] }
  | .submit source => studio.submit source
  | .stop => studio.stopPreview

end Studio

/-- A reaction is what comes of a move, with something printed unless the preview is told
something. -/
structure Reaction.ComesTo [Preview View] (reaction : Reaction View) (informed : Studio View)
    (move : StudioMove) : Prop where
  studio : reaction.studio = (informed.act move).studio
  requests : reaction.requests = (informed.act move).requests
  result : reaction.result = (informed.act move).result
  printed : (move.call? informed.cycle.generation).isSome → reaction.printed = []

/-! ## Each response comes to its move -/

variable [Preview View]

namespace Reaction.ComesTo

variable {reaction : Reaction View} {informed : Studio View} {move : StudioMove}

/-- Anything may be printed about a move that tells the preview nothing. -/
theorem of_quiet (quiet : move.call? informed.cycle.generation = none)
    (studio : reaction.studio = (informed.act move).studio)
    (requests : reaction.requests = (informed.act move).requests)
    (result : reaction.result = (informed.act move).result) : reaction.ComesTo informed move :=
  ⟨studio, requests, result, by simp [quiet]⟩

theorem after (comesTo : reaction.ComesTo informed move)
    (quiet : move.call? informed.cycle.generation = none) (printed : List ConsoleLine) :
    (reaction.after printed).ComesTo informed move :=
  .of_quiet quiet comesTo.studio comesTo.requests comesTo.result

end Reaction.ComesTo

namespace Studio

variable (studio : Studio View)

theorem generate_comesTo (description : String) :
    (studio.generate description).ComesTo studio (promptMove description) := by
  by_cases blank : Text.isBlankString description
  · rw [generate, FixCycle.beginGenerate_of_blank blank, promptMove, if_pos blank]
    exact .of_quiet rfl rfl rfl rfl
  · rw [generate, FixCycle.beginGenerate, if_neg blank, promptMove, if_neg blank]
    exact .of_quiet rfl rfl rfl rfl

theorem requestFix_comesTo {failure : BuildFailure} (failed : studio.lastFailure = some failure) :
    studio.requestFix.ComesTo studio (studio.fixMove failure) := by
  by_cases left : studio.cycle.attemptsUsed + studio.cycle.inFlight < studio.cycle.maxAttempts
  · simp only [requestFix, failed, FixCycle.beginFix_of_left _ _ left, fixMove, if_pos left]
    exact .of_quiet rfl (by simp only [act, ← failed]; rfl) rfl rfl
  · simp only [requestFix, failed, FixCycle.beginFix_of_exhausted _ _ (Nat.le_of_not_lt left),
      fixMove, if_neg left]
    exact .of_quiet rfl rfl rfl rfl

theorem apply_comesTo (failureMessage : String) (resolution : Resolution) :
    (studio.apply failureMessage resolution).ComesTo studio resolution.move := by
  cases resolution with
  | apply source => exact ⟨rfl, rfl, rfl, fun _ => rfl⟩
  | stale | failed error => exact .of_quiet rfl rfl rfl rfl

theorem onCommand_comesTo (command : ConsoleCommand) :
    (studio.onCommand command).ComesTo studio (studio.commandMove command) := by
  cases command with
  | prompt description => exact generate_comesTo studio description
  | preset name =>
      cases found : studio.presets.find? name with
      | none =>
          simp only [onCommand, commandMove, found]
          exact .of_quiet rfl rfl rfl rfl
      | some description =>
          simp only [onCommand, commandMove, found]
          exact (generate_comesTo studio description).after (call?_promptMove _ _) _
  | fix =>
      cases failed : studio.lastFailure with
      | none =>
          simp only [onCommand, commandMove, failed]
          exact .of_quiet rfl rfl rfl rfl
      | some failure =>
          by_cases fixable : failure.error.isFixable
          · simp only [onCommand, commandMove, failed, if_pos fixable]
            exact requestFix_comesTo studio failed
          · simp only [onCommand, commandMove, failed, if_neg fixable]
            exact .of_quiet rfl rfl rfl rfl
  | run =>
      cases last : studio.lastSource <;> simp only [onCommand, commandMove, last]
      case none => exact .of_quiet rfl rfl rfl rfl
      case some => exact ⟨rfl, rfl, rfl, fun _ => rfl⟩
  | stop => exact ⟨rfl, rfl, rfl, fun _ => rfl⟩
  | source | presets | status | help | quit => exact .of_quiet rfl rfl rfl rfl

theorem offerFix_comesTo {failure : BuildFailure} (failed : studio.lastFailure = some failure) :
    (studio.offerFix failure.error).ComesTo studio
      (if failure.error.isFixable ∧ studio.autoFix then studio.fixMove failure else .wait) := by
  by_cases fixable : failure.error.isFixable
  · by_cases automatic : studio.autoFix
    · simp only [offerFix, fixable, automatic, and_self, if_true]
      exact requestFix_comesTo studio failed
    · by_cases left : 0 < studio.cycle.remaining <;>
        simp only [offerFix, fixable, automatic, left, if_true, if_false] <;>
        exact .of_quiet rfl rfl rfl rfl
  · simp only [offerFix, fixable]
    exact .of_quiet rfl rfl rfl rfl

theorem onRender_comesTo (report : RenderEvent) :
    (studio.onRender report).ComesTo (studio.informed (.report report))
      (studio.reportMove report) := by
  cases report with
  | running generation source =>
      by_cases current : generation = studio.cycle.generation <;>
        simp only [onRender, informed, reportMove, current, if_true, if_false] <;>
        exact .of_quiet rfl rfl rfl rfl
  | buildFailed generation failure =>
      by_cases current : generation = studio.cycle.generation
      · simp only [onRender, informed, reportMove, current, if_true, true_and]
        refine (offerFix_comesTo _ rfl).after ?_ _
        split
        case isTrue => exact call?_fixMove _ _ _
        case isFalse => rfl
      · simp only [onRender, informed, reportMove, current, false_and, if_false]
        exact .of_quiet rfl rfl rfl rfl
  | stopped | loopFailed reason | closed => exact .of_quiet rfl rfl rfl rfl

/-- A studio takes note of an input and makes its move. -/
theorem respond_comesTo (input : StudioInput View) :
    (studio.respond input).ComesTo (studio.informed input) (studio.move input) := by
  cases input with
  | preview view => exact .of_quiet rfl rfl rfl rfl
  | report report => exact onRender_comesTo studio report
  | event event =>
      cases event with
      | command command => exact onCommand_comesTo studio command
      | consoleClosed => exact .of_quiet rfl rfl rfl rfl
      | generated ticket result =>
          have unchanged := FixCycle.completeGenerate_cycle studio.cycle ticket result
          simp only [respond, handle, unchanged]
          exact apply_comesTo studio _ _
      | fixed ticket result => exact apply_comesTo _ _ _

/-! ## What a move changes -/

section

variable (move : StudioMove)

@[simp] theorem act_presets : (studio.act move).studio.presets = studio.presets := by
  cases move <;> rfl

theorem precedes_act : studio.cycle.Precedes (studio.act move).studio.cycle := by
  cases move with
  | prompt description => exact .inl (Nat.lt_succ_self _)
  | wait | leave | fix | submit | stop => exact .inr ⟨rfl, Nat.le_refl _, rfl⟩

/-- After a report a move changes nothing but the cycle. -/
theorem act_reportMove (report : RenderEvent) (informed : Studio View) :
    ∃ cycle, (informed.act (studio.reportMove report)).studio = { informed with cycle } ∧
      cycle.generation = informed.cycle.generation := by
  have makes := studio.makes_reportMove report
  generalize studio.reportMove report = move at makes
  cases makes with
  | wait | leave => exact ⟨informed.cycle, rfl, rfl⟩
  | repair => exact ⟨_, rfl, rfl⟩

/-- Only a prompt forgets the failure at hand, and nothing else begins a generation. -/
theorem act_lastFailure {failure : BuildFailure}
    (failed : (studio.act move).studio.lastFailure = some failure) :
    studio.lastFailure = some failure ∧
      (studio.act move).studio.cycle.generation = studio.cycle.generation := by
  cases move with
  | prompt description => cases failed
  | wait | leave | fix | submit | stop => exact ⟨failed, rfl⟩

end

/-! ## What the preview is told -/

theorem act_calls (studio : Studio (NotedPreview View)) (move : StudioMove) :
    (studio.act move).studio.preview.calls =
      studio.preview.calls ++ (move.call? studio.cycle.generation).toList := by
  cases move with
  | submit source => rfl
  | stop => rfl
  | wait | leave | prompt | fix => exact (List.append_nil _).symm

/-- The preview is told what belongs to the move, and nothing else. -/
theorem calls_eq (input : StudioInput View) :
    studio.calls input = ((studio.move input).call? studio.cycle.generation).toList := by
  rw [calls, (studio.noted.respond_comesTo input.noted).studio, act_calls, informed_noted_calls,
    informed_generation, move_noted, List.nil_append]
  rfl

/-- A report tells the preview nothing. -/
theorem calls_report (report : RenderEvent) : studio.calls (.report report) = [] := by
  rw [calls_eq, move, call?_reportMove]
  rfl

end Studio

end LiveShader
