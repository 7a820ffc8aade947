import LiveShader.Proofs.Service.Requests
import LiveShader.Proofs.Studio.FixCalls
import LiveShader.Proofs.Studio.Refusal
import LiveShader.Studio.Bench

/-! # Refused requests

The user can ask for a shader or for a repair, and the studio may refuse to ask the service.
A refusal is told to the user, and that is all that comes of it: the studio, its cycle and
its preview are as before, the service is not asked, and a session goes on as if the command
had never been given. -/

namespace LiveShader

variable {View Service : Type}

/-- The commands that ask the service for something. -/
inductive ConsoleCommand.Asks : ConsoleCommand → Prop where
  | prompt (description : String) : Asks (.prompt description)
  | preset (name : String) : Asks (.preset name)
  | fix : Asks .fix

/-- The commands that ask the service for something and that a studio refuses. -/
inductive Studio.Refuses (studio : Studio View) : ConsoleCommand → Prop where
  | blankPrompt {description : String} (blank : Text.isBlankString description) :
      Refuses studio (.prompt description)
  | unknownPreset {name : String} (unknown : studio.presets.find? name = none) :
      Refuses studio (.preset name)
  | blankPreset {name description : String} (found : studio.presets.find? name = some description)
      (blank : Text.isBlankString description) : Refuses studio (.preset name)
  | nothingToFix (built : studio.lastFailure = none) : Refuses studio .fix
  | unfixable {failure : BuildFailure} (failed : studio.lastFailure = some failure)
      (foreign : ¬failure.error.isFixable) : Refuses studio .fix
  | exhausted {failure : BuildFailure} (failed : studio.lastFailure = some failure)
      (spent : studio.cycle.remaining = 0) : Refuses studio .fix

/-- A reaction that tells the user something and leaves the studio as it is. -/
structure Reaction.OnlyPrints (reaction : Reaction View) (studio : Studio View) : Prop where
  studio : reaction.studio = studio
  requests : reaction.requests = []
  result : reaction.result = .ok .proceed

namespace Studio

variable {studio : Studio View} {command : ConsoleCommand}

/-! ## One reaction -/

/-- Once all attempts are used up or reserved, there is none for a fix. -/
theorem fixMove_of_spent (spent : studio.cycle.remaining = 0) (failure : BuildFailure) :
    studio.fixMove failure = .wait :=
  fixMove_of_exhausted (Nat.le_of_sub_eq_zero spent) failure

/-- A refusal is to make no move. -/
theorem Refuses.commandMove_eq (refuses : studio.Refuses command) :
    studio.commandMove command = .wait := by
  cases refuses with
  | blankPrompt blank => exact if_pos blank
  | unknownPreset unknown => rw [commandMove, unknown]; rfl
  | blankPreset found blank =>
      rw [commandMove, found]
      exact if_pos blank
  | nothingToFix built => simp only [commandMove, built]
  | unfixable failed foreign => simp only [commandMove, failed, if_neg foreign]
  | exhausted failed spent =>
      simp only [commandMove, failed, fixMove_of_spent spent]
      split <;> rfl

section

variable [Preview View]

theorem onlyPrints_of_comesTo {reaction : Reaction View}
    (waits : reaction.ComesTo studio .wait) : reaction.OnlyPrints studio :=
  ⟨waits.studio, waits.requests, waits.result⟩

theorem requestFix_onlyPrints (spent : studio.cycle.remaining = 0) :
    studio.requestFix.OnlyPrints studio := by
  cases failed : studio.lastFailure with
  | none =>
      rw [requestFix, failed]
      exact ⟨rfl, rfl, rfl⟩
  | some failure =>
      have comes := studio.requestFix_comesTo failed
      rw [fixMove_of_spent spent] at comes
      exact onlyPrints_of_comesTo comes

/-- A failed build is recorded and shown, also where no fix of it can be asked for. -/
theorem onRender_buildFailed_onlyPrints (failure : BuildFailure)
    (spent : studio.cycle.remaining = 0) :
    (studio.onRender (.buildFailed studio.cycle.generation failure)).OnlyPrints
      { studio with renderState := .failed, lastFailure := some failure } := by
  have comes := studio.onRender_comesTo (.buildFailed studio.cycle.generation failure)
  have waits : studio.reportMove (.buildFailed studio.cycle.generation failure) = .wait := by
    rw [reportMove, fixMove_of_spent spent]
    split <;> rfl
  rw [waits] at comes
  simpa only [informed, if_true] using onlyPrints_of_comesTo comes

theorem Refuses.onlyPrints (refuses : studio.Refuses command) :
    (studio.onCommand command).OnlyPrints studio := by
  have comes := studio.onCommand_comesTo command
  rw [refuses.commandMove_eq] at comes
  exact onlyPrints_of_comesTo comes

/-- What is not refused asks the service for one thing. -/
theorem exists_request_of_accepted (asks : command.Asks) (accepted : ¬studio.Refuses command) :
    ∃ request, (studio.onCommand command).requests = [request] := by
  have generated {description : String} (worded : ¬Text.isBlankString description) :
      ∃ request, (studio.generate description).requests = [request] := by
    rw [generate, FixCycle.beginGenerate, if_neg worded]
    exact ⟨_, rfl⟩
  cases asks with
  | prompt description => exact generated fun blank => accepted (.blankPrompt blank)
  | preset name =>
      cases found : studio.presets.find? name with
      | none => exact absurd (.unknownPreset found) accepted
      | some description =>
          rcases generated fun blank => accepted (.blankPreset found blank) with ⟨request, asked⟩
          simp only [onCommand, found]
          exact ⟨request, asked⟩
  | fix =>
      cases failed : studio.lastFailure with
      | none => exact absurd (.nothingToFix failed) accepted
      | some failure =>
          by_cases fixable : failure.error.isFixable
          · have left : studio.cycle.attemptsUsed + studio.cycle.inFlight <
                studio.cycle.maxAttempts := by
              by_contra exhausted
              exact accepted (.exhausted failed
                (Nat.sub_eq_zero_of_le (Nat.le_of_not_lt exhausted)))
            simp only [onCommand, failed, if_pos fixable, requestFix,
              FixCycle.beginFix_of_left _ _ left]
            exact ⟨_, rfl⟩
          · exact absurd (.unfixable failed fixable) accepted

/-! ## The session around it -/

theorem Refuses.calls (refuses : studio.Refuses command) :
    studio.calls (.event (.command command)) = [] := by
  rw [calls_eq, move, refuses.commandMove_eq]
  rfl

theorem Refuses.settle [ShaderService Service] (refuses : studio.Refuses command)
    (service : Service) (waiting : List StudioEvent) :
    Bench.settle { studio, service, waiting } (studio.onCommand command) =
      { studio, service, waiting } := by
  rw [Bench.settle, refuses.onlyPrints.requests, refuses.onlyPrints.studio, Bench.perform]

theorem Refuses.run_cons (refuses : studio.Refuses command) (rest : List (StudioInput View)) :
    studio.run (.event (.command command) :: rest) = studio.run rest := by
  have reaction : (studio.respond (.event (.command command))).OnlyPrints studio :=
    refuses.onlyPrints
  rw [run_cons_of_proceed reaction.result, reaction.studio, reaction.requests, refuses.calls]
  rfl

/-- Inputs after which two continuations come to the same come to the same before them. -/
theorem run_append_congr {past first second : List (StudioInput View)}
    (same : (studio.after past).run first = (studio.after past).run second) :
    studio.run (past ++ first) = studio.run (past ++ second) := by
  induction past generalizing studio with
  | nil => exact same
  | cons input past induction =>
      rw [List.cons_append, List.cons_append]
      by_cases proceeds : (studio.respond input).result = .ok .proceed
      · rw [run_cons_of_proceed proceeds, run_cons_of_proceed proceeds, induction same]
      · rw [run_cons_of_ending proceeds, run_cons_of_ending proceeds]

end

end Studio

/-- A refused request is without effect, whatever a session has come to. The studio with its
cycle, its preview and the service stay as they are, and the session goes on as without it.
Where the last attempt is used up or in flight, a fix that is due by itself is refused in the
same way. The cycle itself makes one call for each request that it does not refuse, and what
comes back is never too late for it. -/
theorem Studio.refused_request_without_effect [Preview View] [ShaderService Service]
    (session : Studio View) (past : List (StudioInput View)) :
    let studio := session.after past
    (∀ command, studio.Refuses command →
      (studio.onCommand command).OnlyPrints studio ∧
      studio.calls (.event (.command command)) = [] ∧
      (∀ (service : Service) (waiting : List StudioEvent),
        Bench.settle { studio, service, waiting } (studio.onCommand command) =
          { studio, service, waiting }) ∧
      ∀ more, session.run (past ++ .event (.command command) :: more) =
        session.run (past ++ more)) ∧
    (∀ command : ConsoleCommand, command.Asks → ¬studio.Refuses command →
      ∃ request, (studio.onCommand command).requests = [request]) ∧
    (studio.cycle.remaining = 0 →
      studio.requestFix.OnlyPrints studio ∧
      ∀ failure, let report := .buildFailed studio.cycle.generation failure
        (studio.onRender report).OnlyPrints
          { studio with renderState := .failed, lastFailure := some failure } ∧
        studio.calls (.report report) = []) ∧
    ∀ (cycle : FixCycle) (service : Service),
      (∀ description, if Text.isBlankString description then
        cycle.requestGenerate service description = (.error .emptyPrompt, cycle, service) ∧
        cycle.generateCalls service description = []
      else
        cycle.generateCalls service description = [.generate description] ∧
        ∃ resolution next, resolution ≠ .stale ∧
          cycle.requestGenerate service description =
            (.ok resolution, next,
              (ShaderService.perform service (.generate description)).2)) ∧
      ∀ code diagnostic, if cycle.remaining = 0 then
        cycle.requestFix service code diagnostic =
          (.error (.retryExhausted cycle.maxAttempts), cycle, service) ∧
        cycle.fixCalls service code diagnostic = []
      else
        cycle.fixCalls service code diagnostic = [.fix code diagnostic] ∧
        ∃ resolution next, resolution ≠ .stale ∧
          cycle.requestFix service code diagnostic =
            (.ok resolution, next,
              (ShaderService.perform service (.fix code diagnostic)).2) := by
  intro studio
  refine ⟨fun command refuses => ?_, fun command => exists_request_of_accepted,
    fun spent => ?_, fun cycle service => ⟨fun description => ?_, fun code diagnostic => ?_⟩⟩
  · exact ⟨refuses.onlyPrints, refuses.calls, refuses.settle,
      fun more => run_append_congr (refuses.run_cons more)⟩
  · exact ⟨requestFix_onlyPrints spent,
      fun failure => ⟨onRender_buildFailed_onlyPrints failure spent, calls_report _ _⟩⟩
  · rw [FixCycle.generateCalls_eq]
    split
    case isTrue blank => exact ⟨FixCycle.requestGenerate_of_blank blank service, rfl⟩
    case isFalse worded => exact ⟨rfl, FixCycle.requestGenerate_of_worded worded service⟩
  · rw [FixCycle.fixCalls_eq]
    split
    case isTrue exhausted => exact ⟨FixCycle.requestFix_of_exhausted exhausted service, rfl⟩
    case isFalse left => exact ⟨rfl, FixCycle.requestFix_of_left left service⟩

/-- Three fixes of one failure are in flight, and a fourth is not asked for. -/
theorem Studio.refused_request_without_effect_fourth :
    let session := Studio.create RecordingPreview.initial Presets.builtin false
    let failure : BuildFailure := { source := "S", error := .link "unresolved" }
    let fix : StudioInput RecordingPreview := .event (.command .fix)
    let past := [.event (.command (.prompt "waves")),
      .event (.generated { generation := 1 } (.ok "S")),
      .report (.buildFailed 1 failure), fix, fix, fix]
    let service := ScriptedService.create []
    (session.after past).Refuses .fix ∧
      ((session.after past).onCommand .fix).OnlyPrints (session.after past) ∧
      session.run (past ++ [fix]) = session.run past ∧
      (FixCycle.create 0).fixCalls service "S" "unresolved" = [] ∧
      (FixCycle.create 1).fixCalls service "S" "unresolved" = [.fix "S" "unresolved"] := by
  intro session failure fix past service
  have failed : (session.after past).lastFailure = some failure := by decide +kernel
  have refuses : (session.after past).Refuses .fix := .exhausted failed (by decide +kernel)
  rcases @refused_request_without_effect _ ScriptedService _ _ session past with
    ⟨refused, _, _, cycle⟩
  rcases refused .fix refuses with ⟨prints, _, _, dropped⟩
  have none_left := (cycle (.create 0) service).2 "S" "unresolved"
  have one_left := (cycle (.create 1) service).2 "S" "unresolved"
  rw [if_pos (show (FixCycle.create 0).remaining = 0 from rfl)] at none_left
  rw [if_neg (by decide)] at one_left
  exact ⟨refuses, prints, by simpa using dropped [], none_left.2, one_left.1⟩

end LiveShader
