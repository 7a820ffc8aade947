import Mathlib.Data.List.Induction
import LiveShader.Proofs.History
import LiveShader.Proofs.Studio.Offers

/-! # What a fix is asked with

The studio keeps one failure, which reports of the preview and prompts replace or clear.
What it keeps is the failure of the current generation that it was told of last, unless
that one was cleared since, and every fix is asked for with the source and the error of
that failure. -/

namespace LiveShader

variable {View : Type}

/-- How an error is told to the service: in the words of the driver, or else as the user
reads it. A resource error is not told. -/
inductive BuildError.IsToldAs : BuildError → String → Prop where
  | compile (stage : Stage) (diagnostic : String) : IsToldAs (.compile stage diagnostic) diagnostic
  | link (diagnostic : String) : IsToldAs (.link diagnostic) diagnostic
  | split (error : SplitError) : IsToldAs (.split error) (BuildError.split error).message

theorem BuildError.isToldAs_repairText {error : BuildError} (fixable : error.isFixable) :
    error.IsToldAs error.repairText := by
  cases error with
  | split error => exact .split error
  | compile stage diagnostic => exact .compile stage diagnostic
  | link diagnostic => exact .link diagnostic
  | resource error => cases fixable

namespace Studio

/-- Whether an input clears the failure at hand: a success in the current generation, a
stop or a new prompt. -/
def Clears (studio : Studio View) : StudioInput View → Prop
  | .report (.running generation _) => generation = studio.cycle.generation
  | .report .stopped => True
  | .event (.command (.prompt description)) => ¬Text.isBlankString description
  | .event (.command (.preset name)) =>
      ∃ description, studio.presets.find? name = some description ∧
        ¬Text.isBlankString description
  | _ => False

/-- Whether an input tells of a failed build of the current generation. -/
def Fails (studio : Studio View) (input : StudioInput View) : Prop :=
  ∃ failure, input = .report (.buildFailed studio.cycle.generation failure)

variable [Preview View]

def after (studio : Studio View) (past : List (StudioInput View)) : Studio View :=
  past.foldl (fun studio input => (studio.respond input).studio) studio

/-- Whether a failed build of the current generation was reported, and nothing since then
tells of another one or clears it. -/
def IsAtHand (session : Studio View) (past : List (StudioInput View)) (failure : BuildFailure) :
    Prop :=
  ∃ before later,
    let report : StudioInput View :=
      .report (.buildFailed (session.after before).cycle.generation failure)
    past = before ++ report :: later ∧
      (session.after past).cycle.generation = (session.after before).cycle.generation ∧
      Obeys (fun between input =>
        let studio := session.after (before ++ report :: between)
        ¬studio.Fails input ∧ ¬studio.Clears input) later

/-- Whether the failure at hand was cleared, and no build of the current generation has
failed since then. -/
def IsCleared (session : Studio View) (past : List (StudioInput View)) : Prop :=
  ∃ before clearing later,
    past = before ++ clearing :: later ∧ (session.after before).Clears clearing ∧
      Obeys (fun between input =>
        ¬(session.after (before ++ clearing :: between)).Fails input) later

/-- What the service is asked for in response to an input. -/
def serviceCalls (studio : Studio View) (input : StudioInput View) : List ServiceCall :=
  (studio.respond input).requests.map StudioRequest.call

/-! ## The failure that is kept -/

section

variable (studio : Studio View)

theorem lastFailure_of_clears {input : StudioInput View} (clears : studio.Clears input) :
    (studio.respond input).studio.lastFailure = none := by
  rw [(studio.respond_comesTo input).studio]
  unfold Clears at clears
  split at clears
  case h_1 generation _ => exact if_pos clears
  case h_2 => rfl
  case h_3 =>
    rw [move, commandMove, promptMove, if_neg clears]
    rfl
  case h_4 =>
    rcases clears with ⟨description, found, prompts⟩
    rw [move, commandMove, found, Option.map_some, Option.getD_some, promptMove, if_neg prompts]
    rfl
  case h_5 => exact clears.elim

theorem lastFailure_buildFailed (failure : BuildFailure) :
    (studio.respond (.report (.buildFailed studio.cycle.generation failure))).studio.lastFailure =
      some failure := by
  rcases studio.respond_report (.buildFailed studio.cycle.generation failure) with
    ⟨cycle, responded, _⟩
  rw [responded]
  exact if_pos rfl

/-- A failure that is kept after an input was reported by it, or was kept before it. -/
theorem reported_or_uncleared {input : StudioInput View} {failure : BuildFailure}
    (kept : (studio.respond input).studio.lastFailure = some failure) :
    input = .report (.buildFailed studio.cycle.generation failure) ∨
      studio.lastFailure = some failure ∧
        (studio.respond input).studio.cycle.generation = studio.cycle.generation ∧
        ¬studio.Fails input ∧ ¬studio.Clears input := by
  by_cases fails : studio.Fails input
  · rcases fails with ⟨reported, rfl⟩
    rw [lastFailure_buildFailed, Option.some.injEq] at kept
    exact .inl (by rw [kept])
  · rcases lastFailure_respond kept with ⟨generation, reported | earlier⟩
    · exact .inl reported
    · refine .inr ⟨earlier, generation, fails, fun clears => ?_⟩
      rw [lastFailure_of_clears studio clears] at kept
      cases kept

theorem generation_buildFailed (failure : BuildFailure) :
    (studio.respond (.report
      (.buildFailed studio.cycle.generation failure))).studio.cycle.generation =
        studio.cycle.generation :=
  (lastFailure_respond (lastFailure_buildFailed studio failure)).1

end

variable {session : Studio View} {past : List (StudioInput View)} {input : StudioInput View}
variable {failure : BuildFailure}

@[simp] theorem after_append_singleton :
    session.after (past ++ [input]) = ((session.after past).respond input).studio := by
  rw [after, List.foldl_append]
  rfl

theorem isAtHand_of_lastFailure (fresh : session.lastFailure = none)
    (kept : (session.after past).lastFailure = some failure) : session.IsAtHand past failure := by
  induction past using List.reverseRecOn with
  | nil =>
      rw [after, List.foldl_nil, fresh] at kept
      cases kept
  | append_singleton past input induction =>
      rw [after_append_singleton] at kept
      -- The last input reported the failure, or it is one more that leaves it at hand.
      rcases reported_or_uncleared _ kept with rfl | ⟨earlier, generation, keeps⟩
      · refine ⟨past, [], rfl, ?_, obeys_nil⟩
        rw [after_append_singleton, generation_buildFailed]
      · rcases induction earlier with ⟨before, later, split, current, obeys⟩
        refine ⟨before, later ++ [input], by simp [split], ?_, obeys.snoc ?_⟩
        · rw [after_append_singleton, generation, current]
        · rw [← split]
          exact keeps

theorem IsAtHand.not_isCleared (atHand : session.IsAtHand past failure) :
    ¬session.IsCleared past := by
  rintro ⟨earlier, clearing, others, split, clears, silent⟩
  rcases atHand with ⟨before, later, whole, _, kept⟩
  rw [whole] at split
  rcases cons_split split with ⟨_, rfl⟩ | ⟨between, rfl, behind⟩ | ⟨between, rfl, behind⟩
  · exact clears
  · exact (kept between clearing others behind).2 clears
  · exact silent between _ later behind ⟨failure, rfl⟩

/-! ## What is asked for -/

theorem fix_mem_respond_of_lastFailure (studio : Studio View) {request : FixRequest}
    (asked : .fix request ∈ (studio.respond input).requests) :
    ∃ failure, (studio.respond input).studio.lastFailure = some failure ∧
      failure.error.isFixable ∧ request.code = failure.source ∧
      request.diagnostic = failure.error.repairText := by
  rcases fix_mem_respond_iff.mp asked with ⟨failure, moves, rfl⟩
  have makes := studio.makes_move input
  rw [moves] at makes
  cases makes with
  | fix failed fixable left =>
      refine ⟨failure, ?_, fixable, rfl, rfl⟩
      rw [(studio.respond_comesTo _).studio, moves]
      exact failed
  | repair fixable left =>
      exact ⟨failure, lastFailure_buildFailed studio failure, fixable, rfl, rfl⟩

theorem fix_mem_serviceCalls {studio : Studio View} {code diagnostic : String}
    (called : .fix code diagnostic ∈ studio.serviceCalls input) :
    ∃ failure, (studio.respond input).studio.lastFailure = some failure ∧
      code = failure.source ∧ failure.error.IsToldAs diagnostic := by
  rcases List.mem_map.mp called with ⟨request, asked, call⟩
  cases request with
  | generate request => cases call
  | fix request =>
      rcases fix_mem_respond_of_lastFailure studio asked with ⟨failure, kept, fixable, code, text⟩
      cases call
      exact ⟨failure, kept, code, text ▸ failure.error.isToldAs_repairText fixable⟩

theorem lastFailure_opened (preview : View) (presets : Presets) (autoFix : Bool)
    (started : Option String) :
    (opened preview presets autoFix started).lastFailure = none := by
  cases started <;> rfl

/-- In every session, the service is asked to fix the source of the failure at hand, with
its error, and never while no failure is at hand. -/
theorem fixes_failure_at_hand (preview : View) (presets : Presets) (autoFix : Bool)
    (started : Option String) :
    let session := opened preview presets autoFix started
    ∀ past input,
      (∀ code diagnostic, .fix code diagnostic ∈ (session.after past).serviceCalls input →
        ∃ failure, session.IsAtHand (past ++ [input]) failure ∧
          code = failure.source ∧ failure.error.IsToldAs diagnostic) ∧
      (session.IsCleared (past ++ [input]) →
        ∀ code diagnostic, .fix code diagnostic ∉ (session.after past).serviceCalls input) := by
  intro session past input
  have atHand : ∀ code diagnostic,
      .fix code diagnostic ∈ (session.after past).serviceCalls input →
        ∃ failure, session.IsAtHand (past ++ [input]) failure ∧
          code = failure.source ∧ failure.error.IsToldAs diagnostic := by
    intro code diagnostic called
    rcases fix_mem_serviceCalls called with ⟨failure, kept, source, told⟩
    rw [← after_append_singleton] at kept
    have fresh := lastFailure_opened preview presets autoFix started
    exact ⟨failure, isAtHand_of_lastFailure fresh kept, source, told⟩
  refine ⟨atHand, fun cleared code diagnostic called => ?_⟩
  rcases atHand code diagnostic called with ⟨failure, known, _⟩
  exact known.not_isCleared cleared

/-- A second failure replaces the first one and outlives the rendering loop, until the
preview stops. -/
theorem fixes_failure_at_hand_twice_failed :
    let session : Studio RecordingPreview := opened .initial [] false none
    let first : BuildFailure := { source := "S", error := .split (.missingMarker .vertex) }
    let second : BuildFailure := { source := "S", error := .compile .fragment "0:3: 'foo'" }
    let past : List (StudioInput RecordingPreview) :=
      [.event (.command (.prompt "waves")), .event (.generated { generation := 1 } (.ok "S")),
        .report (.buildFailed 1 first), .event (.command .run), .report (.buildFailed 1 second),
        .report (.buildFailed 0 first), .report (.loopFailed "lost")]
    let fix : StudioInput RecordingPreview := .event (.command .fix)
    .fix "S" "0:3: 'foo'" ∈ (session.after past).serviceCalls fix ∧
      (∃ failure, session.IsAtHand (past ++ [fix]) failure ∧ "S" = failure.source ∧
        failure.error.IsToldAs "0:3: 'foo'") ∧
      session.IsCleared (past ++ [.report .stopped] ++ [fix]) ∧
      .fix "S" "0:3: 'foo'" ∉ (session.after (past ++ [.report .stopped])).serviceCalls fix := by
  intro session first second past fix
  have law := fixes_failure_at_hand RecordingPreview.initial [] false none
  have called : .fix "S" "0:3: 'foo'" ∈ (session.after past).serviceCalls fix := by
    decide +kernel
  have cleared : session.IsCleared (past ++ [.report .stopped] ++ [fix]) := by
    refine ⟨past, .report .stopped, [fix], List.append_assoc .., trivial, ?_⟩
    exact obeys_nil.snoc fun ⟨failure, same⟩ => absurd same nofun
  have atHand := (law past fix).1 _ _ called
  have silent := (law (past ++ [.report .stopped]) fix).2 cleared
  exact ⟨called, atHand, cleared, silent _ _⟩

end Studio

end LiveShader
