import LiveShader.Proofs.Service.Attempts
import LiveShader.Proofs.Studio.Response
import LiveShader.Proofs.Studio.Staleness

/-! # How much follows a prompt

Once a prompt is accepted and nobody types any more, the studio goes on by itself: a
response brings a source, its build may fail, a fix is asked for, and the response to
the fix brings the next source. Every build is reported once and every request is
answered once, in any order, and what is left over of earlier generations may come in
between. Still no more fixes are asked for than the cycle has attempts, and no more
sources are submitted than one and its repairs. -/

namespace LiveShader

variable {View : Type}

/-! ## Counting -/

def StudioRequest.isFix : StudioRequest → Bool
  | .fix _ => true
  | .generate _ => false

def PreviewCall.isExecute : PreviewCall → Bool
  | .execute _ _ => true
  | .stop => false

def fixCount (requests : List StudioRequest) : Nat :=
  requests.countP StudioRequest.isFix

def promptCount (requests : List StudioRequest) : Nat :=
  requests.countP fun request => !request.isFix

def executeCount (calls : List PreviewCall) : Nat :=
  calls.countP PreviewCall.isExecute

section

variable (requests more : List StudioRequest) (calls others : List PreviewCall)

@[simp] theorem fixCount_nil : fixCount [] = 0 := rfl

@[simp] theorem fixCount_append : fixCount (requests ++ more) = fixCount requests + fixCount more :=
  List.countP_append

@[simp] theorem fixCount_fix (request : FixRequest) :
    fixCount (.fix request :: requests) = fixCount requests + 1 :=
  List.countP_cons_of_pos rfl

@[simp] theorem fixCount_generate (request : GenerateRequest) :
    fixCount (.generate request :: requests) = fixCount requests :=
  List.countP_cons_of_neg Bool.false_ne_true

@[simp] theorem promptCount_nil : promptCount [] = 0 := rfl

@[simp] theorem promptCount_append :
    promptCount (requests ++ more) = promptCount requests + promptCount more :=
  List.countP_append

@[simp] theorem promptCount_fix (request : FixRequest) :
    promptCount (.fix request :: requests) = promptCount requests :=
  List.countP_cons_of_neg Bool.false_ne_true

@[simp] theorem promptCount_generate (request : GenerateRequest) :
    promptCount (.generate request :: requests) = promptCount requests + 1 :=
  List.countP_cons_of_pos rfl

@[simp] theorem executeCount_nil : executeCount [] = 0 := rfl

@[simp] theorem executeCount_append :
    executeCount (calls ++ others) = executeCount calls + executeCount others :=
  List.countP_append

@[simp] theorem executeCount_execute (generation : Nat) (source : String) :
    executeCount (.execute generation source :: calls) = executeCount calls + 1 :=
  List.countP_cons_of_pos rfl

end

/-! ## What is still to come -/

/-- The builds that were not reported yet and the requests that were not answered
yet. -/
structure Awaited where
  builds : List PreviewCall
  requests : List StudioRequest

/-- What is awaited once more was submitted and asked for. -/
def Awaited.extend (awaited : Awaited) (calls : List PreviewCall)
    (requests : List StudioRequest) : Awaited :=
  { builds := awaited.builds ++ calls, requests := awaited.requests ++ requests }

namespace Studio

/-- What may come while nobody types, and what is awaited after it. A build is reported
under the generation it was submitted with. -/
inductive Receives (studio : Studio View) : Awaited → StudioInput View → Awaited → Prop where
  | response {earlier later : List StudioRequest} {builds : List PreviewCall}
      (request : StudioRequest) (result : Except ServiceError String) :
      Receives studio { builds, requests := earlier ++ request :: later }
        (.event (request.answered result)) { builds, requests := earlier ++ later }
  | running {earlier later : List PreviewCall} {requests : List StudioRequest}
      {generation : Nat} {submitted : String} (source : String) :
      Receives studio { builds := earlier ++ .execute generation submitted :: later, requests }
        (.report (.running generation source)) { builds := earlier ++ later, requests }
  | buildFailed {earlier later : List PreviewCall} {requests : List StudioRequest}
      {generation : Nat} {submitted : String} (failure : BuildFailure) :
      Receives studio { builds := earlier ++ .execute generation submitted :: later, requests }
        (.report (.buildFailed generation failure)) { builds := earlier ++ later, requests }
  /-- Something of an earlier generation comes late. -/
  | leftover {awaited : Awaited} {input : StudioInput View} (stale : studio.isStale input) :
      Receives studio awaited input awaited
  | stopped {awaited : Awaited} : Receives studio awaited (.report .stopped) awaited
  | loopFailed {awaited : Awaited} (reason : String) :
      Receives studio awaited (.report (.loopFailed reason)) awaited
  | changed {awaited : Awaited} (view : View) : Receives studio awaited (.preview view) awaited

variable [Preview View] (studio : Studio View)

/-- Whether a run goes on with nothing but what is awaited or left over. -/
def IsUnattended (studio : Studio View) (awaited : Awaited) : List (StudioInput View) → Prop
  | [] => True
  | input :: rest =>
      ∃ left, studio.Receives awaited input left ∧
        ((studio.respond input).result = .ok .proceed →
          (studio.respond input).studio.IsUnattended
            (left.extend (studio.calls input) (studio.respond input).requests) rest)

/-! ## What each input costs -/

/-- The report of a build asks for nothing, or it is a failure that asks for one fix
while an attempt is free. -/
theorem respond_report_cases (report : RenderEvent) :
    ((studio.respond (.report report)).requests = [] ∧
        (studio.respond (.report report)).studio.cycle = studio.cycle) ∨
      (studio.cycle.attemptsUsed + studio.cycle.inFlight < studio.cycle.maxAttempts ∧
        ∃ request, (studio.respond (.report report)).requests = [.fix request] ∧
          (studio.respond (.report report)).studio.cycle = { studio.cycle with
            inFlight := studio.cycle.inFlight + 1
            lastDiagnostic := some request.diagnostic }) := by
  have comes := studio.respond_comesTo (.report report)
  have makes := studio.makes_reportMove report
  have cycle : (studio.informed (.report report)).cycle = studio.cycle := by
    cases report <;> rfl
  rw [comes.requests, comes.studio, move]
  generalize studio.reportMove report = move at makes
  cases makes with
  | wait | leave => exact .inl ⟨rfl, cycle⟩
  | repair fixable left => exact .inr ⟨left, _, rfl, rfl⟩

/-! ## Responses -/

theorem requests_apply (failureMessage : String) (resolution : Resolution) :
    (studio.apply failureMessage resolution).requests = [] := by
  cases resolution <;> rfl

theorem cycle_apply (failureMessage : String) (resolution : Resolution) :
    (studio.apply failureMessage resolution).studio.cycle = studio.cycle := by
  cases resolution <;> rfl

theorem executeCount_move (generation : Nat) (resolution : Resolution) :
    executeCount (resolution.move.call? generation).toList = resolution.isApply.toNat := by
  cases resolution <;> rfl

theorem executeCount_generated (ticket : Ticket) (result : Except ServiceError String) :
    executeCount (studio.calls (.event (.generated ticket result))) =
      (studio.cycle.completeGenerate ticket result).1.isApply.toNat := by
  rw [calls_eq]
  exact executeCount_move _ _

theorem executeCount_fixed (ticket : Ticket) (result : Except ServiceError String) :
    executeCount (studio.calls (.event (.fixed ticket result))) =
      (studio.cycle.completeFix ticket result).1.isApply.toNat := by
  rw [calls_eq]
  exact executeCount_move _ _

end Studio

/-- How a cycle goes on when a fix that it had reserved an attempt for is answered. The
attempt is used if the answer is applied. -/
structure FixCycle.Settles (cycle next : FixCycle) (applied : Bool) : Prop where
  ceiling : next.maxAttempts = cycle.maxAttempts
  used : next.attemptsUsed = cycle.attemptsUsed + applied.toNat
  others : cycle.inFlight ≤ next.inFlight + 1
  released : next.inFlight + applied.toNat ≤ cycle.inFlight

theorem FixCycle.settles_completeFix {cycle : FixCycle} (ticket : Ticket)
    (result : Except ServiceError String) (reserved : 0 < cycle.inFlight) :
    cycle.Settles (cycle.completeFix ticket result).2
      (cycle.completeFix ticket result).1.isApply := by
  by_cases current : ticket.generation = cycle.generation
  · cases result with
    | ok text =>
        rw [completeFix_of_ok current]
        exact ⟨rfl, rfl, Nat.sub_le_iff_le_add.mp (Nat.le_refl _),
          Nat.le_of_eq (Nat.sub_add_cancel reserved)⟩
    | error error =>
        rw [completeFix_of_error current]
        exact ⟨rfl, rfl, Nat.sub_le_iff_le_add.mp (Nat.le_refl _), Nat.sub_le _ _⟩
  · rw [completeFix_of_stale current]
    exact ⟨rfl, rfl, Nat.le_succ _, Nat.le_refl _⟩

/-! ## The account of a run -/

/-- What was spent since the prompt and what may still be spent: a submitted source is
the first one or a repair that was applied, a fix was asked for after a build of its
own, and an awaited response to a fix holds an attempt. -/
structure FixCycle.Covers (cycle : FixCycle) (awaited : Awaited) (asked submitted : Nat) :
    Prop where
  ceiling : cycle.attemptsUsed + cycle.inFlight ≤ cycle.maxAttempts
  reserved : fixCount awaited.requests ≤ cycle.inFlight
  sources : submitted + promptCount awaited.requests ≤ 1 + cycle.attemptsUsed
  builds : asked + executeCount awaited.builds ≤ submitted
  asked : asked ≤ cycle.maxAttempts

namespace Studio

variable [Preview View] {studio : Studio View} {awaited left : Awaited}
variable {input : StudioInput View} {asked submitted : Nat}

/-- The account of a run still holds after an input, under the same ceiling. -/
structure StaysCovered (studio : Studio View) (left : Awaited) (input : StudioInput View)
    (asked submitted : Nat) : Prop where
  ceiling : (studio.respond input).studio.cycle.maxAttempts = studio.cycle.maxAttempts
  covers : (studio.respond input).studio.cycle.Covers
    (left.extend (studio.calls input) (studio.respond input).requests)
    (asked + fixCount (studio.respond input).requests)
    (submitted + executeCount (studio.calls input))

theorem staysCovered_of_silent (covers : studio.cycle.Covers awaited asked submitted)
    (requests : (studio.respond input).requests = [])
    (cycle : (studio.respond input).studio.cycle = studio.cycle)
    (calls : studio.calls input = []) : studio.StaysCovered awaited input asked submitted where
  ceiling := by rw [cycle]
  covers := by simpa [requests, cycle, calls, Awaited.extend] using covers

theorem staysCovered_report {report : RenderEvent} {earlier later : List PreviewCall}
    {requests : List StudioRequest} {generation : Nat} {source : String}
    (covers : studio.cycle.Covers
      { builds := earlier ++ .execute generation source :: later, requests } asked submitted) :
    studio.StaysCovered { builds := earlier ++ later, requests } (.report report) asked
      submitted := by
  rcases covers with ⟨ceiling, reserved, sources, paid, bound⟩
  simp only [executeCount_append, executeCount_execute] at paid
  rcases respond_report_cases studio report with
    ⟨nothing, cycle⟩ | ⟨free, request, asks, cycle⟩
  · refine ⟨by rw [cycle], ?_⟩
    simp only [nothing, cycle, calls_report, Awaited.extend, List.append_nil]
    exact
      { ceiling
        reserved
        sources
        builds := by
          simp only [fixCount_nil, executeCount_nil, executeCount_append]
          omega
        asked := bound }
  · -- The fix takes the place of the build that has failed, under the free attempt.
    refine ⟨by rw [cycle], ?_⟩
    simp only [asks, cycle, calls_report, Awaited.extend, List.append_nil, fixCount_fix,
      fixCount_nil, executeCount_nil]
    exact
      { ceiling := by dsimp only; omega
        reserved := by simpa using reserved
        sources := by simpa using sources
        builds := by
          simp only [executeCount_append]
          omega
        asked := by dsimp only; omega }

theorem staysCovered_generated {earlier later : List StudioRequest} {builds : List PreviewCall}
    {request : GenerateRequest} (result : Except ServiceError String)
    (covers : studio.cycle.Covers
      { builds, requests := earlier ++ .generate request :: later } asked submitted) :
    studio.StaysCovered { builds, requests := earlier ++ later }
      (.event (.generated request.ticket result)) asked submitted := by
  rcases covers with ⟨ceiling, reserved, sources, paid, bound⟩
  have requests : (studio.respond (.event (.generated request.ticket result))).requests = [] :=
    requests_apply _ _ _
  have cycle : (studio.respond (.event (.generated request.ticket result))).studio.cycle =
      studio.cycle :=
    (cycle_apply _ _ _).trans (FixCycle.completeGenerate_cycle _ _ _)
  -- The one source that no attempt pays for.
  have brought : executeCount (studio.calls (.event (.generated request.ticket result))) ≤ 1 := by
    rw [executeCount_generated]
    exact Bool.toNat_le _
  simp only [fixCount_append, fixCount_generate, promptCount_append, promptCount_generate]
    at reserved sources paid
  refine ⟨by rw [cycle], ?_⟩
  simp only [requests, cycle, Awaited.extend, List.append_nil, fixCount_nil]
  exact
    { ceiling
      reserved := by simpa using reserved
      sources := by
        simp only [promptCount_append]
        omega
      builds := by
        simp only [executeCount_append]
        omega
      asked := bound }

theorem staysCovered_fixed {earlier later : List StudioRequest} {builds : List PreviewCall}
    {request : FixRequest} (result : Except ServiceError String)
    (covers : studio.cycle.Covers
      { builds, requests := earlier ++ .fix request :: later } asked submitted) :
    studio.StaysCovered { builds, requests := earlier ++ later }
      (.event (.fixed request.ticket result)) asked submitted := by
  rcases covers with ⟨ceiling, reserved, sources, paid, bound⟩
  simp only [fixCount_append, fixCount_fix, promptCount_append, promptCount_fix]
    at reserved sources paid
  -- The attempt that the fix holds is given back, or used for one source.
  have settles := FixCycle.settles_completeFix request.ticket result
    (show 0 < studio.cycle.inFlight by omega)
  have requests : (studio.respond (.event (.fixed request.ticket result))).requests = [] :=
    requests_apply _ _ _
  have cycle : (studio.respond (.event (.fixed request.ticket result))).studio.cycle =
      (studio.cycle.completeFix request.ticket result).2 :=
    cycle_apply _ _ _
  have brought := executeCount_fixed studio request.ticket result
  generalize studio.cycle.completeFix request.ticket result = resolved at settles cycle brought
  rcases settles with ⟨same, used, others, released⟩
  refine ⟨by rw [cycle, same], ?_⟩
  simp only [requests, cycle, Awaited.extend, List.append_nil, fixCount_nil]
  exact
    { ceiling := by omega
      reserved := by
        simp only [fixCount_append]
        omega
      sources := by
        simp only [promptCount_append]
        omega
      builds := by
        simp only [executeCount_append]
        omega
      asked := by omega }

theorem staysCovered (covers : studio.cycle.Covers awaited asked submitted)
    (receives : studio.Receives awaited input left) :
    studio.StaysCovered left input asked submitted := by
  cases receives with
  | response request result =>
      cases request with
      | generate request => exact staysCovered_generated result covers
      | fix request => exact staysCovered_fixed result covers
  | running source => exact staysCovered_report covers
  | buildFailed failure => exact staysCovered_report covers
  | leftover stale =>
      rcases respond_of_stale studio stale with ⟨state, silent⟩
      exact staysCovered_of_silent covers (by rw [silent]; rfl) (by rw [silent]; rfl)
        (calls_of_stale studio stale)
  | stopped => exact staysCovered_of_silent covers rfl rfl (calls_report _ _)
  | loopFailed reason => exact staysCovered_of_silent covers rfl rfl (calls_report _ _)
  | changed view => exact staysCovered_of_silent covers rfl rfl rfl

theorem spent_run {inputs : List (StudioInput View)}
    (covers : studio.cycle.Covers awaited asked submitted)
    (unattended : studio.IsUnattended awaited inputs) :
    asked + fixCount (studio.run inputs).requests ≤ studio.cycle.maxAttempts ∧
      submitted + executeCount (studio.run inputs).calls ≤ 1 + studio.cycle.maxAttempts := by
  -- The account is open at its two ends: what was spent so far grows with each input.
  induction inputs generalizing studio awaited asked submitted with
  | nil =>
      have attempts := covers.ceiling
      have sources := covers.sources
      exact ⟨covers.asked, by simp only [run, executeCount_nil]; omega⟩
  | cons input rest induction =>
      rcases unattended with ⟨left, receives, onward⟩
      have stays := staysCovered covers receives
      by_cases proceeds : (studio.respond input).result = .ok .proceed
      · have later := induction stays.covers (onward proceeds)
        rw [stays.ceiling] at later
        rw [run_cons_of_proceed proceeds]
        simp only [fixCount_append, executeCount_append]
        omega
      · have attempts := stays.covers.ceiling
        have sources := stays.covers.sources
        have bound := stays.covers.asked
        rw [stays.ceiling] at attempts bound
        rw [run_cons_of_ending proceeds]
        exact ⟨bound, by dsimp only; omega⟩

/-! ## After a prompt -/

/-- An accepted prompt starts a generation with all its attempts. -/
theorem onCommand_accepted {command : ConsoleCommand} {request : GenerateRequest}
    (accepted : .generate request ∈ (studio.onCommand command).requests) :
    (studio.onCommand command).requests = [.generate request] ∧
      (studio.onCommand command).studio.cycle =
        { FixCycle.create studio.cycle.maxAttempts with
          generation := studio.cycle.generation + 1 } := by
  have comes := studio.onCommand_comesTo command
  rw [comes.requests] at accepted ⊢
  rw [comes.studio]
  cases made : studio.commandMove command with
  | prompt description =>
      rw [made] at accepted
      cases List.mem_singleton.mp accepted
      exact ⟨rfl, rfl⟩
  | fix failure =>
      rw [made] at accepted
      cases List.mem_singleton.mp accepted
  | wait | leave | submit | stop =>
      rw [made] at accepted
      cases accepted

/-- After an accepted prompt, and until somebody types again, no more fixes are asked
for than the cycle has attempts, and no more sources are submitted than one and its
repairs, whatever the builds and the service answer. This needs no automatic fixes, but
without them no fix is asked for here. -/
theorem spent_after_prompt {command : ConsoleCommand} {request : GenerateRequest}
    {inputs : List (StudioInput View)}
    (accepted : .generate request ∈ (studio.onCommand command).requests)
    (unattended : (studio.onCommand command).studio.IsUnattended
      { builds := [], requests := (studio.onCommand command).requests } inputs) :
    fixCount ((studio.onCommand command).studio.run inputs).requests ≤
        studio.cycle.maxAttempts ∧
      executeCount ((studio.onCommand command).studio.run inputs).calls ≤
        1 + studio.cycle.maxAttempts := by
  rcases onCommand_accepted accepted with ⟨requests, cycle⟩
  have covers : (studio.onCommand command).studio.cycle.Covers
      { builds := [], requests := (studio.onCommand command).requests } 0 0 := by
    rw [requests, cycle]
    exact
      { ceiling := Nat.zero_le _
        reserved := Nat.le_refl _
        sources := Nat.le_refl _
        builds := Nat.le_refl _
        asked := Nat.zero_le _ }
  have spent := spent_run covers unattended
  rw [cycle] at spent
  simp only [Nat.zero_add] at spent
  exact spent

/-- Nothing ever builds, and the one fix brings a source: the attempt is used, with
something left over of an earlier generation in between. -/
theorem spent_after_prompt_in_vain :
    let asked := { create RecordingPreview.initial [] true with
      cycle := .create 1 }.onCommand (.prompt "waves")
    let failed : StudioInput RecordingPreview :=
      .report (.buildFailed 1 { source := "S", error := .link "unresolved" })
    let inputs : List (StudioInput RecordingPreview) :=
      [.event (.generated { generation := 1 } (.ok "S")), failed, .report (.running 0 "old"),
        .event (.fixed { generation := 1 } (.ok "S")), failed]
    let outcome := asked.studio.run inputs
    .generate { ticket := { generation := 1 }, description := "waves" } ∈ asked.requests ∧
      asked.studio.IsUnattended { builds := [], requests := asked.requests } inputs ∧
      fixCount outcome.requests = 1 ∧ executeCount outcome.calls = 2 ∧
      (fixCount outcome.requests ≤ 1 ∧ executeCount outcome.calls ≤ 1 + 1) := by
  intro asked failed inputs outcome
  have accepted : .generate { ticket := { generation := 1 }, description := "waves" } ∈
      asked.requests := .head _
  have unattended : asked.studio.IsUnattended { builds := [], requests := asked.requests }
      inputs := by
    have built {studio : Studio RecordingPreview} {requests : List StudioRequest} :
        studio.Receives { builds := [.execute 1 "S"], requests } failed
          { builds := [], requests } :=
      @Receives.buildFailed _ studio [] [] requests 1 "S" _
    exact ⟨_, @Receives.response _ _ [] [] [] (.generate _) _, fun _ => ⟨_, built, fun _ =>
      ⟨_, .leftover rfl, fun _ => ⟨_, @Receives.response _ _ [] [] [] (.fix _) _, fun _ =>
      ⟨_, built, fun _ => trivial⟩⟩⟩⟩⟩
  exact ⟨accepted, unattended, by decide +kernel, by decide +kernel,
    spent_after_prompt accepted unattended⟩

end Studio

end LiveShader
