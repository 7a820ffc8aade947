import LiveShader.Proofs.Studio.Moves

/-! # What one response can do

A studio responds to an input in a few ways only: it may submit a source that has
just come or that is run again, it may ask for a fix of the failure at hand, and it
may move its fix cycle on. -/

namespace LiveShader

variable {View : Type}

/-- What is told of a session. -/
inductive StudioHappening where
  /-- A source came with a response to a ticket, or was given at the start. -/
  | entered (generation : Nat) (source : String)
  /-- The last source was run again, with the fix cycle in some state. -/
  | rerun (cycle : FixCycle) (source : String)
  | called (call : PreviewCall)
  deriving DecidableEq, Repr

namespace Studio

/-- What an input brings by itself. -/
def heard (studio : Studio View) : StudioInput View → List StudioHappening
  | .event (.generated ticket (.ok text)) => [.entered ticket.generation (Fence.strip text)]
  | .event (.fixed ticket (.ok text)) => [.entered ticket.generation (Fence.strip text)]
  | .event (.command .run) => studio.lastSource.toList.map (.rerun studio.cycle)
  | _ => []

variable [Preview View]

def happenings (studio : Studio View) (input : StudioInput View) : List StudioHappening :=
  studio.heard input ++ (studio.calls input).map .called

end Studio

/-- A source entered in a generation or was run again in it. -/
def IsKnown (past : List StudioHappening) (generation : Nat) (source : String) : Prop :=
  .entered generation source ∈ past ∨
    ∃ cycle, .rerun cycle source ∈ past ∧ cycle.generation = generation

theorem IsKnown.mono {past more : List StudioHappening} {generation : Nat} {source : String}
    (known : IsKnown past generation source) (subset : past ⊆ more) :
    IsKnown more generation source := by
  rcases known with entered | ⟨cycle, rerun, same⟩
  · exact .inl (subset entered)
  · exact .inr ⟨cycle, subset rerun, same⟩

/-! ## Cycles, failures and fixes -/

namespace Studio

section

variable [Preview View] (studio : Studio View)

theorem precedes_respond (input : StudioInput View) :
    studio.cycle.Precedes (studio.respond input).studio.cycle := by
  rw [(studio.respond_comesTo input).studio]
  exact (studio.precedes_informed input).trans (precedes_act _ _)

/-- A studio only takes note of a report, but for its cycle. -/
theorem respond_report (report : RenderEvent) :
    ∃ cycle, (studio.respond (.report report)).studio =
        { studio.informed (.report report) with cycle } ∧
      cycle.generation = studio.cycle.generation := by
  rcases studio.act_reportMove report (studio.informed (.report report)) with
    ⟨cycle, acted, generation⟩
  rw [(studio.respond_comesTo (.report report)).studio]
  exact ⟨cycle, acted, generation.trans (studio.informed_generation _)⟩

variable {studio} {input : StudioInput View}

/-- A failure that is at hand was reported just now, or it was at hand before. Either way it
is one of the generation that goes on. -/
theorem lastFailure_respond {failure : BuildFailure}
    (failed : (studio.respond input).studio.lastFailure = some failure) :
    (studio.respond input).studio.cycle.generation = studio.cycle.generation ∧
      (input = .report (.buildFailed studio.cycle.generation failure) ∨
        studio.lastFailure = some failure) := by
  rw [(studio.respond_comesTo input).studio] at failed ⊢
  rcases act_lastFailure _ _ failed with ⟨informed, generation⟩
  exact ⟨generation.trans (studio.informed_generation input), reported_or_kept informed⟩

/-- The request for a fix of a failure. -/
def fixRequest (studio : Studio View) (failure : BuildFailure) : FixRequest :=
  { ticket := studio.cycle.ticket
    code := failure.source
    diagnostic := failure.error.repairText }

/-- A fix is asked for as a move, with all that the move takes. -/
theorem fix_mem_respond_iff {request : FixRequest} :
    .fix request ∈ (studio.respond input).requests ↔
      ∃ failure, studio.move input = .fix failure ∧ request = studio.fixRequest failure := by
  rw [(studio.respond_comesTo input).requests]
  cases studio.move input with
  | fix failure => simp [act, fixRequest, FixCycle.ticket]
  | prompt description => simp [act]
  | wait | leave | submit | stop =>
      simp [act, Reaction.silent, Reaction.quit, submit, stopPreview]

end

/-! ## What an input brings -/

section

variable (studio : Studio View)

theorem rerun_of_mem_heard {input : StudioInput View} {cycle : FixCycle} {source : String}
    (member : .rerun cycle source ∈ studio.heard input) : cycle = studio.cycle := by
  unfold heard at member
  split at member
  case h_1 => cases List.mem_singleton.mp member
  case h_2 => cases List.mem_singleton.mp member
  case h_3 =>
    rcases List.mem_map.mp member with ⟨_, _, same⟩
    cases same
    rfl
  case h_4 => cases member

theorem called_not_mem_heard (input : StudioInput View) (call : PreviewCall) :
    .called call ∉ studio.heard input := by
  intro member
  unfold heard at member
  split at member
  case h_1 => cases List.mem_singleton.mp member
  case h_2 => cases List.mem_singleton.mp member
  case h_3 =>
    rcases List.mem_map.mp member with ⟨_, _, same⟩
    cases same
  case h_4 => cases member

end

/-! ## What the preview is told -/

variable [Preview View] {studio : Studio View} {input : StudioInput View}
variable {generation : Nat} {source : String}

/-- A source is submitted under the current generation, when it has just come with a
response of that generation or is run again. -/
theorem execute_mem_calls (member : .execute generation source ∈ studio.calls input) :
    generation = studio.cycle.generation ∧
      (.entered generation source ∈ studio.heard input ∨
        .rerun studio.cycle source ∈ studio.heard input) := by
  have makes := studio.makes_move input
  rw [calls_eq] at member
  generalize studio.move input = move at makes member
  cases makes with
  | rerun last =>
      cases List.mem_singleton.mp member
      exact ⟨rfl, .inr (by simp [heard, last])⟩
  | generated text current | fixed text current =>
      cases List.mem_singleton.mp member
      exact ⟨rfl, .inl (by simp [heard, current])⟩
  | stop => cases List.mem_singleton.mp member
  | wait | leave | prompt | fix | repair => cases member

theorem happenings_run (last : studio.lastSource = some source) :
    studio.happenings (.event (.command .run)) =
      [.rerun studio.cycle source, .called (.execute studio.cycle.generation source)] := by
  simp only [happenings, heard, calls_eq, move, commandMove, last]
  rfl

theorem submitted_isKnown
    (member : .called (.execute generation source) ∈ studio.happenings input) :
    IsKnown (studio.happenings input) generation source := by
  rcases List.mem_append.mp member with heard | called
  · exact absurd heard (called_not_mem_heard studio input _)
  · rcases List.mem_map.mp called with ⟨call, told, same⟩
    cases same
    rcases execute_mem_calls told with ⟨current, entered | rerun⟩
    · exact .inl (List.mem_append_left _ entered)
    · exact .inr ⟨studio.cycle, List.mem_append_left _ rerun, current.symm⟩

theorem rerun_of_mem_happenings {cycle : FixCycle}
    (member : .rerun cycle source ∈ studio.happenings input) : cycle = studio.cycle := by
  rcases List.mem_append.mp member with heard | called
  · exact rerun_of_mem_heard studio heard
  · rcases List.mem_map.mp called with ⟨_, _, same⟩
    cases same

/-! ## Fixes in flight -/

section

variable (studio : Studio View)

/-- The response that a fix in flight has failed. -/
def fixFailed (studio : Studio View) : StudioInput View :=
  .event (.fixed studio.cycle.ticket (.error (.decode "")))

/-- A fix that has failed gives its attempt back, and that is all. -/
theorem respond_fixFailed :
    (studio.respond studio.fixFailed).result = .ok .proceed ∧
      (studio.respond studio.fixFailed).studio =
        { studio with cycle := { studio.cycle with inFlight := studio.cycle.inFlight - 1 } } := by
  have current : studio.cycle.ticket.generation = studio.cycle.generation := rfl
  simp only [fixFailed, respond, handle, FixCycle.completeFix_of_error current]
  exact ⟨rfl, rfl⟩

theorem happenings_fixFailed : studio.happenings studio.fixFailed = [] := by
  have current : studio.cycle.ticket.generation = studio.cycle.generation := rfl
  simp only [fixFailed, happenings, calls_eq, move, FixCycle.completeFix_of_error current]
  rfl

/-- The fixes in flight may all fail, one after the other. -/
theorem of_drained (Property : Studio View → Prop)
    (fails : ∀ studio : Studio View, Property (studio.respond studio.fixFailed).studio →
      Property studio)
    (drained : Property { studio with cycle := { studio.cycle with inFlight := 0 } }) :
    Property studio := by
  generalize waiting : studio.cycle.inFlight = count
  induction count generalizing studio with
  | zero =>
      rw [← waiting] at drained
      exact drained
  | succ count induction =>
      apply fails
      rw [(respond_fixFailed studio).2]
      exact induction _ drained (by simp [waiting])

end

end Studio

end LiveShader
