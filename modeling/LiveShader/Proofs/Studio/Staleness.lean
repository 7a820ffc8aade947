import LiveShader.Proofs.Studio.Moves

/-! # Stale inputs leave no trace

A response or a build outcome of an earlier generation is stale. A run without
its stale inputs makes the same calls and requests and ends in the same state,
but for what the renderer is said to be doing. -/

namespace LiveShader

variable {View : Type}

/-- The generation that a response or a build outcome belongs to. -/
def StudioInput.generation? : StudioInput View → Option Nat
  | event (.generated ticket _) => some ticket.generation
  | event (.fixed ticket _) => some ticket.generation
  | report (.running generation _) => some generation
  | report (.buildFailed generation _) => some generation
  | _ => none

namespace Studio

/-- Whether an input belongs to another generation than the current one. -/
def isStale (studio : Studio View) (input : StudioInput View) : Bool :=
  input.generation?.any fun generation => generation ≠ studio.cycle.generation

theorem isStale_noted (studio : Studio View) (input : StudioInput View) :
    studio.noted.isStale input.noted = studio.isStale input := by
  cases input with
  | preview view => rfl
  | event told => cases told <;> rfl
  | report told => cases told <;> rfl

variable [Preview View]

/-- What is left of a run when each input that is stale at its turn is left out. -/
def withoutStale (studio : Studio View) : List (StudioInput View) → List (StudioInput View)
  | [] => []
  | input :: rest =>
      let kept := (studio.respond input).studio.withoutStale rest
      if studio.isStale input then kept else input :: kept

theorem withoutStale_of_stale {studio : Studio View} {input : StudioInput View}
    (stale : studio.isStale input) (rest : List (StudioInput View)) :
    studio.withoutStale (input :: rest) = (studio.respond input).studio.withoutStale rest :=
  if_pos stale

theorem withoutStale_of_fresh {studio : Studio View} {input : StudioInput View}
    (fresh : ¬studio.isStale input) (rest : List (StudioInput View)) :
    studio.withoutStale (input :: rest) =
      input :: (studio.respond input).studio.withoutStale rest :=
  if_neg fresh

/-! ## The state of the renderer -/

/-- The same studio, with the renderer said to be in another state. -/
def rendering (studio : Studio View) (state : ExecutionState) : Studio View :=
  { studio with renderState := state }

end Studio

/-- Two reactions agree but for what is printed and for the state of the
renderer. -/
structure Reaction.Agrees (first second : Reaction View) : Prop where
  studio : ∃ state, second.studio = first.studio.rendering state
  requests : second.requests = first.requests
  result : second.result = first.result

namespace Studio

variable (studio : Studio View) (state : ExecutionState)

/-- No note and no move depends on what the renderer is said to be doing. -/
theorem informed_rendering (input : StudioInput View) :
    (studio.rendering state).informed input =
      (studio.informed input).rendering ((studio.rendering state).informed input).renderState := by
  cases input with
  | preview view => rfl
  | event event => cases event <;> rfl
  | report report => cases report <;> rfl

theorem move_rendering (input : StudioInput View) :
    (studio.rendering state).move input = studio.move input := by
  cases input with
  | preview view => rfl
  | event event => cases event <;> rfl
  | report report => rfl

variable [Preview View]

theorem act_rendering (move : StudioMove) :
    (studio.act move).Agrees ((studio.rendering state).act move) := by
  cases move with
  | submit source => exact ⟨⟨.building, rfl⟩, rfl, rfl⟩
  | wait | leave | prompt | fix | stop => exact ⟨⟨state, rfl⟩, rfl, rfl⟩

theorem respond_rendering (input : StudioInput View) :
    (studio.respond input).Agrees ((studio.rendering state).respond input) := by
  have comes := studio.respond_comesTo input
  have again := (studio.rendering state).respond_comesTo input
  rw [informed_rendering, move_rendering] at again
  have agrees := (studio.informed input).act_rendering
    ((studio.rendering state).informed input).renderState (studio.move input)
  exact
    { studio := by
        rw [comes.studio, again.studio]
        exact agrees.studio
      requests := by rw [comes.requests, again.requests, agrees.requests]
      result := by rw [comes.result, again.result, agrees.result] }

/-! ## Stale inputs -/

/-- A stale input at most says that the renderer runs. -/
theorem respond_of_stale {input : StudioInput View} (stale : studio.isStale input) :
    ∃ state, studio.respond input = .silent (studio.rendering state) := by
  cases input with
  | preview view => cases stale
  | event told =>
      cases told with
      | command command => cases stale
      | consoleClosed => cases stale
      | generated ticket result =>
          have other : ticket.generation ≠ studio.cycle.generation := by
            simpa [isStale, StudioInput.generation?] using stale
          refine ⟨studio.renderState, ?_⟩
          simp only [respond, handle, FixCycle.completeGenerate, other, if_false]
          rfl
      | fixed ticket result =>
          have other : ticket.generation ≠ studio.cycle.generation := by
            simpa [isStale, StudioInput.generation?] using stale
          refine ⟨studio.renderState, ?_⟩
          simp only [respond, handle, FixCycle.completeFix, other, if_false]
          rfl
  | report told =>
      cases told with
      | stopped => cases stale
      | loopFailed reason => cases stale
      | closed => cases stale
      | running generation source =>
          have other : generation ≠ studio.cycle.generation := by
            simpa [isStale, StudioInput.generation?] using stale
          refine ⟨.running, ?_⟩
          simp only [respond, onRender, other, if_false]
          rfl
      | buildFailed generation failure =>
          have other : generation ≠ studio.cycle.generation := by
            simpa [isStale, StudioInput.generation?] using stale
          refine ⟨studio.renderState, ?_⟩
          simp only [respond, onRender, other, if_false]
          rfl

theorem calls_of_stale {input : StudioInput View} (stale : studio.isStale input) :
    studio.calls input = [] := by
  rw [← isStale_noted] at stale
  rcases respond_of_stale studio.noted stale with ⟨state, silent⟩
  rw [calls, silent]
  rfl

theorem calls_rendering (input : StudioInput View) :
    (studio.rendering state).calls input = studio.calls input := by
  rcases (respond_rendering studio.noted state input.noted).studio with ⟨after, same⟩
  have preview := congrArg Studio.preview same
  exact congrArg NotedPreview.calls preview

/-- A run without its stale inputs, from a studio that may take the renderer to be
in another state. -/
theorem run_withoutStale_rendering (inputs : List (StudioInput View)) :
    ∃ last, (studio.rendering state).run (studio.withoutStale inputs) =
      { studio.run inputs with studio := (studio.run inputs).studio.rendering last } := by
  induction inputs generalizing studio state with
  | nil => exact ⟨state, rfl⟩
  | cons input rest induction =>
      by_cases stale : studio.isStale input
      · rcases respond_of_stale studio stale with ⟨said, silent⟩
        have proceeds : (studio.respond input).result = .ok .proceed := by rw [silent]; rfl
        rcases induction (studio.rendering said) state with ⟨last, same⟩
        refine ⟨last, ?_⟩
        rw [withoutStale_of_stale stale, run_cons_of_proceed proceeds,
          calls_of_stale studio stale, silent]
        exact same
      · have agrees := respond_rendering studio state input
        rcases agrees.studio with ⟨after, next⟩
        rw [withoutStale_of_fresh stale]
        by_cases proceeds : (studio.respond input).result = .ok .proceed
        · rcases induction (studio.respond input).studio after with ⟨last, same⟩
          refine ⟨last, ?_⟩
          rw [run_cons_of_proceed proceeds,
            run_cons_of_proceed (agrees.result.trans proceeds), next, same, calls_rendering,
            agrees.requests]
        · have ends : ((studio.rendering state).respond input).result ≠ .ok .proceed := by
            rwa [agrees.result]
          refine ⟨after, ?_⟩
          rw [run_cons_of_ending proceeds, run_cons_of_ending ends, next, calls_rendering,
            agrees.requests, agrees.result]

/-- Leaving the stale inputs out of a run changes neither what the preview is told
nor what the service is asked, nor the last source, the last failure and the state
of the fix cycle, nor how the session goes on. -/
theorem run_withoutStale (inputs : List (StudioInput View)) :
    let full := studio.run inputs
    let kept := studio.run (studio.withoutStale inputs)
    kept.calls = full.calls ∧ kept.requests = full.requests ∧ kept.result = full.result ∧
      kept.studio.lastSource = full.studio.lastSource ∧
      kept.studio.lastFailure = full.studio.lastFailure ∧
      kept.studio.cycle = full.studio.cycle := by
  intro full kept
  rcases run_withoutStale_rendering studio studio.renderState inputs with ⟨last, same⟩
  have agreed : kept = { full with studio := full.studio.rendering last } := same
  rw [agreed]
  exact ⟨rfl, rfl, rfl, rfl, rfl, rfl⟩

end Studio

end LiveShader
