import LiveShader.Proofs.Render.Operation
import LiveShader.Proofs.Render.RecorderObjects
import LiveShader.Proofs.Surface.Operation

/-! # The steps of a build

A build compiles the vertex stage, compiles the fragment stage and links the two.
The first step that the recorder refuses ends it, with the words of that refusal.
Whatever the recorder was put through before, no stage is left behind and the
program of a success has a number that was never handed out. -/

namespace LiveShader

/-! ## Steps and refusals -/

inductive BuildStep where
  | compile (stage : Stage)
  | link
  deriving DecidableEq, Repr

namespace BuildStep

def inOrder : List BuildStep := [.compile .vertex, .compile .fragment, .link]

/-- The error of a build that ends at the step. -/
def error : BuildStep → (diagnostic : String) → BuildError
  | .compile stage, diagnostic => .compile stage diagnostic
  | .link, diagnostic => .link diagnostic

end BuildStep

namespace Recorder

/-- What a recorder says against a step of a build from lowered sources. -/
def refusal? (lowered : StagePair) : BuildStep → Option String
  | .compile stage => directiveText? "#error " (lowered.source stage)
  | .link => directiveText? "#link-error " (lowered.vertex ++ "\n" ++ lowered.fragment)

/-- The error for the first step that is refused. -/
def firstRefusal? (lowered : StagePair) : Option BuildError :=
  BuildStep.inOrder.findSome? fun step => (refusal? lowered step).map step.error

/-- The compilations that a build asks for: the fragment stage is compiled exactly
if the vertex stage was. -/
def attempts (lowered : StagePair) : List (Stage × String) :=
  (.vertex, lowered.vertex) ::
    if refusal? lowered (.compile .vertex) = none then [(.fragment, lowered.fragment)] else []

section

variable {lowered : StagePair} {diagnostic : String}

theorem attempts_of_error (refused : refusal? lowered (.compile .vertex) = some diagnostic) :
    attempts lowered = [(.vertex, lowered.vertex)] := by
  simp [attempts, refused]

theorem attempts_of_ok (vertexCompiles : refusal? lowered (.compile .vertex) = none) :
    attempts lowered = [(.vertex, lowered.vertex), (.fragment, lowered.fragment)] := by
  simp [attempts, vertexCompiles]

theorem firstRefusal?_of_vertex
    (refused : refusal? lowered (.compile .vertex) = some diagnostic) :
    firstRefusal? lowered = some (.compile .vertex diagnostic) := by
  simp [firstRefusal?, BuildStep.inOrder, refused, BuildStep.error]

theorem firstRefusal?_of_fragment (vertexCompiles : refusal? lowered (.compile .vertex) = none)
    (refused : refusal? lowered (.compile .fragment) = some diagnostic) :
    firstRefusal? lowered = some (.compile .fragment diagnostic) := by
  simp [firstRefusal?, BuildStep.inOrder, vertexCompiles, refused, BuildStep.error]

theorem firstRefusal?_of_compiled (vertexCompiles : refusal? lowered (.compile .vertex) = none)
    (fragmentCompiles : refusal? lowered (.compile .fragment) = none) :
    firstRefusal? lowered = (refusal? lowered .link).map .link := by
  cases links : refusal? lowered .link <;>
    simp [firstRefusal?, BuildStep.inOrder, vertexCompiles, fragmentCompiles, links,
      BuildStep.error]

/-- A compile error names a stage together with that stage's own diagnostic. -/
theorem refusal?_of_firstRefusal? {stage : Stage}
    (first : firstRefusal? lowered = some (.compile stage diagnostic)) :
    refusal? lowered (.compile stage) = some diagnostic := by
  rcases List.exists_of_findSome?_eq_some first with ⟨step, _, named⟩
  rcases Option.map_eq_some_iff.mp named with ⟨text, refused, error⟩
  cases step with
  | compile other =>
      cases error
      exact refused
  | link => cases error

example : firstRefusal? { vertex := "#error one", fragment := "#error two" } =
    some (.compile .vertex "one") := by decide +kernel

end

/-! ## Runs of a recorder

A run is any finite sequence of calls on a recorder, mixed with what a test
scripts in between. -/

inductive RunStep where
  | call (operation : DeviceOperation)
  | script (script : RecorderScript)
  deriving DecidableEq, Repr

def perform (recorder : Recorder) : RunStep → Recorder
  | .call (.compileStage stage source) => (recorder.compileStage stage source).2
  | .call (.releaseStage stage) => recorder.releaseStage stage
  | .call (.linkProgram vertex fragment) => (recorder.linkProgram vertex fragment).2
  | .call (.releaseProgram program) => recorder.releaseProgram program
  | .call (.createQuad program _) => (recorder.createQuad program).2
  | .call (.releaseGeometry geometry) => recorder.releaseGeometry geometry
  | .call (.resizeBacking size) => recorder.resizeBacking size
  | .call (.useProgram program) => recorder.useProgram program
  | .call (.bindQuad geometry) => recorder.bindQuad geometry
  | .call (.setFloat location value) => recorder.writeUniform location (.float value)
  | .call (.setPair location first second) => recorder.writeUniform location (.pair first second)
  | .call .draw => recorder.draw.2
  | .call (.resizeWindow size) => recorder.setDisplay size
  | .script script => ScriptedDevice.follow recorder script

def after (recorder : Recorder) (steps : List RunStep) : Recorder :=
  steps.foldl perform recorder

/-- The number that a step hands out, if it makes an object. -/
def given? (recorder : Recorder) : RunStep → Option Nat
  | .call (.compileStage stage source) =>
      (recorder.compileStage stage source).1.toOption.map StageId.number
  | .call (.linkProgram vertex fragment) =>
      (recorder.linkProgram vertex fragment).1.toOption.map ProgramId.number
  | .call (.createQuad program _) =>
      (recorder.createQuad program).1.toOption.map GeometryId.number
  | _ => none

/-- The numbers of all objects that were made in a run, oldest first. -/
def numbersGiven (recorder : Recorder) : List RunStep → List Nat
  | [] => []
  | step :: rest => (recorder.given? step).toList ++ (recorder.perform step).numbersGiven rest

/-! ### What a step hands out -/

/-- An object that is live after a step was live before it, or has the number that
the step took from the counter. -/
structure HandsOut (before after : Recorder) (given : Option Nat) : Prop where
  nextNumber : after.nextNumber = before.nextNumber + given.toList.length
  fresh : ∀ number ∈ given, number = before.nextNumber
  stages : ∀ entry ∈ after.stages, entry ∈ before.stages ∨ entry.1.number ∈ given
  programs : ∀ entry ∈ after.programs, entry ∈ before.programs ∨ entry.1.number ∈ given
  geometries : ∀ geometry ∈ after.geometries,
    geometry ∈ before.geometries ∨ geometry.number ∈ given

section

variable {before after : Recorder} {given : Option Nat}

theorem HandsOut.wellNumbered (handsOut : HandsOut before after given)
    (numbered : before.WellNumbered) : after.WellNumbered := by
  have below : before.nextNumber ≤ after.nextNumber := by
    rw [handsOut.nextNumber]
    exact Nat.le_add_right _ _
  have new {number : Nat} (handed : number ∈ given) : number < after.nextNumber := by
    have counted := handsOut.nextNumber
    rw [Option.mem_def.mp handed] at counted
    rw [handsOut.fresh number handed, counted]
    exact Nat.lt_succ_self _
  constructor
  · intro entry member
    rcases handsOut.stages entry member with old | handed
    · exact Nat.lt_of_lt_of_le (numbered.stages entry old) below
    · exact new handed
  · intro entry member
    rcases handsOut.programs entry member with old | handed
    · exact Nat.lt_of_lt_of_le (numbered.programs entry old) below
    · exact new handed
  · intro geometry member
    rcases handsOut.geometries geometry member with old | handed
    · exact Nat.lt_of_lt_of_le (numbered.geometries geometry old) below
    · exact new handed

/-- A step that makes no object and takes none out of the counter. -/
theorem HandsOut.of_subset (nextNumber : after.nextNumber = before.nextNumber)
    (stages : after.stages ⊆ before.stages) (programs : after.programs ⊆ before.programs)
    (geometries : after.geometries ⊆ before.geometries) : HandsOut before after none where
  nextNumber := nextNumber
  fresh := by simp
  stages := fun _ member => .inl (stages member)
  programs := fun _ member => .inl (programs member)
  geometries := fun _ member => .inl (geometries member)

end

/-- Noting a misuse changes nothing else. -/
theorem exists_check (recorder : Recorder) (isLive : Bool) (misuse : Misuse) :
    ∃ misuses, recorder.check isLive misuse = { recorder with misuses } := by
  cases isLive with
  | false => exact ⟨recorder.misuses ++ [misuse], rfl⟩
  | true => exact ⟨recorder.misuses, rfl⟩

theorem handsOut_releaseStage (recorder : Recorder) (stage : StageId) :
    HandsOut recorder (recorder.releaseStage stage) none := by
  rcases exists_check recorder (recorder.liveStages.contains stage)
    (.stageReleasedTwice stage) with ⟨misuses, checked⟩
  simp only [releaseStage, checked]
  exact .of_subset rfl List.filter_sublist.subset (.refl _) (.refl _)

theorem handsOut_releaseProgram (recorder : Recorder) (program : ProgramId) :
    HandsOut recorder (recorder.releaseProgram program) none := by
  rcases exists_check recorder (recorder.livePrograms.contains program)
    (.programReleasedTwice program) with ⟨misuses, checked⟩
  simp only [releaseProgram, checked]
  exact .of_subset rfl (.refl _) List.filter_sublist.subset (.refl _)

theorem handsOut_releaseGeometry (recorder : Recorder) (geometry : GeometryId) :
    HandsOut recorder (recorder.releaseGeometry geometry) none := by
  rcases exists_check recorder (recorder.geometries.contains geometry)
    (.geometryReleasedTwice geometry) with ⟨misuses, checked⟩
  simp only [releaseGeometry, checked]
  exact .of_subset rfl (.refl _) (.refl _) List.filter_sublist.subset

theorem handsOut_useProgram (recorder : Recorder) (program : ProgramId) :
    HandsOut recorder (recorder.useProgram program) none := by
  rcases exists_check recorder (recorder.livePrograms.contains program)
    (.deadProgramUsed program) with ⟨misuses, checked⟩
  simp only [useProgram, checked]
  exact .of_subset rfl (.refl _) (.refl _) (.refl _)

theorem handsOut_bindQuad (recorder : Recorder) (geometry : GeometryId) :
    HandsOut recorder (recorder.bindQuad geometry) none := by
  rcases exists_check recorder (recorder.geometries.contains geometry)
    (.deadGeometryBound geometry) with ⟨misuses, checked⟩
  simp only [bindQuad, checked]
  exact .of_subset rfl (.refl _) (.refl _) (.refl _)

theorem handsOut_compileStage (recorder : Recorder) (stage : Stage) (source : String) :
    HandsOut recorder (recorder.compileStage stage source).2
      ((recorder.compileStage stage source).1.toOption.map StageId.number) := by
  cases found : directiveText? "#error " source with
  | some diagnostic =>
      rw [compileStage_of_error found]
      exact .of_subset rfl (.refl _) (.refl _) (.refl _)
  | none =>
      rw [compileStage_of_ok found]
      constructor <;> simp +contextual [Except.toOption, or_imp]

theorem handsOut_linkProgram (recorder : Recorder) (vertex fragment : StageId) :
    HandsOut recorder (recorder.linkProgram vertex fragment).2
      ((recorder.linkProgram vertex fragment).1.toOption.map ProgramId.number) := by
  cases found : directiveText? "#link-error " ((recorder.stageSource? vertex).getD "" ++ "\n" ++
      (recorder.stageSource? fragment).getD "") with
  | some diagnostic =>
      rw [linkProgram_of_error found]
      exact .of_subset rfl (.refl _) (.refl _) (.refl _)
  | none =>
      rw [linkProgram_of_ok found]
      constructor <;> simp +contextual [Except.toOption, or_imp]

theorem handsOut_createQuad (recorder : Recorder) (program : ProgramId) :
    HandsOut recorder (recorder.createQuad program).2
      ((recorder.createQuad program).1.toOption.map GeometryId.number) := by
  rcases exists_check recorder (recorder.livePrograms.contains program)
    (.quadForDeadProgram program) with ⟨misuses, checked⟩
  cases scripted : recorder.quadFailure with
  | some error =>
      simp only [createQuad, checked, scripted]
      exact .of_subset rfl (.refl _) (.refl _) (.refl _)
  | none =>
      simp only [createQuad, checked, scripted]
      constructor <;> simp +contextual [Except.toOption, or_imp]

theorem handsOut_draw (recorder : Recorder) : HandsOut recorder recorder.draw.2 none := by
  have same := sameObjects_draw recorder
  exact .of_subset same.nextNumber (same.stages ▸ .refl _) (same.programs ▸ .refl _)
    (same.geometries ▸ .refl _)

theorem handsOut_perform (recorder : Recorder) (step : RunStep) :
    HandsOut recorder (recorder.perform step) (recorder.given? step) := by
  cases step with
  | script script => cases script <;> exact .of_subset rfl (.refl _) (.refl _) (.refl _)
  | call operation =>
      cases operation with
      | compileStage stage source => exact handsOut_compileStage recorder stage source
      | releaseStage stage => exact handsOut_releaseStage recorder stage
      | linkProgram vertex fragment => exact handsOut_linkProgram recorder vertex fragment
      | releaseProgram program => exact handsOut_releaseProgram recorder program
      | createQuad program position => exact handsOut_createQuad recorder program
      | releaseGeometry geometry => exact handsOut_releaseGeometry recorder geometry
      | useProgram program => exact handsOut_useProgram recorder program
      | bindQuad geometry => exact handsOut_bindQuad recorder geometry
      | draw => exact handsOut_draw recorder
      | resizeBacking | setFloat | setPair | resizeWindow =>
          exact .of_subset rfl (.refl _) (.refl _) (.refl _)

/-! ### What a run hands out -/

/-- Live objects and the numbers of a list all lie below the counter. -/
structure IsAhead (recorder : Recorder) (given : List Nat) : Prop where
  numbered : recorder.WellNumbered
  given : ∀ number ∈ given, number < recorder.nextNumber

theorem isAhead_perform {recorder : Recorder} {given : List Nat} (ahead : recorder.IsAhead given)
    (step : RunStep) :
    (recorder.perform step).IsAhead (given ++ (recorder.given? step).toList) := by
  have handsOut := handsOut_perform recorder step
  refine ⟨handsOut.wellNumbered ahead.numbered, ?_⟩
  intro number member
  rcases List.mem_append.mp member with old | handed
  · rw [handsOut.nextNumber]
    exact Nat.lt_add_right _ (ahead.given number old)
  · rw [handsOut.fresh number (Option.mem_toList.mp handed), handsOut.nextNumber]
    exact Nat.lt_add_of_pos_right (List.length_pos_of_mem handed)

theorem isAhead_after {recorder : Recorder} {given : List Nat} (ahead : recorder.IsAhead given)
    (steps : List RunStep) :
    (recorder.after steps).IsAhead (given ++ recorder.numbersGiven steps) := by
  induction steps generalizing recorder given with
  | nil => simpa [after, numbersGiven] using ahead
  | cons step rest induction =>
      rw [numbersGiven, ← List.append_assoc]
      exact induction (isAhead_perform ahead step)

/-! ## Builds after a run -/

/-- What a build from a stage pair does to a recorder on which the numbers in
`used` had been handed out. -/
structure BuildsInOrder (before : Recorder) (used : List Nat) (pair : StagePair)
    (result : Except BuildError BuiltProgram) (after : Recorder) : Prop where
  stages : after.liveStages = before.liveStages
  succeeded : ∀ built, result = .ok built →
    after.livePrograms = before.livePrograms ++ [built.program] ∧ built.program.number ∉ used
  failed : ∀ error, result = .error error → after.livePrograms = before.livePrograms
  /-- The error is that of the first step that is refused. -/
  refused : ∀ error, result = .error error ↔ firstRefusal? (Glsl.lower pair) = some error
  /-- A compile error does not speak of the other stage. -/
  own : ∀ stage diagnostic, result = .error (.compile stage diagnostic) →
    directiveText? "#error " ((Glsl.lower pair).source stage) = some diagnostic
  compiled : after.compiled = before.compiled ++ attempts (Glsl.lower pair)
  /-- Each stage is released once. -/
  misuses : after.misuses = before.misuses

section

variable {before after : Recorder} {used : List Nat} {pair : StagePair}

theorem BuildsInOrder.of_error {error : BuildError}
    (first : firstRefusal? (Glsl.lower pair) = some error)
    (stages : after.stages = before.stages) (programs : after.programs = before.programs)
    (compiled : after.compiled = before.compiled ++ attempts (Glsl.lower pair))
    (misuses : after.misuses = before.misuses) :
    BuildsInOrder before used pair (.error error) after where
  stages := congrArg (List.map Prod.fst) stages
  succeeded := by simp
  failed := fun _ _ => congrArg (List.map Prod.fst) programs
  refused := by simp [first]
  own := by
    rintro stage diagnostic ⟨⟩
    exact refusal?_of_firstRefusal? first
  compiled := compiled
  misuses := misuses

theorem BuildsInOrder.of_ok {built : BuiltProgram} {sources : String}
    (first : firstRefusal? (Glsl.lower pair) = none)
    (stages : after.stages = before.stages)
    (programs : after.programs = before.programs ++ [(built.program, sources)])
    (unused : built.program.number ∉ used)
    (compiled : after.compiled = before.compiled ++ attempts (Glsl.lower pair))
    (misuses : after.misuses = before.misuses) :
    BuildsInOrder before used pair (.ok built) after where
  stages := congrArg (List.map Prod.fst) stages
  succeeded := by
    rintro other ⟨⟩
    exact ⟨by simp [livePrograms, programs], unused⟩
  failed := by simp
  refused := by simp [first]
  own := by simp
  compiled := compiled
  misuses := misuses

end

theorem buildsInOrder {recorder : Recorder} {used : List Nat} (ahead : recorder.IsAhead used)
    (pair : StagePair) :
    BuildsInOrder recorder used pair (buildProgram recorder pair).1
      (buildProgram recorder pair).2 := by
  cases vertexCompiles : directiveText? "#error " (Glsl.lower pair).vertex with
  | some diagnostic =>
      rw [buildProgram_of_vertex_error vertexCompiles]
      exact .of_error (firstRefusal?_of_vertex vertexCompiles) rfl rfl
        (by rw [attempts_of_error vertexCompiles]) rfl
  | none =>
      have attempted : attempts (Glsl.lower pair) =
          [(.vertex, (Glsl.lower pair).vertex), (.fragment, (Glsl.lower pair).fragment)] :=
        attempts_of_ok vertexCompiles
      cases fragmentCompiles : directiveText? "#error " (Glsl.lower pair).fragment with
      | some diagnostic =>
          rw [buildProgram_of_fragment_error vertexCompiles ahead.numbered fragmentCompiles]
          exact .of_error (firstRefusal?_of_fragment vertexCompiles fragmentCompiles) rfl rfl
            (by rw [attempted]) rfl
      | none =>
          have first : firstRefusal? (Glsl.lower pair) =
              (refusal? (Glsl.lower pair) .link).map .link :=
            firstRefusal?_of_compiled vertexCompiles fragmentCompiles
          cases links : directiveText? "#link-error "
              ((Glsl.lower pair).vertex ++ "\n" ++ (Glsl.lower pair).fragment) with
          | some diagnostic =>
              rw [buildProgram_of_link_error vertexCompiles fragmentCompiles ahead.numbered links]
              exact .of_error (first.trans (by simp [refusal?, links])) rfl rfl (by rw [attempted])
                rfl
          | none =>
              rcases exists_buildProgram_of_ok vertexCompiles fragmentCompiles ahead.numbered
                links with ⟨bindings, built⟩
              rw [built]
              have unused : recorder.nextNumber + 2 ∉ used := by
                intro member
                have below := ahead.given _ member
                omega
              exact .of_ok (first.trans (by simp [refusal?, links])) rfl rfl unused
                (by rw [attempted]) rfl

/-- A build on a recorder that was used in any way before. -/
theorem buildProgram_inOrder (knownUniforms : List String) (steps : List RunStep)
    (pair : StagePair) :
    let recorder := (create knownUniforms).after steps
    BuildsInOrder recorder ((create knownUniforms).numbersGiven steps) pair
      (buildProgram recorder pair).1 (buildProgram recorder pair).2 := by
  have initially : (create knownUniforms).IsAhead [] :=
    ⟨wellNumbered_create knownUniforms, by simp⟩
  exact buildsInOrder (isAhead_after initially steps) pair

end Recorder

end LiveShader
