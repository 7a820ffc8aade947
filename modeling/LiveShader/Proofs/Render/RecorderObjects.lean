import LiveShader.Render.Controller
import LiveShader.Render.Recorder

/-! # The objects of a recorder

What building, releasing and drawing do to the objects that live on a recorder.
Objects are numbered from one counter, so a new object is never one that is
already live. -/

namespace LiveShader

/-- Removing a key that was appended last, and only there, restores the list. -/
theorem filter_append_fresh {Key Value : Type} [DecidableEq Key]
    {entries : List (Key × Value)} {key : Key} (value : Value)
    (absent : ∀ entry ∈ entries, entry.1 ≠ key) :
    (entries ++ [(key, value)]).filter (fun entry => entry.1 ≠ key) = entries := by
  have kept : entries.filter (fun entry => entry.1 ≠ key) = entries := by
    apply List.filter_eq_self.mpr
    intro entry member
    simpa using absent entry member
  rw [List.filter_append, kept]
  simp

namespace Recorder

/-! ## Numbering -/

/-- Every live object got its number from the counter. -/
structure WellNumbered (recorder : Recorder) : Prop where
  stages : ∀ entry ∈ recorder.stages, entry.1.number < recorder.nextNumber
  programs : ∀ entry ∈ recorder.programs, entry.1.number < recorder.nextNumber
  geometries : ∀ geometry ∈ recorder.geometries, geometry.number < recorder.nextNumber

theorem wellNumbered_create (knownUniforms : List String) :
    (create knownUniforms).WellNumbered where
  stages := by simp [create]
  programs := by simp [create]
  geometries := by simp [create]

/-- The counter may run ahead of the live objects. -/
theorem WellNumbered.later {before after : Recorder} (numbered : before.WellNumbered)
    (stages : after.stages = before.stages) (programs : after.programs = before.programs)
    (geometries : after.geometries = before.geometries)
    (counted : before.nextNumber ≤ after.nextNumber) : after.WellNumbered where
  stages := by
    rw [stages]
    exact fun entry member => Nat.lt_of_lt_of_le (numbered.stages entry member) counted
  programs := by
    rw [programs]
    exact fun entry member => Nat.lt_of_lt_of_le (numbered.programs entry member) counted
  geometries := by
    rw [geometries]
    exact fun geometry member => Nat.lt_of_lt_of_le (numbered.geometries geometry member) counted

theorem WellNumbered.stage_ne {recorder : Recorder} (numbered : recorder.WellNumbered)
    {stage : StageId} (fresh : recorder.nextNumber ≤ stage.number) :
    ∀ entry ∈ recorder.stages, entry.1 ≠ stage := by
  intro entry member equal
  have below := numbered.stages entry member
  rw [equal] at below
  omega

theorem WellNumbered.program_ne {recorder : Recorder} (numbered : recorder.WellNumbered)
    {program : ProgramId} (fresh : recorder.nextNumber ≤ program.number) :
    ∀ entry ∈ recorder.programs, entry.1 ≠ program := by
  intro entry member equal
  have below := numbered.programs entry member
  rw [equal] at below
  omega

/-! ## Single operations -/

@[simp] theorem check_true (recorder : Recorder) (misuse : Misuse) :
    recorder.check true misuse = recorder := rfl

theorem compileStage_of_error {recorder : Recorder} {stage : Stage} {source diagnostic : String}
    (found : directiveText? "#error " source = some diagnostic) :
    recorder.compileStage stage source =
      (.error diagnostic,
        { recorder with compiled := recorder.compiled ++ [(stage, source)] }) := by
  simp [compileStage, found]

theorem compileStage_of_ok {recorder : Recorder} {stage : Stage} {source : String}
    (found : directiveText? "#error " source = none) :
    recorder.compileStage stage source =
      (.ok { number := recorder.nextNumber }, { recorder with
        compiled := recorder.compiled ++ [(stage, source)]
        nextNumber := recorder.nextNumber + 1
        stages := recorder.stages ++ [({ number := recorder.nextNumber }, source)] }) := by
  simp [compileStage, found]

theorem releaseStage_of_live {recorder : Recorder} {stage : StageId}
    (live : stage ∈ recorder.liveStages) :
    recorder.releaseStage stage =
      { recorder with stages := recorder.stages.filter fun entry => entry.1 ≠ stage } := by
  simp [releaseStage, live]

theorem releaseProgram_of_live {recorder : Recorder} {program : ProgramId}
    (live : program ∈ recorder.livePrograms) :
    recorder.releaseProgram program =
      { recorder with programs := recorder.programs.filter fun entry => entry.1 ≠ program } := by
  simp [releaseProgram, live]

theorem releaseGeometry_of_live {recorder : Recorder} {geometry : GeometryId}
    (live : geometry ∈ recorder.geometries) :
    recorder.releaseGeometry geometry =
      { recorder with
        geometries := recorder.geometries.filter fun other => other ≠ geometry } := by
  simp [releaseGeometry, live]

theorem useProgram_of_live {recorder : Recorder} {program : ProgramId}
    (live : program ∈ recorder.livePrograms) :
    recorder.useProgram program = { recorder with usedProgram := some program } := by
  simp [useProgram, live]

theorem bindQuad_of_live {recorder : Recorder} {geometry : GeometryId}
    (live : geometry ∈ recorder.geometries) :
    recorder.bindQuad geometry = { recorder with boundGeometry := some geometry } := by
  simp [bindQuad, live]

/-! ## Building

A build uses up numbers and is noted, whatever comes of it. Beyond that, a
success adds the new objects and a failure changes nothing. -/

theorem linkProgram_of_error {recorder : Recorder} {vertex fragment : StageId}
    {diagnostic : String}
    (found : directiveText? "#link-error " ((recorder.stageSource? vertex).getD "" ++ "\n" ++
      (recorder.stageSource? fragment).getD "") = some diagnostic) :
    recorder.linkProgram vertex fragment = (.error diagnostic, recorder) := by
  simp [linkProgram, found]

theorem linkProgram_of_ok {recorder : Recorder} {vertex fragment : StageId}
    (found : directiveText? "#link-error " ((recorder.stageSource? vertex).getD "" ++ "\n" ++
      (recorder.stageSource? fragment).getD "") = none) :
    recorder.linkProgram vertex fragment =
      (.ok { number := recorder.nextNumber }, { recorder with
        nextNumber := recorder.nextNumber + 1
        programs := recorder.programs ++ [({ number := recorder.nextNumber },
          (recorder.stageSource? vertex).getD "" ++ "\n" ++
            (recorder.stageSource? fragment).getD "")] }) := by
  simp [linkProgram, found]

/-- Releasing the two stages that were compiled last leaves the older ones. -/
theorem releaseStage_releaseStage {recorder : Recorder} {stages : List (StageId × String)}
    {vertex fragment : StageId} {vertexSource fragmentSource : String}
    (pending : recorder.stages = stages ++ [(vertex, vertexSource), (fragment, fragmentSource)])
    (vertexFresh : ∀ entry ∈ stages, entry.1 ≠ vertex)
    (fragmentFresh : ∀ entry ∈ stages, entry.1 ≠ fragment)
    (different : fragment ≠ vertex) :
    (recorder.releaseStage vertex).releaseStage fragment = { recorder with stages } := by
  have afterVertex : recorder.releaseStage vertex =
      { recorder with stages := stages ++ [(fragment, fragmentSource)] } := by
    rw [releaseStage_of_live (by simp [liveStages, pending])]
    have split : recorder.stages =
        (stages ++ [(vertex, vertexSource)]) ++ [(fragment, fragmentSource)] := by
      simp [pending]
    rw [split, List.filter_append, filter_append_fresh vertexSource vertexFresh]
    simp [different]
  rw [afterVertex, releaseStage_of_live (by simp [liveStages])]
  simp only [filter_append_fresh fragmentSource fragmentFresh]

/-- The two stages that were compiled last are found under their numbers. -/
theorem stageSource?_of_pending {recorder : Recorder} {stages : List (StageId × String)}
    {vertex fragment : StageId} {vertexSource fragmentSource : String}
    (pending : recorder.stages = stages ++ [(vertex, vertexSource), (fragment, fragmentSource)])
    (vertexFresh : ∀ entry ∈ stages, entry.1 ≠ vertex)
    (fragmentFresh : ∀ entry ∈ stages, entry.1 ≠ fragment)
    (different : fragment ≠ vertex) :
    recorder.stageSource? vertex = some vertexSource ∧
      recorder.stageSource? fragment = some fragmentSource := by
  have older {stage : StageId} (fresh : ∀ entry ∈ stages, entry.1 ≠ stage) :
      stages.lookup stage = none := by
    rw [List.lookup_eq_none_iff]
    intro entry member
    simpa using (fresh entry member).symm
  have apart : (fragment == vertex) = false := beq_false_of_ne different
  constructor
  · rw [stageSource?, pending, List.lookup_append, older vertexFresh]
    simp
  · rw [stageSource?, pending, List.lookup_append, older fragmentFresh]
    simp [List.lookup_cons, apart]

section

variable {recorder : Recorder} {stages : List (StageId × String)} {vertex fragment : StageId}
variable {vertexSource fragmentSource : String}
variable (pending : recorder.stages =
  stages ++ [(vertex, vertexSource), (fragment, fragmentSource)])
variable (vertexFresh : ∀ entry ∈ stages, entry.1 ≠ vertex)
variable (fragmentFresh : ∀ entry ∈ stages, entry.1 ≠ fragment) (different : fragment ≠ vertex)

include pending vertexFresh fragmentFresh different

theorem linkStages_of_error {diagnostic : String}
    (found : directiveText? "#link-error " (vertexSource ++ "\n" ++ fragmentSource) =
      some diagnostic) :
    linkStages recorder vertex fragment =
      (.error (.link diagnostic), { recorder with stages }) := by
  rcases stageSource?_of_pending pending vertexFresh fragmentFresh different with
    ⟨vertexKnown, fragmentKnown⟩
  have refused : recorder.linkProgram vertex fragment = (.error diagnostic, recorder) :=
    linkProgram_of_error (by rw [vertexKnown, fragmentKnown]; exact found)
  have released := releaseStage_releaseStage pending vertexFresh fragmentFresh different
  simp only [linkStages, GraphicsDevice.linkProgram, GraphicsDevice.releaseStage, refused, released]

theorem exists_linkStages_of_ok
    (found : directiveText? "#link-error " (vertexSource ++ "\n" ++ fragmentSource) = none) :
    ∃ bindings, linkStages recorder vertex fragment =
      (.ok { program := { number := recorder.nextNumber }, bindings }, { recorder with
        stages
        nextNumber := recorder.nextNumber + 1
        programs := recorder.programs ++
          [({ number := recorder.nextNumber }, vertexSource ++ "\n" ++ fragmentSource)] }) := by
  rcases stageSource?_of_pending pending vertexFresh fragmentFresh different with
    ⟨vertexKnown, fragmentKnown⟩
  let withProgram : Recorder := { recorder with
    nextNumber := recorder.nextNumber + 1
    programs := recorder.programs ++
      [({ number := recorder.nextNumber }, vertexSource ++ "\n" ++ fragmentSource)] }
  have linked : recorder.linkProgram vertex fragment =
      (.ok { number := recorder.nextNumber }, withProgram) := by
    rw [linkProgram_of_ok (by rw [vertexKnown, fragmentKnown]; exact found), vertexKnown,
      fragmentKnown]
    rfl
  have released : (withProgram.releaseStage vertex).releaseStage fragment =
      { withProgram with stages } :=
    releaseStage_releaseStage pending vertexFresh fragmentFresh different
  have succeeded : linkStages recorder vertex fragment =
      (.ok { program := { number := recorder.nextNumber }
             bindings := resolveBindings { withProgram with stages }
               { number := recorder.nextNumber } }, { withProgram with stages }) := by
    simp only [linkStages, GraphicsDevice.linkProgram, GraphicsDevice.releaseStage, linked,
      released]
  exact ⟨_, succeeded⟩

end

/-! ### The exits of a build

There is one for each step that can be refused, and one for success. -/

section

variable {recorder : Recorder} {pair : StagePair} {diagnostic : String}

theorem buildProgram_of_vertex_error
    (refused : directiveText? "#error " (Glsl.lower pair).vertex = some diagnostic) :
    buildProgram recorder pair = (.error (.compile .vertex diagnostic), { recorder with
      compiled := recorder.compiled ++ [(.vertex, (Glsl.lower pair).vertex)] }) := by
  simp only [buildProgram, GraphicsDevice.compileStage, compileStage_of_error refused]

/-- The recorder after the stages of a pair have been compiled. -/
def withCompiled (recorder : Recorder) (pair : StagePair) : Recorder :=
  { recorder with
    compiled := recorder.compiled ++
      [(.vertex, (Glsl.lower pair).vertex), (.fragment, (Glsl.lower pair).fragment)]
    nextNumber := recorder.nextNumber + 2
    stages := recorder.stages ++
      [({ number := recorder.nextNumber }, (Glsl.lower pair).vertex),
        ({ number := recorder.nextNumber + 1 }, (Glsl.lower pair).fragment)] }

theorem withCompiled_stages (recorder : Recorder) (pair : StagePair) :
    (recorder.withCompiled pair).stages = recorder.stages ++
      [({ number := recorder.nextNumber }, (Glsl.lower pair).vertex),
        ({ number := recorder.nextNumber + 1 }, (Glsl.lower pair).fragment)] :=
  rfl

variable (vertexCompiles : directiveText? "#error " (Glsl.lower pair).vertex = none)

include vertexCompiles

theorem buildProgram_of_fragment_error (numbered : recorder.WellNumbered)
    (refused : directiveText? "#error " (Glsl.lower pair).fragment = some diagnostic) :
    buildProgram recorder pair = (.error (.compile .fragment diagnostic), { recorder with
      compiled := recorder.compiled ++
        [(.vertex, (Glsl.lower pair).vertex), (.fragment, (Glsl.lower pair).fragment)]
      nextNumber := recorder.nextNumber + 1 }) := by
  have vertexFresh : ∀ entry ∈ recorder.stages, entry.1 ≠ { number := recorder.nextNumber } :=
    numbered.stage_ne (Nat.le_refl _)
  simp only [buildProgram, GraphicsDevice.compileStage, GraphicsDevice.releaseStage,
    compileStage_of_ok vertexCompiles, compileStage_of_error refused]
  rw [releaseStage_of_live (by simp [liveStages])]
  simp only [filter_append_fresh _ vertexFresh, List.append_assoc, List.cons_append,
    List.nil_append]

variable (fragmentCompiles : directiveText? "#error " (Glsl.lower pair).fragment = none)

include fragmentCompiles

theorem buildProgram_of_compiled :
    buildProgram recorder pair =
      linkStages (recorder.withCompiled pair) { number := recorder.nextNumber }
        { number := recorder.nextNumber + 1 } := by
  simp only [buildProgram, GraphicsDevice.compileStage, compileStage_of_ok vertexCompiles,
    compileStage_of_ok fragmentCompiles, withCompiled, List.append_assoc, List.cons_append,
    List.nil_append]

variable (numbered : recorder.WellNumbered)

include numbered

theorem buildProgram_of_link_error
    (refused : directiveText? "#link-error "
      ((Glsl.lower pair).vertex ++ "\n" ++ (Glsl.lower pair).fragment) = some diagnostic) :
    buildProgram recorder pair = (.error (.link diagnostic), { recorder with
      compiled := recorder.compiled ++
        [(.vertex, (Glsl.lower pair).vertex), (.fragment, (Glsl.lower pair).fragment)]
      nextNumber := recorder.nextNumber + 2 }) := by
  rw [buildProgram_of_compiled vertexCompiles fragmentCompiles]
  exact linkStages_of_error (withCompiled_stages recorder pair)
    (numbered.stage_ne (Nat.le_refl _)) (numbered.stage_ne (Nat.le_succ _)) (by simp) refused

theorem exists_buildProgram_of_ok
    (links : directiveText? "#link-error "
      ((Glsl.lower pair).vertex ++ "\n" ++ (Glsl.lower pair).fragment) = none) :
    ∃ bindings, buildProgram recorder pair =
      (.ok { program := { number := recorder.nextNumber + 2 }, bindings }, { recorder with
        compiled := recorder.compiled ++
          [(.vertex, (Glsl.lower pair).vertex), (.fragment, (Glsl.lower pair).fragment)]
        nextNumber := recorder.nextNumber + 3
        programs := recorder.programs ++ [({ number := recorder.nextNumber + 2 },
          (Glsl.lower pair).vertex ++ "\n" ++ (Glsl.lower pair).fragment)] }) := by
  rw [buildProgram_of_compiled vertexCompiles fragmentCompiles]
  exact exists_linkStages_of_ok (withCompiled_stages recorder pair)
    (numbered.stage_ne (Nat.le_refl _)) (numbered.stage_ne (Nat.le_succ _)) (by simp) links

end

/-- A program built on a recorder is new; nothing else becomes live or dies. -/
theorem buildProgram_cases {recorder : Recorder} (numbered : recorder.WellNumbered)
    (pair : StagePair) :
    (∃ error next compiled, recorder.nextNumber ≤ next ∧ recorder.compiled <+: compiled ∧
      buildProgram recorder pair =
        (.error error, { recorder with nextNumber := next, compiled })) ∨
    (∃ built next compiled sources,
      recorder.nextNumber ≤ built.program.number ∧ built.program.number < next ∧
      recorder.compiled <+: compiled ∧ buildProgram recorder pair = (.ok built, { recorder with
        nextNumber := next
        compiled
        programs := recorder.programs ++ [(built.program, sources)] })) := by
  cases vertexCompiles : directiveText? "#error " (Glsl.lower pair).vertex with
  | some diagnostic =>
      exact .inl ⟨_, recorder.nextNumber, _, Nat.le_refl _, List.prefix_append _ _,
        buildProgram_of_vertex_error vertexCompiles⟩
  | none =>
      cases fragmentCompiles : directiveText? "#error " (Glsl.lower pair).fragment with
      | some diagnostic =>
          exact .inl ⟨_, _, _, Nat.le_succ _, List.prefix_append _ _,
            buildProgram_of_fragment_error vertexCompiles numbered fragmentCompiles⟩
      | none =>
          cases links : directiveText? "#link-error "
              ((Glsl.lower pair).vertex ++ "\n" ++ (Glsl.lower pair).fragment) with
          | some diagnostic =>
              exact .inl ⟨_, _, _, Nat.le_add_right _ 2, List.prefix_append _ _,
                buildProgram_of_link_error vertexCompiles fragmentCompiles numbered links⟩
          | none =>
              rcases exists_buildProgram_of_ok vertexCompiles fragmentCompiles numbered links with
                ⟨bindings, built⟩
              exact .inr ⟨_, _, _, _, Nat.le_add_right _ 2, Nat.lt_succ_self _,
                List.prefix_append _ _, built⟩

theorem createQuad_of_error {recorder : Recorder} {program : ProgramId} {error : ResourceError}
    (live : program ∈ recorder.livePrograms) (scripted : recorder.quadFailure = some error) :
    recorder.createQuad program = (.error error, { recorder with quadFailure := none }) := by
  simp [createQuad, live, scripted]

theorem createQuad_of_ok {recorder : Recorder} {program : ProgramId}
    (live : program ∈ recorder.livePrograms) (scripted : recorder.quadFailure = none) :
    recorder.createQuad program = (.ok { number := recorder.nextNumber }, { recorder with
      nextNumber := recorder.nextNumber + 1
      geometries := recorder.geometries ++ [{ number := recorder.nextNumber }] }) := by
  simp [createQuad, live, scripted]

/-- A failure scripted for the next quad still waits, or has become the error of a
build. -/
def QuadSpent (before after : Option ResourceError) (error : BuildError) : Prop :=
  after = before ∨ ∃ refused, before = some refused ∧ error = .resource refused ∧ after = none

/-- What a build for the frames of a source does to a recorder. A failure leaves
behind no more than used up numbers, notes and a spent failure. -/
theorem build_cases {recorder : Recorder} (numbered : recorder.WellNumbered) (source : String) :
    (∃ error next compiled quadFailure, recorder.nextNumber ≤ next ∧
      recorder.compiled <+: compiled ∧ QuadSpent recorder.quadFailure quadFailure error ∧
      Controller.build recorder source =
        (.error error, { recorder with nextNumber := next, compiled, quadFailure })) ∨
    (∃ bindings next compiled sources,
      recorder.nextNumber ≤ bindings.program.number ∧ bindings.program.number < next ∧
      recorder.nextNumber ≤ bindings.geometry.number ∧ bindings.geometry.number < next ∧
      Controller.build recorder source = (.ok bindings, { recorder with
        nextNumber := next
        compiled
        programs := recorder.programs ++ [(bindings.program, sources)]
        geometries := recorder.geometries ++ [bindings.geometry] })) := by
  cases splits : splitStages source with
  | error error =>
      have failed : Controller.build recorder source = (.error (.split error), recorder) := by
        simp only [Controller.build, splits]
      exact .inl ⟨_, _, _, _, Nat.le_refl _, List.prefix_refl _, .inl rfl, failed⟩
  | ok pair =>
      rcases buildProgram_cases numbered pair with
        ⟨error, next, compiled, later, noted, failed⟩ |
        ⟨built, next, compiled, sources, fresh, counted, noted, succeeded⟩
      · have buildFailed : Controller.build recorder source = (.error error,
            { recorder with nextNumber := next, compiled }) := by
          simp only [Controller.build, splits, failed]
        exact .inl ⟨_, _, _, _, later, noted, .inl rfl, buildFailed⟩
      · let withProgram : Recorder := { recorder with
          nextNumber := next
          compiled
          programs := recorder.programs ++ [(built.program, sources)] }
        have live : built.program ∈ withProgram.livePrograms := by
          simp [withProgram, livePrograms]
        have programFresh := numbered.program_ne fresh
        have later : recorder.nextNumber ≤ next := by omega
        rcases Option.eq_none_or_eq_some recorder.quadFailure with scripted | ⟨error, scripted⟩
        · let bindings : FrameBindings := {
            program := built.program
            geometry := { number := next }
            position := built.bindings.position
            time := built.bindings.time
            resolution := built.bindings.resolution }
          let withQuad : Recorder := { withProgram with
            nextNumber := next + 1
            geometries := recorder.geometries ++ [{ number := next }] }
          have quadMade : withProgram.createQuad built.program =
              (.ok { number := next }, withQuad) := createQuad_of_ok live scripted
          have made : Controller.build recorder source = (.ok bindings, withQuad) := by
            simp only [Controller.build, splits, succeeded, GraphicsDevice.createQuad]
            simp only [withProgram] at quadMade
            rw [quadMade]
          exact .inr ⟨bindings, _, _, sources, fresh, Nat.lt_succ_of_lt counted, later,
            Nat.lt_succ_self _, made⟩
        · let refused : Recorder := { withProgram with quadFailure := none }
          have quadFailed : withProgram.createQuad built.program = (.error error, refused) :=
            createQuad_of_error live scripted
          have released : refused.releaseProgram built.program =
              { refused with programs := recorder.programs } := by
            rw [releaseProgram_of_live (show built.program ∈ refused.livePrograms from live)]
            simp only [refused, withProgram, filter_append_fresh _ programFresh]
          have failed : Controller.build recorder source =
              (.error (.resource error), { refused with programs := recorder.programs }) := by
            simp only [Controller.build, splits, succeeded, GraphicsDevice.createQuad,
              GraphicsDevice.releaseProgram]
            simp only [withProgram] at quadFailed
            rw [quadFailed]
            simp only [released]
          exact .inl ⟨_, _, _, _, later, noted, .inr ⟨error, scripted, rfl, rfl⟩, failed⟩

/-! ## Drawing -/

/-- The same objects are live, and neither a number was given nor a misuse
noted. -/
structure SameObjects (before after : Recorder) : Prop where
  nextNumber : after.nextNumber = before.nextNumber
  stages : after.stages = before.stages
  programs : after.programs = before.programs
  geometries : after.geometries = before.geometries
  misuses : after.misuses = before.misuses

theorem SameObjects.refl (recorder : Recorder) : SameObjects recorder recorder :=
  ⟨rfl, rfl, rfl, rfl, rfl⟩

theorem SameObjects.trans {first second third : Recorder}
    (before : SameObjects first second) (later : SameObjects second third) :
    SameObjects first third :=
  ⟨later.nextNumber.trans before.nextNumber, later.stages.trans before.stages,
    later.programs.trans before.programs, later.geometries.trans before.geometries,
    later.misuses.trans before.misuses⟩

theorem sameObjects_resizeBacking (recorder : Recorder) (size : Size) :
    SameObjects recorder (recorder.resizeBacking size) := ⟨rfl, rfl, rfl, rfl, rfl⟩

theorem sameObjects_writeUniform (recorder : Recorder) (location : UniformLocation)
    (value : UniformValue) :
    SameObjects recorder (recorder.writeUniform location value) := ⟨rfl, rfl, rfl, rfl, rfl⟩

theorem sameObjects_draw (recorder : Recorder) : SameObjects recorder recorder.draw.2 := by
  unfold draw
  split <;> exact ⟨rfl, rfl, rfl, rfl, rfl⟩

theorem sameObjects_useProgram {recorder : Recorder} {program : ProgramId}
    (live : program ∈ recorder.livePrograms) :
    SameObjects recorder (recorder.useProgram program) := by
  rw [useProgram_of_live live]
  exact ⟨rfl, rfl, rfl, rfl, rfl⟩

theorem sameObjects_bindQuad {recorder : Recorder} {geometry : GeometryId}
    (live : geometry ∈ recorder.geometries) :
    SameObjects recorder (recorder.bindQuad geometry) := by
  rw [bindQuad_of_live live]
  exact ⟨rfl, rfl, rfl, rfl, rfl⟩

theorem sameObjects_matchDisplay (recorder : Recorder) :
    SameObjects recorder (FrameLoop.matchDisplay recorder) := by
  unfold FrameLoop.matchDisplay
  split
  · exact .refl recorder
  · exact sameObjects_resizeBacking recorder _

theorem sameObjects_feed {recorder : Recorder} {bindings : FrameBindings}
    (program : bindings.program ∈ recorder.livePrograms)
    (geometry : bindings.geometry ∈ recorder.geometries) (seconds : Single) :
    SameObjects recorder (FrameLoop.feed recorder bindings seconds) := by
  have used := sameObjects_useProgram program
  have bound := used.trans (sameObjects_bindQuad (used.geometries ▸ geometry))
  unfold FrameLoop.feed
  cases bindings.time <;> cases bindings.resolution
  · exact bound
  · exact bound.trans (sameObjects_writeUniform _ _ _)
  · exact bound.trans (sameObjects_writeUniform _ _ _)
  · exact (bound.trans (sameObjects_writeUniform _ _ _)).trans (sameObjects_writeUniform _ _ _)

/-- A frame of a live program and quad changes no object, even if it fails. -/
theorem sameObjects_drawFrame {recorder : Recorder} {bindings : FrameBindings}
    (program : bindings.program ∈ recorder.livePrograms)
    (geometry : bindings.geometry ∈ recorder.geometries) (seconds : Single) :
    SameObjects recorder (FrameLoop.drawFrame recorder bindings seconds).2 := by
  have matched := sameObjects_matchDisplay recorder
  have livePrograms : (FrameLoop.matchDisplay recorder).livePrograms = recorder.livePrograms := by
    simp only [Recorder.livePrograms, matched.programs]
  have fed := matched.trans (sameObjects_feed (livePrograms ▸ program)
    (matched.geometries ▸ geometry) seconds)
  have drawn := fed.trans (sameObjects_draw _)
  unfold FrameLoop.drawFrame
  simp only [GraphicsDevice.draw]
  rcases attempt : (FrameLoop.feed (FrameLoop.matchDisplay recorder) bindings seconds).draw with
    ⟨result, device⟩
  rw [attempt] at drawn
  cases result with
  | ok _ => exact drawn
  | error error =>
      cases error with
      | surfaceLost => exact drawn.trans (sameObjects_resizeBacking device _)
      | surfaceTimeout => exact drawn
      | fatal _ => exact drawn

end Recorder

end LiveShader
