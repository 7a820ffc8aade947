import LiveShader.Proofs.History
import LiveShader.Proofs.Studio.Response

/-! # Where repaired sources come from

A fix is meant for a source of the cycle it is asked in. What the studio goes by is
the generation a source was submitted under, and `:run` submits the last source
under the current generation, wherever it came from. So a fix can be asked for a
source that is left over from an earlier cycle, but in no other way. -/

namespace LiveShader

variable {View : Type}

/-- Whether an input can come: the preview tells only of builds of what was
submitted, with the generation it was submitted under. -/
def StudioInput.CanFollow (past : List StudioHappening) : StudioInput View → Prop
  | report (.running generation source) => .called (.execute generation source) ∈ past
  | report (.buildFailed generation failure) =>
      .called (.execute generation failure.source) ∈ past
  | _ => True

/-- The past and the present of a session that goes on. -/
inductive Studio.Course [Preview View] : List StudioHappening → Studio View → Prop where
  | opened (preview : View) (presets : Presets) (autoFix : Bool) :
      Course [] (create preview presets autoFix)
  /-- A source was given at the start. -/
  | begun (preview : View) (presets : Presets) (autoFix : Bool) (source : String)
      (proceeds : ((create preview presets autoFix).submit source).result = .ok .proceed) :
      Course [.entered 0 source, .called (.execute 0 source)]
        ((create preview presets autoFix).submit source).studio
  | went {past : List StudioHappening} {studio : Studio View} {input : StudioInput View}
      (course : Course past studio) (canFollow : input.CanFollow past)
      (proceeds : (studio.respond input).result = .ok .proceed) :
      Course (past ++ studio.happenings input) (studio.respond input).studio

/-! ## Cycles of their own -/

/-- A fix is asked for a source that entered in the generation of its ticket. -/
def FixRequest.IsOwn (past : List StudioHappening) (request : FixRequest) : Prop :=
  .entered request.ticket.generation request.code ∈ past

/-- No source left over from an earlier generation is run again while attempts are
left. -/
def StudioHappening.IsOwnRerun (past : List StudioHappening) : StudioHappening → Prop
  | rerun cycle source =>
      cycle.attemptsUsed < cycle.maxAttempts → .entered cycle.generation source ∈ past
  | _ => True

/-! ## What a session keeps -/

/-- The past accounts for a studio: what was submitted is known, the failure at hand
was submitted under the current generation, and the cycle is not behind. -/
structure Traced (past : List StudioHappening) (studio : Studio View) : Prop where
  submitted : ∀ generation source, .called (.execute generation source) ∈ past →
    IsKnown past generation source
  failure : ∀ failure, studio.lastFailure = some failure →
    .called (.execute studio.cycle.generation failure.source) ∈ past
  reruns : ∀ cycle source, .rerun cycle source ∈ past → cycle.Precedes studio.cycle

namespace Traced

variable {past : List StudioHappening} {studio : Studio View} {input : StudioInput View}

/-- While attempts are left and no source left over was run again, a known source
has entered in the current generation. -/
theorem entered_of_isKnown (traced : Traced past studio)
    (own : Obeys StudioHappening.IsOwnRerun past)
    (left : studio.cycle.attemptsUsed < studio.cycle.maxAttempts) {source : String}
    (known : IsKnown past studio.cycle.generation source) :
    .entered studio.cycle.generation source ∈ past := by
  rcases known with entered | ⟨cycle, rerun, generation⟩
  · exact entered
  · rcases List.append_of_mem rerun with ⟨early, late, split⟩
    have leftThen : cycle.attemptsUsed < cycle.maxAttempts := by
      have progress := traced.reruns cycle source rerun
      unfold FixCycle.Precedes at progress
      omega
    have entered := own early _ late split leftThen
    rw [generation] at entered
    rw [split]
    exact List.mem_append_left _ entered

variable [Preview View]

theorem respond (traced : Traced past studio) (canFollow : input.CanFollow past) :
    Traced (past ++ studio.happenings input) (studio.respond input).studio where
  submitted := by
    intro generation source member
    rcases List.mem_append.mp member with earlier | now
    · exact (traced.submitted generation source earlier).mono (List.subset_append_left _ _)
    · exact (Studio.submitted_isKnown now).mono (List.subset_append_right _ _)
  failure := by
    intro failure failed
    apply List.mem_append_left
    rcases Studio.lastFailure_respond failed with ⟨generation, rfl | same⟩
    · rw [generation]
      exact canFollow
    · rw [generation]
      exact traced.failure failure same
  reruns := by
    intro cycle source member
    have progress := studio.precedes_respond input
    rcases List.mem_append.mp member with earlier | now
    · exact (traced.reruns cycle source earlier).trans progress
    · rw [Studio.rerun_of_mem_happenings now]
      exact progress

/-- A fix is asked for while attempts are left, and for a known source. -/
theorem fix_isKnown (traced : Traced past studio) (canFollow : input.CanFollow past)
    {request : FixRequest} (asked : .fix request ∈ (studio.respond input).requests) :
    request.ticket = studio.cycle.ticket ∧
      studio.cycle.attemptsUsed < studio.cycle.maxAttempts ∧
      IsKnown past studio.cycle.generation request.code := by
  rcases Studio.fix_mem_respond_iff.mp asked with ⟨failure, moves, rfl⟩
  have makes := studio.makes_move input
  rw [moves] at makes
  cases makes with
  | fix failed fixable left =>
      exact ⟨rfl, by omega, traced.submitted _ _ (traced.failure failure failed)⟩
  | repair fixable left => exact ⟨rfl, by omega, traced.submitted _ _ canFollow⟩

/-- The failed build of a source that did not enter in the current generation neither
starts a fix nor reserves an attempt. -/
theorem leftover_buildFailed (traced : Traced past studio)
    (own : Obeys StudioHappening.IsOwnRerun past) {generation : Nat} {failure : BuildFailure}
    (submitted : .called (.execute generation failure.source) ∈ past)
    (leftover : .entered studio.cycle.generation failure.source ∉ past) :
    (studio.respond (.report (.buildFailed generation failure))).requests = [] ∧
      (studio.respond (.report (.buildFailed generation failure))).studio.cycle =
        studio.cycle := by
  have waits : studio.move (.report (.buildFailed generation failure)) = .wait := by
    rw [Studio.move, Studio.reportMove]
    split
    case isFalse => rfl
    case isTrue allowed =>
      apply Studio.fixMove_of_exhausted
      apply Nat.le_of_not_lt
      intro left
      have known := traced.submitted _ _ submitted
      rw [allowed.1] at known
      exact leftover (traced.entered_of_isKnown own (by omega) known)
  have comes := studio.respond_comesTo (.report (.buildFailed generation failure))
  rw [waits] at comes
  exact ⟨comes.requests, by rw [comes.studio]; rfl⟩

end Traced

/-! ## Courses -/

namespace Studio.Course

variable [Preview View] {past : List StudioHappening} {studio : Studio View}

theorem traced (course : Course past studio) : Traced past studio := by
  induction course with
  | opened preview presets autoFix =>
      exact
        { submitted := by simp
          failure := by simp [create]
          reruns := by simp }
  | begun preview presets autoFix source proceeds =>
      exact
        { submitted := by simp [IsKnown]
          failure := by simp [create, submit, Reaction.silent]
          reruns := by simp }
  | went course canFollow proceeds induction => exact induction.respond canFollow

/-- The fixes in flight may all fail. -/
theorem drained (course : Course past studio) :
    Course past { studio with cycle := { studio.cycle with inFlight := 0 } } := by
  refine studio.of_drained (fun before => Course past before → Course past _)
    (fun before later course => later ?_) id course
  have went : Course (past ++ before.happenings before.fixFailed) _ :=
    course.went trivial (respond_fixFailed before).1
  rwa [happenings_fixFailed, List.append_nil] at went

/-- A source that was submitted under the current generation may fail to build, and
the session can go on to ask for a fix of it if an attempt is free. -/
theorem failed_fixed (course : Course past studio) {source : String}
    (submitted : .called (.execute studio.cycle.generation source) ∈ past)
    (left : studio.cycle.attemptsUsed + studio.cycle.inFlight < studio.cycle.maxAttempts) :
    ∃ (later : Studio View) (input : StudioInput View) (request : FixRequest),
      Course past later ∧ input.CanFollow past ∧
        .fix request ∈ (later.respond input).requests ∧
        request.ticket = studio.cycle.ticket ∧ request.code = source := by
  let failure : BuildFailure := { source, error := .compile .vertex "" }
  let report : StudioInput View := .report (.buildFailed studio.cycle.generation failure)
  have fixable : failure.error.isFixable := rfl
  by_cases automatic : studio.autoFix
  · have moves : studio.move report = .fix failure := by
      rw [← fixMove_of_left left failure]
      exact if_pos ⟨rfl, fixable, automatic⟩
    exact ⟨studio, report, _, course, submitted, fix_mem_respond_iff.mpr ⟨failure, moves, rfl⟩,
      rfl, rfl⟩
  · have waits : studio.move report = .wait := if_neg fun allowed => automatic allowed.2.2
    have comes := studio.respond_comesTo report
    rw [waits] at comes
    have nothing : studio.happenings report = [] := by
      simp only [happenings, report, calls_report, heard, List.map_nil, List.append_nil]
    have offered : Course (past ++ studio.happenings report) (studio.respond report).studio :=
      course.went submitted comes.result
    rw [nothing, List.append_nil, comes.studio] at offered
    have moves : (studio.informed report).move (.event (.command .fix)) = .fix failure :=
      move_fix _ (if_pos rfl) fixable left
    exact ⟨_, .event (.command .fix), _, offered, trivial,
      fix_mem_respond_iff.mpr ⟨failure, moves, rfl⟩, rfl, rfl⟩

/-- When a source left over from an earlier generation is run again while attempts
are left, the session can go on to ask for a fix of it. -/
theorem leftover_fixed (course : Course past studio) {source : String}
    (last : studio.lastSource = some source)
    (left : studio.cycle.attemptsUsed < studio.cycle.maxAttempts)
    (leftover : .entered studio.cycle.generation source ∉ past)
    (proceeds : (studio.respond (.event (.command .run))).result = .ok .proceed) :
    let told := past ++ studio.happenings (.event (.command .run))
    ∃ (later : Studio View) (input : StudioInput View) (request : FixRequest),
      Course told later ∧ input.CanFollow told ∧
        .fix request ∈ (later.respond input).requests ∧ ¬request.IsOwn told := by
  intro told
  have happened : studio.happenings (.event (.command .run)) =
      [.rerun studio.cycle source, .called (.execute studio.cycle.generation source)] :=
    happenings_run last
  have again : Course told (studio.respond (.event (.command .run))).studio :=
    course.went trivial proceeds
  have responds : studio.respond (.event (.command .run)) = studio.submit source := by
    simp only [respond, handle, onCommand, last]
  rw [responds] at again
  have submitted : .called (.execute studio.cycle.generation source) ∈ told := by
    simp [told, happened]
  rcases again.drained.failed_fixed submitted left with
    ⟨later, input, request, goesOn, canFollow, asked, ticket, code⟩
  refine ⟨later, input, request, goesOn, canFollow, asked, ?_⟩
  have generation : request.ticket.generation = studio.cycle.generation :=
    congrArg Ticket.generation ticket
  simpa [FixRequest.IsOwn, generation, code, told, happened] using leftover

/-- A session whose reruns are of sources of their own generation only asks for
fixes of such sources, and the failed build of any other source neither starts a fix
nor uses an attempt. A rerun of a source that is left over from an earlier generation
can be followed by a fix of it, if an attempt is left. -/
theorem fixes_isOwn (course : Course past studio) :
    (Obeys StudioHappening.IsOwnRerun past →
      (∀ input : StudioInput View, input.CanFollow past → ∀ request,
        .fix request ∈ (studio.respond input).requests → request.IsOwn past) ∧
      ∀ generation failure, .called (.execute generation failure.source) ∈ past →
        .entered studio.cycle.generation failure.source ∉ past →
          (studio.respond (.report (.buildFailed generation failure))).requests = [] ∧
          (studio.respond (.report (.buildFailed generation failure))).studio.cycle =
            studio.cycle) ∧
    ∀ source, studio.lastSource = some source →
      studio.cycle.attemptsUsed < studio.cycle.maxAttempts →
      .entered studio.cycle.generation source ∉ past →
      (studio.respond (.event (.command .run))).result = .ok .proceed →
        let told := past ++ studio.happenings (.event (.command .run))
        ∃ (later : Studio View) (input : StudioInput View) (request : FixRequest),
          Course told later ∧ input.CanFollow told ∧
            .fix request ∈ (later.respond input).requests ∧ ¬request.IsOwn told := by
  refine ⟨fun own => ⟨?_, ?_⟩, ?_⟩
  · intro input canFollow request asked
    rcases course.traced.fix_isKnown canFollow asked with ⟨ticket, left, known⟩
    rw [FixRequest.IsOwn, ticket]
    exact course.traced.entered_of_isKnown own left known
  · intro generation failure submitted leftover
    exact course.traced.leftover_buildFailed own submitted leftover
  · intro source last left leftover proceeds
    exact course.leftover_fixed last left leftover proceeds

/-- A session in which a shader has just come for the first prompt. -/
theorem first_answered (autoFix : Bool) :
    Course [.entered 1 "S", .called (.execute 1 "S")]
      { create (RecordingPreview.mk false [.execute 1 "S"]) [] autoFix with
        cycle := { FixCycle.create 3 with generation := 1 }
        renderState := .building
        lastSource := some "S" } := by
  let prompt : StudioInput RecordingPreview := .event (.command (.prompt "waves"))
  let answer : StudioInput RecordingPreview := .event (.generated { generation := 1 } (.ok "S"))
  have opened : Course [] (create RecordingPreview.initial [] autoFix) := .opened _ _ _
  have prompted : Course _ (respond _ prompt).studio := opened.went trivial rfl
  have answered : Course _ (respond _ answer).studio := prompted.went trivial rfl
  exact answered

/-- The shader of the first prompt fails to build, and is fixed in its own cycle. -/
theorem fixes_isOwn_answered :
    let past : List StudioHappening := [.entered 1 "S", .called (.execute 1 "S")]
    let report : StudioInput RecordingPreview :=
      .report (.buildFailed 1 { source := "S", error := .link "unresolved" })
    ∃ studio request, Course past studio ∧ Obeys StudioHappening.IsOwnRerun past ∧
      .fix request ∈ (studio.respond report).requests ∧ request.IsOwn past := by
  intro past report
  have course := first_answered true
  have own : Obeys StudioHappening.IsOwnRerun past := (obeys_nil.snoc trivial).snoc trivial
  have canFollow : report.CanFollow past := .tail _ (.head _)
  let request : FixRequest :=
    { ticket := { generation := 1 }, code := "S", diagnostic := "unresolved" }
  refine ⟨_, request, course, own, .head _, ?_⟩
  exact (course.fixes_isOwn.1 own).1 report canFollow request (.head _)

/-- The same shader is run again after a second prompt, fails, and is fixed in the
cycle of the second prompt. -/
theorem leftover_fixed_elsewhere :
    let cycle : FixCycle := { FixCycle.create 3 with generation := 2 }
    let past : List StudioHappening :=
      [.entered 1 "S", .called (.execute 1 "S"), .rerun cycle "S", .called (.execute 2 "S")]
    let request : FixRequest :=
      { ticket := { generation := 2 }, code := "S", diagnostic := "unresolved" }
    ∃ studio : Studio RecordingPreview, Course past studio ∧
      .fix request ∈ (studio.respond (.event (.command .fix))).requests ∧
      ¬request.IsOwn past := by
  intro cycle past request
  let prompt : StudioInput RecordingPreview := .event (.command (.prompt "clouds"))
  let rerun : StudioInput RecordingPreview := .event (.command .run)
  let report : StudioInput RecordingPreview :=
    .report (.buildFailed 2 { source := "S", error := .link "unresolved" })
  have prompted : Course _ (respond _ prompt).studio := (first_answered false).went trivial rfl
  have again : Course past (respond _ rerun).studio :=
    prompted.went (show rerun.CanFollow _ from trivial) rfl
  have canFollow : report.CanFollow past := by
    simp [report, past, StudioInput.CanFollow]
  have failed : Course past (respond _ report).studio := again.went canFollow rfl
  have foreign : ¬request.IsOwn past := by
    simp [request, past, FixRequest.IsOwn]
  exact ⟨_, failed, .head _, foreign⟩

end Studio.Course

end LiveShader
