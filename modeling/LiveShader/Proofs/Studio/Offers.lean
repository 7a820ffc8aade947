import LiveShader.Proofs.Studio.Response

/-! # When a fix is asked for

A fix is meant for a renderer that has failed. An automatic fix is asked for at the
report of the failure and always finds it so. `:fix` goes by the failure at hand
alone, so it finds it so unless the studio has learnt since then that the renderer
does something else. -/

namespace LiveShader

variable {View : Type}

namespace Studio

/-- Whether `:fix` may get through: the failure at hand can be fixed and attempts are
not used up. -/
def OffersFix (studio : Studio View) : Prop :=
  ∃ failure, studio.lastFailure = some failure ∧ failure.error.isFixable ∧
    studio.cycle.attemptsUsed < studio.cycle.maxAttempts

theorem not_offersFix_of_not_failed {studio : Studio View} (nothing : studio.lastFailure = none) :
    ¬studio.OffersFix := by
  rintro ⟨failure, failed, _⟩
  cases nothing.symm.trans failed

/-- Whether an input tells of the renderer and leaves the failure at hand as it is: a
source is submitted, a program of another generation runs, or the loop breaks off. -/
def Overtakes (studio : Studio View) : StudioInput View → Prop
  | .event (.command .run) => studio.lastSource.isSome
  | .event (.generated ticket (.ok _)) => ticket.generation = studio.cycle.generation
  | .event (.fixed ticket (.ok _)) => ticket.generation = studio.cycle.generation
  | .report (.running generation _) => generation ≠ studio.cycle.generation
  | .report (.loopFailed _) => True
  | _ => False

variable [Preview View] (studio : Studio View)

/-- Whether no input of a session overtakes a failure and leaves its fix on offer. -/
def IsNeverOvertaken (studio : Studio View) : List (StudioInput View) → Prop
  | [] => True
  | input :: rest =>
      (studio.respond input).result = .ok .proceed →
        (studio.Overtakes input → ¬(studio.respond input).studio.OffersFix) ∧
          (studio.respond input).studio.IsNeverOvertaken rest

/-- Whether every fix of a session is asked for while the renderer has failed. -/
def FixesOnlyFailed (studio : Studio View) : List (StudioInput View) → Prop
  | [] => True
  | input :: rest =>
      (∀ request, .fix request ∈ (studio.respond input).requests →
        (studio.respond input).studio.renderState = .failed) ∧
        ((studio.respond input).result = .ok .proceed →
          (studio.respond input).studio.FixesOnlyFailed rest)

/-! ## The state of the renderer -/

theorem renderState_event {event : StudioEvent} (still : ¬studio.Overtakes (.event event)) :
    (studio.respond (.event event)).studio.renderState = studio.renderState := by
  have makes := studio.makes_move (.event event)
  rw [(studio.respond_comesTo (.event event)).studio, informed_event]
  generalize studio.move (.event event) = move at makes
  cases makes with
  | wait | leave | prompt | fix | stop => rfl
  | rerun last => exact absurd (show studio.lastSource.isSome by rw [last]; rfl) still
  | generated text current | fixed text current => exact absurd current still

theorem renderState_report (report : RenderEvent) :
    (studio.respond (.report report)).studio.renderState =
      (studio.informed (.report report)).renderState := by
  rcases studio.respond_report report with ⟨cycle, responded, _⟩
  rw [responded]

theorem renderState_buildFailed (failure : BuildFailure) :
    (studio.respond (.report (.buildFailed studio.cycle.generation failure))).studio.renderState =
      .failed := by
  rw [renderState_report]
  exact if_pos rfl

theorem renderState_respond {input : StudioInput View} {failure : BuildFailure}
    (still : ¬studio.Overtakes input)
    (kept : (studio.respond input).studio.lastFailure = some failure) :
    (studio.respond input).studio.renderState = studio.renderState ∨
      (studio.respond input).studio.renderState = .failed := by
  cases input with
  | preview view => exact .inl rfl
  | event event => exact .inl (renderState_event studio still)
  | report report =>
      rw [renderState_report]
      cases report with
      | running generation source =>
          -- A program of this generation that runs leaves no failure at hand.
          have current : generation = studio.cycle.generation := by
            simpa [Overtakes] using still
          simp [respond, onRender, current, Reaction.say, Reaction.silent] at kept
      | buildFailed generation failure =>
          by_cases current : generation = studio.cycle.generation
          · exact .inr (if_pos current)
          · exact .inl (if_neg current)
      | stopped => cases kept
      | loopFailed reason => exact absurd trivial still
      | closed => exact .inl rfl

/-- What overtakes a failure says that the renderer does something else. -/
theorem renderState_of_overtakes {input : StudioInput View} (overtakes : studio.Overtakes input) :
    (studio.respond input).studio.renderState ≠ .failed := by
  unfold Overtakes at overtakes
  split at overtakes
  case h_1 =>
    rcases Option.isSome_iff_exists.mp overtakes with ⟨source, last⟩
    simp [respond, handle, onCommand, last, submit, Reaction.silent]
  case h_2 =>
    simp [respond, handle, FixCycle.completeGenerate, overtakes, apply, submit, Reaction.silent]
  case h_3 =>
    simp [respond, handle, FixCycle.completeFix_of_ok overtakes, apply, submit, Reaction.silent]
  case h_4 =>
    simp [respond, onRender, overtakes, Reaction.silent]
  case h_5 =>
    simp [respond, onRender, Reaction.complain, Reaction.silent]
  case h_6 => exact overtakes.elim

/-! ## Which inputs ask for a fix -/

theorem offersFix_of_respond {input : StudioInput View}
    (offers : (studio.respond input).studio.OffersFix) :
    studio.OffersFix ∨ (studio.respond input).studio.renderState = .failed := by
  rcases offers with ⟨failure, failed, fixable, left⟩
  rcases lastFailure_respond failed with ⟨generation, rfl | earlier⟩
  · exact .inr (renderState_buildFailed studio failure)
  · have progress := studio.precedes_respond input
    unfold FixCycle.Precedes at progress
    exact .inl ⟨failure, earlier, fixable, by omega⟩

/-- A fix is asked for by `:fix`, or at the report of a failed build. -/
theorem fix_mem_respond {input : StudioInput View} {request : FixRequest}
    (asked : .fix request ∈ (studio.respond input).requests) :
    (input = .event (.command .fix) ∧ studio.OffersFix) ∨
      ∃ failure, input = .report (.buildFailed studio.cycle.generation failure) := by
  rcases fix_mem_respond_iff.mp asked with ⟨failure, moves, _⟩
  have makes := studio.makes_move input
  rw [moves] at makes
  cases makes with
  | fix failed fixable left => exact .inl ⟨rfl, failure, failed, fixable, by omega⟩
  | repair fixable left => exact .inr ⟨failure, rfl⟩

theorem renderState_of_fix_reported {report : RenderEvent} {request : FixRequest}
    (asked : .fix request ∈ (studio.respond (.report report)).requests) :
    (studio.respond (.report report)).studio.renderState = .failed := by
  rcases fix_mem_respond studio asked with ⟨command, _⟩ | ⟨failure, reported⟩
  · cases command
  · rw [reported]
    exact renderState_buildFailed studio failure

/-! ## Sessions -/

/-- As long as a fix is only on offer while the renderer has failed, one response asks
for it only then, and keeps it so unless the input overtakes the failure. -/
theorem offersFix_respond {input : StudioInput View}
    (failing : studio.OffersFix → studio.renderState = .failed)
    (kept : studio.Overtakes input → ¬(studio.respond input).studio.OffersFix)
    (offers : (studio.respond input).studio.OffersFix) :
    (studio.respond input).studio.renderState = .failed := by
  have still : ¬studio.Overtakes input := fun overtakes => kept overtakes offers
  rcases offersFix_of_respond studio offers with earlier | failed
  · rcases offers with ⟨failure, kept, _⟩
    rcases renderState_respond studio still kept with same | failed
    · exact same.trans (failing earlier)
    · exact failed
  · exact failed

theorem fix_respond {input : StudioInput View} {request : FixRequest}
    (failing : studio.OffersFix → studio.renderState = .failed)
    (asked : .fix request ∈ (studio.respond input).requests) :
    (studio.respond input).studio.renderState = .failed := by
  rcases fix_mem_respond studio asked with ⟨rfl, offers⟩ | ⟨failure, rfl⟩
  · have still : ¬studio.Overtakes (.event (.command .fix)) := id
    exact (renderState_event studio still).trans (failing offers)
  · exact renderState_buildFailed studio failure

theorem fixesOnlyFailed_of_isNeverOvertaken {inputs : List (StudioInput View)}
    (failing : studio.OffersFix → studio.renderState = .failed)
    (never : studio.IsNeverOvertaken inputs) : studio.FixesOnlyFailed inputs := by
  induction inputs generalizing studio with
  | nil => trivial
  | cons input rest induction =>
      refine ⟨fun request => fix_respond studio failing, fun proceeds => ?_⟩
      rcases never proceeds with ⟨kept, later⟩
      exact induction _ (offersFix_respond studio failing kept) later

/-- A fix on offer can be asked for once the fixes in flight have failed, whatever the
renderer does. -/
theorem exists_fix_of_offersFix (offers : studio.OffersFix)
    (elsewhere : studio.renderState ≠ .failed) : ∃ rest, ¬studio.FixesOnlyFailed rest := by
  rcases offers with ⟨failure, failed, fixable, left⟩
  refine studio.of_drained (fun studio => ∃ rest, ¬studio.FixesOnlyFailed rest)
    (fun studio later => ?_) ?_
  · rcases later with ⟨rest, fixed⟩
    exact ⟨studio.fixFailed :: rest, fun only => fixed (only.2 (respond_fixFailed studio).1)⟩
  · let drained := { studio with cycle := { studio.cycle with inFlight := 0 } }
    have moves : drained.move (.event (.command .fix)) = .fix failure :=
      drained.move_fix failed fixable left
    have asked := fix_mem_respond_iff.mpr ⟨failure, moves, rfl⟩
    have still : ¬drained.Overtakes (.event (.command .fix)) := id
    refine ⟨[.event (.command .fix)], fun only => elsewhere ?_⟩
    exact (renderState_event drained still).symm.trans (only.1 _ asked)

/-- The studio of a new session, with the source it was started with. -/
def opened (preview : View) (presets : Presets) (autoFix : Bool) (started : Option String) :
    Studio View :=
  match started with
  | none => create preview presets autoFix
  | some source => ((create preview presets autoFix).submit source).studio

theorem not_offersFix_opened (preview : View) (presets : Presets) (autoFix : Bool)
    (started : Option String) : ¬(opened preview presets autoFix started).OffersFix := by
  cases started <;> exact not_offersFix_of_not_failed rfl

/-- In a session in which no input overtakes a failure with its fix on offer, every fix
is asked for while the renderer has failed. A fix that a report of the preview brings
about is always asked for then. After an input that overtakes a failure the session can
go on to a fix that is not. -/
theorem fixes_only_failed :
    (∀ (preview : View) (presets : Presets) (autoFix : Bool) (started : Option String)
      (inputs : List (StudioInput View)),
      (opened preview presets autoFix started).IsNeverOvertaken inputs →
        (opened preview presets autoFix started).FixesOnlyFailed inputs) ∧
    (∀ (studio : Studio View) (report : RenderEvent) (request : FixRequest),
      .fix request ∈ (studio.respond (.report report)).requests →
        (studio.respond (.report report)).studio.renderState = .failed) ∧
    ∀ (studio : Studio View) (input : StudioInput View),
      (studio.respond input).result = .ok .proceed → studio.Overtakes input →
        (studio.respond input).studio.OffersFix →
          ∃ rest, ¬studio.FixesOnlyFailed (input :: rest) := by
  refine ⟨?_, fun studio report request => renderState_of_fix_reported studio, ?_⟩
  · intro preview presets autoFix started inputs never
    have nothing := not_offersFix_opened preview presets autoFix started
    exact fixesOnlyFailed_of_isNeverOvertaken _ (fun offers => absurd offers nothing) never
  · intro studio input proceeds overtakes offers
    have elsewhere := renderState_of_overtakes studio overtakes
    rcases exists_fix_of_offersFix _ offers elsewhere with ⟨rest, fixed⟩
    exact ⟨rest, fun only => fixed (only.2 proceeds)⟩

/-- A fix is asked for a second time, because the first one came to nothing. -/
theorem fixes_only_failed_asked_twice :
    let session : Studio RecordingPreview := opened .initial [] false none
    let failure : BuildFailure := { source := "S", error := .link "unresolved" }
    let fix : FixRequest :=
      { ticket := { generation := 1 }, code := "S", diagnostic := "unresolved" }
    let inputs : List (StudioInput RecordingPreview) :=
      [.event (.command (.prompt "waves")), .event (.generated { generation := 1 } (.ok "S")),
        .report (.buildFailed 1 failure), .event (.command .fix),
        .event (.fixed { generation := 1 } (.error (.decode ""))), .event (.command .fix)]
    session.IsNeverOvertaken inputs ∧
      (session.run inputs).requests =
        [.generate { ticket := { generation := 1 }, description := "waves" }, .fix fix,
          .fix fix] ∧
      session.FixesOnlyFailed inputs := by
  intro session failure fix inputs
  have never : session.IsNeverOvertaken inputs := by
    -- Only the answer to the prompt overtakes, and there is no failure at hand then.
    exact fun _ => ⟨False.elim, fun _ => ⟨fun _ => not_offersFix_of_not_failed rfl,
      fun _ => ⟨False.elim, fun _ => ⟨False.elim, fun _ => ⟨False.elim,
        fun _ => ⟨False.elim, trivial⟩⟩⟩⟩⟩⟩
  have law := (@fixes_only_failed RecordingPreview _).1 .initial [] false none inputs
  exact ⟨never, by decide +kernel, law never⟩

/-- A shader fails to build and is run again, and a fix of it is asked for while it is
building. -/
theorem fix_begun_while_building :
    let failure : BuildFailure := { source := "S", error := .link "unresolved" }
    let inputs : List (StudioInput RecordingPreview) :=
      [.event (.command (.prompt "waves")), .event (.generated { generation := 1 } (.ok "S")),
        .report (.buildFailed 1 failure), .event (.command .run)]
    let building := inputs.foldl (fun studio input => (studio.respond input).studio)
      (create .initial [] false)
    building.renderState = .building ∧
      .fix { ticket := { generation := 1 }, code := "S", diagnostic := "unresolved" } ∈
        (building.respond (.event (.command .fix))).requests ∧
      ¬(create .initial [] false).FixesOnlyFailed (inputs ++ [.event (.command .fix)]) := by
  intro failure inputs building
  refine ⟨rfl, .head _, fun only => ?_⟩
  have reached : building.FixesOnlyFailed [.event (.command .fix)] :=
    (((only.2 rfl).2 rfl).2 rfl).2 rfl
  cases reached.1 _ (.head _)

end Studio

end LiveShader
