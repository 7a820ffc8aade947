import LiveShader.Proofs.Studio.Exchange

/-! # The failure that the studio knows of

Once nothing is on its way, the studio knows of the failure that the controller keeps,
unless the source that failed was submitted under an earlier generation, and then it
knows of none. On the way there, the reports yet to be taken make up the difference:
generations only grow along the commands, so that nothing of the current generation is
handled before something of an earlier one. -/

namespace LiveShader

namespace Exchange

variable {before after exchange : Exchange}

/-! ## The order of generations -/

/-- The generations that sources were submitted under, oldest first, whether they were
handled or are on their way. -/
def submitted (exchange : Exchange) : List Nat :=
  (exchange.handled ++ exchange.commands).filterMap WindowCommand.generation?

/-- Generations grow along the commands up to the current one, and reports are about what
was submitted. -/
structure IsOrdered (exchange : Exchange) : Prop where
  grows : exchange.submitted.Pairwise (· ≤ ·)
  bounded : ∀ generation ∈ exchange.submitted, generation ≤ exchange.generation
  reported : ∀ report ∈ exchange.reports, ∀ generation,
    report.generation? = some generation → generation ∈ exchange.submitted

namespace IsOrdered

/-- Where nothing is submitted, only new reports matter. -/
theorem carry (ordered : before.IsOrdered) (same : after.submitted = before.submitted)
    (later : before.generation ≤ after.generation)
    (reported : ∀ report ∈ after.reports, report ∈ before.reports ∨
      ∀ generation, report.generation? = some generation → generation ∈ before.submitted) :
    after.IsOrdered where
  grows := same ▸ ordered.grows
  bounded := fun generation member =>
    Nat.le_trans (ordered.bounded generation (same ▸ member)) later
  reported := by
    intro report member generation about
    rw [same]
    rcases reported report member with old | new
    · exact ordered.reported report old generation about
    · exact new generation about

/-- What is submitted is submitted under the current generation. -/
theorem send (ordered : before.IsOrdered) {command : WindowCommand}
    (commands : after.commands = before.commands ++ [command])
    (current : ∀ generation, command.generation? = some generation →
      generation = before.generation)
    (handled : after.handled = before.handled) (generation : after.generation = before.generation)
    (reports : after.reports = before.reports) : after.IsOrdered := by
  have submitted : after.submitted = before.submitted ++ command.generation?.toList := by
    simp only [Exchange.submitted, handled, commands, ← List.append_assoc]
    rw [List.filterMap_append]
    cases command <;> rfl
  have tagged : ∀ generation ∈ command.generation?.toList, generation = before.generation :=
    fun generation member => current generation (Option.mem_toList.mp member)
  exact
    { grows := by
        rw [submitted]
        refine List.pairwise_append.mpr ⟨ordered.grows, ?_, ?_⟩
        · cases command.generation? <;> simp
        · intro earlier old later new
          rw [tagged later new]
          exact ordered.bounded earlier old
      bounded := by
        rw [submitted, generation]
        intro built member
        rcases List.mem_append.mp member with old | new
        · exact ordered.bounded built old
        · exact Nat.le_of_eq (tagged built new)
      reported := by
        rw [submitted, reports]
        exact fun report member built about =>
          List.mem_append_left _ (ordered.reported report member built about) }

theorem goes (ordered : before.IsOrdered) (goes : before.Goes after) : after.IsOrdered := by
  cases goes with
  | told turns =>
      cases turns with
      | stays preview generation failure label =>
          refine ordered.carry ?_ (Nat.le_of_eq generation.symm) fun report => .inl
          simp only [submitted, commands, preview]
      | restarts preview generation failure label =>
          refine ordered.carry ?_ (by simp only [Exchange.generation, generation]; omega)
            fun report => .inl
          simp only [submitted, commands, preview]
      | sends preview generation failure current =>
          exact ordered.send (congrArg Outbox.commands preview) current rfl generation rfl
  | @handled command rest report window waiting leadsTo reports =>
      have among : ∀ generation, report.generation? = some generation →
          generation ∈ before.submitted := by
        intro generation about
        rw [leadsTo.generation?] at about
        exact List.mem_filterMap.mpr ⟨command, by simp [waiting], about⟩
      refine ordered.carry ?_ (Nat.le_refl _) ?_
      · simp only [submitted, waiting]
        simp only [commands, List.append_assoc, List.singleton_append]
      · intro other member
        simp only [Exchange.reports, reports.events, List.mem_append, List.mem_singleton] at member
        rcases member with old | rfl
        · exact .inl old
        · exact .inr among
  | taken waiting takes =>
      refine ordered.carry ?_ (Nat.le_of_eq takes.generation.symm) ?_
      · simp only [submitted, commands, takes.preview]
      · intro report member
        rw [waiting]
        exact .inl (.tail _ member)
  | unnoticed silent =>
      refine ordered.carry rfl (Nat.le_refl _) fun report member => .inl ?_
      rwa [Exchange.reports, silent.events] at member
  | loopFailed reports =>
      refine ordered.carry rfl (Nat.le_refl _) fun report member => ?_
      rw [Exchange.reports, reports.events, List.mem_append, List.mem_singleton] at member
      rcases member with old | rfl
      · exact .inl old
      · exact .inr nofun

end IsOrdered

/-! ## Failures -/

/-- The generation of the source that was handled last, unless a stop was handled since. -/
def handledGeneration? (exchange : Exchange) : Option Nat :=
  exchange.handled.getLast?.bind WindowCommand.generation?

/-- The failure that the controller keeps, if it is one of the current generation. -/
def currentFailure (exchange : Exchange) : Option BuildFailure :=
  if exchange.handledGeneration? = some exchange.generation then
    exchange.window.controller.failure
  else
    none

/-- The failure that the studio knows of once it has taken the reports on their way. -/
def awaitedFailure (exchange : Exchange) : Option BuildFailure :=
  exchange.reports.foldl (fun known report => report.noted exchange.generation known)
    exchange.studio.lastFailure

/-- A kept failure is the outcome of what was handled last, and the studio will know of it
as far as it is of the current generation. -/
structure AgreesOnFailure (exchange : Exchange) : Prop extends exchange.IsOrdered where
  origin : ∀ failure, exchange.window.controller.failure = some failure →
    ∃ generation, exchange.handled.getLast? = some (.execute generation failure.source)
  awaited : exchange.awaitedFailure = exchange.currentFailure

theorem handledGeneration?_mem {generation : Nat}
    (last : exchange.handledGeneration? = some generation) : generation ∈ exchange.submitted := by
  rcases Option.bind_eq_some_iff.mp last with ⟨command, handled, tagged⟩
  exact List.mem_filterMap.mpr
    ⟨command, List.mem_append_left _ (List.mem_of_getLast? handled), tagged⟩

/-- No source of the current generation was handled while one of an earlier generation is
on its way. -/
theorem IsOrdered.handled_ne (ordered : exchange.IsOrdered) {command : WindowCommand}
    {rest : List WindowCommand} {generation : Nat}
    (waiting : exchange.commands = command :: rest)
    (tagged : command.generation? = some generation)
    (earlier : generation ≠ exchange.generation) :
    exchange.handledGeneration? ≠ some exchange.generation := by
  intro last
  rcases Option.bind_eq_some_iff.mp last with ⟨latest, handled, current⟩
  rcases List.getLast?_eq_some_iff.mp handled with ⟨before, split⟩
  have grows := ordered.grows
  simp only [submitted, split, waiting, List.filterMap_append, List.filterMap_cons, tagged,
    current] at grows
  have later : exchange.generation ≤ generation :=
    (List.pairwise_append.mp grows).2.2 _ (by simp) _ (.head _)
  have bounded : generation ≤ exchange.generation :=
    ordered.bounded generation (List.mem_filterMap.mpr ⟨command, by simp [waiting], tagged⟩)
  exact earlier (Nat.le_antisymm bounded later)

theorem foldl_noted_none {generation : Nat} {reports : List RenderEvent}
    (foreign : ∀ report ∈ reports, report.generation? ≠ some generation) :
    reports.foldl (fun known report => report.noted generation known) none = none := by
  induction reports with
  | nil => rfl
  | cons report rest induction =>
      have nothing : report.noted generation none = none := by
        have other := foreign report (.head _)
        cases report <;> simp_all [RenderEvent.noted, RenderEvent.kept, RenderEvent.generation?]
      rw [List.foldl_cons, nothing]
      exact induction fun other member => foreign other (.tail _ member)

namespace AgreesOnFailure

theorem origin_goes (agrees : before.AgreesOnFailure) (goes : before.Goes after)
    (failure : BuildFailure) (kept : after.window.controller.failure = some failure) :
    ∃ generation, after.handled.getLast? = some (.execute generation failure.source) := by
  cases goes with
  | told turns => exact agrees.origin failure kept
  | taken waiting takes => exact agrees.origin failure kept
  | unnoticed silent => exact agrees.origin failure (silent.failure ▸ kept)
  | loopFailed reports => exact agrees.origin failure (reports.failure.symm.trans kept)
  | handled waiting leadsTo reports =>
      have outcome := reports.failure.symm.trans kept
      cases leadsTo with
      | running generation source => cases outcome
      | buildFailed generation source error =>
          cases outcome
          exact ⟨generation, List.getLast?_concat⟩
      | stopped => cases outcome

theorem awaited_congr (agrees : before.AgreesOnFailure)
    (generation : after.generation = before.generation)
    (known : after.studio.lastFailure = before.studio.lastFailure)
    (reports : after.reports = before.reports) (handled : after.handled = before.handled)
    (kept : after.window.controller.failure = before.window.controller.failure) :
    after.awaitedFailure = after.currentFailure := by
  have awaited := agrees.awaited
  unfold awaitedFailure currentFailure handledGeneration? at awaited ⊢
  rw [generation, known, reports, handled, kept]
  exact awaited

theorem awaited_take (agrees : before.AgreesOnFailure) {report : RenderEvent}
    (waiting : before.reports = report :: after.reports)
    (generation : after.generation = before.generation)
    (known : after.studio.lastFailure =
      report.noted before.generation before.studio.lastFailure)
    (handled : after.handled = before.handled)
    (kept : after.window.controller.failure = before.window.controller.failure) :
    after.awaitedFailure = after.currentFailure := by
  have awaited := agrees.awaited
  unfold awaitedFailure currentFailure handledGeneration? at awaited ⊢
  rw [generation, known, handled, kept]
  rw [waiting] at awaited
  exact awaited

theorem awaited_snoc (agrees : before.AgreesOnFailure) {report : RenderEvent}
    (generation : after.generation = before.generation)
    (known : after.studio.lastFailure = before.studio.lastFailure)
    (reports : after.reports = before.reports ++ [report])
    (outcome : after.currentFailure = report.noted before.generation before.currentFailure) :
    after.awaitedFailure = after.currentFailure := by
  rw [outcome, ← agrees.awaited]
  unfold awaitedFailure
  rw [generation, known, reports, List.foldl_append]
  rfl

theorem awaited_restart (agrees : before.AgreesOnFailure)
    (generation : after.generation = before.generation + 1)
    (known : after.studio.lastFailure = none) (reports : after.reports = before.reports)
    (submitted : after.submitted = before.submitted) :
    after.awaitedFailure = after.currentFailure := by
  -- The new generation is ahead of all that was submitted, so no outcome is of it.
  have ahead : ∀ built ∈ after.submitted, built ≠ after.generation := by
    intro built member
    have bounded := agrees.bounded built (submitted ▸ member)
    omega
  have forgotten : after.currentFailure = none :=
    if_neg fun last => ahead _ (handledGeneration?_mem last) rfl
  rw [forgotten, awaitedFailure, known, reports]
  exact foldl_noted_none fun report member about =>
    ahead _ (submitted ▸ agrees.reported report member _ about) rfl

theorem current_handle (agrees : before.AgreesOnFailure) {command : WindowCommand}
    {rest : List WindowCommand} {report : RenderEvent} (waiting : before.commands = command :: rest)
    (leadsTo : command.LeadsTo report) (generation : after.generation = before.generation)
    (handled : after.handled = before.handled ++ [command])
    (kept : after.window.controller.failure = report.kept before.window.controller.failure) :
    after.currentFailure = report.noted before.generation before.currentFailure := by
  have last : after.handledGeneration? = command.generation? := by
    rw [handledGeneration?, handled, List.getLast?_concat]
    rfl
  rw [currentFailure, last, generation, kept]
  cases leadsTo with
  | stopped => rfl
  | running built source | buildFailed built source error =>
      by_cases current : built = before.generation
      · subst current
        rw [RenderEvent.noted_of_current rfl]
        exact if_pos rfl
      · -- The studio passes the outcome over. Nothing of its generation can have been
        -- handled before, so it knew of no failure either.
        rw [RenderEvent.noted_of_other rfl current, currentFailure,
          if_neg (agrees.handled_ne waiting rfl current)]
        exact if_neg fun same => current (Option.some.inj same)

theorem awaited_goes (agrees : before.AgreesOnFailure) (goes : before.Goes after) :
    after.awaitedFailure = after.currentFailure := by
  cases goes with
  | told turns =>
      cases turns with
      | stays preview generation failure label =>
          exact agrees.awaited_congr generation failure rfl rfl rfl
      | sends preview generation failure current =>
          exact agrees.awaited_congr generation failure rfl rfl rfl
      | restarts preview generation failure label =>
          exact agrees.awaited_restart generation failure rfl
            (by simp only [submitted, commands, preview])
  | handled waiting leadsTo reports =>
      exact agrees.awaited_snoc rfl rfl reports.events
        (agrees.current_handle waiting leadsTo rfl rfl reports.failure)
  | taken waiting takes =>
      exact agrees.awaited_take waiting takes.generation takes.failure rfl rfl
  | unnoticed silent => exact agrees.awaited_congr rfl rfl silent.events rfl silent.failure
  | loopFailed reports =>
      refine agrees.awaited_snoc rfl rfl reports.events ?_
      unfold currentFailure
      rw [reports.failure]
      rfl

theorem goes (agrees : before.AgreesOnFailure) (goes : before.Goes after) :
    after.AgreesOnFailure where
  toIsOrdered := agrees.toIsOrdered.goes goes
  origin := agrees.origin_goes goes
  awaited := agrees.awaited_goes goes

theorem opened {window : PreviewWindow} (fresh : window.IsFresh) (presets : Presets)
    (autoFix : Bool) : (opened window presets autoFix none).AgreesOnFailure := by
  have reports : (Exchange.opened window presets autoFix none).reports = [] := fresh.events
  exact
    { grows := .nil
      bounded := nofun
      reported := by simp [reports]
      origin := by
        intro failure same
        rw [Exchange.opened, fresh.failure] at same
        cases same
      awaited := by
        rw [awaitedFailure, reports]
        rfl }

end AgreesOnFailure

/-- Whenever nothing is on its way, the studio knows of the failure that the controller
keeps if the source that failed was submitted under the current generation, and of none
otherwise. -/
theorem lastFailure_of_quiet {host : Host} {config : WindowConfig} {presets : Presets}
    {autoFix : Bool} {started : Option String} {steps : List ExchangeStep}
    (ran : session? host config presets autoFix started steps = some exchange)
    (quiet : exchange.IsQuiet) :
    (∀ failure, exchange.window.controller.failure = some failure →
      ∃ generation, exchange.handled.getLast? = some (.execute generation failure.source) ∧
        exchange.studio.lastFailure =
          if generation = exchange.studio.cycle.generation then some failure else none) ∧
    (exchange.window.controller.failure = none → exchange.studio.lastFailure = none) := by
  have agrees : exchange.AgreesOnFailure :=
    session_invariant (fun _ _ goes agrees => AgreesOnFailure.goes agrees goes)
      (fun _ fresh => .opened fresh presets autoFix) ran
  have known : exchange.studio.lastFailure = exchange.currentFailure := by
    have awaited := agrees.awaited
    rwa [awaitedFailure, quiet.2] at awaited
  constructor
  · intro failure kept
    rcases agrees.origin failure kept with ⟨generation, last⟩
    refine ⟨generation, last, ?_⟩
    rw [known, currentFailure, handledGeneration?, last, kept]
    simp only [Option.bind_some, WindowCommand.generation?, Option.some.injEq, Exchange.generation]
  · intro nothing
    rw [known, currentFailure, nothing, ite_self]

/-- A source fails to build, and both sides know of it. -/
theorem lastFailure_of_quiet_failed :
    let failure : BuildFailure := { source := "f", error := .split (.missingMarker .vertex) }
    let steps : List ExchangeStep :=
      [.told (.command (.prompt "waves")), .told (.generated { generation := 1 } (.ok "f")),
        .command, .report]
    ∃ exchange, session? .quiet .standard [] false none steps = some exchange ∧
      exchange.IsQuiet ∧ exchange.window.controller.failure = some failure ∧
      exchange.studio.lastFailure = some failure := by
  intro failure steps
  have seen : (session? .quiet .standard [] false none steps).map (fun exchange =>
      (exchange.commands, exchange.reports, exchange.studio.cycle.generation,
        exchange.handled.getLast?, exchange.window.controller.failure)) =
      some ([], [], 1, some (.execute 1 "f"), some failure) := by
    decide +kernel
  rcases Option.map_eq_some_iff.mp seen with ⟨exchange, ran, same⟩
  simp only [Prod.mk.injEq] at same
  rcases same with ⟨commands, reports, current, last, kept⟩
  rcases (lastFailure_of_quiet ran ⟨commands, reports⟩).1 failure kept with
    ⟨generation, handled, known⟩
  rw [last] at handled
  cases handled
  rw [current, if_pos rfl] at known
  exact ⟨exchange, ran, ⟨commands, reports⟩, kept, known⟩

end Exchange

end LiveShader
