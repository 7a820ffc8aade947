import LiveShader.Service.FixCycle

/-! # How a fix cycle progresses

Generations only grow, and within a generation the attempts used only grow. -/

namespace LiveShader

namespace FixCycle

/-- Whether a cycle can come before another one. -/
def Precedes (first second : FixCycle) : Prop :=
  first.generation < second.generation ∨
    first.generation = second.generation ∧ first.attemptsUsed ≤ second.attemptsUsed ∧
      first.maxAttempts = second.maxAttempts

theorem Precedes.refl (cycle : FixCycle) : cycle.Precedes cycle :=
  .inr ⟨rfl, Nat.le_refl _, rfl⟩

theorem Precedes.trans {first second third : FixCycle} (earlier : first.Precedes second)
    (later : second.Precedes third) : first.Precedes third := by
  unfold Precedes at *
  omega

/-- A prompt that is not blank starts the next generation afresh. -/
theorem beginGenerate_of_not_blank {cycle : FixCycle} {description : String}
    (worded : ¬Text.isBlankString description) :
    (cycle.beginGenerate description).2 =
      { create cycle.maxAttempts with generation := cycle.generation + 1 } := by
  simp [beginGenerate, worded]

theorem beginGenerate_of_blank {cycle : FixCycle} {description : String}
    (blank : Text.isBlankString description) :
    cycle.beginGenerate description = (.error .emptyPrompt, cycle) :=
  if_pos blank

/-- A fix is refused exactly when no attempt is left. -/
theorem beginFix_of_exhausted {cycle : FixCycle} (code diagnostic : String)
    (exhausted : cycle.maxAttempts ≤ cycle.attemptsUsed + cycle.inFlight) :
    cycle.beginFix code diagnostic = (.error (.retryExhausted cycle.maxAttempts), cycle) :=
  if_pos exhausted

theorem beginFix_of_left {cycle : FixCycle} (code diagnostic : String)
    (left : cycle.attemptsUsed + cycle.inFlight < cycle.maxAttempts) :
    cycle.beginFix code diagnostic =
      (.ok { ticket := cycle.ticket, code, diagnostic },
        { cycle with inFlight := cycle.inFlight + 1, lastDiagnostic := some diagnostic }) :=
  if_neg (Nat.not_le_of_lt left)

theorem beginFix_ok_iff (cycle : FixCycle) (code diagnostic : String) :
    (∃ request, (cycle.beginFix code diagnostic).1 = .ok request) ↔ 0 < cycle.remaining := by
  by_cases left : cycle.attemptsUsed + cycle.inFlight < cycle.maxAttempts
  · rw [beginFix_of_left code diagnostic left]
    have some_left : 0 < cycle.remaining := by
      unfold remaining
      omega
    exact ⟨fun _ => some_left, fun _ => ⟨_, rfl⟩⟩
  · rw [beginFix_of_exhausted code diagnostic (Nat.le_of_not_lt left)]
    have none_left : ¬0 < cycle.remaining := by
      unfold remaining
      omega
    constructor
    · rintro ⟨request, accepted⟩
      cases accepted
    · exact fun some_left => absurd some_left none_left

theorem completeGenerate_cycle (cycle : FixCycle) (ticket : Ticket)
    (result : Except ServiceError String) : (cycle.completeGenerate ticket result).2 = cycle := by
  unfold completeGenerate
  split
  case isTrue => cases result <;> rfl
  case isFalse => rfl

theorem beginFix_generation (cycle : FixCycle) (code diagnostic : String) :
    (cycle.beginFix code diagnostic).2.generation = cycle.generation := by
  unfold beginFix
  split
  case isTrue => rfl
  case isFalse => rfl

/-- The response to a fix leaves the generation as it is. -/
theorem completeFix_generation (cycle : FixCycle) (ticket : Ticket)
    (result : Except ServiceError String) :
    (cycle.completeFix ticket result).2.generation = cycle.generation := by
  unfold completeFix
  split
  case isTrue => cases result <;> rfl
  case isFalse => rfl

theorem precedes_completeFix (cycle : FixCycle) (ticket : Ticket)
    (result : Except ServiceError String) :
    cycle.Precedes (cycle.completeFix ticket result).2 := by
  unfold completeFix
  split
  case isTrue =>
    cases result with
    | ok text => exact .inr ⟨rfl, Nat.le_succ _, rfl⟩
    | error error => exact .refl cycle
  case isFalse => exact .refl cycle

theorem completeFix_of_stale {cycle : FixCycle} {ticket : Ticket}
    (stale : ticket.generation ≠ cycle.generation) (result : Except ServiceError String) :
    cycle.completeFix ticket result = (.stale, cycle) :=
  if_neg stale

theorem completeFix_of_ok {cycle : FixCycle} {ticket : Ticket}
    (current : ticket.generation = cycle.generation) (text : String) :
    cycle.completeFix ticket (.ok text) = (.apply (Fence.strip text),
      { cycle with inFlight := cycle.inFlight - 1, attemptsUsed := cycle.attemptsUsed + 1 }) :=
  if_pos current

theorem completeFix_of_error {cycle : FixCycle} {ticket : Ticket}
    (current : ticket.generation = cycle.generation) (error : ServiceError) :
    cycle.completeFix ticket (.error error) =
      (.failed error, { cycle with inFlight := cycle.inFlight - 1 }) :=
  if_pos current

/-- Only a success of the current generation brings a source. -/
theorem completeGenerate_apply {cycle next : FixCycle} {ticket : Ticket}
    {result : Except ServiceError String} {source : String}
    (applied : cycle.completeGenerate ticket result = (.apply source, next)) :
    ticket.generation = cycle.generation ∧
      ∃ text, result = .ok text ∧ source = Fence.strip text := by
  unfold completeGenerate at applied
  split at applied
  case isTrue current =>
    cases result with
    | ok text =>
        simp only [Prod.mk.injEq, Resolution.apply.injEq] at applied
        exact ⟨current, text, rfl, applied.1.symm⟩
    | error error => cases applied
  case isFalse => cases applied

theorem completeFix_apply {cycle next : FixCycle} {ticket : Ticket}
    {result : Except ServiceError String} {source : String}
    (applied : cycle.completeFix ticket result = (.apply source, next)) :
    ticket.generation = cycle.generation ∧
      ∃ text, result = .ok text ∧ source = Fence.strip text := by
  unfold completeFix at applied
  split at applied
  case isTrue current =>
    cases result with
    | ok text =>
        simp only [Prod.mk.injEq, Resolution.apply.injEq] at applied
        exact ⟨current, text, rfl, applied.1.symm⟩
    | error error => cases applied
  case isFalse => cases applied

end FixCycle

end LiveShader
