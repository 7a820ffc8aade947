import Mathlib.Algebra.Group.Nat.Defs
import Mathlib.Data.List.Induction
import LiveShader.Proofs.Service.Progress

/-! # Responses that come more than once

A ticket names nothing but a generation. A cycle cannot tell a first response from a
repeated one, or the response to a fix from the response to a prompt. Here any response may
come under any ticket at any time. The attempts used are then the successes of the current
generation, whatever they answer, and the ceiling holds exactly as long as no generation has
too many of them. -/

namespace LiveShader

/-- A call on a cycle. -/
inductive TicketCall where
  | beginGenerate (description : String)
  | beginFix (code diagnostic : String)
  | completeGenerate (ticket : Ticket) (result : Except ServiceError String)
  | completeFix (ticket : Ticket) (result : Except ServiceError String)

/-- Whether a call starts a generation. -/
def TicketCall.isPrompt : TicketCall → Bool
  | .beginGenerate description => !Text.isBlankString description
  | .beginFix _ _ | .completeGenerate _ _ | .completeFix _ _ => false

/-- Whether a call brings a fixed source under a ticket of a generation. -/
def TicketCall.isSuccess (generation : Nat) : TicketCall → Bool
  | .completeFix ticket result => ticket.generation == generation && result.isOk
  | .beginGenerate _ | .beginFix _ _ | .completeGenerate _ _ => false

namespace FixCycle

/-! ## Runs -/

def perform (cycle : FixCycle) : TicketCall → FixCycle
  | .beginGenerate description => (cycle.beginGenerate description).2
  | .beginFix code diagnostic => (cycle.beginFix code diagnostic).2
  | .completeGenerate ticket result => (cycle.completeGenerate ticket result).2
  | .completeFix ticket result => (cycle.completeFix ticket result).2

def after (cycle : FixCycle) (calls : List TicketCall) : FixCycle :=
  calls.foldl perform cycle

/-- How many fixed sources came for a generation while it was the current one. -/
def successes (cycle : FixCycle) (generation : Nat) : List TicketCall → Nat
  | [] => 0
  | call :: rest =>
      (if cycle.generation = generation ∧ call.isSuccess generation then 1 else 0) +
        (cycle.perform call).successes generation rest

variable {maxAttempts : Nat} {calls : List TicketCall}

theorem after_snoc (cycle : FixCycle) (calls : List TicketCall) (call : TicketCall) :
    cycle.after (calls ++ [call]) = (cycle.after calls).perform call :=
  List.foldl_append

theorem successes_append (cycle : FixCycle) (generation : Nat) (calls more : List TicketCall) :
    cycle.successes generation (calls ++ more) =
      cycle.successes generation calls + (cycle.after calls).successes generation more := by
  induction calls generalizing cycle with
  | nil => exact (Nat.zero_add _).symm
  | cons call rest induction =>
      rw [List.cons_append, successes, successes, induction, Nat.add_assoc]
      rfl

theorem successes_snoc (cycle : FixCycle) (generation : Nat) (calls : List TicketCall)
    (call : TicketCall) :
    cycle.successes generation (calls ++ [call]) = cycle.successes generation calls +
      if (cycle.after calls).generation = generation ∧ call.isSuccess generation then 1 else 0 :=
  successes_append cycle generation calls [call]

/-! ## Generations -/

theorem generation_perform (cycle : FixCycle) (call : TicketCall) :
    (cycle.perform call).generation = cycle.generation + if call.isPrompt then 1 else 0 := by
  cases call with
  | beginGenerate description =>
      by_cases blank : Text.isBlankString description
      · simp [perform, beginGenerate_of_blank blank, TicketCall.isPrompt, blank]
      · simp [perform, beginGenerate_of_not_blank blank, TicketCall.isPrompt, blank]
  | beginFix code diagnostic => exact beginFix_generation cycle code diagnostic
  | completeGenerate ticket result =>
      rw [perform, completeGenerate_cycle]
      rfl
  | completeFix ticket result => exact completeFix_generation cycle ticket result

/-- A generation is the number of the prompts so far that were not blank. -/
theorem generation_after (cycle : FixCycle) (calls : List TicketCall) :
    (cycle.after calls).generation = cycle.generation + calls.countP TicketCall.isPrompt := by
  induction calls generalizing cycle with
  | nil => rfl
  | cons call rest induction =>
      rw [after, List.foldl_cons, ← after, induction, generation_perform, List.countP_cons,
        Nat.add_assoc, Nat.add_comm (List.countP _ _)]

/-- A generation fits into 64 bits for as long as the number of the calls does. -/
theorem generation_after_lt (maxAttempts : Nat) (few : calls.length < 2 ^ 64) :
    ((create maxAttempts).after calls).generation < 2 ^ 64 := by
  have prompts : calls.countP TicketCall.isPrompt ≤ calls.length := List.countP_le_length
  have first : (create maxAttempts).generation = 0 := rfl
  rw [generation_after, first, Nat.zero_add]
  exact Nat.lt_of_le_of_lt prompts few

/-! ## What the counters count -/

/-- The counters of a cycle to which so many fixed sources came for each generation. -/
structure IsCounted (maxAttempts : Nat) (successes : Nat → Nat) (cycle : FixCycle) : Prop where
  bound : cycle.maxAttempts = maxAttempts
  successful : cycle.attemptsUsed = successes cycle.generation
  /-- Nothing came for the generations that are still to come. -/
  later : ∀ generation, cycle.generation < generation → successes generation = 0
  /-- As long as a fix is in flight, an attempt is left for it. -/
  reserved : cycle.inFlight = 0 ∨ cycle.attemptsUsed + cycle.inFlight ≤ maxAttempts

theorem isCounted_create (maxAttempts : Nat) :
    (create maxAttempts).IsCounted maxAttempts fun _ => 0 where
  bound := rfl
  successful := rfl
  later _ _ := rfl
  reserved := .inl rfl

section

variable {cycle : FixCycle} {successes : Nat → Nat}
variable (counted : cycle.IsCounted maxAttempts successes)

include counted

theorem IsCounted.beginGenerate (description : String) :
    (cycle.beginGenerate description).2.IsCounted maxAttempts successes := by
  by_cases blank : Text.isBlankString description
  · rw [beginGenerate_of_blank blank]
    exact counted
  · rw [beginGenerate_of_not_blank blank]
    exact
      { bound := counted.bound
        successful := (counted.later _ (Nat.lt_succ_self _)).symm
        later := fun generation later => counted.later generation (Nat.lt_of_succ_lt later)
        reserved := .inl rfl }

theorem IsCounted.beginFix (code diagnostic : String) :
    (cycle.beginFix code diagnostic).2.IsCounted maxAttempts successes := by
  have bound := counted.bound
  by_cases left : cycle.attemptsUsed + cycle.inFlight < cycle.maxAttempts
  · rw [beginFix_of_left code diagnostic left]
    refine { counted with reserved := .inr ?_ }
    simp only
    omega
  · rw [beginFix_of_exhausted code diagnostic (Nat.le_of_not_lt left)]
    exact counted

/-- A response gives back an attempt if one is reserved, and a success uses one in any case. -/
theorem IsCounted.completeFix (ticket : Ticket) (result : Except ServiceError String) :
    (cycle.completeFix ticket result).2.IsCounted maxAttempts fun generation =>
      successes generation + if cycle.generation = generation ∧
        (TicketCall.completeFix ticket result).isSuccess generation then 1 else 0 := by
  have reserved := counted.reserved
  by_cases current : ticket.generation = cycle.generation
  · have others : ∀ generation, cycle.generation < generation → cycle.generation ≠ generation :=
      fun _ => Nat.ne_of_lt
    cases result with
    | ok text =>
        rw [completeFix_of_ok current]
        exact
          { bound := counted.bound
            successful := by
              simp [counted.successful, TicketCall.isSuccess, current, Except.isOk, Except.toBool]
            later := fun generation later => by
              rw [counted.later generation later, if_neg fun both => others _ later both.1]
            reserved := by
              simp only
              omega }
    | error error =>
        rw [completeFix_of_error current]
        exact
          { bound := counted.bound
            successful := by
              simp [counted.successful, TicketCall.isSuccess, Except.isOk, Except.toBool]
            later := fun generation later => by
              rw [counted.later generation later, if_neg fun both => others _ later both.1]
            reserved := by
              simp only
              omega }
  · have foreign : ∀ generation, ¬(cycle.generation = generation ∧
        (TicketCall.completeFix ticket result).isSuccess generation) := by
      rintro generation ⟨rfl, success⟩
      simp [TicketCall.isSuccess, current] at success
    simp only [completeFix_of_stale current, if_neg (foreign _), Nat.add_zero]
    exact counted

theorem IsCounted.perform (call : TicketCall) :
    (cycle.perform call).IsCounted maxAttempts fun generation =>
      successes generation +
        if cycle.generation = generation ∧ call.isSuccess generation then 1 else 0 := by
  cases call with
  | beginGenerate description =>
      simpa [TicketCall.isSuccess, FixCycle.perform] using counted.beginGenerate description
  | beginFix code diagnostic =>
      simpa [TicketCall.isSuccess, FixCycle.perform] using counted.beginFix code diagnostic
  | completeGenerate ticket result =>
      simpa [TicketCall.isSuccess, FixCycle.perform, completeGenerate_cycle] using counted
  | completeFix ticket result => exact counted.completeFix ticket result

theorem IsCounted.after (calls : List TicketCall) :
    (cycle.after calls).IsCounted maxAttempts fun generation =>
      successes generation + cycle.successes generation calls := by
  induction calls generalizing cycle successes with
  | nil => exact counted
  | cons call rest induction =>
      have later := induction (counted.perform call)
      simp only [Nat.add_assoc] at later
      exact later

end

/-- What came for each generation, counted from the creation of a cycle on. -/
theorem isCounted_after (maxAttempts : Nat) (calls : List TicketCall) :
    ((create maxAttempts).after calls).IsCounted maxAttempts fun generation =>
      (create maxAttempts).successes generation calls := by
  simpa only [Nat.zero_add] using (isCounted_create maxAttempts).after calls

/-! ## The ceiling -/

theorem generation_perform_of_isSuccess (cycle : FixCycle) {generation : Nat} {call : TicketCall}
    (success : call.isSuccess generation) :
    (cycle.perform call).generation = cycle.generation := by
  rw [generation_perform]
  cases call with
  | completeFix => rfl
  | beginGenerate | beginFix | completeGenerate => cases success

/-- A success is counted when it comes, so that a cycle which was never above the ceiling has
had no generation with more successes. -/
theorem successes_le_of_within
    (within : ∀ early, early <+: calls →
      ((create maxAttempts).after early).attemptsUsed ≤ maxAttempts) (generation : Nat) :
    (create maxAttempts).successes generation calls ≤ maxAttempts := by
  induction calls using List.reverseRecOn with
  | nil => exact Nat.zero_le _
  | append_singleton calls call induction =>
      by_cases success : ((create maxAttempts).after calls).generation = generation ∧
          call.isSuccess generation
      · rcases success with ⟨rfl, success⟩
        have last := within _ (List.prefix_refl _)
        rw [(isCounted_after maxAttempts (calls ++ [call])).successful, after_snoc,
          generation_perform_of_isSuccess _ success] at last
        exact last
      · rw [successes_snoc, if_neg success, Nat.add_zero]
        apply induction
        intro early start
        exact within early (start.trans (List.prefix_append calls [call]))

theorem attemptsUsed_le_of_successes_le
    (few : ∀ generation, (create maxAttempts).successes generation calls ≤ maxAttempts)
    {early : List TicketCall} (start : early <+: calls) :
    ((create maxAttempts).after early).attemptsUsed ≤ maxAttempts := by
  rcases start with ⟨late, rfl⟩
  rw [(isCounted_after maxAttempts early).successful]
  apply Nat.le_trans _ (few ((create maxAttempts).after early).generation)
  rw [successes_append]
  exact Nat.le_add_right _ _

/-- Only a success of the current generation uses an attempt. -/
theorem attemptsUsed_perform_le {cycle : FixCycle} {call : TicketCall}
    (other : ¬call.isSuccess cycle.generation) :
    (cycle.perform call).attemptsUsed ≤ cycle.attemptsUsed := by
  cases call with
  | beginGenerate description =>
      by_cases blank : Text.isBlankString description
      · apply Nat.le_of_eq
        rw [perform, beginGenerate_of_blank blank]
      · rw [perform, beginGenerate_of_not_blank blank]
        exact Nat.zero_le _
  | beginFix code diagnostic =>
      apply Nat.le_of_eq
      by_cases left : cycle.attemptsUsed + cycle.inFlight < cycle.maxAttempts
      · rw [perform, beginFix_of_left code diagnostic left]
      · rw [perform, beginFix_of_exhausted code diagnostic (Nat.le_of_not_lt left)]
  | completeGenerate ticket result =>
      apply Nat.le_of_eq
      rw [perform, completeGenerate_cycle]
  | completeFix ticket result =>
      apply Nat.le_of_eq
      by_cases current : ticket.generation = cycle.generation
      · cases result with
        | ok text => simp [TicketCall.isSuccess, current, Except.isOk, Except.toBool] at other
        | error error => rw [perform, completeFix_of_error current]
      · rw [perform, completeFix_of_stale current]

/-- What takes a cycle above its ceiling is a success that no fix in flight stands for. -/
theorem IsCounted.exceeds {successes : Nat → Nat} {cycle : FixCycle} {call : TicketCall}
    (counted : cycle.IsCounted maxAttempts successes) (before : cycle.attemptsUsed ≤ maxAttempts)
    (above : maxAttempts < (cycle.perform call).attemptsUsed) :
    cycle.inFlight = 0 ∧ call.isSuccess cycle.generation := by
  by_cases success : call.isSuccess cycle.generation
  · have used := (counted.perform call).successful
    rw [generation_perform_of_isSuccess cycle success, if_pos ⟨rfl, success⟩,
      ← counted.successful] at used
    -- With a fix in flight there would have been an attempt left for this one.
    have reserved := counted.reserved
    exact ⟨by omega, success⟩
  · have same := attemptsUsed_perform_le success
    omega

/-- The attempts used stay within the ceiling for as long as no generation gets more fixed
sources, in whatever order and however often responses come. A call that exceeds the
ceiling brings a fixed source while no fix is in flight. -/
theorem attemptsUsed_le_iff (maxAttempts : Nat) (calls : List TicketCall) :
    ((∀ early, early <+: calls →
        ((create maxAttempts).after early).attemptsUsed ≤ maxAttempts) ↔
      ∀ generation, (create maxAttempts).successes generation calls ≤ maxAttempts) ∧
    ∀ call, ((create maxAttempts).after calls).attemptsUsed ≤ maxAttempts →
      maxAttempts < ((create maxAttempts).after (calls ++ [call])).attemptsUsed →
        ((create maxAttempts).after calls).inFlight = 0 ∧
          call.isSuccess ((create maxAttempts).after calls).generation := by
  refine ⟨⟨successes_le_of_within, fun few _ start => attemptsUsed_le_of_successes_le few start⟩,
    fun call before above => ?_⟩
  rw [after_snoc] at above
  exact (isCounted_after maxAttempts calls).exceeds before above

/-- One fix is asked for. Its response comes three times, and once more under the ticket of the
prompt. -/
theorem attemptsUsed_repeated :
    ((create 3).beginGenerate "waves").1 = .ok { ticket := ⟨1⟩, description := "waves" } ∧
      (((create 3).beginGenerate "waves").2.beginFix "a" "e").1 =
        .ok { ticket := ⟨1⟩, code := "a", diagnostic := "e" } ∧
      ((create 3).after ([.beginGenerate "waves", .beginFix "a" "e"] ++
        List.replicate 4 (.completeFix ⟨1⟩ (.ok "b")))).attemptsUsed = 4 := by
  decide +kernel

end FixCycle

end LiveShader
