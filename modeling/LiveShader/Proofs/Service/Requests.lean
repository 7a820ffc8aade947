import LiveShader.Proofs.Service.Progress

/-! # Requests that wait for their response

A request that waits makes one call to the service, and its response finds the cycle in the
generation of its ticket. A refused request makes none and leaves the cycle as it is. -/

namespace LiveShader

/-! ## Noting what a service is asked for -/

/-- A service that passes on what it is asked for and notes it. -/
structure NotedService (Service : Type) where
  service : Service
  calls : List ServiceCall

variable {Service : Type} [ShaderService Service]

instance : ShaderService (NotedService Service) where
  perform noted call :=
    let (result, service) := ShaderService.perform noted.service call
    (result, { service, calls := noted.calls ++ [call] })

namespace FixCycle

/-- What the service is asked for by a prompt that waits for its response. -/
def generateCalls (cycle : FixCycle) (service : Service) (description : String) :
    List ServiceCall :=
  (cycle.requestGenerate { service, calls := [] : NotedService Service } description).2.2.calls

/-- What the service is asked for by a fix that waits for its response. -/
def fixCalls (cycle : FixCycle) (service : Service) (code diagnostic : String) :
    List ServiceCall :=
  (cycle.requestFix { service, calls := [] : NotedService Service } code diagnostic).2.2.calls

variable {cycle : FixCycle} {description code diagnostic : String}

/-! ## Requests that are refused -/

theorem requestGenerate_of_blank (blank : Text.isBlankString description) (service : Service) :
    cycle.requestGenerate service description = (.error .emptyPrompt, cycle, service) := by
  rw [requestGenerate, beginGenerate_of_blank blank]

theorem requestFix_of_exhausted (exhausted : cycle.remaining = 0) (service : Service) :
    cycle.requestFix service code diagnostic =
      (.error (.retryExhausted cycle.maxAttempts), cycle, service) := by
  rw [requestFix, beginFix_of_exhausted code diagnostic (Nat.sub_eq_zero_iff_le.mp exhausted)]

/-! ## Requests that are answered -/

theorem completeGenerate_ne_stale {ticket : Ticket}
    (current : ticket.generation = cycle.generation) (result : Except ServiceError String) :
    (cycle.completeGenerate ticket result).1 ≠ .stale := by
  unfold completeGenerate
  rw [if_pos current]
  cases result <;> nofun

theorem completeFix_ne_stale {ticket : Ticket}
    (current : ticket.generation = cycle.generation) (result : Except ServiceError String) :
    (cycle.completeFix ticket result).1 ≠ .stale := by
  unfold completeFix
  rw [if_pos current]
  cases result <;> nofun

/-- A prompt with words in it makes one call, and its response is not too late. -/
theorem requestGenerate_of_worded (worded : ¬Text.isBlankString description)
    (service : Service) :
    ∃ resolution next, resolution ≠ .stale ∧
      cycle.requestGenerate service description =
        (.ok resolution, next,
          (ShaderService.perform service (.generate description)).2) := by
  refine ⟨_, _, ?_, by rw [requestGenerate, beginGenerate, if_neg worded]; rfl⟩
  exact completeGenerate_ne_stale rfl _

/-- A fix makes one call while an attempt is left, and its response is not too late. -/
theorem requestFix_of_left (left : cycle.remaining ≠ 0) (service : Service) :
    ∃ resolution next, resolution ≠ .stale ∧
      cycle.requestFix service code diagnostic =
        (.ok resolution, next, (ShaderService.perform service (.fix code diagnostic)).2) := by
  have free : cycle.attemptsUsed + cycle.inFlight < cycle.maxAttempts := by
    unfold remaining at left
    omega
  refine ⟨_, _, ?_, by rw [requestFix, beginFix_of_left code diagnostic free]; rfl⟩
  exact completeFix_ne_stale rfl _

/-! ## Counting calls -/

theorem generateCalls_eq (cycle : FixCycle) (service : Service) (description : String) :
    cycle.generateCalls service description =
      if Text.isBlankString description then [] else [.generate description] := by
  unfold generateCalls
  split
  case isTrue blank => rw [requestGenerate_of_blank blank]
  case isFalse worded =>
    rcases requestGenerate_of_worded worded { service, calls := [] : NotedService Service } with
      ⟨resolution, next, _, asked⟩
    rw [asked]
    rfl

theorem fixCalls_eq (cycle : FixCycle) (service : Service) (code diagnostic : String) :
    cycle.fixCalls service code diagnostic =
      if cycle.remaining = 0 then [] else [.fix code diagnostic] := by
  unfold fixCalls
  split
  case isTrue exhausted => rw [requestFix_of_exhausted exhausted]
  case isFalse left =>
    rcases requestFix_of_left left { service, calls := [] : NotedService Service } with
      ⟨resolution, next, _, asked⟩
    rw [asked]
    rfl

end FixCycle

end LiveShader
