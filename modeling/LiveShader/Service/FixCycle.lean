import LiveShader.Service.Fence
import LiveShader.Service.Service

/-! Bounded repair of generated shaders.

Each accepted prompt starts a generation. Within a generation at most a fixed
number of fixes is applied. Every request carries a ticket that names its
generation, and a response to a ticket of another generation is dropped. -/

namespace LiveShader

/-- Names the generation a request was made in. -/
structure Ticket where
  generation : Nat
  deriving DecidableEq, Repr

inductive CycleError where
  | emptyPrompt
  | retryExhausted (attempts : Nat)
  deriving DecidableEq, Repr

/-- A name for the kind of error, for logs. -/
def CycleError.kind : CycleError → String
  | .emptyPrompt => "EmptyPrompt"
  | .retryExhausted _ => "RetryExhausted"

def CycleError.message : CycleError → String
  | .emptyPrompt => "Please enter a description."
  | .retryExhausted attempts =>
      "automatic fixes exhausted after " ++ toString attempts ++
        " attempts; submit a new prompt"

structure GenerateRequest where
  ticket : Ticket
  description : String
  deriving DecidableEq, Repr

def GenerateRequest.call (request : GenerateRequest) : ServiceCall :=
  .generate request.description

structure FixRequest where
  ticket : Ticket
  code : String
  diagnostic : String
  deriving DecidableEq, Repr

def FixRequest.call (request : FixRequest) : ServiceCall :=
  .fix request.code request.diagnostic

/-- What to do about a response. -/
inductive Resolution where
  /-- The source without fences, ready to be executed. -/
  | apply (source : String)
  /-- The response belongs to an earlier generation. -/
  | stale
  | failed (error : ServiceError)
  deriving DecidableEq, Repr

structure FixCycle where
  generation : Nat
  /-- The fixes applied in this generation. -/
  attemptsUsed : Nat
  maxAttempts : Nat
  /-- What the last fix of this generation was asked with. -/
  lastDiagnostic : Option String
  /-- The fixes asked for and not yet answered. -/
  inFlight : Nat
  deriving DecidableEq, Repr

namespace FixCycle

def defaultMaxAttempts : Nat := 3

/-- What the user reads when a generation failed. -/
def generateFailedMessage : String := "Failed to generate shader. Please try again."

/-- What the user reads when a fix failed. -/
def fixFailedMessage : String := "Failed to fix shader. Please try again."

def create (maxAttempts : Nat) : FixCycle :=
  { generation := 0, attemptsUsed := 0, maxAttempts, lastDiagnostic := none, inFlight := 0 }

/-- The fixes that may still be asked for in this generation. -/
def remaining (cycle : FixCycle) : Nat :=
  cycle.maxAttempts - (cycle.attemptsUsed + cycle.inFlight)

/-- The ticket of the current generation. -/
def ticket (cycle : FixCycle) : Ticket :=
  { generation := cycle.generation }

/-- Starts a new generation. A blank prompt is refused before anything
changes. -/
def beginGenerate (cycle : FixCycle) (description : String) :
    Except CycleError GenerateRequest × FixCycle :=
  if Text.isBlankString description then
    (.error .emptyPrompt, cycle)
  else
    let next := { create cycle.maxAttempts with generation := cycle.generation + 1 }
    (.ok { ticket := next.ticket, description }, next)

/-- Reserves an attempt for a fix. A reserved attempt counts until its response
is resolved. -/
def beginFix (cycle : FixCycle) (code diagnostic : String) :
    Except CycleError FixRequest × FixCycle :=
  if cycle.maxAttempts ≤ cycle.attemptsUsed + cycle.inFlight then
    (.error (.retryExhausted cycle.maxAttempts), cycle)
  else
    (.ok { ticket := cycle.ticket, code, diagnostic },
      { cycle with inFlight := cycle.inFlight + 1, lastDiagnostic := some diagnostic })

/-- Resolves the response to a prompt. -/
def completeGenerate (cycle : FixCycle) (ticket : Ticket)
    (result : Except ServiceError String) : Resolution × FixCycle :=
  if ticket.generation = cycle.generation then
    match result with
    | .ok text => (.apply (Fence.strip text), cycle)
    | .error error => (.failed error, cycle)
  else
    (.stale, cycle)

/-- Resolves the response to a fix. Only a success of the current generation uses
up an attempt. -/
def completeFix (cycle : FixCycle) (ticket : Ticket)
    (result : Except ServiceError String) : Resolution × FixCycle :=
  if ticket.generation = cycle.generation then
    let returned := { cycle with inFlight := cycle.inFlight - 1 }
    match result with
    | .ok text =>
        (.apply (Fence.strip text), { returned with attemptsUsed := cycle.attemptsUsed + 1 })
    | .error error => (.failed error, returned)
  else
    (.stale, cycle)

/-! ## Requests that wait for their response -/

variable {Service : Type} [ShaderService Service]

def requestGenerate (cycle : FixCycle) (service : Service) (description : String) :
    Except CycleError Resolution × FixCycle × Service :=
  match cycle.beginGenerate description with
  | (.error error, cycle) => (.error error, cycle, service)
  | (.ok request, cycle) =>
      let (result, service) := ShaderService.perform service request.call
      let (resolution, cycle) := cycle.completeGenerate request.ticket result
      (.ok resolution, cycle, service)

def requestFix (cycle : FixCycle) (service : Service) (code diagnostic : String) :
    Except CycleError Resolution × FixCycle × Service :=
  match cycle.beginFix code diagnostic with
  | (.error error, cycle) => (.error error, cycle, service)
  | (.ok request, cycle) =>
      let (result, service) := ShaderService.perform service request.call
      let (resolution, cycle) := cycle.completeFix request.ticket result
      (.ok resolution, cycle, service)

end FixCycle

end LiveShader
