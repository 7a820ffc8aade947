/-! The service that writes and repairs shaders, as its users see it. -/

namespace LiveShader

/-- Why a request did not yield shader text. -/
inductive ServiceError where
  | status (code : Nat)
  | transport (reason : String)
  | decode (reason : String)
  deriving DecidableEq, Repr

/-- A name for the kind of error, for logs. -/
def ServiceError.kind : ServiceError → String
  | .status _ => "Status"
  | .transport _ => "Transport"
  | .decode _ => "Decode"

def ServiceError.message : ServiceError → String
  | .status code => "server responded with " ++ toString code
  | .transport reason => "request failed: " ++ reason
  | .decode reason => "unexpected response body: " ++ reason

/-- What the service is asked for. -/
inductive ServiceCall where
  | generate (description : String)
  | fix (code diagnostic : String)
  deriving DecidableEq, Repr

/-- A shader service, given by the states it can be in. -/
class ShaderService (Service : Type) where
  perform : Service → ServiceCall → Except ServiceError String × Service

/-- A service with its answers given beforehand, which notes the calls. -/
structure ScriptedService where
  responses : List (Except ServiceError String)
  calls : List ServiceCall

namespace ScriptedService

def create (responses : List (Except ServiceError String)) : ScriptedService :=
  { responses, calls := [] }

/-- What is answered when no response is left. -/
def exhausted : Except ServiceError String :=
  .error (.transport "no scripted response")

instance : ShaderService ScriptedService where
  perform service call :=
    (service.responses.headD exhausted,
      { responses := service.responses.tail, calls := service.calls ++ [call] })

end ScriptedService

end LiveShader
