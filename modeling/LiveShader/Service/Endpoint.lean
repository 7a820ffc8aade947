import LiveShader.Duration
import LiveShader.Text.Blank
import LiveShader.Url.Parser

/-! Where the generation service is found. -/

namespace LiveShader

/-- Why a base URL was refused. -/
inductive EndpointError where
  | empty
  | invalid (text : String)
  /-- Nothing can be found below the URL. -/
  | notABase (text : String)
  deriving DecidableEq, Repr

def EndpointError.message : EndpointError → String
  | .empty => "generation API base url must not be empty"
  | .invalid text => "invalid generation API url '" ++ text ++ "'"
  | .notABase text => "generation API url '" ++ text ++ "' cannot be used as a base"

structure Endpoint where
  base : Url
  timeout : Duration
  deriving DecidableEq, Repr

namespace Endpoint

def defaultBase : String := "http://localhost:4000/api"

def defaultTimeout : Duration := .ofSeconds 120

/-- Reads the base URL of a service. -/
def ofText (text : String) : Except EndpointError Endpoint :=
  let trimmed := Text.trim text.toList
  if trimmed.isEmpty then
    .error .empty
  else
    match Url.parse? trimmed with
    | none => .error (.invalid (.ofList trimmed))
    | some base =>
        if base.isBase then .ok { base, timeout := defaultTimeout }
        else .error (.notABase (.ofList trimmed))

def generateUrl (endpoint : Endpoint) : Url :=
  endpoint.base.child "generate-shader".toList

def fixUrl (endpoint : Endpoint) : Url :=
  endpoint.base.child "fix-shader".toList

end Endpoint

end LiveShader
