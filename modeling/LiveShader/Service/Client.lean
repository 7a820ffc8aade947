import LiveShader.Host.Host
import LiveShader.Json.Fields
import LiveShader.Service.Endpoint
import LiveShader.Service.Service

/-! The shader service behind two HTTP endpoints. -/

namespace LiveShader

structure GenerationClient where
  generateUrl : Url
  fixUrl : Url
  timeout : Duration
  deriving DecidableEq, Repr

namespace GenerationClient

/-- What failed when no client could be set up. -/
def buildFailure : String := "building HTTP client"

/-- Sets up a client for an endpoint, or tells why the host has none. -/
def create (host : Host) (endpoint : Endpoint) :
    Except String GenerationClient × Host :=
  let (failure, httpClient) := host.httpClient.next
  let host := { host with httpClient }
  match failure with
  | some reason => (.error reason, host)
  | none =>
      (.ok {
        generateUrl := endpoint.generateUrl
        fixUrl := endpoint.fixUrl
        timeout := endpoint.timeout }, host)

def urlOf (client : GenerationClient) : ServiceCall → Url
  | .generate _ => client.generateUrl
  | .fix _ _ => client.fixUrl

/-- The body of a request. -/
def bodyOf : ServiceCall → String
  | .generate description => Json.objectOfStrings [("description", description)]
  | .fix code diagnostic => Json.objectOfStrings [("code", code), ("error", diagnostic)]

/-- How many characters of a body that cannot be read are shown. -/
def snippetLength : Nat := 200

/-- The shader text in the body of a response. -/
def decodeShader (body : String) : Except ServiceError String :=
  match Json.readField? "shader".toList body.toList with
  | some shader => .ok (.ofList shader)
  | none =>
      .error (.decode ("not a shader response; first 200 bytes: " ++
        .ofList (body.toList.take snippetLength)))

/-- Whether a status code reports success. -/
def isSuccess (status : Nat) : Bool :=
  200 ≤ status && status ≤ 299

/-- What an answer means. A bad status is reported before the body is read. -/
def interpret : HttpAnswer → Except ServiceError String
  | .transportFailure reason => .error (.transport reason)
  | .response status body =>
      if isSuccess status then
        match body with
        | .error reason => .error (.transport reason)
        | .ok text => decodeShader text
      else
        .error (.status status)

/-- Sends a request and reads its response. -/
def perform (client : GenerationClient) (host : Host) (call : ServiceCall) :
    Except ServiceError String × Host :=
  let (answer, host) := host.post (.ofList (client.urlOf call).text) (bodyOf call)
    client.timeout.seconds client.timeout.nanoseconds
  (interpret answer, host)

end GenerationClient

end LiveShader
