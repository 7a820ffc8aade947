import LiveShader.Host.Request
import LiveShader.Surface.Module

/-! The world outside the program: what it will answer, and what was asked of it.

The answers are scripts. Each request of a kind takes the next entry of that
kind's script; an empty entry, or the end of the script, is a success. -/

namespace LiveShader

/-- Answers to come, next one first. -/
abbrev Script (Answer : Type) := List (Option Answer)

/-- The next answer and the ones after it. -/
def Script.next {Answer : Type} : Script Answer → Option Answer × Script Answer
  | [] => (none, [])
  | answer :: rest => (answer, rest)

/-- Why no surface texture was given. -/
inductive AcquireError where
  | lost
  | outdated
  | timeout
  | outOfMemory
  | other
  deriving DecidableEq, Repr

def AcquireError.message : AcquireError → String
  | .lost => "The swap chain has been lost and needs to be recreated"
  | .outdated => "The underlying surface has changed, and therefore the swap chain must be updated"
  | .timeout => "A timeout was encountered while trying to acquire the next frame"
  | .outOfMemory => "There is no more memory left to allocate a new frame"
  | .other =>
      "Acquiring a texture failed with a generic error. Check error callbacks for more information"

/-- What the compiler's front end makes of a stage source. -/
inductive ParsedStage where
  | refused (diagnostic : String)
  | accepted (compiled : ShaderModule)
  deriving DecidableEq, Repr

/-- What comes back for an HTTP request. Reading the body can fail on its own. -/
inductive HttpAnswer where
  | transportFailure (reason : String)
  | response (status : Nat) (body : Except String String)

structure Host where
  eventLoop : Script String
  window : Script String
  surface : Script String
  adapter : Script String
  graphicsDevice : Script String
  httpClient : Script String
  /-- The error an event loop ends with. -/
  runLoop : Script String
  /-- What a validation scope reports at its end. -/
  validation : Script String
  acquire : Script AcquireError
  stages : Script ParsedStage
  responses : Script HttpAnswer
  /-- The formats the surface offers, the default one first. -/
  formats : List TextureFormat
  /-- The number of the last object that was created. -/
  lastObject : Nat
  log : List Request

namespace Host

def defaultFormats : List TextureFormat :=
  [{ name := "Bgra8UnormSrgb" }, { name := "Bgra8Unorm" }]

/-- A host where everything succeeds, with nothing to answer HTTP requests. -/
def quiet : Host where
  eventLoop := []
  window := []
  surface := []
  adapter := []
  graphicsDevice := []
  httpClient := []
  runLoop := []
  validation := []
  acquire := []
  stages := []
  responses := []
  formats := defaultFormats
  lastObject := 0
  log := []

/-- Notes a request. -/
def record (host : Host) (request : Request) : Host :=
  { host with log := host.log ++ [request] }

/-- Numbers a new object. -/
def allocate (host : Host) : ObjectId × Host :=
  let object : ObjectId := { number := host.lastObject + 1 }
  (object, { host with lastObject := object.number })

/-- Ends a validation scope. -/
def endValidation (host : Host) : Option String × Host :=
  let (failure, validation) := host.validation.next
  (failure, { host with validation })

/-- Parses a stage source. Without a scripted answer the stage is empty. -/
def parseStage (host : Host) (stage : Stage) (source : String) :
    Except String ShaderModule × Host :=
  let (answer, stages) := host.stages.next
  let host := { host with stages }.record (.parseStage stage source)
  match answer with
  | some (.refused diagnostic) => (.error diagnostic, host)
  | some (.accepted compiled) => (.ok compiled, host)
  | none => (.ok .empty, host)

/-- Takes the next surface texture. -/
def acquireTexture (host : Host) : Except AcquireError Unit × Host :=
  let (failure, acquire) := host.acquire.next
  let host := { host with acquire }.record .acquireTexture
  match failure with
  | some error => (.error error, host)
  | none => (.ok (), host)

/-- Sends an HTTP request. -/
def post (host : Host) (url body : String) (seconds nanoseconds : Nat) : HttpAnswer × Host :=
  let (answer, responses) := host.responses.next
  let host := { host with responses }.record (.post url body seconds nanoseconds)
  (answer.getD (.transportFailure "no scripted response"), host)

/-- Adds scripts at the ends of those that are there. -/
def extend (host more : Host) : Host :=
  { host with
    eventLoop := host.eventLoop ++ more.eventLoop
    window := host.window ++ more.window
    surface := host.surface ++ more.surface
    adapter := host.adapter ++ more.adapter
    graphicsDevice := host.graphicsDevice ++ more.graphicsDevice
    httpClient := host.httpClient ++ more.httpClient
    runLoop := host.runLoop ++ more.runLoop
    validation := host.validation ++ more.validation
    acquire := host.acquire ++ more.acquire
    stages := host.stages ++ more.stages
    responses := host.responses ++ more.responses }

end Host

end LiveShader
