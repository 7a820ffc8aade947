import LiveShader.Service.FixCycle
import LiveShader.Studio.Console
import LiveShader.Studio.Presets
import LiveShader.Window.Preview

/-! The interactive studio: it turns console commands, responses of the service
and reports of the preview into sources for the preview, requests to the service
and lines for the user.

The studio holds no graphics objects. It submits sources to a preview and learns
from render events what became of them. -/

namespace LiveShader

/-! ## The preview, as the studio sees it -/

/-- Where sources are built and shown, given by the states it can be in. The
generation comes back with the outcome of the build. -/
class Preview (View : Type) where
  execute : View → (generation : Nat) → (source : String) → Except WindowError Unit × View
  stop : View → Except WindowError Unit × View

instance : Preview PreviewWindow where
  execute preview generation source := preview.send (.execute generation source)
  stop preview := preview.send .stop

inductive PreviewCall where
  | execute (generation : Nat) (source : String)
  | stop
  deriving DecidableEq, Repr

/-- A preview that notes what it is told and shows nothing. -/
structure RecordingPreview where
  isClosed : Bool
  calls : List PreviewCall
  deriving DecidableEq, Repr

namespace RecordingPreview

def initial : RecordingPreview :=
  { isClosed := false, calls := [] }

/-- Notes a call, which a closed preview refuses. -/
def record (preview : RecordingPreview) (call : PreviewCall) :
    Except WindowError Unit × RecordingPreview :=
  (if preview.isClosed then .error .closed else .ok (),
    { preview with calls := preview.calls ++ [call] })

/-- The last source the preview was told to show. -/
def lastSource? (preview : RecordingPreview) : Option String :=
  preview.calls.reverse.findSome? fun
    | .execute _ source => some source
    | .stop => none

instance : Preview RecordingPreview where
  execute preview generation source := preview.record (.execute generation source)
  stop preview := preview.record .stop

end RecordingPreview

/-! ## What goes in and out -/

inductive OutputChannel where
  | out
  | err
  deriving DecidableEq, Repr

def OutputChannel.label : OutputChannel → String
  | out => "out"
  | err => "err"

/-- One line printed for the user. -/
structure ConsoleLine where
  channel : OutputChannel
  text : String
  deriving DecidableEq, Repr

/-- A request to the service whose response comes later. -/
inductive StudioRequest where
  | generate (request : GenerateRequest)
  | fix (request : FixRequest)
  deriving DecidableEq, Repr

def StudioRequest.call : StudioRequest → ServiceCall
  | .generate request => request.call
  | .fix request => request.call

inductive StudioEvent where
  | command (command : ConsoleCommand)
  | consoleClosed
  | generated (ticket : Ticket) (result : Except ServiceError String)
  | fixed (ticket : Ticket) (result : Except ServiceError String)

/-- The event that brings the response to a request. -/
def StudioRequest.answered (request : StudioRequest) (result : Except ServiceError String) :
    StudioEvent :=
  match request with
  | .generate request => .generated request.ticket result
  | .fix request => .fixed request.ticket result

/-- Whether the session goes on. -/
inductive Flow where
  | proceed
  | quit
  deriving DecidableEq, Repr

structure Studio (View : Type) where
  cycle : FixCycle
  preview : View
  autoFix : Bool
  presets : Presets
  /-- What the renderer is known to be doing. -/
  renderState : ExecutionState
  lastSource : Option String
  /-- The failure that a fix would be asked for. -/
  lastFailure : Option BuildFailure

/-- What the studio made of an event: its next state, what it printed, what it
asks the service for, and whether the session goes on. -/
structure Reaction (View : Type) where
  studio : Studio View
  printed : List ConsoleLine
  requests : List StudioRequest
  result : Except WindowError Flow

namespace Reaction

variable {View : Type}

/-- Nothing to tell. -/
def silent (studio : Studio View) : Reaction View :=
  { studio, printed := [], requests := [], result := .ok .proceed }

/-- Lines on the output. -/
def say (studio : Studio View) (lines : List String) : Reaction View :=
  { silent studio with printed := lines.map fun text => { channel := .out, text } }

/-- One line on the error output. -/
def complain (studio : Studio View) (text : String) : Reaction View :=
  { silent studio with printed := [{ channel := .err, text }] }

/-- The end of the session. -/
def quit (studio : Studio View) : Reaction View :=
  { silent studio with result := .ok .quit }

/-- Puts lines in front of those of the reaction. -/
def after (reaction : Reaction View) (printed : List ConsoleLine) : Reaction View :=
  { reaction with printed := printed ++ reaction.printed }

end Reaction

namespace Studio

variable {View : Type}

def create (preview : View) (presets : Presets) (autoFix : Bool) : Studio View :=
  { cycle := .create FixCycle.defaultMaxAttempts
    preview
    autoFix
    presets
    renderState := .idle
    lastSource := none
    lastFailure := none }

/-! ## Asking the service -/

/-- Asks for a shader. A refused prompt changes nothing. -/
def generate (studio : Studio View) (description : String) : Reaction View :=
  match studio.cycle.beginGenerate description with
  | (.error error, _) => .complain studio error.message
  | (.ok request, cycle) =>
      { Reaction.say { studio with cycle, lastFailure := none } ["Generating shader..."] with
        requests := [.generate request] }

/-- Asks for a repair of the source that failed last. -/
def requestFix (studio : Studio View) : Reaction View :=
  match studio.lastFailure with
  | none => .silent studio
  | some failure =>
      match studio.cycle.beginFix failure.source failure.error.repairText with
      | (.error error, _) => .complain studio error.message
      | (.ok request, cycle) =>
          let line := "Requesting a fix (attempt " ++
            toString (cycle.attemptsUsed + cycle.inFlight) ++ " of " ++
            toString cycle.maxAttempts ++ ")..."
          { Reaction.say { studio with cycle } [line] with requests := [.fix request] }

/-! ## Telling the preview -/

/-- Hands a source to the preview under the current generation. -/
def submit [Preview View] (studio : Studio View) (source : String) : Reaction View :=
  let (result, preview) := Preview.execute studio.preview studio.cycle.generation source
  { Reaction.silent { studio with
      preview, lastSource := some source, renderState := .building } with
    result := result.map fun () => .proceed }

def stopPreview [Preview View] (studio : Studio View) : Reaction View :=
  let (result, preview) := Preview.stop studio.preview
  { Reaction.silent { studio with preview } with result := result.map fun () => .proceed }

/-! ## Events -/

/-- The lines of the status report. -/
def status (studio : Studio View) : List String :=
  ["renderer:  " ++ studio.renderState.label,
    "fixes:     " ++ toString studio.cycle.attemptsUsed ++ " of " ++
      toString studio.cycle.maxAttempts ++ " used, " ++ toString studio.cycle.inFlight ++
      " in flight",
    "auto-fix:  " ++ if studio.autoFix then "on" else "off"] ++
    (studio.lastFailure.map fun failure => "last error: " ++ failure.error.message).toList

def onCommand [Preview View] (studio : Studio View) : ConsoleCommand → Reaction View
  | .prompt description => studio.generate description
  | .fix =>
      match studio.lastFailure with
      | none => .say studio ["Nothing to fix: the last build did not fail."]
      | some failure =>
          if failure.error.isFixable then studio.requestFix
          else .complain studio "The last failure cannot be fixed by changing the source."
  | .stop => studio.stopPreview
  | .run =>
      match studio.lastSource with
      | some source => studio.submit source
      | none => .say studio ["No source to run yet."]
  | .source => .say studio [studio.lastSource.getD "No source yet."]
  | .preset name =>
      match studio.presets.find? name with
      | some description =>
          (studio.generate description).after
            [{ channel := .out, text := "Preset " ++ name ++ ": " ++ description }]
      | none => .complain studio ("Unknown preset '" ++ name ++ "' (see :presets).")
  | .presets => .say studio studio.presets.listing
  | .status => .say studio studio.status
  | .help => .say studio [ConsoleCommand.helpText]
  | .quit => .quit studio

/-- Acts on a response once it is known whether it is still wanted. -/
def apply [Preview View] (studio : Studio View) (failureMessage : String) :
    Resolution → Reaction View
  | .apply source => studio.submit source
  | .stale => .silent studio
  | .failed error => .complain studio (failureMessage ++ " (" ++ error.message ++ ")")

/-- Handles a command or a response. -/
def handle [Preview View] (studio : Studio View) : StudioEvent → Reaction View
  | .command command => studio.onCommand command
  | .consoleClosed => .quit studio
  | .generated ticket result =>
      let (resolution, cycle) := studio.cycle.completeGenerate ticket result
      { studio with cycle }.apply FixCycle.generateFailedMessage resolution
  | .fixed ticket result =>
      let (resolution, cycle) := studio.cycle.completeFix ticket result
      { studio with cycle }.apply FixCycle.fixFailedMessage resolution

/-- What follows a failed build of the current generation: an automatic fix, or a
word on how to get one. -/
def offerFix (studio : Studio View) (error : BuildError) : Reaction View :=
  if !error.isFixable then
    .complain studio "This failure is not caused by the shader source and cannot be fixed."
  else if studio.autoFix then
    studio.requestFix
  else if 0 < studio.cycle.remaining then
    .say studio ["Type :fix to ask for a repair (" ++ toString studio.cycle.remaining ++
      " left)."]
  else
    .silent studio

/-- Handles a report of the preview. The outcome of a build of an earlier
generation only tells that the renderer runs. -/
def onRender (studio : Studio View) : RenderEvent → Reaction View
  | .running generation _ =>
      let running := { studio with renderState := .running }
      if generation = studio.cycle.generation then
        .say { running with lastFailure := none } ["Shader running."]
      else
        .silent running
  | .buildFailed generation failure =>
      if generation = studio.cycle.generation then
        ({ studio with renderState := .failed, lastFailure := some failure }.offerFix
          failure.error).after [{ channel := .err, text := failure.error.message }]
      else
        .silent studio
  | .stopped => .say { studio with renderState := .idle, lastFailure := none } ["Stopped."]
  | .loopFailed reason =>
      .complain { studio with renderState := .idle } ("Rendering stopped: " ++ reason)
  | .closed => .quit studio

end Studio

end LiveShader
