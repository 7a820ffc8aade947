import LiveShader.Program.Task

/-! The interactive program: a preview window, a console and a studio between them.

Commands, responses of the service and reports of the window reach the studio one
at a time. A session is advanced until nothing is left to handle; then it waits for
the window or the console. -/

namespace LiveShader

structure Session where
  studio : Studio PreviewWindow
  client : GenerationClient
  /-- Commands and responses not handled yet, oldest first. -/
  queue : List StudioEvent
  /-- What was typed of a line that has no end yet. -/
  unfinished : List UInt8
  /-- Whether the console is still read. -/
  isListening : Bool
  printed : List ConsoleLine
  /-- How the session has ended, once it has. -/
  ending : Option (Except WindowError Unit)

namespace Session

def window (session : Session) : PreviewWindow :=
  session.studio.preview

def withWindow (session : Session) (preview : PreviewWindow) : Session :=
  { session with studio := { session.studio with preview } }

def host (session : Session) : Host :=
  session.window.host

def say (session : Session) (channel : OutputChannel) (text : String) : Session :=
  { session with printed := session.printed ++ [{ channel, text }] }

/-! ## The studio's turn -/

/-- Closes the window. The session ends with `error`, or else as the window does. -/
def finish (session : Session) (error : Option WindowError) : Session :=
  let (result, preview) := session.window.shutdown
  let ending := match error with
    | some error => .error error
    | none => result
  { session.withWindow preview with ending := some ending }

/-- Sends requests of the studio to the service. The responses join the queue. -/
def request (session : Session) : List StudioRequest → Session
  | [] => session
  | request :: rest =>
      let (result, host) := session.client.perform session.host request.call
      let session := session.withWindow (session.window.withHost host)
      Session.request { session with queue := session.queue ++ [request.answered result] } rest

/-- Takes a reaction of the studio over. -/
def react (session : Session) (reaction : Reaction PreviewWindow) : Session :=
  let session := { session with
    studio := reaction.studio
    printed := session.printed ++ reaction.printed }
  let session := session.request reaction.requests
  match reaction.result with
  | .ok .proceed => session
  | .ok .quit => session.finish none
  | .error error => session.finish (some error)

/-- Handles one event: the oldest report of the window, or else the oldest command or
response. There is nothing to handle after the end. -/
def advance? (session : Session) : Option Session :=
  if session.ending.isSome then
    none
  else
    match session.window.events, session.queue with
    | event :: events, _ =>
        let session := session.withWindow { session.window with events }
        some (session.react (session.studio.onRender event))
    | [], event :: queue =>
        let session := { session with queue }
        some (session.react (session.studio.handle event))
    | [], [] => none

/-- Handles events until none is left, at most `bound` of them. -/
def advance (session : Session) : (bound : Nat) → Session
  | 0 => session
  | bound + 1 =>
      match session.advance? with
      | some session => session.advance bound
      | none => session

/-- Handles all events. A prompt leads to a response, a build and its report, and then
to at most a response, a build and a report for every attempt to fix the shader. -/
def settle (session : Session) : Session :=
  session.advance ((session.window.events.length + session.queue.length) *
    (3 * (session.studio.cycle.maxAttempts + 2)))

/-! ## The console -/

/-- Queues an event of the console, unless nobody handles events any more. -/
def enqueue (session : Session) (event : StudioEvent) : Session :=
  if session.ending.isSome then { session with isListening := false }
  else { session with queue := session.queue ++ [event] }

/-- The console ends. -/
def hangUp (session : Session) : Session :=
  if session.isListening then { session.enqueue .consoleClosed with isListening := false }
  else session

/-- Reads one line, without its end. A line that is no text ends the console. -/
def readLine (session : Session) (line : List UInt8) : Session :=
  if !session.isListening then
    session
  else
    match String.fromUTF8? (.mk line.toArray) with
    | none => session.hangUp
    | some text =>
        match ConsoleCommand.parse text with
        | .ok none => session
        | .ok (some command) => session.enqueue (.command command)
        | .error error => session.say .err error.message

/-- Reads bytes; a line is read when its end comes. -/
def readBytes (session : Session) : List UInt8 → Session
  | [] => session
  | byte :: rest =>
      if byte = 10 then
        readBytes { session.readLine session.unfinished with unfinished := [] } rest
      else
        readBytes { session with unfinished := session.unfinished ++ [byte] } rest

/-- What happens when bytes are typed. -/
def type (session : Session) (bytes : List UInt8) : Session :=
  (session.readBytes bytes).settle

/-- What happens at the end of the input, where a last line needs no end. -/
def endInput (session : Session) : Session :=
  let session :=
    if session.unfinished.isEmpty then session else session.readLine session.unfinished
  session.hangUp.settle

/-! ## The window -/

/-- Delivers a window event, and tells whether the window was there for it. -/
def deliver (session : Session) (event : WindowEvent) : Bool × Session :=
  let (isDelivered, preview) := session.window.deliver event
  (isDelivered, (session.withWindow preview).settle)

/-! ## The beginning -/

/-- What a user is told first. -/
def greeting : String := "Type a description of an effect, or :help for commands."

/-- The source of a file that is to be run first. -/
def firstSource (world : World) (arguments : Arguments) :
    Except ProgramFailure (Option String) :=
  match arguments.file with
  | none => .ok none
  | some path => (world.readSource path).map some

/-- The size of the window: what the arguments say of it, and the settings otherwise. -/
def windowSize (arguments : Arguments) (settings : Settings) : Except ProgramFailure Size :=
  match arguments.size with
  | some size => .ok size
  | none => settings.dimensions.mapError .windowSize

/-- A session whose window has just been opened. -/
def opened (preview : PreviewWindow) (client : GenerationClient) (arguments : Arguments)
    (settings : Settings) : Session where
  studio := .create preview settings.allPresets (arguments.autoFix || settings.autoFix)
  client
  queue := []
  unfinished := []
  isListening := true
  printed := [{ channel := .out, text := greeting }]
  ending := none

/-- Gives the studio what it was started with: a source to run, or else a prompt. -/
def begin (session : Session) (source prompt : Option String) : Session :=
  match source, prompt with
  | some source, _ => session.react (session.studio.submit source)
  | none, some prompt => session.react (session.studio.handle (.command (.prompt prompt)))
  | none, none => session

/-- Starts a session, or tells what failed and what the host has become. Everything
that can be read is read before the window is opened. -/
def start (world : World) (arguments : Arguments) :
    Except (ProgramFailure × Host) Session := do
  let atFirst {Result : Type} (result : Except ProgramFailure Result) :
      Except (ProgramFailure × Host) Result :=
    result.mapError fun failure => (failure, world.host)
  let settings ← atFirst (world.settings arguments)
  let size ← atFirst (windowSize arguments settings)
  let (client, host) := world.client arguments settings
  let client ← client.mapError fun failure => (failure, host)
  let source ← (firstSource world arguments).mapError fun failure => (failure, host)
  let preview ← (PreviewWindow.spawn host { WindowConfig.standard with size }).mapError
    fun (error, host) => (.window error, host)
  .ok ((opened preview client arguments settings).begin source arguments.prompt).settle

end Session

end LiveShader
