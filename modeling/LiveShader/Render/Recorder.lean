import LiveShader.Render.Device
import LiveShader.Text.Blank
import LiveShader.Text.Lines
import LiveShader.Text.Search

/-! A graphics device in memory that records what is asked of it.

The sources script it: a line `#error TEXT` makes the compilation of its stage
fail with that text, and `#link-error TEXT` in either stage makes linking fail. A
name resolves when it occurs in the linked sources. -/

namespace LiveShader

open Text

inductive UniformValue where
  | float (value : Single)
  | pair (first second : Single)
  deriving DecidableEq, Repr

structure UniformWrite where
  location : UniformLocation
  value : UniformValue

/-- A use of an object that is not live. -/
inductive Misuse where
  | stageReleasedTwice (stage : StageId)
  | programReleasedTwice (program : ProgramId)
  | geometryReleasedTwice (geometry : GeometryId)
  | quadForDeadProgram (program : ProgramId)
  | deadProgramUsed (program : ProgramId)
  | deadGeometryBound (geometry : GeometryId)
  deriving DecidableEq, Repr

structure Recorder where
  /-- The number that the next object of any kind gets. -/
  nextNumber : Nat
  /-- The live stages with their sources, oldest first. -/
  stages : List (StageId × String)
  /-- The live programs with the sources of both their stages, oldest first. -/
  programs : List (ProgramId × String)
  geometries : List GeometryId
  /-- The uniforms that can be resolved; their bindings are their positions. -/
  knownUniforms : List String
  display : Size
  backing : Size
  usedProgram : Option ProgramId
  boundGeometry : Option GeometryId
  /-- The failures of coming draws, next one first. -/
  drawFailures : List DrawError
  /-- The failure of the next quad. -/
  quadFailure : Option ResourceError
  compiled : List (Stage × String)
  resizes : List Size
  writes : List UniformWrite
  drawn : List ProgramId
  draws : Nat
  misuses : List Misuse

namespace Recorder

def initialSize : Size := { width := 300, height := 150 }

def create (knownUniforms : List String) : Recorder where
  nextNumber := 1
  stages := []
  programs := []
  geometries := []
  knownUniforms
  display := initialSize
  backing := initialSize
  usedProgram := none
  boundGeometry := none
  drawFailures := []
  quadFailure := none
  compiled := []
  resizes := []
  writes := []
  drawn := []
  draws := 0
  misuses := []

/-! ## The objects that exist -/

def liveStages (recorder : Recorder) : List StageId :=
  recorder.stages.map Prod.fst

def livePrograms (recorder : Recorder) : List ProgramId :=
  recorder.programs.map Prod.fst

/-- The source of a live stage. -/
def stageSource? (recorder : Recorder) (stage : StageId) : Option String :=
  recorder.stages.lookup stage

/-- The sources of a live program. -/
def programSource? (recorder : Recorder) (program : ProgramId) : Option String :=
  recorder.programs.lookup program

/-- Notes a misuse, unless the object was live as it should be. -/
def check (recorder : Recorder) (isLive : Bool) (misuse : Misuse) : Recorder :=
  if isLive then recorder else { recorder with misuses := recorder.misuses ++ [misuse] }

/-! ## Scripted failures -/

/-- The text of the first line that starts with a directive. -/
def directiveText? (directive : String) (source : String) : Option String :=
  ((lines source.toList).findSome? fun line =>
    dropLeading? directive.toList (trim line)).map fun text => .ofList (trim text)

/-- Whether a name occurs anywhere in a source. -/
def mentions (source name : String) : Bool :=
  occursIn name.toList source.toList

/-! ## Operations -/

def compileStage (recorder : Recorder) (stage : Stage) (source : String) :
    Except String StageId × Recorder :=
  let recorder := { recorder with compiled := recorder.compiled ++ [(stage, source)] }
  match directiveText? "#error " source with
  | some diagnostic => (.error diagnostic, recorder)
  | none =>
      let id : StageId := { number := recorder.nextNumber }
      (.ok id, { recorder with
        nextNumber := recorder.nextNumber + 1
        stages := recorder.stages ++ [(id, source)] })

def releaseStage (recorder : Recorder) (stage : StageId) : Recorder :=
  let checked := recorder.check (recorder.liveStages.contains stage) (.stageReleasedTwice stage)
  { checked with stages := recorder.stages.filter fun entry => entry.1 ≠ stage }

def linkProgram (recorder : Recorder) (vertex fragment : StageId) :
    Except String ProgramId × Recorder :=
  let sources := (recorder.stageSource? vertex).getD "" ++ "\n" ++
    (recorder.stageSource? fragment).getD ""
  match directiveText? "#link-error " sources with
  | some diagnostic => (.error diagnostic, recorder)
  | none =>
      let id : ProgramId := { number := recorder.nextNumber }
      (.ok id, { recorder with
        nextNumber := recorder.nextNumber + 1
        programs := recorder.programs ++ [(id, sources)] })

def releaseProgram (recorder : Recorder) (program : ProgramId) : Recorder :=
  let checked :=
    recorder.check (recorder.livePrograms.contains program) (.programReleasedTwice program)
  { checked with programs := recorder.programs.filter fun entry => entry.1 ≠ program }

def attributeLocation? (recorder : Recorder) (program : ProgramId) (name : String) :
    Option AttributeLocation :=
  match recorder.programSource? program with
  | some source => if mentions source name then some { number := 0 } else none
  | none => none

def uniformLocation? (recorder : Recorder) (program : ProgramId) (name : String) :
    Option UniformLocation :=
  match recorder.programSource? program, recorder.knownUniforms.idxOf? name with
  | some source, some binding =>
      if mentions source name then some { binding, offset := 0 } else none
  | _, _ => none

def createQuad (recorder : Recorder) (program : ProgramId) :
    Except ResourceError GeometryId × Recorder :=
  let recorder :=
    recorder.check (recorder.livePrograms.contains program) (.quadForDeadProgram program)
  match recorder.quadFailure with
  | some error => (.error error, { recorder with quadFailure := none })
  | none =>
      let id : GeometryId := { number := recorder.nextNumber }
      (.ok id, { recorder with
        nextNumber := recorder.nextNumber + 1
        geometries := recorder.geometries ++ [id] })

def releaseGeometry (recorder : Recorder) (geometry : GeometryId) : Recorder :=
  let checked :=
    recorder.check (recorder.geometries.contains geometry) (.geometryReleasedTwice geometry)
  { checked with geometries := recorder.geometries.filter fun live => live ≠ geometry }

def resizeBacking (recorder : Recorder) (size : Size) : Recorder :=
  { recorder with backing := size, resizes := recorder.resizes ++ [size] }

def useProgram (recorder : Recorder) (program : ProgramId) : Recorder :=
  let checked :=
    recorder.check (recorder.livePrograms.contains program) (.deadProgramUsed program)
  { checked with usedProgram := some program }

def bindQuad (recorder : Recorder) (geometry : GeometryId) : Recorder :=
  let checked :=
    recorder.check (recorder.geometries.contains geometry) (.deadGeometryBound geometry)
  { checked with boundGeometry := some geometry }

def writeUniform (recorder : Recorder) (location : UniformLocation) (value : UniformValue) :
    Recorder :=
  { recorder with writes := recorder.writes ++ [{ location, value }] }

def draw (recorder : Recorder) : Except DrawError Unit × Recorder :=
  match recorder.drawFailures with
  | error :: rest => (.error error, { recorder with drawFailures := rest })
  | [] =>
      (.ok (), { recorder with
        draws := recorder.draws + 1
        drawn := recorder.drawn ++ recorder.usedProgram.toList })

instance : GraphicsDevice Recorder where
  compileStage := compileStage
  releaseStage := releaseStage
  linkProgram := linkProgram
  releaseProgram := releaseProgram
  attributeLocation? := attributeLocation?
  uniformLocation? := uniformLocation?
  createQuad recorder program _ := recorder.createQuad program
  releaseGeometry := releaseGeometry
  displaySize := display
  backingSize := backing
  resizeBacking := resizeBacking
  useProgram := useProgram
  bindQuad := bindQuad
  setFloat recorder location value := recorder.writeUniform location (.float value)
  setPair recorder location first second := recorder.writeUniform location (.pair first second)
  draw := draw

/-! ## Scripting -/

def setDisplay (recorder : Recorder) (size : Size) : Recorder :=
  { recorder with display := size }

def setBacking (recorder : Recorder) (size : Size) : Recorder :=
  { recorder with backing := size }

/-- Lets a coming draw fail. Failures are met in the order they were queued. -/
def queueDrawFailure (recorder : Recorder) (error : DrawError) : Recorder :=
  { recorder with drawFailures := recorder.drawFailures ++ [error] }

/-- Lets the next quad fail. -/
def setQuadFailure (recorder : Recorder) (error : ResourceError) : Recorder :=
  { recorder with quadFailure := some error }

end Recorder

end LiveShader
