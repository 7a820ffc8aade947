/-! The two programmable stages of a shader program. -/

namespace LiveShader

inductive Stage where
  | vertex
  | fragment
  deriving DecidableEq, Repr

namespace Stage

/-- The stage's name in messages and markers. -/
def name : Stage → String
  | .vertex => "vertex"
  | .fragment => "fragment"

/-- The stage's name in logs. -/
def label : Stage → String
  | .vertex => "Vertex"
  | .fragment => "Fragment"

/-- The comment that announces the stage in generated text. -/
def marker : Stage → String
  | .vertex => "// VERTEX SHADER"
  | .fragment => "// FRAGMENT SHADER"

end Stage

/-- The sources of the two stages of one program. -/
structure StagePair where
  vertex : String
  fragment : String
  deriving DecidableEq, Repr

/-- The source of one stage of the pair. -/
def StagePair.source (pair : StagePair) : Stage → String
  | .vertex => pair.vertex
  | .fragment => pair.fragment

end LiveShader
