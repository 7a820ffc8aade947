import LiveShader.Glsl.Layout
import LiveShader.Text.Alphanumeric

/-! Lowering a stage pair to GLSL 4.50.

A stage in an ES dialect is lowered statement by statement, each in its place:
interface variables get explicit locations, each loose uniform that is not opaque
moves into a uniform block of its own in an injected header, and version,
extension and precision statements are blanked. The header ends with `#line 1`,
so that diagnostics name the lines of the stage as it was written. -/

namespace LiveShader.Glsl

open Text

/-- The colour output that ES 1.00 provides and 4.50 does not. -/
def fragColor : List Char := "gl_FragColor".toList

/-- The declared output that takes its place. -/
def fragColorOutput : List Char := "zenith_FragColor".toList

/-- Whether a neighbouring character makes an occurrence part of a longer
identifier. -/
def joinsIdentifier (neighbour : Option Char) : Bool :=
  neighbour.any isIdentifierCharacter

/-- Replaces `old` by `new` wherever no identifier character is next to it. The
search goes on behind each occurrence, and what was passed does not count as its
neighbour any more. At most `bound` occurrences are looked at. -/
def renameWithin (old new : List Char) : (bound : Nat) → List Char → List Char
  | 0, text => text
  | bound + 1, text =>
      match splitFirst? old text with
      | none => text
      | some (before, after) =>
          let word :=
            if joinsIdentifier before.getLast? || joinsIdentifier after.head? then old else new
          before ++ word ++ renameWithin old new bound after

def renameIdentifier (old new text : List Char) : List Char :=
  renameWithin old new text.length text

/-- A uniform on its own in a block. The block has no instance name, so that the
uniform keeps its identifier. -/
structure UniformBlock where
  binding : Nat
  type : List Char
  declarator : List Char
  deriving DecidableEq, Repr

/-- The line that declares the block. -/
def UniformBlock.text (block : UniformBlock) : List Char :=
  "layout(std140, set = 0, binding = ".toList ++ decimal block.binding ++
    ") uniform ZenithUniform".toList ++ decimal block.binding ++ " \x7b ".toList ++
    block.type ++ [' '] ++ block.declarator ++ "; \x7d;\n".toList

/-- The next free locations of the inputs and outputs that are numbered in order
of appearance. -/
structure Slots where
  input : Nat
  output : Nat
  deriving DecidableEq, Repr

def Slots.initial : Slots := { input := 0, output := 0 }

/-- What became of a piece of a stage: its text, the blocks it added to the
header, and the locations still free after it. -/
structure Lowered where
  text : List Char
  blocks : List UniformBlock
  slots : Slots
  deriving DecidableEq, Repr

/-- What is the same for all statements of a stage. -/
structure Setting where
  stage : Stage
  dialect : Dialect
  layout : Layout

namespace Setting

/-- Whether the ES 1.00 colour output is renamed in this stage. -/
def renamesFragColor (setting : Setting) : Bool :=
  setting.stage = .fragment && setting.dialect = .legacy

/-- One interface variable with its location. -/
def locatedText (location : Nat) (direction : String) (declaration : Declaration)
    (declarator : List Char) : List Char :=
  "layout(location = ".toList ++ decimal location ++ ") ".toList ++
    (declaration.interpolation.map (· ++ [' '])).flatten ++
    direction.toList ++ [' '] ++ declaration.type ++ [' '] ++ declarator ++ [';']

/-- Interface variables at consecutive locations from `location` on. -/
def consecutiveTexts (location : Nat) (direction : String) (declaration : Declaration) :
    List (List Char) :=
  declaration.declarators.mapIdx fun index declarator =>
    locatedText (location + index) direction declaration declarator

/-- The uniform blocks of a declaration. -/
def blocks? (setting : Setting) (declaration : Declaration) : Option (List UniformBlock) :=
  declaration.declarators.mapM fun declarator =>
    (setting.layout.binding? declarator).map fun binding =>
      { binding, type := declaration.type, declarator }

/-- Varyings at the locations of the layout. -/
def varyingTexts? (setting : Setting) (declaration : Declaration) :
    Option (List (List Char)) :=
  let direction := match setting.stage with
    | .vertex => "out"
    | .fragment => "in"
  declaration.declarators.mapM fun declarator =>
    (setting.layout.location? declarator).map fun location =>
      locatedText location direction declaration declarator

/-- Lowers a declaration, or leaves it to stand as it is: an opaque uniform,
and an attribute outside the vertex stage. -/
def lowerDeclaration? (setting : Setting) (slots : Slots) (declaration : Declaration) :
    Option Lowered :=
  match declaration.role with
  | .uniform =>
      if declaration.isOpaque then none
      else (setting.blocks? declaration).map fun blocks => { text := [], blocks, slots }
  | .vertexInput =>
      match setting.stage with
      | .fragment => none
      | .vertex => some {
          text := join [' '] (consecutiveTexts slots.input "in" declaration)
          blocks := []
          slots := { slots with input := slots.input + declaration.declarators.length } }
  | .varying =>
      (setting.varyingTexts? declaration).map fun texts =>
        { text := join [' '] texts, blocks := [], slots }
  | .fragmentOutput => some {
      text := join [' '] (consecutiveTexts slots.output "out" declaration)
      blocks := []
      slots := { slots with output := slots.output + declaration.declarators.length } }

/-- Whether a trimmed statement sets a default precision. -/
def isPrecision (code : List Char) : Bool :=
  "precision ".toList.isPrefixOf code && code.getLast? == some ';'

/-- Lowers one statement with the blanks around it. -/
def lowerStatement (setting : Setting) (slots : Slots) (statement : List Char) : Lowered :=
  let indent := statement.takeWhile isBlank
  let code := trim statement
  if isPrecision code then
    { text := indent, blocks := [], slots }
  else
    match (Declaration.parse? setting.stage setting.dialect code).bind
        (setting.lowerDeclaration? slots) with
    | some lowered => { lowered with text := indent ++ lowered.text }
    | none => { text := statement, blocks := [], slots }

def lowerStatements (setting : Setting) (slots : Slots) : List (List Char) → Lowered
  | [] => { text := [], blocks := [], slots }
  | statement :: rest =>
      let first := setting.lowerStatement slots statement
      let others := setting.lowerStatements first.slots rest
      { text := first.text ++ others.text
        blocks := first.blocks ++ others.blocks
        slots := others.slots }

/-- Whether a line is a directive that has no place in the lowered stage. -/
def isDropped (line : List Char) : Bool :=
  "#version".toList.isPrefixOf (trimLeft line) ||
    "#extension".toList.isPrefixOf (trimLeft line)

/-- Lowers one line. Directives other than the dropped ones and the comment at
the end of the line stay as they are. -/
def lowerLine (setting : Setting) (slots : Slots) (line : List Char) : Lowered :=
  if isDropped line then
    { text := [], blocks := [], slots }
  else
    let lowered :=
      if Declaration.isDirective line then
        { text := line, blocks := [], slots }
      else
        let (code, comment) := Declaration.splitComment line
        let lowered := setting.lowerStatements slots (splitAfter ';' code)
        { lowered with text := lowered.text ++ comment }
    if setting.renamesFragColor then
      { lowered with text := renameIdentifier fragColor fragColorOutput lowered.text }
    else
      lowered

/-- The lowered lines and the blocks they added to the header. -/
def lowerLines (setting : Setting) (slots : Slots) :
    List (List Char) → List (List Char) × List UniformBlock
  | [] => ([], [])
  | line :: rest =>
      let lowered := setting.lowerLine slots line
      let (texts, blocks) := setting.lowerLines lowered.slots rest
      (lowered.text :: texts, lowered.blocks ++ blocks)

/-- The declaration of the output that stands for the ES 1.00 colour output. -/
def fragColorDeclaration : List Char :=
  "layout(location = 0) out vec4 ".toList ++ fragColorOutput ++ ";\n".toList

/-- The injected header, up to its `#line` directive. -/
def header (setting : Setting) (blocks : List UniformBlock) : List Char :=
  "#version 450\n".toList ++
    (if setting.renamesFragColor then fragColorDeclaration else []) ++
    (blocks.map UniformBlock.text).flatten

/-- The stage as the compiler gets it. -/
def lowerSource (setting : Setting) (source : List Char) : List Char :=
  if setting.dialect.needsLowering then
    let (texts, blocks) := setting.lowerLines .initial (lines source)
    setting.header blocks ++ "#line 1\n".toList ++ (texts.map (· ++ ['\n'])).flatten
  else
    source

end Setting

/-- The layout that the declarations of both stages give. -/
def layoutOf (pair : StagePair) : Layout :=
  let declarations (stage : Stage) :=
    let source := (pair.source stage).toList
    Declaration.collect stage (Dialect.detect source) source
  Layout.ofDeclarations (declarations .vertex ++ declarations .fragment)

/-- Lowers the stages of a pair that are not in a desktop dialect. -/
def lower (pair : StagePair) : StagePair :=
  let layout := layoutOf pair
  let lowerStage (stage : Stage) : String :=
    let source := (pair.source stage).toList
    .ofList (Setting.lowerSource ⟨stage, Dialect.detect source, layout⟩ source)
  { vertex := lowerStage .vertex, fragment := lowerStage .fragment }

end LiveShader.Glsl
