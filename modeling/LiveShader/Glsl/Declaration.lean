import LiveShader.Glsl.Dialect
import LiveShader.Shader.Stage

/-! Global declarations of a stage's interface: attributes, varyings, uniforms
and fragment outputs, each written as one statement. -/

namespace LiveShader.Glsl

open Text

/-- What a declared variable is for. The ES 3.00 qualifiers `in` and `out` are
read as the role they play in their stage. -/
inductive Role where
  | vertexInput
  | varying
  | uniform
  | fragmentOutput
  deriving DecidableEq, Repr

/-- The role a storage qualifier stands for. -/
def Role.ofQualifier? (stage : Stage) (dialect : Dialect) (qualifier : List Char) :
    Option Role :=
  if qualifier = "uniform".toList then
    some .uniform
  else
    match dialect with
    | .legacy =>
        if qualifier = "attribute".toList then some .vertexInput
        else if qualifier = "varying".toList then some .varying
        else none
    | .es3 =>
        if qualifier = "in".toList then
          match stage with
          | .vertex => some .vertexInput
          | .fragment => some .varying
        else if qualifier = "out".toList then
          match stage with
          | .vertex => some .varying
          | .fragment => some .fragmentOutput
        else none
    | .desktop => none

/-- One declaration statement. A declarator is a name with its array brackets,
if it has any. -/
structure Declaration where
  role : Role
  /-- The interpolation and invariance qualifiers, in the order written. -/
  interpolation : List (List Char)
  type : List Char
  declarators : List (List Char)
  deriving DecidableEq, Repr

namespace Declaration

def interpolationWords : List (List Char) :=
  ["flat".toList, "smooth".toList, "noperspective".toList, "centroid".toList,
   "invariant".toList]

def precisionWords : List (List Char) :=
  ["lowp".toList, "mediump".toList, "highp".toList]

/-- How the names of the types begin that cannot be a member of a uniform
block. -/
def opaqueTypes : List (List Char) :=
  ["sampler".toList, "image".toList, "texture".toList]

def isOpaque (declaration : Declaration) : Bool :=
  opaqueTypes.any fun opening => opening.isPrefixOf declaration.type

/-- The declarators of a comma-separated list, blanks and empty places left
out. -/
def declaratorsOf (text : List Char) : List (List Char) :=
  ((text.splitOn ',').map trim).filter fun declarator => !declarator.isEmpty

/-- The declaration that the words of a statement form. -/
def ofWords? (stage : Stage) (dialect : Dialect) (statement : List (List Char)) :
    Option Declaration :=
  let interpolation := statement.takeWhile interpolationWords.contains
  match statement.dropWhile interpolationWords.contains with
  | [] => none
  | qualifier :: rest =>
      match Role.ofQualifier? stage dialect qualifier, rest.dropWhile precisionWords.contains with
      | some role, type :: rest =>
          let declarators := declaratorsOf (join [' '] rest)
          if declarators.isEmpty then none
          else some { role, interpolation, type, declarators }
      | _, _ => none

/-- What stands before the semicolon of a statement that ends in one. -/
def withoutSemicolon? (statement : List Char) : Option (List Char) :=
  match statement.reverse with
  | ';' :: reversed => some reversed.reverse
  | _ => none

/-- The characters no declaration statement holds before its end. -/
def isForeign (character : Char) : Bool :=
  character == ';' || character == '{' || character == '('

/-- Reads one trimmed statement, such as `uniform highp vec2 resolution;`. -/
def parse? (stage : Stage) (dialect : Dialect) (statement : List Char) : Option Declaration :=
  match withoutSemicolon? statement with
  | none => none
  | some body =>
      if body.any isForeign then none else ofWords? stage dialect (words body)

/-- The name a declarator declares: what stands before its first bracket. -/
def baseName (declarator : List Char) : List Char :=
  trim (declarator.takeWhile (· != '['))

/-- A line's code and the `//` comment that follows it. -/
def splitComment (line : List Char) : List Char × List Char :=
  match splitFirst? ['/', '/'] line with
  | some (code, comment) => (code, '/' :: '/' :: comment)
  | none => (line, [])

/-- Whether a line is a preprocessor directive. -/
def isDirective (line : List Char) : Bool :=
  (trimLeft line).head? == some '#'

/-- The trimmed statements of a stage, directives and comments left out. A
statement does not reach past the end of its line. -/
def statements (source : List Char) : List (List Char) :=
  ((lines source).filter fun line => !isDirective line).flatMap fun line =>
    (splitAfter ';' (splitComment line).1).map trim

/-- The declarations of a stage that has to be lowered, in order. -/
def collect (stage : Stage) (dialect : Dialect) (source : List Char) : List Declaration :=
  if dialect.needsLowering then
    (statements source).filterMap (parse? stage dialect)
  else
    []

end Declaration

end LiveShader.Glsl
