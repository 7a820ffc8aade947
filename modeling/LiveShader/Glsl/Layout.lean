import LiveShader.Glsl.Declaration

/-! The numbers that both stages of a program agree on: a binding for each
uniform and a location for each varying. -/

namespace LiveShader.Glsl

/-- Bindings and locations are positions in these lists of base names, neither
of which holds a name twice. -/
structure Layout where
  /-- The uniforms, in order of appearance. -/
  uniforms : List (List Char)
  /-- The varyings, in ascending order. -/
  varyings : List (List Char)
  deriving DecidableEq, Repr

namespace Layout

def empty : Layout := { uniforms := [], varyings := [] }

/-- Adds a name at the end of a list that does not hold it. -/
def appendNew (names : List (List Char)) (name : List Char) : List (List Char) :=
  if names.contains name then names else names ++ [name]

/-- Puts a name at its place in an ascending list that does not hold it. Names
are ordered by their code points. -/
def insertSorted (names : List (List Char)) (name : List Char) : List (List Char) :=
  match names with
  | [] => [name]
  | head :: rest =>
      if name = head then head :: rest
      else if name < head then name :: head :: rest
      else head :: insertSorted rest name

/-- Takes the names of one declaration into the layout. -/
def extend (layout : Layout) (declaration : Declaration) : Layout :=
  let names := declaration.declarators.map Declaration.baseName
  match declaration.role with
  | .uniform =>
      if declaration.isOpaque then layout
      else { layout with uniforms := names.foldl appendNew layout.uniforms }
  | .varying => { layout with varyings := names.foldl insertSorted layout.varyings }
  | .vertexInput => layout
  | .fragmentOutput => layout

/-- The layout of a program with these declarations. -/
def ofDeclarations (declarations : List Declaration) : Layout :=
  declarations.foldl extend empty

def binding? (layout : Layout) (declarator : List Char) : Option Nat :=
  layout.uniforms.idxOf? (Declaration.baseName declarator)

def location? (layout : Layout) (declarator : List Char) : Option Nat :=
  layout.varyings.idxOf? (Declaration.baseName declarator)

end Layout

end LiveShader.Glsl
