import LiveShader.Proofs.Glsl.Interface

/-! # Recognised variables

What lowering makes of a pair's interface is decided by the variables that it recognises,
stage by stage and in order. Their interpolation qualifiers are written along, but have no
part in their numbers. -/

namespace LiveShader.Glsl

/-- A variable of the interface with its location or its binding. -/
structure Recognised where
  role : Role
  type : List Char
  declarator : List Char
  number : Option Nat
  deriving DecidableEq, Repr

/-- A variable without its interpolation qualifiers. -/
def Declared.bare (declared : Declared) : Declared :=
  { declared with interpolation := [] }

def Recognised.declared (found : Recognised) : Declared :=
  { role := found.role
    interpolation := []
    type := found.type
    declarator := found.declarator }

def Place.recognised (place : Place) : Recognised :=
  { role := place.role
    type := place.type
    declarator := place.declarator
    number := some place.number }

/-- Variables with the numbers they are due, from these free locations on. -/
def Layout.recognise (layout : Layout) (slots : Slots) : List Declared → List Recognised
  | [] => []
  | declared :: rest =>
      { role := declared.role
        type := declared.type
        declarator := declared.declarator
        number := layout.number? slots declared } ::
        layout.recognise (slots.advance 1 declared.role) rest

/-- The variables that a stage of a pair declares and that are lowered. -/
def recognised (pair : StagePair) (stage : Stage) : List Recognised :=
  (layoutOf pair).recognise .initial (declaredBy pair stage)

/-! ## The numbers that are written -/

theorem Numbered.recognise {layout : Layout} {slots last : Slots} {places : List Place}
    (numbered : Numbered layout slots places last) :
    layout.recognise slots (places.map Place.toDeclared) = places.map Place.recognised := by
  induction numbered with
  | nil => rfl
  | cons due _ induction => rw [List.map_cons, Layout.recognise, due, induction]; rfl

theorem IsDocument.recognised {pair : StagePair} {stage : Stage} {document : List (List Piece)}
    (reads : IsDocument pair stage document) :
    (placesOf document).map Place.recognised = Glsl.recognised pair stage := by
  rcases reads.numbered with ⟨last, numbered⟩
  rw [Glsl.recognised, ← reads.complete, numbered.recognise]

/-! ## What numbers depend on -/

theorem Layout.recognise_bare (layout : Layout) (slots : Slots) (all : List Declared) :
    layout.recognise slots (all.map Declared.bare) = layout.recognise slots all := by
  induction all generalizing slots with
  | nil => rfl
  | cons declared rest induction =>
      have number : layout.number? slots declared.bare = layout.number? slots declared := rfl
      rw [List.map_cons, recognise, recognise, number]
      exact congrArg _ (induction _)

theorem Layout.declared_recognise (layout : Layout) (slots : Slots) (all : List Declared) :
    (layout.recognise slots all).map Recognised.declared = all.map Declared.bare := by
  induction all generalizing slots with
  | nil => rfl
  | cons declared rest induction =>
      rw [recognise, List.map_cons, List.map_cons, induction]
      rfl

/-- The names of the variables with a role. -/
def namesOf (role : Role) (all : List Declared) : List (List Char) :=
  (all.filter fun declared => declared.role = role).map Declared.name

theorem namesOf_bare (role : Role) (all : List Declared) :
    namesOf role (all.map Declared.bare) = namesOf role all := by
  rw [namesOf, List.filter_map, List.map_map]
  rfl

theorem namesOf_declared (role : Role) (stage : Stage) (declarations : List Declaration) :
    namesOf role ((declarations.filter (Declaration.isLowered stage)).flatMap
        Declaration.declared) =
      (declarations.filter fun declaration =>
        declaration.role = role && declaration.isLowered stage).flatMap Declaration.names := by
  have names (declaration : Declaration) : namesOf role declaration.declared =
      if declaration.role = role then declaration.names else [] := by
    by_cases same : declaration.role = role <;>
      simp [namesOf, Declaration.declared, Declaration.names, List.filter_map, same,
        Function.comp_def, Declared.name]
  induction declarations with
  | nil => rfl
  | cons declaration rest induction =>
      have split (first second : List Declared) : namesOf role (first ++ second) =
          namesOf role first ++ namesOf role second := by simp [namesOf]
      by_cases lowered : declaration.isLowered stage
      · by_cases same : declaration.role = role <;>
          simp [lowered, same, split, names, induction]
      · simp [lowered, induction]

theorem uniformNames_eq (stage : Stage) (declarations : List Declaration) :
    Layout.uniformNames declarations =
      namesOf .uniform ((declarations.filter (Declaration.isLowered stage)).flatMap
        Declaration.declared) := by
  rw [namesOf_declared, Layout.uniformNames]
  congr 1
  refine List.filter_congr fun declaration _ => ?_
  cases role : declaration.role <;> simp [Declaration.isLowered, role]

theorem varyingNames_eq (stage : Stage) (declarations : List Declaration) :
    Layout.varyingNames declarations =
      namesOf .varying ((declarations.filter (Declaration.isLowered stage)).flatMap
        Declaration.declared) := by
  rw [namesOf_declared, Layout.varyingNames]
  congr 1
  refine List.filter_congr fun declaration _ => ?_
  cases role : declaration.role <;> simp [Declaration.isLowered, role]

variable {first second : StagePair}

theorem layoutOf_congr
    (same : ∀ stage, (declaredBy first stage).map Declared.bare =
      (declaredBy second stage).map Declared.bare) : layoutOf first = layoutOf second := by
  have names (role : Role) (stage : Stage) :
      namesOf role (declaredBy first stage) = namesOf role (declaredBy second stage) := by
    rw [← namesOf_bare, same, namesOf_bare]
  have uniforms (pair : StagePair) (stage : Stage) :
      Layout.uniformNames (declarationsOf pair stage) =
        namesOf .uniform (declaredBy pair stage) := uniformNames_eq stage _
  have varyings (pair : StagePair) (stage : Stage) :
      Layout.varyingNames (declarationsOf pair stage) =
        namesOf .varying (declaredBy pair stage) := varyingNames_eq stage _
  have appendUniforms (vertex fragment : List Declaration) :
      Layout.uniformNames (vertex ++ fragment) =
        Layout.uniformNames vertex ++ Layout.uniformNames fragment := by
    simp [Layout.uniformNames]
  have appendVaryings (vertex fragment : List Declaration) :
      Layout.varyingNames (vertex ++ fragment) =
        Layout.varyingNames vertex ++ Layout.varyingNames fragment := by
    simp [Layout.varyingNames]
  have sameUniforms : (layoutOf first).uniforms = (layoutOf second).uniforms := by
    rw [layoutOf_eq, layoutOf_eq, Layout.uniforms_ofDeclarations, Layout.uniforms_ofDeclarations,
      appendUniforms, appendUniforms]
    simp only [uniforms, names]
  have sameVaryings : (layoutOf first).varyings = (layoutOf second).varyings := by
    rw [layoutOf_eq, layoutOf_eq, Layout.varyings_ofDeclarations, Layout.varyings_ofDeclarations,
      appendVaryings, appendVaryings]
    simp only [varyings, names]
  cases firstLayout : layoutOf first
  cases secondLayout : layoutOf second
  rw [firstLayout, secondLayout] at sameUniforms sameVaryings
  exact congr (congrArg Layout.mk sameUniforms) sameVaryings

/-- Two pairs have one interface exactly if they declare the same variables in the same
order, interpolation apart. -/
theorem recognised_eq_iff :
    (∀ stage, recognised first stage = recognised second stage) ↔
      ∀ stage, (declaredBy first stage).map Declared.bare =
        (declaredBy second stage).map Declared.bare := by
  constructor
  · intro same stage
    have known := congrArg (List.map Recognised.declared) (same stage)
    rwa [recognised, recognised, Layout.declared_recognise, Layout.declared_recognise] at known
  · intro same stage
    rw [recognised, recognised, layoutOf_congr same, ← Layout.recognise_bare, same stage,
      Layout.recognise_bare]

end LiveShader.Glsl
