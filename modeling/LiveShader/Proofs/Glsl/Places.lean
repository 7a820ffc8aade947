import LiveShader.Proofs.Glsl.Layout
import LiveShader.Proofs.Glsl.Renaming

/-! # Places of interface variables

A declaration that a stage lowers declares a few variables, each of which gets a
number: a uniform its binding and any other variable its location. -/

namespace LiveShader.Glsl

open Text

/-- An interface variable as it is declared. -/
structure Declared where
  role : Role
  interpolation : List (List Char)
  type : List Char
  declarator : List Char
  deriving DecidableEq, Repr

def Declared.name (declared : Declared) : List Char :=
  Declaration.baseName declared.declarator

/-- An interface variable with its number. -/
structure Place extends Declared where
  number : Nat
  deriving DecidableEq, Repr

namespace Declaration

def declared (declaration : Declaration) : List Declared :=
  declaration.declarators.map fun declarator =>
    { role := declaration.role
      interpolation := declaration.interpolation
      type := declaration.type
      declarator }

/-- Whether a stage lowers a declaration and does not leave it as it stands. -/
def isLowered (stage : Stage) (declaration : Declaration) : Bool :=
  match declaration.role with
  | .uniform => !declaration.isOpaque
  | .vertexInput => stage = .vertex
  | .varying | .fragmentOutput => true

end Declaration

/-! ## Numbers -/

/-- The locations still free after some variables with a role. -/
def Slots.advance (slots : Slots) (count : Nat) : Role → Slots
  | .vertexInput => { slots with input := slots.input + count }
  | .fragmentOutput => { slots with output := slots.output + count }
  | .varying | .uniform => slots

@[simp] theorem Slots.advance_zero (slots : Slots) (role : Role) :
    slots.advance 0 role = slots := by
  cases role <;> rfl

theorem Slots.advance_advance (slots : Slots) (first second : Nat) (role : Role) :
    (slots.advance first role).advance second role = slots.advance (first + second) role := by
  cases role <;> simp [advance, Nat.add_assoc]

namespace Layout

/-- The number a variable is due when these locations are free. -/
def number? (layout : Layout) (slots : Slots) (declared : Declared) : Option Nat :=
  match declared.role with
  | .uniform => layout.binding? declared.declarator
  | .varying => layout.location? declared.declarator
  | .vertexInput => some slots.input
  | .fragmentOutput => some slots.output

/-- Whether the names that a declaration is looked up by are in the layout. -/
def Holds (layout : Layout) (declaration : Declaration) : Prop :=
  match declaration.role with
  | .uniform => declaration.isOpaque = false → declaration.names ⊆ layout.uniforms
  | .varying => declaration.names ⊆ layout.varyings
  | .vertexInput | .fragmentOutput => True

theorem holds_ofDeclarations {declarations : List Declaration} {declaration : Declaration}
    (member : declaration ∈ declarations) : (ofDeclarations declarations).Holds declaration := by
  unfold Holds
  split
  case h_1 role =>
    intro loose name among
    exact mem_uniforms.mpr (List.mem_flatMap.mpr
      ⟨declaration, List.mem_filter.mpr ⟨member, by simp [role, loose]⟩, among⟩)
  case h_2 role =>
    intro name among
    exact mem_varyings.mpr (List.mem_flatMap.mpr
      ⟨declaration, List.mem_filter.mpr ⟨member, by simp [role]⟩, among⟩)
  case h_3 => trivial
  case h_4 => trivial

end Layout

/-- Places have the numbers they are due, one after the other. -/
inductive Numbered (layout : Layout) : Slots → List Place → Slots → Prop where
  | nil (slots : Slots) : Numbered layout slots [] slots
  | cons {slots last : Slots} {place : Place} {rest : List Place}
      (due : layout.number? slots place.toDeclared = some place.number)
      (later : Numbered layout (slots.advance 1 place.role) rest last) :
      Numbered layout slots (place :: rest) last

namespace Numbered

variable {layout : Layout} {slots middle last : Slots} {first second places : List Place}

theorem append (earlier : Numbered layout slots first middle)
    (later : Numbered layout middle second last) :
    Numbered layout slots (first ++ second) last := by
  induction earlier with
  | nil => exact later
  | cons due _ induction => exact .cons due (induction later)

theorem numbers_of_counted (role : Role) (free : Slots → Nat)
    (due : ∀ slots declared, declared.role = role →
      layout.number? slots declared = some (free slots))
    (next : ∀ slots other, free (slots.advance 1 other) =
      if other = role then free slots + 1 else free slots)
    (numbered : Numbered layout slots places last) :
    let counted := places.filter fun place => place.role = role
    counted.map Place.number = List.range' (free slots) counted.length := by
  induction numbered with
  | nil => rfl
  | @cons slots last place rest number later induction =>
      intro counted
      simp only [next] at induction
      by_cases same : place.role = role
      · have first : free slots = place.number := by
          simpa [due slots place.toDeclared same] using number
        have counts : counted = place :: rest.filter fun place => place.role = role :=
          List.filter_cons_of_pos (by simpa using same)
        rw [if_pos same] at induction
        rw [counts, List.map_cons, List.length_cons, List.range'_succ, induction, first]
      · have counts : counted = rest.filter fun place => place.role = role :=
          List.filter_cons_of_neg (by simpa using same)
        rw [if_neg same] at induction
        rw [counts, induction]

theorem number_of_mem (numbered : Numbered layout slots places last) {place : Place}
    (member : place ∈ places) :
    ∃ free, layout.number? free place.toDeclared = some place.number := by
  induction numbered with
  | nil => cases member
  | @cons slots last head rest due later induction =>
      rcases List.mem_cons.mp member with rfl | among
      · exact ⟨slots, due⟩
      · exact induction among

end Numbered

/-! ## Texts -/

namespace Place

def direction (stage : Stage) (place : Place) : String :=
  match place.role, stage with
  | .uniform, _ => "uniform"
  | .vertexInput, _ => "in"
  | .fragmentOutput, _ => "out"
  | .varying, .vertex => "out"
  | .varying, .fragment => "in"

def opening (stage : Stage) (place : Place) : List Char :=
  "layout(location = ".toList ++ decimal place.number ++ ") ".toList ++
    (place.interpolation.map (· ++ [' '])).flatten ++ (place.direction stage).toList

/-- What stands in an opening besides the number and the qualifiers. -/
def frame : List String :=
  ["layout(location = ", ") ", " ", "uniform", "in", "out"]

theorem direction_mem_frame (stage : Stage) (place : Place) : place.direction stage ∈ frame := by
  unfold direction
  split <;> simp [frame]

theorem not_mem_opening {place : Place} {character : Char}
    (qualified : ∀ word ∈ place.interpolation, character ∉ word)
    (framed : ∀ text ∈ frame, character ∉ text.toList) (other : character.isDigit = false)
    (stage : Stage) : character ∉ place.opening stage := by
  have number : character ∉ decimal place.number := by
    intro member
    have digit := Nat.isDigit_of_mem_toDigits (by decide) (by decide) member
    rw [other] at digit
    cases digit
  have qualifiers : character ∉ (place.interpolation.map (· ++ [' '])).flatten := by
    have solid : character ≠ ' ' := by simpa using framed " " (by simp [frame])
    simpa [solid] using qualified
  have layout := framed "layout(location = " (by simp [frame])
  have closing := framed ") " (by simp [frame])
  have direction := framed _ (direction_mem_frame stage place)
  have located := List.not_mem_append (List.not_mem_append layout number) closing
  exact List.not_mem_append (List.not_mem_append located qualifiers) direction

def statement (stage : Stage) (rename : List Char → List Char) (place : Place) : List Char :=
  place.opening stage ++ ' ' :: rename place.type ++ ' ' :: rename place.declarator ++ [';']

def block (place : Place) : UniformBlock :=
  { binding := place.number, type := place.type, declarator := place.declarator }

end Place

/-- The statements that stand where some variables are declared: uniforms leave none. -/
def statementsOf (stage : Stage) (rename : List Char → List Char) (places : List Place) :
    List Char :=
  join [' '] ((places.filter fun place => place.role ≠ .uniform).map
    (Place.statement stage rename))

def blocksOf (places : List Place) : List UniformBlock :=
  (places.filter fun place => place.role = .uniform).map Place.block

/-! ## Declarations -/

namespace Declaration

variable {declaration : Declaration} {layout : Layout} {slots : Slots}

def place (declaration : Declaration) (declarator : List Char) (number : Nat) : Place :=
  { role := declaration.role
    interpolation := declaration.interpolation
    type := declaration.type
    declarator
    number }

theorem exists_numbered_of_lookup {lookup : List Char → Option Nat}
    {declarators : List (List Char)} (still : slots.advance 1 declaration.role = slots)
    (due : ∀ declarator number, layout.number? slots
      (declaration.place declarator number).toDeclared = lookup declarator)
    (found : ∀ declarator ∈ declarators, (lookup declarator).isSome) :
    ∃ number : List Char → Nat,
      (∀ declarator ∈ declarators, lookup declarator = some (number declarator)) ∧
        Numbered layout slots
          (declarators.map fun declarator => declaration.place declarator (number declarator))
          slots := by
  let number (declarator : List Char) : Nat := (lookup declarator).getD 0
  have looked : ∀ declarator ∈ declarators, lookup declarator = some (number declarator) := by
    intro declarator among
    rcases Option.isSome_iff_exists.mp (found declarator among) with ⟨value, same⟩
    simp [number, same]
  refine ⟨number, looked, ?_⟩
  clear found
  induction declarators with
  | nil => exact .nil slots
  | cons declarator rest induction =>
      rcases List.forall_mem_cons.mp looked with ⟨first, others⟩
      refine .cons ((due declarator _).trans first) ?_
      rw [show slots.advance 1 (declaration.place declarator _).role = slots from still]
      exact induction others

theorem numbered_mapIdx {free : Slots → Nat}
    (due : ∀ slots declared, declared.role = declaration.role →
      layout.number? slots declared = some (free slots))
    (next : ∀ slots, free (slots.advance 1 declaration.role) = free slots + 1)
    (slots : Slots) (declarators : List (List Char)) :
    Numbered layout slots
      (declarators.mapIdx fun index declarator =>
        declaration.place declarator (free slots + index))
      (slots.advance declarators.length declaration.role) := by
  induction declarators generalizing slots with
  | nil =>
      rw [List.mapIdx_nil, List.length_nil, Slots.advance_zero]
      exact .nil slots
  | cons declarator rest induction =>
      have later := induction (slots.advance 1 declaration.role)
      rw [Slots.advance_advance, Nat.add_comm 1] at later
      rw [List.mapIdx_cons]
      refine .cons (due slots _ rfl) ?_
      simp only [next, Nat.add_assoc, Nat.add_comm 1] at later
      exact later

end Declaration

/-! ## What a stage makes of a declaration -/

theorem mapM_of_some {α β : Type} {find : α → Option β} {value : α → β} {keys : List α}
    (found : ∀ key ∈ keys, find key = some (value key)) :
    keys.mapM find = some (keys.map value) := by
  induction keys with
  | nil => rfl
  | cons key rest induction =>
      rcases List.forall_mem_cons.mp found with ⟨first, others⟩
      simp [List.mapM_cons, first, induction others]

section

variable {places : List Place}

theorem statementsOf_of_uniform (uniform : ∀ place ∈ places, place.role = .uniform)
    (stage : Stage) (rename : List Char → List Char) : statementsOf stage rename places = [] := by
  have none_located : places.filter (fun place => place.role ≠ .uniform) = [] := by
    simpa [List.filter_eq_nil_iff] using uniform
  rw [statementsOf, none_located]
  rfl

theorem statementsOf_of_located (located : ∀ place ∈ places, place.role ≠ .uniform)
    (stage : Stage) (rename : List Char → List Char) :
    statementsOf stage rename places = join [' '] (places.map (Place.statement stage rename)) := by
  rw [statementsOf, List.filter_eq_self.mpr (by simpa using located)]

theorem blocksOf_of_uniform (uniform : ∀ place ∈ places, place.role = .uniform) :
    blocksOf places = places.map Place.block := by
  rw [blocksOf, List.filter_eq_self.mpr (by simpa using uniform)]

theorem blocksOf_of_located (located : ∀ place ∈ places, place.role ≠ .uniform) :
    blocksOf places = [] := by
  simpa [blocksOf] using located

end

namespace Setting

variable (setting : Setting) (slots : Slots) {declaration : Declaration}

theorem lowerDeclaration?_of_kept (kept : declaration.isLowered setting.stage = false) :
    setting.lowerDeclaration? slots declaration = none := by
  cases role : declaration.role <;> cases stage : setting.stage <;>
    simp_all [Declaration.isLowered, lowerDeclaration?]

structure Lowers (declaration : Declaration) (places : List Place) : Prop where
  declared : places.map Place.toDeclared = declaration.declared
  numbered : Numbered setting.layout slots places
    (slots.advance declaration.declarators.length declaration.role)
  result : setting.lowerDeclaration? slots declaration = some
    { text := statementsOf setting.stage id places
      blocks := blocksOf places
      slots := slots.advance declaration.declarators.length declaration.role }

theorem role_of_declared {places : List Place}
    (declared : places.map Place.toDeclared = declaration.declared) {place : Place}
    (member : place ∈ places) : place.role = declaration.role := by
  have among : place.toDeclared ∈ declaration.declared := by
    rw [← declared]
    exact List.mem_map_of_mem member
  rcases List.mem_map.mp among with ⟨declarator, _, same⟩
  rw [← same]

theorem exists_lowers_uniform (role : declaration.role = .uniform)
    (loose : declaration.isOpaque = false) (holds : setting.layout.Holds declaration) :
    ∃ places, setting.Lowers slots declaration places := by
  have still : slots.advance 1 declaration.role = slots := by rw [role]; rfl
  have found : ∀ declarator ∈ declaration.declarators,
      (setting.layout.binding? declarator).isSome := by
    simp only [Layout.Holds, role] at holds
    intro declarator among
    exact Layout.isSome_binding?.mpr (holds loose (List.mem_map_of_mem among))
  rcases Declaration.exists_numbered_of_lookup still
    (fun declarator number => by rw [Layout.number?, Declaration.place, role]) found with
    ⟨number, looked, numbered⟩
  let places := declaration.declarators.map fun declarator =>
    declaration.place declarator (number declarator)
  have declared : places.map Place.toDeclared = declaration.declared := List.map_map
  have uniform : ∀ place ∈ places, place.role = .uniform :=
    fun place member => (role_of_declared declared member).trans role
  have blocks : setting.blocks? declaration = some (places.map Place.block) := by
    rw [blocks?, List.map_map]
    exact mapM_of_some fun declarator among => by rw [looked declarator among]; rfl
  refine ⟨places, declared, ?_, ?_⟩
  · rwa [role]
  · simp only [lowerDeclaration?, role, loose, blocks, statementsOf_of_uniform uniform,
      blocksOf_of_uniform uniform]
    rfl

theorem statement_place (declarator : List Char) (number : Nat) (stage : Stage) :
    (declaration.place declarator number).statement stage id =
      locatedText number ((declaration.place declarator number).direction stage) declaration
        declarator := by
  have spaced (front type : List Char) : front ++ ' ' :: type ++ ' ' :: declarator ++ [';'] =
      front ++ [' '] ++ type ++ [' '] ++ declarator ++ [';'] := by simp
  exact spaced ((declaration.place declarator number).opening stage) declaration.type

theorem exists_lowers_varying (role : declaration.role = .varying)
    (holds : setting.layout.Holds declaration) :
    ∃ places, setting.Lowers slots declaration places := by
  have still : slots.advance 1 declaration.role = slots := by rw [role]; rfl
  have found : ∀ declarator ∈ declaration.declarators,
      (setting.layout.location? declarator).isSome := by
    simp only [Layout.Holds, role] at holds
    intro declarator among
    exact Layout.isSome_location?.mpr (holds (List.mem_map_of_mem among))
  rcases Declaration.exists_numbered_of_lookup still
    (fun declarator number => by rw [Layout.number?, Declaration.place, role]) found with
    ⟨number, looked, numbered⟩
  let places := declaration.declarators.map fun declarator =>
    declaration.place declarator (number declarator)
  have declared : places.map Place.toDeclared = declaration.declared := List.map_map
  have located : ∀ place ∈ places, place.role ≠ .uniform := by
    intro place member
    rw [role_of_declared declared member, role]
    decide
  have texts : setting.varyingTexts? declaration =
      some (places.map (Place.statement setting.stage id)) := by
    rw [varyingTexts?, List.map_map]
    refine mapM_of_some fun declarator among => ?_
    rw [looked declarator among, Option.map_some, Function.comp_apply, statement_place]
    simp only [Place.direction, Declaration.place, role]
    cases setting.stage <;> rfl
  refine ⟨places, declared, ?_, ?_⟩
  · rwa [role]
  · simp only [lowerDeclaration?, role, texts, statementsOf_of_located located,
      blocksOf_of_located located]
    rfl

theorem exists_lowers_counted (free : Slots → Nat) (direction : String)
    (due : ∀ slots declared, declared.role = declaration.role →
      setting.layout.number? slots declared = some (free slots))
    (next : ∀ slots, free (slots.advance 1 declaration.role) = free slots + 1)
    (role : declaration.role ≠ .uniform)
    (directed : ∀ place : Place, place.role = declaration.role →
      place.direction setting.stage = direction)
    (result : setting.lowerDeclaration? slots declaration = some
      { text := join [' '] (consecutiveTexts (free slots) direction declaration)
        blocks := []
        slots := slots.advance declaration.declarators.length declaration.role }) :
    ∃ places, setting.Lowers slots declaration places := by
  let places := declaration.declarators.mapIdx fun index declarator =>
    declaration.place declarator (free slots + index)
  have declared : places.map Place.toDeclared = declaration.declared := by
    simp only [places, List.mapIdx_eq_zipIdx_map, List.map_map, Declaration.declared]
    conv_rhs => rw [← List.zipIdx_map_fst 0 declaration.declarators, List.map_map]
    rfl
  have located : ∀ place ∈ places, place.role ≠ .uniform := by
    intro place member
    rw [role_of_declared declared member]
    exact role
  have texts : consecutiveTexts (free slots) direction declaration =
      places.map (Place.statement setting.stage id) := by
    simp only [places, consecutiveTexts, List.mapIdx_eq_zipIdx_map, List.map_map]
    refine List.map_congr_left fun entry _ => ?_
    rw [Function.comp_apply, statement_place, directed _ rfl]
  refine ⟨places, declared, Declaration.numbered_mapIdx due next slots _, ?_⟩
  rw [result, texts, statementsOf_of_located located, blocksOf_of_located located]

theorem exists_lowers (lowered : declaration.isLowered setting.stage)
    (holds : setting.layout.Holds declaration) :
    ∃ places, setting.Lowers slots declaration places := by
  cases role : declaration.role with
  | uniform =>
      have loose : declaration.isOpaque = false := by
        simpa [Declaration.isLowered, role] using lowered
      exact exists_lowers_uniform setting slots role loose holds
  | varying => exact exists_lowers_varying setting slots role holds
  | vertexInput =>
      have stage : setting.stage = .vertex := by
        simpa [Declaration.isLowered, role] using lowered
      refine exists_lowers_counted setting slots Slots.input "in" ?_ ?_ ?_ ?_ ?_
      · intro slots declared same
        simp [Layout.number?, same, role]
      · intro slots
        simp [role, Slots.advance]
      · simp [role]
      · intro place same
        simp [Place.direction, same, role]
      · simp [lowerDeclaration?, role, stage, Slots.advance]
  | fragmentOutput =>
      refine exists_lowers_counted setting slots Slots.output "out" ?_ ?_ ?_ ?_ ?_
      · intro slots declared same
        simp [Layout.number?, same, role]
      · intro slots
        simp [role, Slots.advance]
      · simp [role]
      · intro place same
        simp [Place.direction, same, role]
      · simp [lowerDeclaration?, role, Slots.advance]

end Setting

end LiveShader.Glsl
