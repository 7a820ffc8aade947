import Mathlib.Data.List.Pairwise
import LiveShader.Proofs.Data.Stretch
import LiveShader.Proofs.Glsl.Comments
import LiveShader.Proofs.Glsl.Definitions
import LiveShader.Proofs.Glsl.Recognition

/-! # Locations of a lowered stage

A variable takes as many consecutive locations as its type needs. Lowering leaves one for
each variable, and does not look at the locations that a stage states itself. -/

namespace LiveShader.Glsl

open Text

/-! ## How many locations a variable takes -/

/-- The types of the matrices with a number of columns. -/
def matrixTypes (columns : Nat) : List (List Char) :=
  ["mat".toList, "dmat".toList].flatMap fun opening =>
    let square := opening ++ decimal columns
    square :: [2, 3, 4].map fun rows => square ++ 'x' :: decimal rows

def columnsOf (type : List Char) : Nat :=
  ([2, 3, 4].find? fun columns => (matrixTypes columns).contains type).getD 1

/-- The sizes of an array, which stand in brackets behind its name or its type. -/
def sizesOf (text : List Char) : List (List Char) :=
  (text.splitOn '[').tail.map fun rest => trim (rest.takeWhile (· != ']'))

section

variable (stage : Stage) (constants : List Char → Nat)

/-- A number that is written out, or that a constant stands for. -/
def valueOf (text : List Char) : Nat :=
  (read32? text).getD (constants text)

/-- A matrix takes a location for each column, an array those of its elements, and every
other variable one. No array is empty. -/
def Declared.span (declared : Declared) : Nat :=
  (sizesOf declared.type ++ sizesOf declared.declarator).foldr
    (fun size width => max (valueOf constants size) 1 * width)
    (columnsOf (Declaration.baseName declared.type))

/-- Whether two variables have different locations, whatever they are for. -/
def Place.Misses (place other : Place) : Prop :=
  ¬Meet place.number (place.span constants) other.number (other.span constants)

/-- Whether no location is that of two inputs or of two outputs. -/
def Place.IsApart (place other : Place) : Prop :=
  place.direction stage = other.direction stage → place.Misses constants other

def AreApart (places : List Place) : Prop :=
  places.Pairwise (Place.IsApart stage constants)

end

/-! ## Locations that a stage states itself -/

/-- The text of a piece that stays. A declaration that is lowered ends what is before it. -/
def Piece.remains : Piece → List Char
  | .kept text => text
  | .declared _ _ => [';']

def keptText (document : List (List Piece)) : List Char :=
  document.flatMap fun pieces =>
    let line := pieces.flatMap Piece.remains
    (if Declaration.isDirective line then [] else line) ++ ['\n']

/-- An outline without the signs of its comments. -/
def withoutSigns : List Char → List Char
  | '/' :: '/' :: rest => withoutSigns rest
  | '/' :: '*' :: '*' :: '/' :: rest => ' ' :: withoutSigns rest
  | character :: rest => character :: withoutSigns rest
  | [] => []

/-- The tokens of the statements that stay. The brace that opens a block is the last token
of its statement. -/
def keptStatements (document : List (List Piece)) : List (List (List Char)) :=
  let code := withoutSigns (Region.code.outline (keptText document))
  let closed := code.flatMap fun character =>
    if character = '{' ∨ character = '}' then [character, ';'] else [character]
  ((closed.splitOn ';').dropLast).map tokens

/-- The tokens in the parentheses of layout qualifiers, and those outside of them. -/
def cutLayouts (inside : Bool) : List (List Char) → List (List Char) × List (List Char)
  | [] => ([], [])
  | token :: rest =>
      if inside then
        let (qualifiers, others) := cutLayouts (token ≠ [')']) rest
        (token :: qualifiers, others)
      else if token = "layout".toList then
        cutLayouts true rest
      else
        let (qualifiers, others) := cutLayouts false rest
        (qualifiers, token :: others)

/-- The location that the qualifiers of a layout state. The last one counts. -/
def locationOf? (constants : List Char → Nat) (qualifiers : List (List Char)) : Option Nat :=
  match (qualifiers.splitOn "location".toList).tail.getLast? with
  | some (['='] :: rest) =>
      some (valueOf constants
        (rest.takeWhile fun token => token ≠ [','] && token ≠ [')']).flatten)
  | _ => none

/-- The inputs and outputs that a statement declares at a location of its own. -/
def explicitIn (stage : Stage) (constants : List Char → Nat) (statement : List (List Char)) :
    List Place :=
  let (qualifiers, words) := cutLayouts false statement
  match locationOf? constants qualifiers, Declaration.ofWords? stage .es3 words with
  | some number, some declaration =>
      if declaration.role = .uniform then []
      else declaration.declarators.map fun declarator => declaration.place declarator number
  | _, _ => []

def explicitPlaces (stage : Stage) (constants : List Char → Nat) (document : List (List Piece)) :
    List Place :=
  (keptStatements document).flatMap (explicitIn stage constants)

example :
    explicitPlaces .fragment (fun _ => 7)
      [[.kept "flat layout(location = SLOT) in".toList],
        [.kept " mat2 m[3]; // layout(location = 2) in vec4 c;".toList]] =
      [{ role := .varying
         interpolation := ["flat".toList]
         type := "mat2".toList
         declarator := "m [ 3 ]".toList
         number := 7 }] := by
  decide +kernel

/-! ## What a lowered stage declares -/

section

variable (pair : StagePair) (stage : Stage) (constants : List Char → Nat)
  (document : List (List Piece))

/-- The colour output that the header declares. -/
def headerPlaces : List Place :=
  if (settingOf pair stage).renamesFragColor then
    [{ role := .fragmentOutput
       interpolation := []
       type := "vec4".toList
       declarator := fragColorOutput
       number := 0 }]
  else
    []

def locatedPlaces : List Place :=
  (placesOf document).filter fun place => place.role ≠ .uniform

/-- The inputs and outputs of a stage that a document lowers it to. -/
def interfaceOf : List Place :=
  headerPlaces pair stage ++ locatedPlaces document ++ explicitPlaces stage constants document

/-- Whether one location for each variable is enough. -/
structure LeavesRoom : Prop where
  /-- Vertex inputs and fragment outputs are counted. Only the last one has room. -/
  counted : ∀ role, role = .vertexInput ∨ role = .fragmentOutput →
    ∀ declared ∈ ((declaredBy pair stage).filter fun declared => declared.role = role).dropLast,
      declared.span constants = 1
  /-- A varying that is declared twice has one location. -/
  named : ((varyingsBy pair stage).map Declared.name).Nodup
  /-- A varying has room up to the next name of the stage in the order of both stages. -/
  spaced : ∀ first ∈ varyingsBy pair stage, ∀ second ∈ varyingsBy pair stage, ∀ number next,
    (layoutOf pair).varyings[number]? = some first.name →
      (layoutOf pair).varyings[next]? = some second.name → number < next →
        number + first.span constants ≤ next
  explicit : AreApart stage constants (explicitPlaces stage constants document)
  /-- The locations that a stage states are beside the ones it is given. -/
  beside : ∀ place ∈ headerPlaces pair stage ++ locatedPlaces document,
    ∀ other ∈ explicitPlaces stage constants document, place.IsApart stage constants other

end

variable {pair : StagePair} {stage : Stage} {constants : List Char → Nat}
  {document : List (List Piece)}

theorem columnsOf_pos (type : List Char) : 0 < columnsOf type := by
  unfold columnsOf
  cases found : [2, 3, 4].find? fun columns => (matrixTypes columns).contains type with
  | none => exact Nat.one_pos
  | some columns =>
      have member := List.mem_of_find?_eq_some found
      simp only [List.mem_cons, List.not_mem_nil, or_false] at member
      rw [Option.getD_some]
      omega

theorem Declared.span_pos (declared : Declared) : 0 < declared.span constants := by
  unfold span
  generalize sizesOf declared.type ++ sizesOf declared.declarator = sizes
  induction sizes with
  | nil => exact columnsOf_pos _
  | cons size rest induction => exact Nat.mul_pos (by omega) induction

theorem Place.misses_iff {place other : Place} :
    place.Misses constants other ↔
      place.number + place.span constants ≤ other.number ∨
        other.number + other.span constants ≤ place.number :=
  not_meet_iff place.span_pos other.span_pos

/-! ## Roles of a stage -/

/-- The roles that a variable can have in a stage where it is lowered. -/
def Role.IsOf (stage : Stage) : Role → Prop
  | .uniform | .varying => True
  | .vertexInput => stage = .vertex
  | .fragmentOutput => stage = .fragment

theorem Role.eq_of_ofQualifier?_fragmentOutput {dialect : Dialect} {qualifier : List Char}
    (known : Role.ofQualifier? stage dialect qualifier = some .fragmentOutput) :
    stage = .fragment ∧ dialect = .es3 := by
  have only : ∀ word ∈ Declaration.qualifierWords,
      Role.ofQualifier? stage dialect word = some .fragmentOutput →
        stage = .fragment ∧ dialect = .es3 := by
    cases stage <;> cases dialect <;> decide
  exact only qualifier (Declaration.mem_qualifierWords known) known

theorem Place.direction_eq_iff {place other : Place} (own : place.role.IsOf stage)
    (otherOwn : other.role.IsOf stage) :
    place.direction stage = other.direction stage ↔ place.role = other.role := by
  unfold Place.direction
  cases stage <;> cases one : place.role <;> cases two : other.role <;>
    simp_all [Role.IsOf]

theorem role_of_mem_declaredBy {declared : Declared} (member : declared ∈ declaredBy pair stage) :
    declared.role.IsOf stage ∧
      (declared.role = .fragmentOutput → dialectOf pair stage = .es3) := by
  rcases List.mem_flatMap.mp member with ⟨declaration, among, inside⟩
  rcases List.mem_filter.mp among with ⟨known, lowered⟩
  rcases List.mem_map.mp inside with ⟨declarator, _, rfl⟩
  rw [declarationsOf, Declaration.collect] at known
  split at known
  case isFalse => cases known
  case isTrue =>
    rcases List.mem_filterMap.mp known with ⟨statement, _, parsed⟩
    rcases Declaration.parse?_eq_some_iff.mp parsed with ⟨body, _, _, read⟩
    rcases Declaration.exists_isWorded read with ⟨qualifier, precision, rest, _, worded⟩
    have output : declaration.role = .fragmentOutput →
        stage = .fragment ∧ dialectOf pair stage = .es3 := fun role =>
      Role.eq_of_ofQualifier?_fragmentOutput (role ▸ worded.role)
    refine ⟨?_, fun role => (output role).2⟩
    change declaration.role.IsOf stage
    cases role : declaration.role with
    | uniform | varying => trivial
    | vertexInput => simpa [Declaration.isLowered, role, Role.IsOf] using lowered
    | fragmentOutput => exact (output role).1

/-! ## Variables of one role -/

/-- A relation between the elements with one key is one for each key. -/
theorem pairwise_of_same_iff {α β : Type} [DecidableEq β] {key : α → β} {related : α → α → Prop}
    {all : List α} : all.Pairwise (fun one other => key one = key other → related one other) ↔
      ∀ value, (all.filter fun one => key one = value).Pairwise related := by
  constructor
  · intro pairwise value
    rw [List.pairwise_filter]
    refine pairwise.imp fun {one other} relates own otherOwn => relates ?_
    exact (of_decide_eq_true own).trans (of_decide_eq_true otherOwn).symm
  · intro filtered
    rw [List.pairwise_iff_forall_sublist]
    intro one other within same
    have kept := within.filter fun inside => key inside = key one
    simp only [List.filter_cons, same, decide_true, if_true, List.filter_nil] at kept
    exact List.pairwise_iff_forall_sublist.mp (filtered (key other)) kept

instance (constants : List Char → Nat) : Std.Symm (Place.Misses constants) where
  symm _ _ misses meet := misses meet.symm

def placesWith (role : Role) (document : List (List Piece)) : List Place :=
  (placesOf document).filter fun place => place.role = role

theorem mem_placesWith {role : Role} {place : Place} :
    place ∈ placesWith role document ↔ place ∈ placesOf document ∧ place.role = role := by
  simp [placesWith]

theorem filter_locatedPlaces {role : Role} (located : role ≠ .uniform) :
    (locatedPlaces document).filter (fun place => place.role = role) =
      placesWith role document := by
  rw [locatedPlaces, List.filter_filter]
  refine List.filter_congr fun place _ => ?_
  by_cases same : place.role = role <;> simp [same, located]

namespace IsDocument

variable (reads : IsDocument pair stage document)

include reads

theorem role_of_mem {place : Place} (member : place ∈ locatedPlaces document) :
    place.role.IsOf stage ∧
      (place.role = .fragmentOutput → dialectOf pair stage = .es3) := by
  have known : place.toDeclared ∈ declaredBy pair stage := by
    rw [← reads.complete]
    exact List.mem_map_of_mem (List.mem_of_mem_filter member)
  exact role_of_mem_declaredBy known

theorem declared_placesWith (role : Role) :
    (placesWith role document).map Place.toDeclared =
      (declaredBy pair stage).filter fun declared => declared.role = role := by
  rw [← reads.complete, List.filter_map]
  rfl

theorem areApart_located_iff :
    AreApart stage constants (locatedPlaces document) ↔
      ∀ role, role ≠ .uniform → (placesWith role document).Pairwise (Place.Misses constants) := by
  -- In one stage, the direction of a variable is decided by its role.
  have sameRole : AreApart stage constants (locatedPlaces document) ↔
      (locatedPlaces document).Pairwise fun place other =>
        place.role = other.role → place.Misses constants other := by
    refine List.Pairwise.iff_of_mem fun {place other} member among => ?_
    rw [Place.IsApart, Place.direction_eq_iff (reads.role_of_mem member).1
      (reads.role_of_mem among).1]
  rw [sameRole, pairwise_of_same_iff]
  refine forall_congr' fun role => ?_
  by_cases uniform : role = .uniform
  · have none : (locatedPlaces document).filter (fun place => place.role = role) = [] := by
      rw [List.filter_eq_nil_iff]
      intro place member
      have located := List.of_mem_filter member
      simpa [uniform] using located
    rw [none]
    simp [uniform]
  · rw [filter_locatedPlaces uniform, forall_prop_of_true uniform]

theorem misses_counted_iff {role : Role}
    (counted : role = .vertexInput ∨ role = .fragmentOutput) :
    (placesWith role document).Pairwise (Place.Misses constants) ↔
      ∀ declared ∈ ((declaredBy pair stage).filter fun declared => declared.role = role).dropLast,
        declared.span constants = 1 := by
  have consecutive : (placesWith role document).map Place.number =
      List.range' 0 (placesWith role document).length := by
    rw [← List.range_eq_range']
    rcases counted with rfl | rfl
    · exact reads.numbers_inputs
    · exact reads.numbers_outputs
  rw [← reads.declared_placesWith, ← List.map_dropLast, List.forall_mem_map]
  exact pairwise_apart_of_consecutive (fun place _ => place.toDeclared.span_pos) consecutive

theorem getElem?_placesWith {place : Place} (member : place ∈ placesWith .varying document) :
    (layoutOf pair).varyings[place.number]? = some place.name :=
  reads.getElem?_varyings (mem_placesWith.mp member).1 (mem_placesWith.mp member).2

theorem misses_varying_iff :
    (placesWith .varying document).Pairwise (Place.Misses constants) ↔
      ((varyingsBy pair stage).map Declared.name).Nodup ∧
        ∀ first ∈ varyingsBy pair stage, ∀ second ∈ varyingsBy pair stage, ∀ number next,
          (layoutOf pair).varyings[number]? = some first.name →
            (layoutOf pair).varyings[next]? = some second.name → number < next →
              number + first.span constants ≤ next := by
  have declared : (placesWith .varying document).map Place.toDeclared = varyingsBy pair stage :=
    reads.declared_placesWith .varying
  have numbered {place : Place} (member : place ∈ placesWith .varying document) {number : Nat}
      {name : List Char} (found : (layoutOf pair).varyings[number]? = some name) :
      place.number = number ↔ place.name = name :=
    number_eq_iff Layout.nodup_varyings (reads.getElem?_placesWith member) found
  simp only [← declared, List.map_map, List.forall_mem_map]
  -- The layout has one position for each name, so that names differ where positions do.
  constructor
  · intro apart
    constructor
    · refine List.pairwise_map.mpr (apart.imp_of_mem fun {place other} member among misses => ?_)
      intro same
      have together := (numbered member (reads.getElem?_placesWith among)).mpr same
      have long : 0 < place.span constants := place.span_pos
      have otherLong : 0 < other.span constants := other.span_pos
      rw [Place.misses_iff] at misses
      omega
    · intro place member other among number next atNumber atNext behind
      obtain rfl := (numbered member atNumber).mpr rfl
      obtain rfl := (numbered among atNext).mpr rfl
      have misses := apart.forall member among fun same => behind.ne (same ▸ rfl)
      rw [Place.misses_iff] at misses
      omega
  · rintro ⟨named, spaced⟩
    refine (List.pairwise_map.mp named).imp_of_mem fun {place other} member among different => ?_
    have due := reads.getElem?_placesWith member
    have otherDue := reads.getElem?_placesWith among
    rw [Place.misses_iff]
    rcases Nat.lt_or_gt_of_ne fun same => different ((numbered member otherDue).mp same) with
      behind | ahead
    · exact .inl (spaced place member other among _ _ due otherDue behind)
    · exact .inr (spaced other among place member _ _ otherDue due ahead)

/-- The output that the header declares is the only one that is given a location. -/
theorem header_isApart {place other : Place} (provided : place ∈ headerPlaces pair stage)
    (member : other ∈ locatedPlaces document) : place.IsApart stage constants other := by
  unfold headerPlaces at provided
  split at provided
  case isFalse => cases provided
  case isTrue renames =>
    rw [List.mem_singleton] at provided
    rw [Setting.renamesFragColor, Bool.and_eq_true] at renames
    have fragment : stage = .fragment := of_decide_eq_true renames.1
    have legacy : dialectOf pair stage = .legacy := of_decide_eq_true renames.2
    rcases reads.role_of_mem member with ⟨own, modern⟩
    have output : place.role = .fragmentOutput := by rw [provided]
    have placed : place.role.IsOf stage := by rw [output, Role.IsOf, fragment]
    intro same
    have es3 := modern (((Place.direction_eq_iff placed own).mp same).symm.trans output)
    rw [legacy] at es3
    cases es3

theorem areApart_iff :
    AreApart stage constants (interfaceOf pair stage constants document) ↔
      LeavesRoom pair stage constants document := by
  have provided : AreApart stage constants (headerPlaces pair stage) := by
    unfold headerPlaces AreApart
    split
    · exact List.pairwise_singleton _ _
    · exact .nil
  have front : AreApart stage constants (headerPlaces pair stage ++ locatedPlaces document) ↔
      AreApart stage constants (locatedPlaces document) := by
    rw [AreApart, List.pairwise_append]
    exact ⟨fun all => all.2.1, fun located =>
      ⟨provided, located, fun place header other member => reads.header_isApart header member⟩⟩
  rw [AreApart, interfaceOf, List.pairwise_append]
  constructor
  · rintro ⟨given, explicit, beside⟩
    have apart := reads.areApart_located_iff.mp (front.mp given)
    have varyings := reads.misses_varying_iff.mp (apart .varying (by decide))
    exact
      { counted := fun role counted => (reads.misses_counted_iff counted).mp
          (apart role (by rcases counted with rfl | rfl <;> decide))
        named := varyings.1
        spaced := varyings.2
        explicit
        beside }
  · intro room
    refine ⟨front.mpr (reads.areApart_located_iff.mpr fun role located => ?_), room.explicit,
      room.beside⟩
    cases role with
    | uniform => exact absurd rfl located
    | varying => exact reads.misses_varying_iff.mpr ⟨room.named, room.spaced⟩
    | vertexInput =>
        exact (reads.misses_counted_iff (.inl rfl)).mpr (room.counted _ (.inl rfl))
    | fragmentOutput =>
        exact (reads.misses_counted_iff (.inr rfl)).mpr (room.counted _ (.inr rfl))

end IsDocument

/-- The inputs and the outputs of a lowered stage share no location exactly if one location
for each is enough. -/
theorem apart_iff_leavesRoom (pair : StagePair) (stage : Stage) (constants : List Char → Nat) :
    ∃ document, IsDocument pair stage document ∧
      (AreApart stage constants (interfaceOf pair stage constants document) ↔
        LeavesRoom pair stage constants document) := by
  rcases @exists_isDocument pair stage with ⟨document, reads⟩
  exact ⟨document, reads, reads.areApart_iff⟩

/-- The second column of a matrix shares the location of the next input. -/
theorem wide_input_reaches :
    let pair : StagePair :=
      { vertex := "attribute mat2 m;\nattribute vec2 position;\nvoid main() \x7b\x7d"
        fragment := "void main() \x7b\x7d" }
    ∃ document, IsDocument pair .vertex document ∧ ∀ constants,
      ¬AreApart .vertex constants (interfaceOf pair .vertex constants document) := by
  intro pair
  let matrix : Declared :=
    { role := .vertexInput, interpolation := [], type := "mat2".toList, declarator := ['m'] }
  have first : matrix ∈
      ((declaredBy pair .vertex).filter fun declared => declared.role = .vertexInput).dropLast := by
    decide +kernel
  rcases @exists_isDocument pair .vertex with ⟨document, reads⟩
  refine ⟨document, reads, fun constants apart => ?_⟩
  have short := (reads.areApart_iff.mp apart).counted .vertexInput (.inl rfl) matrix first
  have wide : matrix.span constants = 2 := rfl
  omega

end LiveShader.Glsl
