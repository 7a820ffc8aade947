import Mathlib.Tactic.Choose
import LiveShader.Proofs.Glsl.Document

/-! # One interface for both stages

The layout is made from the declarations of both stages before either is lowered. Each
stage then reads its statements once more, and finds every name in the layout. -/

namespace LiveShader.Glsl

open Text

variable (pair : StagePair)

def dialectOf (stage : Stage) : Dialect :=
  Dialect.detect (pair.source stage).toList

def settingOf (stage : Stage) : Setting :=
  ⟨stage, dialectOf pair stage, layoutOf pair⟩

def declarationsOf (stage : Stage) : List Declaration :=
  Declaration.collect stage (dialectOf pair stage) (pair.source stage).toList

/-- The variables that are recognised in a stage and lowered, in order. -/
def declaredBy (stage : Stage) : List Declared :=
  ((declarationsOf pair stage).filter (Declaration.isLowered stage)).flatMap Declaration.declared

def varyingsBy (stage : Stage) : List Declared :=
  (declaredBy pair stage).filter fun declared => declared.role = .varying

structure IsDocument (stage : Stage) (document : List (List Piece)) : Prop where
  /-- Each line becomes its line of the document, and the lowered stage is the document
  written out. -/
  written : (dialectOf pair stage).needsLowering →
    List.Forall₂ (LineBecomes stage (dialectOf pair stage))
      (lines (pair.source stage).toList) document ∧
    ((lower pair).source stage).toList = (settingOf pair stage).documentText document
  untouched : ¬(dialectOf pair stage).needsLowering →
    document = [] ∧ (lower pair).source stage = pair.source stage
  /-- Each recognised variable has one place. -/
  complete : (placesOf document).map Place.toDeclared = declaredBy pair stage
  numbered : ∃ last, Numbered (layoutOf pair) .initial (placesOf document) last

variable {pair}

/-! ## What both readings have in common -/

theorem layoutOf_eq : layoutOf pair =
    .ofDeclarations (declarationsOf pair .vertex ++ declarationsOf pair .fragment) := rfl

theorem mem_declarations_iff {declaration : Declaration} :
    declaration ∈ declarationsOf pair .vertex ++ declarationsOf pair .fragment ↔
      ∃ stage, declaration ∈ declarationsOf pair stage := by
  rw [List.mem_append]
  constructor
  · rintro (vertex | fragment)
    · exact ⟨.vertex, vertex⟩
    · exact ⟨.fragment, fragment⟩
  · rintro ⟨stage, member⟩
    cases stage with
    | vertex => exact .inl member
    | fragment => exact .inr member

theorem holds_of_mem {stage : Stage} {declaration : Declaration}
    (member : declaration ∈ declarationsOf pair stage) : (layoutOf pair).Holds declaration :=
  Layout.holds_ofDeclarations (mem_declarations_iff.mpr ⟨stage, member⟩)

/-- What a stage reads while it is lowered was collected before. -/
theorem mem_declarationsOf {stage : Stage} (lowers : (dialectOf pair stage).needsLowering)
    {line statement : List Char} {declaration : Declaration}
    (among : line ∈ lines (pair.source stage).toList) (code : ¬Declaration.isDirective line)
    (member : statement ∈ splitAfter ';' (Declaration.splitComment line).1)
    (parsed : Declaration.parse? stage (dialectOf pair stage) (trim statement) =
      some declaration) :
    declaration ∈ declarationsOf pair stage := by
  rw [declarationsOf, Declaration.collect, if_pos lowers]
  refine List.mem_filterMap.mpr ⟨trim statement, ?_, parsed⟩
  refine List.mem_flatMap.mpr ⟨line, List.mem_filter.mpr ⟨among, by simpa using code⟩, ?_⟩
  exact List.mem_map_of_mem member

theorem declaredBy_of_lowers {stage : Stage} (lowers : (dialectOf pair stage).needsLowering) :
    declaredBy pair stage = declaredIn stage (dialectOf pair stage)
      (Declaration.statements (pair.source stage).toList) := by
  rw [declaredBy, declarationsOf, Declaration.collect, if_pos lowers]
  rfl

theorem toList_source_lower (stage : Stage) :
    ((lower pair).source stage).toList =
      (settingOf pair stage).lowerSource (pair.source stage).toList := by
  cases stage <;> exact String.toList_ofList

theorem knowsLine_of_mem {stage : Stage} (lowers : (dialectOf pair stage).needsLowering) :
    ∀ line ∈ lines (pair.source stage).toList, (settingOf pair stage).KnowsLine line :=
  fun _ among code _ member _ parsed =>
    holds_of_mem (mem_declarationsOf lowers among code member parsed)

theorem exists_isDocument (stage : Stage) : ∃ document, IsDocument pair stage document := by
  by_cases lowers : (dialectOf pair stage).needsLowering
  · rcases (settingOf pair stage).exists_document lowers (knowsLine_of_mem lowers) with
      ⟨document, last, become, text, numbered⟩
    exact ⟨document,
      { written := fun _ => ⟨become, (toList_source_lower stage).trans text⟩
        untouched := fun kept => absurd lowers kept
        complete := (declared_placesOf become).trans (declaredBy_of_lowers lowers).symm
        numbered := ⟨last, numbered⟩ }⟩
  · have kept : (lower pair).source stage = pair.source stage := by
      apply String.toList_injective
      rw [toList_source_lower]
      exact if_neg lowers
    refine ⟨[], fun lower => absurd lower lowers, fun _ => ⟨rfl, kept⟩, ?_, _, .nil _⟩
    rw [declaredBy, declarationsOf, Declaration.collect, if_neg lowers]
    rfl

/-! ## The numbers of the interface -/

theorem number_eq_iff {names : List (List Char)} (nodup : names.Nodup) {first second : Nat}
    {name other : List Char} (firstName : names[first]? = some name)
    (secondName : names[second]? = some other) : first = second ↔ name = other := by
  constructor
  · rintro rfl
    rw [firstName, Option.some.injEq] at secondName
    exact secondName
  · rintro rfl
    have bound := (List.getElem?_eq_some_iff.mp firstName).1
    exact (List.getElem?_inj bound nodup).mp (firstName.trans secondName.symm)

namespace IsDocument

variable {stage : Stage} {document : List (List Piece)} {place : Place}

theorem getElem?_varyings (reads : IsDocument pair stage document)
    (member : place ∈ placesOf document) (role : place.role = .varying) :
    (layoutOf pair).varyings[place.number]? = some place.name := by
  rcases reads.numbered with ⟨last, numbered⟩
  rcases numbered.number_of_mem member with ⟨free, due⟩
  rw [Layout.number?, role] at due
  exact Layout.getElem?_of_location? due

theorem exists_place (reads : IsDocument pair stage document) {varying : Declared}
    (member : varying ∈ varyingsBy pair stage) :
    ∃ place ∈ placesOf document, place.role = .varying ∧ place.name = varying.name := by
  rcases List.mem_filter.mp member with ⟨among, role⟩
  rw [← reads.complete] at among
  rcases List.mem_map.mp among with ⟨place, inside, rfl⟩
  exact ⟨place, inside, by simpa using role, rfl⟩

theorem numbers_inputs (reads : IsDocument pair stage document) :
    let inputs := (placesOf document).filter fun place => place.role = .vertexInput
    inputs.map Place.number = List.range inputs.length := by
  intro inputs
  rcases reads.numbered with ⟨last, numbered⟩
  rw [List.range_eq_range']
  refine numbered.numbers_of_counted .vertexInput Slots.input ?_ ?_
  · intro slots declared role
    rw [Layout.number?, role]
  · intro slots other
    cases other <;> rfl

theorem numbers_outputs (reads : IsDocument pair stage document) :
    let outputs := (placesOf document).filter fun place => place.role = .fragmentOutput
    outputs.map Place.number = List.range outputs.length := by
  intro outputs
  rcases reads.numbered with ⟨last, numbered⟩
  rw [List.range_eq_range']
  refine numbered.numbers_of_counted .fragmentOutput Slots.output ?_ ?_
  · intro slots declared role
    rw [Layout.number?, role]
  · intro slots other
    cases other <;> rfl

end IsDocument

end LiveShader.Glsl
