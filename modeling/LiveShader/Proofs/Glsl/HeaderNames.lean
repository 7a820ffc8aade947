import LiveShader.Proofs.Glsl.Recognition

/-! # The names that a header declares

The layout gives each name of a uniform one binding. The header has a block for every
declaration of the name, so that it says each name as often as its stage declares it. -/

namespace LiveShader

namespace Text

theorem decimal_inj {first second : Nat} : decimal first = decimal second ↔ first = second := by
  refine ⟨fun same => ?_, congrArg decimal⟩
  have values := congrArg (fun digits => Nat.ofDigitChars 10 digits 0) same
  simpa only [decimal, Nat.ofDigitChars_ten_toDigits] using values

end Text

namespace Glsl

open Text

/-! ## What a block declares -/

namespace UniformBlock

/-- What the names of all blocks begin with. -/
def opening : List Char := "ZenithUniform".toList

def name (block : UniformBlock) : List Char :=
  opening ++ decimal block.binding

/-- The name of the uniform in a block. -/
def uniform (block : UniformBlock) : List Char :=
  Declaration.baseName block.declarator

theorem name_eq_iff {first second : UniformBlock} :
    first.name = second.name ↔ first.binding = second.binding := by
  rw [name, name, List.append_cancel_left_eq, decimal_inj]

/-- A block is declared by its name, and the uniform in it by its type and declarator. -/
theorem text_eq (block : UniformBlock) :
    block.text = "layout(std140, set = 0, binding = ".toList ++ decimal block.binding ++
      ") uniform ".toList ++ block.name ++ " \x7b ".toList ++ block.type ++ [' '] ++
        block.declarator ++ "; \x7d;\n".toList := by
  have split : ") uniform ZenithUniform".toList = ") uniform ".toList ++ opening := by decide
  unfold text name
  generalize ") uniform ZenithUniform".toList = before at split ⊢
  subst split
  generalize "layout(std140, set = 0, binding = ".toList = front
  generalize ") uniform ".toList = between
  generalize " \x7b ".toList = opened
  generalize "; \x7d;\n".toList = closed
  simp only [List.append_assoc]

end UniformBlock

/-! ## The blocks of a stage -/

section

variable (pair : StagePair) (stage : Stage)

/-- The blocks in the header of a stage, in order. -/
def headerBlocks : List UniformBlock :=
  ((settingOf pair stage).lowerLines .initial (lines (pair.source stage).toList)).2

/-- The names of the uniforms that a stage declares and that are lowered, each as often as
it is declared. -/
def uniformsBy : List (List Char) :=
  namesOf .uniform (declaredBy pair stage)

/-- The outputs that a header declares. -/
def headerOutputs : List (List Char) :=
  if (settingOf pair stage).renamesFragColor then [fragColorOutput] else []

/-- All names that a header declares. -/
def headerNames : List (List Char) :=
  headerOutputs pair stage ++ (headerBlocks pair stage).map UniformBlock.name ++
    (headerBlocks pair stage).map UniformBlock.uniform

end

section

variable {pair : StagePair} {stage : Stage} (lowers : (dialectOf pair stage).needsLowering)

include lowers

theorem exists_source_lower_eq :
    ∃ body, ((lower pair).source stage).toList =
      (settingOf pair stage).header (headerBlocks pair stage) ++ "#line 1\n".toList ++ body := by
  rw [toList_source_lower]
  exact ⟨_, if_pos lowers⟩

theorem exists_places :
    ∃ places : List Place, headerBlocks pair stage = blocksOf places ∧
      places.map Place.toDeclared = declaredBy pair stage ∧
      ∀ place ∈ places, place.role = .uniform →
        (layoutOf pair).uniforms[place.number]? = some place.name := by
  rcases (settingOf pair stage).exists_linesBecome .initial (knowsLine_of_mem lowers) with
    ⟨document, last, become, _, blocks, numbered⟩
  refine ⟨placesOf document, blocks, ?_, fun place member role => ?_⟩
  · rw [declaredBy_of_lowers lowers]
    exact declared_placesOf become
  · rcases numbered.number_of_mem member with ⟨free, due⟩
    rw [Layout.number?, role] at due
    exact Layout.getElem?_of_binding? due

/-- Each declaration of a uniform has its block. -/
theorem map_uniform_headerBlocks :
    (headerBlocks pair stage).map UniformBlock.uniform = uniformsBy pair stage := by
  rcases exists_places lowers with ⟨places, blocks, declared, _⟩
  rw [blocks, uniformsBy, ← declared, namesOf, blocksOf, List.filter_map, List.map_map,
    List.map_map]
  rfl

theorem getElem?_uniforms_of_mem {block : UniformBlock}
    (member : block ∈ headerBlocks pair stage) :
    (layoutOf pair).uniforms[block.binding]? = some block.uniform := by
  rcases exists_places lowers with ⟨places, blocks, _, numbered⟩
  rw [blocks] at member
  rcases List.mem_map.mp member with ⟨place, among, rfl⟩
  rcases List.mem_filter.mp among with ⟨inside, role⟩
  exact numbered place inside (by simpa using role)

/-- Two blocks have one name exactly if their uniforms have. -/
theorem name_eq_iff_uniform_eq {first second : UniformBlock}
    (member : first ∈ headerBlocks pair stage) (among : second ∈ headerBlocks pair stage) :
    first.name = second.name ↔ first.uniform = second.uniform := by
  rw [UniformBlock.name_eq_iff]
  exact number_eq_iff Layout.nodup_uniforms (getElem?_uniforms_of_mem lowers member)
    (getElem?_uniforms_of_mem lowers among)

theorem nodup_names_iff :
    ((headerBlocks pair stage).map UniformBlock.name).Nodup ↔ (uniformsBy pair stage).Nodup := by
  rw [← map_uniform_headerBlocks lowers, List.nodup_iff_pairwise_ne, List.nodup_iff_pairwise_ne,
    List.pairwise_map, List.pairwise_map]
  exact List.Pairwise.iff_of_mem fun member among =>
    not_congr (name_eq_iff_uniform_eq lowers member among)

end

/-! ## Each name once -/

/-- Whether a header declares no block twice and no uniform twice. -/
structure DeclaresOnce (pair : StagePair) (stage : Stage) : Prop where
  blocks : ((headerBlocks pair stage).map UniformBlock.name).Nodup
  uniforms : ((headerBlocks pair stage).map UniformBlock.uniform).Nodup

theorem fragColorOutput_ne_name (block : UniformBlock) : fragColorOutput ≠ block.name := by
  intro same
  have first := congrArg List.head? same
  rw [UniformBlock.name, List.head?_append_of_ne_nil _ (by decide)] at first
  revert first
  decide

theorem nodup_headerNames_iff (pair : StagePair) (stage : Stage) :
    (headerNames pair stage).Nodup ↔ DeclaresOnce pair stage ∧
      ∀ name ∈ (headerBlocks pair stage).map UniformBlock.uniform,
        name ∉ headerOutputs pair stage ∧
          name ∉ (headerBlocks pair stage).map UniformBlock.name := by
  have outputs : (headerOutputs pair stage).Nodup ∧
      ∀ name ∈ headerOutputs pair stage,
        ∀ other ∈ (headerBlocks pair stage).map UniformBlock.name, name ≠ other := by
    unfold headerOutputs
    split
    case isTrue =>
      refine ⟨List.nodup_singleton _, fun name member other among => ?_⟩
      rcases List.mem_map.mp among with ⟨block, _, rfl⟩
      rw [List.mem_singleton.mp member]
      exact fragColorOutput_ne_name block
    case isFalse => exact ⟨List.nodup_nil, nofun⟩
  rw [headerNames, List.nodup_append, List.nodup_append]
  constructor
  · rintro ⟨⟨_, blocks, _⟩, uniforms, apart⟩
    refine ⟨⟨blocks, uniforms⟩, fun name member => ⟨fun output => ?_, fun block => ?_⟩⟩
    · exact apart name (List.mem_append_left _ output) name member rfl
    · exact apart name (List.mem_append_right _ block) name member rfl
  · rintro ⟨once, apart⟩
    refine ⟨⟨outputs.1, once.blocks, outputs.2⟩, once.uniforms, ?_⟩
    rintro name front _ member rfl
    rcases List.mem_append.mp front with output | block
    · exact (apart name member).1 output
    · exact (apart name member).2 block

/-- The header of a lowered stage declares the uniforms of the stage as often as the stage
does. So it declares each block and each uniform once exactly if the stage declares no uniform
twice, and all its names differ if besides no uniform has the name of a block or an output. -/
theorem declaresOnce_iff {pair : StagePair} {stage : Stage}
    (lowers : (dialectOf pair stage).needsLowering) :
    (∃ body, ((lower pair).source stage).toList =
      (settingOf pair stage).header (headerBlocks pair stage) ++ "#line 1\n".toList ++ body) ∧
    (headerBlocks pair stage).map UniformBlock.uniform = uniformsBy pair stage ∧
    (DeclaresOnce pair stage ↔ (uniformsBy pair stage).Nodup) ∧
    ((headerNames pair stage).Nodup ↔
      (uniformsBy pair stage).Nodup ∧ ∀ name ∈ uniformsBy pair stage,
        name ∉ headerOutputs pair stage ∧
          name ∉ (headerBlocks pair stage).map UniformBlock.name) := by
  have uniforms := map_uniform_headerBlocks lowers
  have once : DeclaresOnce pair stage ↔ (uniformsBy pair stage).Nodup := by
    refine ⟨fun once => uniforms ▸ once.uniforms, fun nodup => ?_⟩
    exact ⟨(nodup_names_iff lowers).mpr nodup, uniforms.symm ▸ nodup⟩
  refine ⟨exists_source_lower_eq lowers, uniforms, once, ?_⟩
  rw [nodup_headerNames_iff, uniforms, once]

/-- A uniform of both stages and an array, each declared once. -/
theorem declaresOnce_shared :
    let pair : StagePair :=
      { vertex := "uniform float time;\nvoid main() \x7b\x7d"
        fragment := "uniform vec2 points[4], mouse; uniform float time;\nvoid main() \x7b\x7d" }
    (dialectOf pair .fragment).needsLowering ∧
      uniformsBy pair .fragment = ["points".toList, "mouse".toList, "time".toList] ∧
      DeclaresOnce pair .fragment ∧ (headerNames pair .fragment).Nodup := by
  intro pair
  have lowers : (dialectOf pair .fragment).needsLowering := by decide +kernel
  have uniforms : uniformsBy pair .fragment =
      ["points".toList, "mouse".toList, "time".toList] := by decide +kernel
  have law := declaresOnce_iff lowers
  rw [uniforms] at law
  exact ⟨lowers, uniforms, law.2.2.1.mpr (by decide), law.2.2.2.mpr (by decide +kernel)⟩

/-- A uniform that is declared for each case of a condition gets two blocks of one name. -/
theorem block_in_each_branch :
    let pair : StagePair :=
      { vertex := "void main() \x7b\x7d"
        fragment := "#ifdef GL_FRAGMENT_PRECISION_HIGH\nuniform highp float time;\n#else\n" ++
          "uniform mediump float time;\n#endif\nvoid main() \x7b\x7d" }
    let block : UniformBlock :=
      { binding := 0, type := "float".toList, declarator := "time".toList }
    headerBlocks pair .fragment = [block, block] ∧ ¬DeclaresOnce pair .fragment := by
  intro pair block
  have blocks : headerBlocks pair .fragment = [block, block] := by decide +kernel
  refine ⟨blocks, fun once => ?_⟩
  have nodup := once.blocks
  rw [blocks] at nodup
  simp at nodup

end Glsl

end LiveShader
