import LiveShader.Proofs.Glsl.Definitions
import LiveShader.Proofs.Glsl.Interface

/-! # Definitions and what they are used for

Blocks of uniforms stand in the header, and definitions stay on their lines below it. So a
uniform gets in front of the definitions that its type or its size needs. A variable that
is lowered in its place stays behind them. -/

namespace LiveShader.Glsl

open Text

/-! ## The parts of a lowered stage -/

/-- What a lowered stage is put together from. -/
inductive Part where
  /-- Text that does not come from a line. -/
  | added (text : List Char)
  /-- The block of a uniform that is declared on this line. -/
  | block (number : Nat) (uniform : UniformBlock)
  /-- What becomes of this line. -/
  | line (number : Nat) (text : List Char)
  deriving DecidableEq, Repr

namespace Part

def text : Part → List Char
  | .added text => text
  | .block _ uniform => uniform.text
  | .line _ text => text ++ ['\n']

/-- The blocks that some lines add, the first of which has this number. -/
def blocksOf (number : Nat) : List Lowered → List Part
  | [] => []
  | lowered :: rest => lowered.blocks.map (Part.block number) ++ blocksOf (number + 1) rest

def linesOf (number : Nat) : List Lowered → List Part
  | [] => []
  | lowered :: rest => Part.line number lowered.text :: linesOf (number + 1) rest

end Part

def Setting.lowerEach (setting : Setting) (slots : Slots) : List (List Char) → List Lowered
  | [] => []
  | line :: rest =>
      let lowered := setting.lowerLine slots line
      lowered :: setting.lowerEach lowered.slots rest

/-- The parts of a lowered stage, from its first to its last. -/
def parts (pair : StagePair) (stage : Stage) : List Part :=
  let setting := settingOf pair stage
  let each := setting.lowerEach .initial (lines (pair.source stage).toList)
  (.added (setting.header []) :: Part.blocksOf 0 each) ++
    (.added "#line 1\n".toList :: Part.linesOf 0 each)

/-- Whether one part stands in front of another. -/
def Precedes (pair : StagePair) (stage : Stage) (first second : Part) : Prop :=
  [first, second].Sublist (parts pair stage)

instance (pair : StagePair) (stage : Stage) (first second : Part) :
    Decidable (Precedes pair stage first second) :=
  inferInstanceAs (Decidable ([first, second].Sublist (parts pair stage)))

theorem Setting.lowerLines_eq (setting : Setting) (slots : Slots) (all : List (List Char)) :
    setting.lowerLines slots all =
      ((setting.lowerEach slots all).map Lowered.text,
        (setting.lowerEach slots all).flatMap Lowered.blocks) := by
  induction all generalizing slots with
  | nil => rfl
  | cons line rest induction =>
      rw [lowerLines, induction]
      rfl

theorem Part.text_blocksOf (number : Nat) (each : List Lowered) :
    (blocksOf number each).flatMap text =
      ((each.flatMap Lowered.blocks).map UniformBlock.text).flatten := by
  induction each generalizing number with
  | nil => rfl
  | cons lowered rest induction =>
      rw [blocksOf, List.flatMap_append, induction, List.flatMap_cons, List.map_append,
        List.flatten_append, List.flatMap_map, List.flatMap_def]
      rfl

theorem Part.text_linesOf (number : Nat) (each : List Lowered) :
    (linesOf number each).flatMap text =
      ((each.map Lowered.text).map (· ++ ['\n'])).flatten := by
  induction each generalizing number with
  | nil => rfl
  | cons lowered rest induction =>
      rw [linesOf, List.flatMap_cons, induction]
      rfl

theorem text_parts {pair : StagePair} {stage : Stage}
    (lowers : (dialectOf pair stage).needsLowering) :
    (parts pair stage).flatMap Part.text = ((lower pair).source stage).toList := by
  have header (setting : Setting) (blocks : List UniformBlock) :
      setting.header blocks = setting.header [] ++ (blocks.map UniformBlock.text).flatten := by
    unfold Setting.header
    generalize "#version 450\n".toList = version
    rw [List.map_nil, List.flatten_nil, List.append_nil]
  have whole : (settingOf pair stage).lowerSource (pair.source stage).toList =
      let lowered := (settingOf pair stage).lowerLines .initial (lines (pair.source stage).toList)
      (settingOf pair stage).header lowered.2 ++ "#line 1\n".toList ++
        (lowered.1.map (· ++ ['\n'])).flatten := if_pos lowers
  rw [toList_source_lower, whole, Setting.lowerLines_eq, parts]
  generalize (settingOf pair stage).lowerEach .initial (lines (pair.source stage).toList) = each
  generalize "#line 1\n".toList = reset
  simp only [List.flatMap_append, List.flatMap_cons, Part.text_blocksOf, Part.text_linesOf,
    Part.text, header _ (each.flatMap Lowered.blocks), List.append_assoc]

/-! ## The order of the parts -/

namespace Part

variable {each : List Lowered} {lowered : Lowered} {number index : Nat}

theorem line_not_mem_blocksOf (other : Nat) (text : List Char) :
    Part.line other text ∉ blocksOf number each := by
  induction each generalizing number with
  | nil => exact List.not_mem_nil
  | cons first rest induction => exact List.not_mem_append (by simp) induction

theorem block_not_mem_linesOf (other : Nat) (uniform : UniformBlock) :
    Part.block other uniform ∉ linesOf number each := by
  induction each generalizing number with
  | nil => exact List.not_mem_nil
  | cons first rest induction => exact List.not_mem_cons_of_ne_of_not_mem nofun induction

theorem block_mem_blocksOf (found : each[index]? = some lowered) {uniform : UniformBlock}
    (member : uniform ∈ lowered.blocks) :
    Part.block (number + index) uniform ∈ blocksOf number each := by
  induction each generalizing number index with
  | nil => cases found
  | cons first rest induction =>
      cases index with
      | zero =>
          cases found
          exact List.mem_append_left _ (List.mem_map_of_mem member)
      | succ index =>
          have later : Part.block (number + 1 + index) uniform ∈ blocksOf (number + 1) rest :=
            induction found
          rw [Nat.add_assoc, Nat.add_comm 1] at later
          exact List.mem_append_right _ later

theorem getElem?_linesOf (found : each[index]? = some lowered) :
    (linesOf number each)[index]? = some (Part.line (number + index) lowered.text) := by
  induction each generalizing number index with
  | nil => cases found
  | cons first rest induction =>
      cases index with
      | zero =>
          cases found
          rfl
      | succ index =>
          have later : (linesOf (number + 1) rest)[index]? =
              some (Part.line (number + 1 + index) lowered.text) := induction found
          rwa [Nat.add_assoc, Nat.add_comm 1] at later

end Part

theorem sublist_of_getElem? {all : List Part} {first second : Nat} {earlier later : Part}
    (before : first < second) (here : all[first]? = some earlier)
    (there : all[second]? = some later) : [earlier, later].Sublist all := by
  rcases List.getElem?_eq_some_iff.mp here with ⟨firstBound, rfl⟩
  rcases List.getElem?_eq_some_iff.mp there with ⟨secondBound, rfl⟩
  have ordered : all.Pairwise fun earlier later => [earlier, later].Sublist all :=
    List.pairwise_iff_forall_sublist.mpr id
  exact List.pairwise_iff_getElem.mp ordered first second firstBound secondBound before

variable {pair : StagePair} {stage : Stage}

/-- No line stands in front of a block. -/
theorem not_precedes (number use : Nat) (text : List Char) (uniform : UniformBlock) :
    ¬Precedes pair stage (.line number text) (.block use uniform) := by
  intro precedes
  rw [Precedes, parts, List.sublist_append_iff] at precedes
  rcases precedes with ⟨front, back, split, inFront, inBack⟩
  -- The header has no lines, and there are no blocks below it.
  have below : Part.block use uniform ∉ back := by
    intro member
    have among := inBack.subset member
    rcases List.mem_cons.mp among with other | later
    · cases other
    · exact Part.block_not_mem_linesOf _ _ later
  have above : Part.line number text ∉ front := by
    intro member
    have among := inFront.subset member
    rcases List.mem_cons.mp among with other | later
    · cases other
    · exact Part.line_not_mem_blocksOf _ _ later
  cases front with
  | nil => exact below (by simp [← List.nil_append back ▸ split])
  | cons first front =>
      have same := (List.cons.inj split).1
      exact above (same ▸ .head _)

/-! ## Lines that become parts -/

theorem Setting.exists_getElem?_lowerEach (setting : Setting) (slots : Slots)
    {all : List (List Char)} {index : Nat} {line : List Char} (found : all[index]? = some line) :
    ∃ free, (setting.lowerEach slots all)[index]? = some (setting.lowerLine free line) := by
  induction all generalizing slots index with
  | nil => cases found
  | cons first rest induction =>
      cases index with
      | zero =>
          cases found
          exact ⟨slots, rfl⟩
      | succ index => exact induction (setting.lowerLine slots first).slots found

/-- What a line becomes is one part, and the blocks that it adds are others. -/
structure IsPlaced (pair : StagePair) (stage : Stage) (number : Nat) (line : List Char)
    (pieces : List Piece) : Prop where
  becomes : LineBecomes stage (dialectOf pair stage) line pieces
  blocks : ∀ uniform ∈ Glsl.blocksOf (pieces.flatMap Piece.places),
    Part.block number uniform ∈ Part.blocksOf 0
      ((settingOf pair stage).lowerEach .initial (lines (pair.source stage).toList))
  line : (Part.linesOf 0
      ((settingOf pair stage).lowerEach .initial (lines (pair.source stage).toList)))[number]? =
    some (.line number (pieces.flatMap (Piece.text stage (settingOf pair stage).renamed)))

section

variable (lowers : (dialectOf pair stage).needsLowering) {number use : Nat}
  {line other : List Char} {pieces others : List Piece}

include lowers in
theorem exists_isPlaced (found : (lines (pair.source stage).toList)[number]? = some line) :
    ∃ pieces, IsPlaced pair stage number line pieces := by
  rcases (settingOf pair stage).exists_getElem?_lowerEach .initial found with ⟨free, lowered⟩
  have knows := knowsLine_of_mem lowers line (List.mem_of_getElem? found)
  rcases (settingOf pair stage).exists_lineBecomes free knows with ⟨pieces, becomes, writes⟩
  refine ⟨pieces, becomes, fun uniform member => ?_, ?_⟩
  · rw [← writes.blocks] at member
    have part := @Part.block_mem_blocksOf _ _ 0 _ lowered uniform member
    rwa [Nat.zero_add] at part
  · have part := @Part.getElem?_linesOf _ _ 0 _ lowered
    rwa [Nat.zero_add, writes.text] at part

theorem IsPlaced.precedes_line (placed : IsPlaced pair stage number line pieces)
    {uniform : UniformBlock} (added : IsPlaced pair stage use other others)
    (member : uniform ∈ Glsl.blocksOf (others.flatMap Piece.places)) :
    Precedes pair stage (.block use uniform)
      (.line number (pieces.flatMap (Piece.text stage (settingOf pair stage).renamed))) := by
  have above := List.mem_cons_of_mem (.added ((settingOf pair stage).header []))
    (added.blocks uniform member)
  have below := List.mem_cons_of_mem (.added "#line 1\n".toList)
    (List.mem_of_getElem? placed.line)
  exact (List.singleton_sublist.mpr above).append (List.singleton_sublist.mpr below)

theorem IsPlaced.precedes_later (placed : IsPlaced pair stage number line pieces)
    (later : IsPlaced pair stage use other others) (before : number < use) :
    Precedes pair stage
      (.line number (pieces.flatMap (Piece.text stage (settingOf pair stage).renamed)))
      (.line use (others.flatMap (Piece.text stage (settingOf pair stage).renamed))) := by
  have ordered := sublist_of_getElem? before placed.line later.line
  exact (ordered.cons _).trans (List.sublist_append_right _ _)

theorem LineBecomes.exists_place {dialect : Dialect} {declared : Declared}
    (becomes : LineBecomes stage dialect line pieces)
    (member : declared ∈ declaredIn stage dialect (statementsOfLine line)) :
    ∃ place ∈ pieces.flatMap Piece.places, place.toDeclared = declared := by
  rw [statementsOfLine, ← becomes.declared_places] at member
  exact List.mem_map.mp member

theorem exists_piece_of_mem {dialect : Dialect} {statements : List (List Char)}
    {statement : List Char}
    (become : List.Forall₂ (StatementBecomes stage dialect) statements pieces)
    (member : statement ∈ statements) :
    ∃ piece ∈ pieces, StatementBecomes stage dialect statement piece := by
  induction become with
  | nil => cases member
  | cons becomes _ induction =>
      rcases List.mem_cons.mp member with rfl | later
      · exact ⟨_, .head _, becomes⟩
      · rcases induction later with ⟨piece, among, found⟩
        exact ⟨piece, .tail _ among, found⟩

theorem isInfix_text (rename : List Char → List Char) {piece : Piece} (among : piece ∈ pieces) :
    piece.text stage rename <:+: pieces.flatMap (Piece.text stage rename) := by
  rw [List.flatMap_def]
  exact List.infix_of_mem_flatten (List.mem_map_of_mem among)

theorem isInfix_statement (rename : List Char → List Char) {place : Place}
    (member : place ∈ pieces.flatMap Piece.places) (located : place.role ≠ .uniform) :
    place.statement stage rename <:+: pieces.flatMap (Piece.text stage rename) := by
  rcases List.mem_flatMap.mp member with ⟨piece, among, inside⟩
  refine List.IsInfix.trans ?_ (isInfix_text rename among)
  cases piece with
  | kept => cases inside
  | declared indent places =>
      have listed : place ∈ places.filter fun place => place.role ≠ .uniform :=
        List.mem_filter.mpr ⟨inside, by simpa using located⟩
      have whole : place.statement stage rename <:+: statementsOf stage rename places :=
        isInfix_join [' '] (List.mem_map_of_mem listed)
      exact whole.trans (List.suffix_append _ _).isInfix

theorem LineBecomes.isInfix_definition {setting : Setting} {name definition : List Char}
    (becomes : LineBecomes setting.stage setting.dialect line pieces)
    (defines : Defines line name definition) (named : IsIdentifier name) :
    setting.renamed definition <:+: pieces.flatMap (Piece.text setting.stage setting.renamed) := by
  cases defines with
  | directive directive split =>
      cases becomes with
      | dropped drops => exact absurd drops (not_isDropped_of_define split)
      | directive => exact ⟨[], [], rfl⟩
      | code code => exact absurd directive code
  | @statement statement code member precision introduces =>
      cases becomes with
      | dropped drops => exact absurd (isDirective_of_isDropped drops) code
      | directive _ directive => exact absurd directive code
      | @code pieces _ become =>
          rcases exists_piece_of_mem become member with ⟨piece, among, statement⟩
          have text : piece.text setting.stage setting.renamed = setting.renamed definition := by
            cases statement with
            | precision sets => exact absurd sets precision
            | kept => rfl
            | declared parsed =>
                rw [introduces.parse?_eq_none named] at parsed
                cases parsed
          rw [← text, List.flatMap_append]
          exact (isInfix_text setting.renamed among).trans (List.prefix_append _ _).isInfix

end

/-! ## Uses -/

/-- Whether a variable of one line needs a definition on another in front of it. -/
structure Needs (pair : StagePair) (stage : Stage) (declared : Declared) (use : Nat)
    (definition : List Char) (number : Nat) : Prop where
  earlier : number < use
  declares : ∃ line, (lines (pair.source stage).toList)[use]? = some line ∧
    declared ∈ declaredIn stage (dialectOf pair stage) (statementsOfLine line)
  defines : ∃ line name, (lines (pair.source stage).toList)[number]? = some line ∧
    IsIdentifier name ∧ Defines line name definition ∧ declared.Mentions name

/-- Whether the blocks of the uniforms come behind the definitions that they need. -/
def DefinitionsFirst (pair : StagePair) (stage : Stage) : Prop :=
  ∀ declared use definition number, Needs pair stage declared use definition number →
    declared.role = .uniform → ∃ text uniform,
      uniform.type = declared.type ∧ uniform.declarator = declared.declarator ∧
        Precedes pair stage (.line number text) (.block use uniform)

/-- What becomes of the order of definitions and uses in a lowered stage. -/
structure HasOrder (pair : StagePair) (stage : Stage) : Prop where
  parts : (parts pair stage).flatMap Part.text = ((lower pair).source stage).toList
  /-- Definitions come first only where no uniform needs one. -/
  first : DefinitionsFirst pair stage ↔ ∀ declared use definition number,
    Needs pair stage declared use definition number → declared.role ≠ .uniform
  /-- The block of a uniform comes in front of the definitions that it needs. -/
  uniform : ∀ declared use definition number,
    Needs pair stage declared use definition number → declared.role = .uniform →
      ∃ uniform text, uniform.type = declared.type ∧ uniform.declarator = declared.declarator ∧
        (settingOf pair stage).renamed definition <:+: text ∧
        Precedes pair stage (.block use uniform) (.line number text)
  /-- Any other variable comes behind them. -/
  located : ∀ declared use definition number,
    Needs pair stage declared use definition number → declared.role ≠ .uniform →
      ∃ text other, ∃ place : Place, place.toDeclared = declared ∧
        (settingOf pair stage).renamed definition <:+: text ∧
        place.statement stage (settingOf pair stage).renamed <:+: other ∧
        Precedes pair stage (.line number text) (.line use other)

/-- The definition and the variable that needs it become parts of their lines. -/
theorem Needs.exists_isPlaced {declared : Declared} {use number : Nat} {definition : List Char}
    (needs : Needs pair stage declared use definition number)
    (lowers : (dialectOf pair stage).needsLowering) :
    ∃ line other pieces others, ∃ place ∈ others.flatMap Piece.places,
      place.toDeclared = declared ∧ IsPlaced pair stage number line pieces ∧
        IsPlaced pair stage use other others ∧
        (settingOf pair stage).renamed definition <:+:
          pieces.flatMap (Piece.text stage (settingOf pair stage).renamed) := by
  rcases needs.declares with ⟨other, there, declares⟩
  rcases needs.defines with ⟨line, name, here, named, defines, _⟩
  rcases Glsl.exists_isPlaced lowers there with ⟨others, later⟩
  rcases Glsl.exists_isPlaced lowers here with ⟨pieces, placed⟩
  rcases later.becomes.exists_place declares with ⟨place, member, same⟩
  have stays := @LineBecomes.isInfix_definition _ _ (settingOf pair stage) _ _ placed.becomes
    defines named
  exact ⟨line, other, pieces, others, place, member, same, placed, later, stays⟩

/-- Uniforms are moved in front of what they need, and no other variable is. -/
theorem hasOrder (lowers : (dialectOf pair stage).needsLowering) : HasOrder pair stage where
  parts := text_parts lowers
  first := by
    constructor
    · intro first declared use definition number needs role
      rcases first declared use definition number needs role with ⟨text, uniform, _, _, precedes⟩
      exact not_precedes number use text uniform precedes
    · intro none declared use definition number needs role
      exact absurd role (none declared use definition number needs)
  uniform := by
    intro declared use definition number needs role
    rcases needs.exists_isPlaced lowers with
      ⟨line, other, pieces, others, place, member, rfl, placed, added, stays⟩
    have block : place.block ∈ Glsl.blocksOf (others.flatMap Piece.places) :=
      List.mem_map_of_mem (List.mem_filter.mpr ⟨member, by simpa using role⟩)
    exact ⟨place.block, _, rfl, rfl, stays, placed.precedes_line added block⟩
  located := by
    intro declared use definition number needs located
    rcases needs.exists_isPlaced lowers with
      ⟨line, other, pieces, others, place, member, rfl, placed, later, stays⟩
    exact ⟨_, _, place, rfl, stays, isInfix_statement _ member located,
      placed.precedes_later later needs.earlier⟩

/-- An input and a uniform that need a constant, and a structure that the uniform needs. -/
theorem hasOrder_lights :
    let pair : StagePair :=
      { vertex := "void main() \x7b\x7d"
        fragment := "#version 300 es\nconst int M = 3, N = 2;\n" ++
          "struct Light \x7b vec3 at; \x7d;\nin float w[N];\nuniform Light lights[N];" }
    let input : Declared :=
      { role := .varying, interpolation := [], type := "float".toList, declarator := "w[N]".toList }
    let lights : Declared :=
      { role := .uniform, interpolation := [], type := "Light".toList
        declarator := "lights[N]".toList }
    (dialectOf pair .fragment).needsLowering ∧
      Needs pair .fragment input 3 "const int M = 3, N = 2;".toList 1 ∧
      Needs pair .fragment lights 4 "struct Light \x7b vec3 at;".toList 2 ∧
      HasOrder pair .fragment := by
  intro pair input lights
  have lowers : (dialectOf pair .fragment).needsLowering := by decide +kernel
  have size : Introduces "N".toList (tokens "const int M = 3, N = 2;".toList) :=
    @Introduces.const "N".toList [] (["int", "M", "=", "3", ","].map String.toList) _ [] _
      (.inr nofun) ⟨rfl, by decide, .inl rfl⟩
  have light : Introduces "Light".toList (tokens "struct Light \x7b vec3 at;".toList) :=
    @Introduces.struct "Light".toList [] _ (by decide)
  refine ⟨lowers, ?_, ?_, hasOrder lowers⟩
  · refine ⟨by decide, ⟨"in float w[N];".toList, by decide +kernel, by decide +kernel⟩,
      "const int M = 3, N = 2;".toList, "N".toList, by decide +kernel, ?_, ?_, ?_⟩
    · exact ⟨by decide, List.all_eq_true.mp (by decide)⟩
    · exact .statement (by decide +kernel) (by decide +kernel) (by decide +kernel) size
    · exact .inr (by decide +kernel)
  · refine ⟨by decide, ⟨"uniform Light lights[N];".toList, by decide +kernel, by decide +kernel⟩,
      "struct Light \x7b vec3 at; \x7d;".toList, "Light".toList, by decide +kernel, ?_, ?_, ?_⟩
    · exact ⟨by decide, List.all_eq_true.mp (by decide)⟩
    · exact .statement (by decide +kernel) (by decide +kernel) (by decide +kernel) light
    · exact .inl (by decide +kernel)

/-- The size of an array is used in front of its definition. -/
theorem array_before_its_size :
    let pair : StagePair :=
      { vertex := "void main() \x7b\x7d", fragment := "#define N 2\nuniform float w[N];" }
    let array : Declared :=
      { role := .uniform, interpolation := [], type := "float".toList, declarator := "w[N]".toList }
    (dialectOf pair .fragment).needsLowering ∧
      Needs pair .fragment array 1 "#define N 2".toList 0 ∧
      Precedes pair .fragment
        (.block 1 { binding := 0, type := "float".toList, declarator := "w[N]".toList })
        (.line 0 "#define N 2".toList) ∧
      ¬DefinitionsFirst pair .fragment := by
  intro pair array
  have needs : Needs pair .fragment array 1 "#define N 2".toList 0 := by
    refine ⟨by decide, ⟨"uniform float w[N];".toList, by decide +kernel, by decide +kernel⟩,
      "#define N 2".toList, "N".toList, by decide +kernel, ?_, ?_, ?_⟩
    · exact ⟨by decide, List.all_eq_true.mp (by decide)⟩
    · exact @Defines.directive _ _ ["2".toList] (by decide) (by decide +kernel)
    · exact .inr (by decide +kernel)
  refine ⟨by decide +kernel, needs, by decide +kernel, fun first => ?_⟩
  rcases first array 1 _ 0 needs rfl with ⟨text, uniform, _, _, precedes⟩
  exact not_precedes 0 1 text uniform precedes

end LiveShader.Glsl
