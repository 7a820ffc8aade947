import LiveShader.Proofs.Glsl.HeaderNames

/-! # Uniforms that stay and uniforms that move

A uniform of an opaque type cannot stand in a block. Whether a type is opaque is judged by
how its name begins: the names of the integer samplers begin otherwise, and a structure can
have a name that begins so. -/

namespace LiveShader.Glsl

open Text

/-! ## Types -/

def floatSamplers : List (List Char) :=
  ["sampler2D".toList, "sampler3D".toList, "samplerCube".toList, "sampler2DArray".toList]

def shadowSamplers : List (List Char) :=
  ["sampler2DShadow".toList, "samplerCubeShadow".toList, "sampler2DArrayShadow".toList]

def integerSamplers : List (List Char) :=
  ["isampler2D".toList, "isampler3D".toList, "isamplerCube".toList, "isampler2DArray".toList,
   "usampler2D".toList, "usampler3D".toList, "usamplerCube".toList, "usampler2DArray".toList]

/-- The sampler types of ES 1.00 and ES 3.00. -/
def samplerTypes : List (List Char) :=
  floatSamplers ++ shadowSamplers ++ integerSamplers

/-- Whether a type has a name that begins like those of opaque types. -/
def OpensOpaque (type : List Char) : Prop :=
  ∃ opening ∈ Declaration.opaqueTypes, opening <+: type

instance (type : List Char) : Decidable (OpensOpaque type) :=
  inferInstanceAs (Decidable (∃ opening ∈ Declaration.opaqueTypes, opening <+: type))

theorem opensOpaque_iff_of_mem_samplerTypes {type : List Char} (member : type ∈ samplerTypes) :
    OpensOpaque type ↔ type ∉ integerSamplers := by
  have judged : ∀ type ∈ samplerTypes, (OpensOpaque type ↔ type ∉ integerSamplers) := by
    decide +kernel
  exact judged type member

theorem mem_samplerTypes_of_integer {type : List Char} (integer : type ∈ integerSamplers) :
    type ∈ samplerTypes := List.mem_append_right _ integer

namespace Declaration

/-- The type of a declaration without the brackets that make it an array. -/
def elementType (declaration : Declaration) : List Char :=
  declaration.type.takeWhile (· ≠ '[')

theorem isOpaque_iff {declaration : Declaration} :
    declaration.isOpaque ↔ OpensOpaque declaration.elementType := by
  have bracketless : ∀ opening ∈ opaqueTypes, '[' ∉ opening := by decide
  have inside {opening : List Char} (known : opening ∈ opaqueTypes) :
      opening <+: declaration.type ↔ opening <+: declaration.elementType := by
    refine ⟨fun begins => ?_, fun begins => begins.trans (List.takeWhile_prefix _)⟩
    have whole : opening.takeWhile (· ≠ '[') = opening :=
      List.takeWhile_eq_self_iff.mpr fun character member => by
        simpa using fun same : character = '[' => bracketless opening known (same ▸ member)
    rcases begins with ⟨rest, same⟩
    rw [elementType, ← same, List.takeWhile_append_of_pos (List.takeWhile_eq_self_iff.mp whole)]
    exact List.prefix_append opening _
  rw [isOpaque, List.any_eq_true, OpensOpaque]
  refine exists_congr fun opening => and_congr_right fun known => ?_
  rw [List.isPrefixOf_iff_prefix]
  exact inside known

theorem declarators_ne_nil_of_parse? {stage : Stage} {dialect : Dialect} {code : List Char}
    {declaration : Declaration} (parsed : parse? stage dialect code = some declaration) :
    declaration.declarators ≠ [] := by
  rcases parse?_eq_some_iff.mp parsed with ⟨_, _, _, read⟩
  rcases ofWords?_eq_some_iff.mp read with ⟨_, _, _, _, worded⟩
  exact worded.something

end Declaration

/-! ## What becomes of a uniform -/

section

variable (pair : StagePair) (stage : Stage) (statement : List Char) (declaration : Declaration)

/-- Whether a statement of a stage that is lowered is read as the declaration of uniforms. -/
structure DeclaresUniform : Prop where
  lowers : (dialectOf pair stage).needsLowering
  among : ∃ line ∈ lines (pair.source stage).toList, ¬Declaration.isDirective line ∧
    statement ∈ splitAfter ';' (Declaration.splitComment line).1
  parsed : Declaration.parse? stage (dialectOf pair stage) (trim statement) = some declaration
  role : declaration.role = .uniform

/-- Whether a statement stays as it is, and no layout has a binding on its account. -/
structure StaysInPlace : Prop where
  lowered : ∀ slots, (settingOf pair stage).lowerStatement slots statement =
    { text := statement, blocks := [], slots }
  unbound : ∀ before after, Layout.ofDeclarations (before ++ declaration :: after) =
    Layout.ofDeclarations (before ++ after)

/-- Whether a statement is blanked and its uniforms are declared in these blocks of the
header, each at the binding of its name. -/
structure MovesTo (blocks : List UniformBlock) : Prop where
  lowered : ∀ slots, (settingOf pair stage).lowerStatement slots statement =
    { text := statement.takeWhile isBlank, blocks, slots }
  declarators : blocks.map UniformBlock.declarator = declaration.declarators
  type : ∀ block ∈ blocks, block.type = declaration.type
  header : ∀ block ∈ blocks, block ∈ headerBlocks pair stage
  bound : ∀ block ∈ blocks, (layoutOf pair).uniforms[block.binding]? = some block.uniform

end

/-- Whether every uniform of a sampler type stays in its place. -/
def SamplersStay (pair : StagePair) : Prop :=
  ∀ stage statement declaration, DeclaresUniform pair stage statement declaration →
    declaration.elementType ∈ samplerTypes → StaysInPlace pair stage statement declaration

/-- Whether every uniform of a type that is not opaque moves into a block. -/
def OthersMove (pair : StagePair) (isOpaqueType : List Char → Prop) : Prop :=
  ∀ stage statement declaration, DeclaresUniform pair stage statement declaration →
    ¬isOpaqueType declaration.elementType →
      ∃ blocks, MovesTo pair stage statement declaration blocks

/-! ## Blocks of a line -/

namespace Setting

variable {setting : Setting} {block : UniformBlock}

theorem mem_blocks_lowerStatements {statements : List (List Char)} {statement : List Char}
    (member : statement ∈ statements)
    (adds : ∀ slots, block ∈ (setting.lowerStatement slots statement).blocks) (slots : Slots) :
    block ∈ (setting.lowerStatements slots statements).blocks := by
  induction statements generalizing slots with
  | nil => cases member
  | cons first rest induction =>
      rcases List.mem_cons.mp member with rfl | later
      · exact List.mem_append_left _ (adds slots)
      · exact List.mem_append_right _ (induction later _)

theorem mem_blocks_lowerLines {all : List (List Char)} {line : List Char} (member : line ∈ all)
    (adds : ∀ slots, block ∈ (setting.lowerLine slots line).blocks) (slots : Slots) :
    block ∈ (setting.lowerLines slots all).2 := by
  induction all generalizing slots with
  | nil => cases member
  | cons first rest induction =>
      rcases List.mem_cons.mp member with rfl | later
      · exact List.mem_append_left _ (adds slots)
      · exact List.mem_append_right _ (induction later _)

end Setting

namespace DeclaresUniform

variable {pair : StagePair} {stage : Stage} {statement : List Char} {declaration : Declaration}

theorem not_isPrecision (declares : DeclaresUniform pair stage statement declaration) :
    ¬Setting.isPrecision (trim statement) := by
  intro sets
  have nothing := declares.parsed
  rw [Declaration.parse?_of_isPrecision sets] at nothing
  cases nothing

theorem lowerStatement_eq (declares : DeclaresUniform pair stage statement declaration)
    (slots : Slots) : (settingOf pair stage).lowerStatement slots statement =
      match (settingOf pair stage).lowerDeclaration? slots declaration with
      | some lowered => { lowered with text := statement.takeWhile isBlank ++ lowered.text }
      | none => { text := statement, blocks := [], slots } := by
  have parsed : Declaration.parse? (settingOf pair stage).stage (settingOf pair stage).dialect
      (trim statement) = some declaration := declares.parsed
  simp only [Setting.lowerStatement, declares.not_isPrecision, parsed, Option.bind_some]
  rfl

theorem mem_headerBlocks (declares : DeclaresUniform pair stage statement declaration)
    {block : UniformBlock}
    (adds : ∀ slots, block ∈ ((settingOf pair stage).lowerStatement slots statement).blocks) :
    block ∈ headerBlocks pair stage := by
  rcases declares.among with ⟨line, member, code, within⟩
  refine Setting.mem_blocks_lowerLines member (fun slots => ?_) .initial
  rw [Setting.lowerLine_of_code _ _ code]
  exact Setting.mem_blocks_lowerStatements within adds slots

theorem staysInPlace (declares : DeclaresUniform pair stage statement declaration)
    (opens : OpensOpaque declaration.elementType) :
    StaysInPlace pair stage statement declaration := by
  have sampled : declaration.isOpaque := Declaration.isOpaque_iff.mpr opens
  refine ⟨fun slots => ?_, fun before after => ?_⟩
  · have kept : (settingOf pair stage).lowerDeclaration? slots declaration = none :=
      Setting.lowerDeclaration?_of_kept _ _ (by
        simp [Declaration.isLowered, declares.role, sampled])
    rw [declares.lowerStatement_eq, kept]
  · have skipped (layout : Layout) : layout.extend declaration = layout := by
      simp [Layout.extend, declares.role, sampled]
    rw [Layout.ofDeclarations, Layout.ofDeclarations, List.foldl_append, List.foldl_cons, skipped,
      ← List.foldl_append]

/-- The blocks of a declaration do not depend on the locations that are free. -/
theorem exists_blocks? (declares : DeclaresUniform pair stage statement declaration)
    (loose : declaration.isOpaque = false) :
    ∃ blocks, (settingOf pair stage).blocks? declaration = some blocks ∧
      blocks.map UniformBlock.declarator = declaration.declarators ∧
      ∀ block ∈ blocks, block.type = declaration.type := by
  rcases declares.among with ⟨line, member, code, within⟩
  have holds := holds_of_mem (mem_declarationsOf declares.lowers member code within declares.parsed)
  rcases (settingOf pair stage).exists_lowers_uniform .initial declares.role loose holds with
    ⟨places, lowers⟩
  have uniform : ∀ place ∈ places, place.role = .uniform :=
    fun place among => (Setting.role_of_declared lowers.declared among).trans declares.role
  have result := lowers.result
  rw [Setting.lowerDeclaration?, declares.role] at result
  simp only [loose, Bool.false_eq_true, if_false] at result
  rcases Option.map_eq_some_iff.mp result with ⟨blocks, found, same⟩
  have written : blocks = places.map Place.block :=
    (congrArg Lowered.blocks same).trans (blocksOf_of_uniform uniform)
  refine ⟨blocks, found, ?_, fun block among => ?_⟩
  · have listed := congrArg (List.map Declared.declarator) lowers.declared
    rw [Declaration.declared, List.map_map, List.map_map] at listed
    rw [written, List.map_map]
    exact listed.trans (List.map_id _)
  · rw [written] at among
    rcases List.mem_map.mp among with ⟨place, inside, rfl⟩
    have known : place.toDeclared ∈ declaration.declared :=
      lowers.declared ▸ List.mem_map_of_mem inside
    rcases List.mem_map.mp known with ⟨declarator, _, declared⟩
    exact (congrArg Declared.type declared).symm

theorem exists_movesTo (declares : DeclaresUniform pair stage statement declaration)
    (other : ¬OpensOpaque declaration.elementType) :
    ∃ blocks, MovesTo pair stage statement declaration blocks := by
  have loose : declaration.isOpaque = false :=
    Bool.eq_false_iff.mpr fun sampled => other (Declaration.isOpaque_iff.mp sampled)
  rcases declares.exists_blocks? loose with ⟨blocks, found, declarators, type⟩
  have lowered (slots : Slots) : (settingOf pair stage).lowerStatement slots statement =
      { text := statement.takeWhile isBlank, blocks, slots } := by
    have moved : (settingOf pair stage).lowerDeclaration? slots declaration =
        some { text := [], blocks, slots } := by
      simp [Setting.lowerDeclaration?, declares.role, loose, found]
    rw [declares.lowerStatement_eq, moved]
    simp only [List.append_nil]
  have header : ∀ block ∈ blocks, block ∈ headerBlocks pair stage :=
    fun block member => declares.mem_headerBlocks fun slots => by rwa [lowered]
  exact ⟨blocks, lowered, declarators, type, header,
    fun block member => getElem?_uniforms_of_mem declares.lowers (header block member)⟩

theorem not_staysInPlace (declares : DeclaresUniform pair stage statement declaration)
    {blocks : List UniformBlock} (moves : MovesTo pair stage statement declaration blocks) :
    ¬StaysInPlace pair stage statement declaration := by
  intro stays
  have same := (moves.lowered .initial).symm.trans (stays.lowered .initial)
  have nothing : blocks = [] := congrArg Lowered.blocks same
  have declarators := moves.declarators
  rw [nothing] at declarators
  exact Declaration.declarators_ne_nil_of_parse? declares.parsed declarators.symm

theorem staysInPlace_iff (declares : DeclaresUniform pair stage statement declaration) :
    StaysInPlace pair stage statement declaration ↔ OpensOpaque declaration.elementType := by
  refine ⟨fun stays => ?_, declares.staysInPlace⟩
  by_contra other
  rcases declares.exists_movesTo other with ⟨blocks, moves⟩
  exact declares.not_staysInPlace moves stays

theorem exists_movesTo_iff (declares : DeclaresUniform pair stage statement declaration) :
    (∃ blocks, MovesTo pair stage statement declaration blocks) ↔
      ¬OpensOpaque declaration.elementType := by
  refine ⟨?_, declares.exists_movesTo⟩
  rintro ⟨blocks, moves⟩ opens
  exact declares.not_staysInPlace moves (declares.staysInPlace opens)

end DeclaresUniform

/-! ## Which uniforms are where they belong -/

variable {pair : StagePair} {isOpaqueType : List Char → Prop}

theorem samplersStay_iff :
    SamplersStay pair ↔ ∀ stage statement declaration,
      DeclaresUniform pair stage statement declaration →
        declaration.elementType ∉ integerSamplers := by
  constructor
  · intro stay stage statement declaration declares integer
    have sampler := mem_samplerTypes_of_integer integer
    have opens := declares.staysInPlace_iff.mp (stay _ _ _ declares sampler)
    exact (opensOpaque_iff_of_mem_samplerTypes sampler).mp opens integer
  · intro none stage statement declaration declares sampler
    exact declares.staysInPlace
      ((opensOpaque_iff_of_mem_samplerTypes sampler).mpr (none _ _ _ declares))

theorem othersMove_iff :
    OthersMove pair isOpaqueType ↔ ∀ stage statement declaration,
      DeclaresUniform pair stage statement declaration →
        OpensOpaque declaration.elementType → isOpaqueType declaration.elementType := by
  constructor
  · intro move stage statement declaration declares opens
    by_contra other
    exact declares.exists_movesTo_iff.mp (move _ _ _ declares other) opens
  · intro known stage statement declaration declares other
    exact declares.exists_movesTo fun opens => other (known _ _ _ declares opens)

/-- A uniform stays exactly if the name of its type begins like those of opaque types, and
moves into blocks otherwise. So the samplers stay exactly if none is an integer sampler, and all
others move exactly if no type that is not opaque has a name that begins so. -/
theorem uniform_stays_or_moves (pair : StagePair) (isOpaqueType : List Char → Prop) :
    (∀ stage statement declaration, DeclaresUniform pair stage statement declaration →
      (StaysInPlace pair stage statement declaration ↔ OpensOpaque declaration.elementType) ∧
      ((∃ blocks, MovesTo pair stage statement declaration blocks) ↔
        ¬OpensOpaque declaration.elementType)) ∧
    (SamplersStay pair ↔ ∀ stage statement declaration,
      DeclaresUniform pair stage statement declaration →
        declaration.elementType ∉ integerSamplers) ∧
    (OthersMove pair isOpaqueType ↔ ∀ stage statement declaration,
      DeclaresUniform pair stage statement declaration →
        OpensOpaque declaration.elementType → isOpaqueType declaration.elementType) :=
  ⟨fun _ _ _ declares => ⟨declares.staysInPlace_iff, declares.exists_movesTo_iff⟩,
    samplersStay_iff, othersMove_iff⟩

/-- An integer sampler moves into a block, where it cannot stand, and a uniform of a structure
stays loose. -/
theorem isampler2D_moves :
    let pair : StagePair :=
      { vertex := "#version 300 es\nvoid main() \x7b\x7d"
        fragment := "#version 300 es\nstruct textureInfo \x7b vec2 size; \x7d;\n" ++
          "uniform highp isampler2D counts;\nuniform textureInfo info;\nvoid main() \x7b\x7d" }
    headerBlocks pair .fragment =
        [{ binding := 0, type := "isampler2D".toList, declarator := "counts".toList }] ∧
      ¬SamplersStay pair ∧ ¬OthersMove pair (· ∈ samplerTypes) := by
  intro pair
  have counts : DeclaresUniform pair .fragment "uniform highp isampler2D counts;".toList
      { role := .uniform, interpolation := [], type := "isampler2D".toList,
        declarators := ["counts".toList] } := by
    refine ⟨by decide +kernel, ⟨"uniform highp isampler2D counts;".toList, ?_⟩, ?_, rfl⟩ <;>
      decide +kernel
  have info : DeclaresUniform pair .fragment "uniform textureInfo info;".toList
      { role := .uniform, interpolation := [], type := "textureInfo".toList,
        declarators := ["info".toList] } := by
    refine ⟨by decide +kernel, ⟨"uniform textureInfo info;".toList, ?_⟩, ?_, rfl⟩ <;>
      decide +kernel
  refine ⟨by decide +kernel, fun stay => ?_, fun move => ?_⟩
  · exact samplersStay_iff.mp stay _ _ _ counts (by decide +kernel)
  · have opaqueType := othersMove_iff.mp move _ _ _ info (by decide +kernel)
    revert opaqueType
    decide +kernel

end LiveShader.Glsl
