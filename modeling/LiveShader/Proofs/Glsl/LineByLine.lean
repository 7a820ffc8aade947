import LiveShader.Proofs.Glsl.Interface
import LiveShader.Proofs.Glsl.Wording
import LiveShader.Proofs.Text.Cutting

/-! # A lowered stage, line by line

Below its header, a lowered stage has one line for each line that was written. A line
changes in the statements that are lowered and nowhere else, but for the name of the
colour output. -/

namespace LiveShader.Glsl

open Text

variable {stage : Stage} {dialect : Dialect} {setting : Setting} {statement line : List Char}

/-! ## What a lowered line is -/

/-- Whether a statement does not stay as it stands. -/
def Setting.Rewrites (setting : Setting) (statement : List Char) : Prop :=
  isPrecision (trim statement) ∨
    ∃ declaration,
      Declaration.parse? setting.stage setting.dialect (trim statement) = some declaration ∧
        declaration.isLowered setting.stage

/-- A statement stays, or the blanks in front of it do, with the variables that it declares
behind them. -/
structure IsLoweredStatement (setting : Setting) (statement text : List Char) : Prop where
  kept : ¬setting.Rewrites statement → text = setting.renamed statement
  precision : Setting.isPrecision (trim statement) → ∃ indent,
    (∀ character ∈ indent, isBlank character) ∧ statement = indent ++ trim statement ∧
      text = indent
  declared : ∀ declaration,
    Declaration.parse? setting.stage setting.dialect (trim statement) = some declaration →
      declaration.isLowered setting.stage → ∃ indent places,
        (∀ character ∈ indent, isBlank character) ∧ statement = indent ++ trim statement ∧
          places.map Place.toDeclared = declaration.declared ∧
          text = indent ++ statementsOf setting.stage setting.renamed places

structure IsLoweredLine (setting : Setting) (line text : List Char) : Prop where
  /-- The lowered line is one line. -/
  unbroken : '\n' ∉ text
  dropped : Setting.isDropped line → text = []
  directive : ¬Setting.isDropped line → Declaration.isDirective line →
    text = setting.renamed line
  untouched : ¬Declaration.isDirective line →
    (∀ statement ∈ splitAfter ';' (Declaration.splitComment line).1,
      ¬setting.Rewrites statement) →
    text = setting.renamed line
  /-- The statements and the comment of the line stand in the lowered line in order. -/
  statements : ¬Declaration.isDirective line → ∃ statements comment texts,
    line = statements.flatten ++ comment ∧
      statements = splitAfter ';' (Declaration.splitComment line).1 ∧
      comment = (Declaration.splitComment line).2 ∧
      List.Forall₂ (IsLoweredStatement setting) statements texts ∧
      text = texts.flatten ++ setting.renamed comment

/-! ## Where a declaration is written -/

namespace Declared

structure IsWrittenIn (declared : Declared) (code : List Char) : Prop where
  interpolation : ∀ word ∈ declared.interpolation, word ⊆ code
  type : declared.type ⊆ code
  /-- The words of an array's brackets are joined by blanks. -/
  declarator : declared.declarator ⊆ ' ' :: code

end Declared

namespace Declaration

theorem isWrittenIn_of_ofWords? {statement : List (List Char)} {declaration : Declaration}
    (read : ofWords? stage dialect statement = some declaration) {code : List Char}
    (written : ∀ word ∈ statement, word ⊆ code) :
    ∀ declared ∈ declaration.declared, declared.IsWrittenIn code := by
  rcases ofWords?_eq_some_iff.mp read with ⟨qualifier, precision, rest, rfl, worded⟩
  intro declared member
  rcases List.mem_map.mp member with ⟨declarator, among, rfl⟩
  refine ⟨fun word inside => written word (List.mem_append_left _ inside),
    written _ (by simp), fun character inside => ?_⟩
  -- A declarator is cut out of the words behind the type, joined by single blanks.
  rw [worded.declarators] at among
  rcases List.mem_map.mp (List.mem_filter.mp among).1 with ⟨piece, cut, rfl⟩
  rcases mem_join (subset_of_mem_splitOn cut (trim_subset piece inside)) with
    blank | ⟨word, known, letter⟩
  · exact List.mem_cons.mpr (.inl (List.mem_singleton.mp blank))
  · exact .tail _ (written word (by simp [known]) letter)

theorem isWrittenIn_of_parse? {code : List Char} {declaration : Declaration}
    (parsed : parse? stage dialect code = some declaration) :
    ∀ declared ∈ declaration.declared, declared.IsWrittenIn code := by
  rcases parse?_eq_some_iff.mp parsed with ⟨body, rfl, _, read⟩
  refine isWrittenIn_of_ofWords? read fun word member => ?_
  exact List.subset_append_of_subset_left _ (subset_of_mem_words member)

theorem splitComment_append (line : List Char) :
    (splitComment line).1 ++ (splitComment line).2 = line := by
  cases split : splitComment line with
  | mk code comment => exact (splitComment_eq_iff.mp split).1.symm

end Declaration

/-! ## No line is broken -/

theorem renameWithin_subset (old new : List Char) (bound : Nat) (text : List Char) :
    renameWithin old new bound text ⊆ text ++ new := by
  induction bound generalizing text with
  | zero => exact List.subset_append_left text new
  | succ bound induction =>
      rw [renameWithin]
      split
      case h_1 => exact List.subset_append_left text new
      case h_2 before after found =>
        rw [eq_append_of_splitFirst? found]
        refine List.append_subset.mpr ⟨List.append_subset.mpr ⟨?_, ?_⟩, ?_⟩
        · simp
        · intro character inside
          split at inside <;> simp [inside]
        · exact List.Subset.trans (induction after) (by simp)

variable (setting) in
theorem lineFeed_not_mem_renamed {text : List Char} (unbroken : '\n' ∉ text) :
    '\n' ∉ setting.renamed text := by
  rw [Setting.renamed]
  split
  case isTrue =>
    intro member
    have output : '\n' ∉ fragColorOutput := by decide
    rcases List.mem_append.mp (renameWithin_subset _ _ _ _ member) with inside | added
    · exact unbroken inside
    · exact output added
  case isFalse => exact unbroken

namespace Place

variable {place : Place} {code : List Char}

theorem lineFeed_not_mem_statement (written : place.IsWrittenIn code) (unbroken : '\n' ∉ code) :
    '\n' ∉ place.statement setting.stage setting.renamed := by
  have opening : '\n' ∉ place.opening setting.stage :=
    not_mem_opening (fun word member inside => unbroken (written.interpolation word member inside))
      (by decide) (by decide) _
  have type := lineFeed_not_mem_renamed setting fun inside => unbroken (written.type inside)
  have declarator : '\n' ∉ setting.renamed place.declarator := by
    refine lineFeed_not_mem_renamed setting fun inside => ?_
    rcases List.mem_cons.mp (written.declarator inside) with blank | written
    · cases blank
    · exact unbroken written
  simp [Place.statement, opening, type, declarator]

end Place

theorem lineFeed_not_mem_statementsOf {places : List Place} {code : List Char}
    (written : ∀ place ∈ places, place.IsWrittenIn code) (unbroken : '\n' ∉ code) :
    '\n' ∉ statementsOf setting.stage setting.renamed places := by
  intro member
  rcases mem_join member with blank | ⟨text, among, inside⟩
  · revert blank
    decide
  · rcases List.mem_map.mp among with ⟨place, located, rfl⟩
    have known := written place (List.mem_filter.mp located).1
    exact Place.lineFeed_not_mem_statement known unbroken inside

/-! ## Statements -/

theorem getLast?_of_rewrites (rewrites : setting.Rewrites statement) :
    (trim statement).getLast? = some ';' := by
  rcases rewrites with sets | ⟨declaration, parsed, _⟩
  · exact (Setting.isPrecision_iff.mp sets).2
  · exact Declaration.getLast?_of_parse? parsed

/-- Nothing stands behind the semicolon of a statement that is lowered. -/
theorem indent_append_of_rewrites (rewrites : setting.Rewrites statement) {code : List Char}
    (cut : statement ∈ splitAfter ';' code) :
    statement.takeWhile isBlank ++ trim statement = statement := by
  have member : ';' ∈ statement :=
    trim_subset statement (List.mem_of_getLast? (getLast?_of_rewrites rewrites))
  rcases exists_of_mem_splitAfter cut with ⟨front, outside, rfl | rfl⟩
  · exact absurd member outside
  · exact takeWhile_append_trim List.getLast?_concat (by decide)

namespace StatementBecomes

variable {piece : Piece}

theorem isLoweredStatement
    (becomes : StatementBecomes setting.stage setting.dialect statement piece) {code : List Char}
    (cut : statement ∈ splitAfter ';' code) :
    IsLoweredStatement setting statement (piece.text setting.stage setting.renamed) := by
  have blank : ∀ character ∈ statement.takeWhile isBlank, isBlank character :=
    fun character member => List.mem_takeWhile_imp member
  cases becomes with
  | precision sets =>
      have rewrites : setting.Rewrites statement := .inl sets
      have indented := indent_append_of_rewrites rewrites cut
      have renamed : setting.renamed (statement.takeWhile isBlank) = statement.takeWhile isBlank :=
        setting.renamed_of_no_underscore (underscore_not_mem_indent statement)
      exact
        { kept := fun stays => absurd rewrites stays
          precision := fun _ => ⟨_, blank, indented.symm, renamed⟩
          declared := by
            intro declaration parsed
            rw [Declaration.parse?_of_isPrecision sets] at parsed
            cases parsed }
  | kept other stays =>
      exact
        { kept := fun _ => rfl
          precision := fun sets => absurd sets other
          declared := by
            intro declaration parsed lowered
            rw [stays declaration parsed] at lowered
            cases lowered }
  | @declared declaration places parsed lowered declares =>
      have rewrites : setting.Rewrites statement := .inr ⟨declaration, parsed, lowered⟩
      have indented := indent_append_of_rewrites rewrites cut
      exact
        { kept := fun stays => absurd rewrites stays
          precision := by
            intro sets
            rw [Declaration.parse?_of_isPrecision sets] at parsed
            cases parsed
          declared := by
            intro other parsedOther _
            rw [parsed, Option.some.injEq] at parsedOther
            exact ⟨_, places, blank, indented.symm, parsedOther ▸ declares, rfl⟩ }

theorem lineFeed_not_mem (becomes : StatementBecomes setting.stage dialect statement piece)
    (unbroken : '\n' ∉ statement) : '\n' ∉ piece.text setting.stage setting.renamed := by
  have indent : '\n' ∉ statement.takeWhile isBlank :=
    fun member => unbroken ((List.takeWhile_prefix _).subset member)
  cases becomes with
  | precision => exact lineFeed_not_mem_renamed setting indent
  | kept => exact lineFeed_not_mem_renamed setting unbroken
  | @declared declaration places parsed lowered declares =>
      have written : ∀ place ∈ places, place.IsWrittenIn (trim statement) := by
        intro place member
        have known : place.toDeclared ∈ declaration.declared :=
          declares ▸ List.mem_map_of_mem member
        exact Declaration.isWrittenIn_of_parse? parsed _ known
      have trimmed : '\n' ∉ trim statement := fun member => unbroken (trim_subset _ member)
      exact List.not_mem_append indent (lineFeed_not_mem_statementsOf written trimmed)

end StatementBecomes

/-! ## Lines -/

theorem isLoweredStatements {statements : List (List Char)} {pieces : List Piece}
    (become : List.Forall₂ (StatementBecomes setting.stage setting.dialect) statements pieces)
    {code : List Char} (cut : ∀ statement ∈ statements, statement ∈ splitAfter ';' code) :
    List.Forall₂ (IsLoweredStatement setting) statements
      (pieces.map (Piece.text setting.stage setting.renamed)) := by
  induction become with
  | nil => exact .nil
  | @cons statement piece statements pieces becomes _ induction =>
      rcases List.forall_mem_cons.mp cut with ⟨first, others⟩
      exact .cons (becomes.isLoweredStatement first) (induction others)

theorem lineFeed_not_mem_pieces {statements : List (List Char)} {pieces : List Piece}
    (become : List.Forall₂ (StatementBecomes setting.stage dialect) statements pieces)
    (unbroken : '\n' ∉ statements.flatten) :
    '\n' ∉ pieces.flatMap (Piece.text setting.stage setting.renamed) := by
  induction become with
  | nil => exact List.not_mem_nil
  | @cons statement piece statements pieces becomes _ induction =>
      rw [List.flatten_cons, List.mem_append, not_or] at unbroken
      exact List.not_mem_append (becomes.lineFeed_not_mem unbroken.1) (induction unbroken.2)

theorem text_pieces_of_kept {statements : List (List Char)} {pieces : List Piece}
    (become : List.Forall₂ (StatementBecomes setting.stage setting.dialect) statements pieces)
    (stays : ∀ statement ∈ statements, ¬setting.Rewrites statement) :
    pieces.flatMap (Piece.text setting.stage id) = statements.flatten := by
  induction become with
  | nil => rfl
  | @cons statement piece statements pieces becomes _ induction =>
      rcases List.forall_mem_cons.mp stays with ⟨first, others⟩
      rw [List.flatMap_cons, induction others, List.flatten_cons]
      cases becomes with
      | precision sets => exact absurd (.inl sets) first
      | kept => rfl
      | declared parsed lowered => exact absurd (.inr ⟨_, parsed, lowered⟩) first

theorem LineBecomes.isLoweredLine {pieces : List Piece}
    (becomes : LineBecomes setting.stage setting.dialect line pieces) (unbroken : '\n' ∉ line) :
    IsLoweredLine setting line (pieces.flatMap (Piece.text setting.stage setting.renamed)) := by
  cases becomes with
  | dropped drops =>
      have directive := isDirective_of_isDropped drops
      exact
        { unbroken := List.not_mem_nil
          dropped := fun _ => rfl
          directive := fun stays => absurd drops stays
          untouched := fun code => absurd directive code
          statements := fun code => absurd directive code }
  | directive stays directive =>
      have text : [Piece.kept line].flatMap (Piece.text setting.stage setting.renamed) =
          setting.renamed line := List.append_nil _
      rw [text]
      exact
        { unbroken := lineFeed_not_mem_renamed setting unbroken
          dropped := fun drops => absurd drops stays
          directive := fun _ _ => rfl
          untouched := fun code => absurd directive code
          statements := fun code => absurd directive code }
  | @code pieces code become =>
      have stays : ¬Setting.isDropped line := fun drops => code (isDirective_of_isDropped drops)
      have whole : (splitAfter ';' (Declaration.splitComment line).1).flatten ++
          (Declaration.splitComment line).2 = line := by
        rw [flatten_splitAfter, Declaration.splitComment_append]
      have text : (pieces ++ [Piece.kept (Declaration.splitComment line).2]).flatMap
          (Piece.text setting.stage setting.renamed) =
            pieces.flatMap (Piece.text setting.stage setting.renamed) ++
              setting.renamed (Declaration.splitComment line).2 := by
        simp [Piece.text]
      rw [text]
      rw [← whole, List.mem_append, not_or] at unbroken
      have statements := lineFeed_not_mem_pieces become unbroken.1
      have comment := lineFeed_not_mem_renamed setting unbroken.2
      exact
        { unbroken := List.not_mem_append statements comment
          dropped := fun drops => absurd drops stays
          directive := fun _ directive => absurd directive code
          untouched := fun _ kept => by
            -- The pieces renamed one by one are the line renamed as a whole.
            rw [← renamed_pieces setting become
              (fun statement member => getLast?_of_mem_dropLast_splitAfter member)
              (Declaration.head_comment line), text_pieces_of_kept become kept, whole]
          statements := fun _ => ⟨_, _, _, whole.symm, rfl, rfl,
            isLoweredStatements become fun _ member => member, by rw [List.flatMap_def]⟩ }

theorem isLoweredLines {written : List (List Char)} {document : List (List Piece)}
    (become : List.Forall₂ (LineBecomes setting.stage setting.dialect) written document)
    (unbroken : ∀ line ∈ written, '\n' ∉ line) :
    List.Forall₂ (IsLoweredLine setting) written
      (document.map fun pieces => pieces.flatMap (Piece.text setting.stage setting.renamed)) := by
  induction become with
  | nil => exact .nil
  | @cons line pieces written document becomes _ induction =>
      rcases List.forall_mem_cons.mp unbroken with ⟨first, others⟩
      exact .cons (becomes.isLoweredLine first) (induction others)

theorem UniformBlock.getLast?_text (block : UniformBlock) : block.text.getLast? = some '\n' := by
  have ended : "; \x7d;\n".toList.getLast? = some '\n' := by decide
  unfold UniformBlock.text
  generalize "; \x7d;\n".toList = closing at *
  rw [List.getLast?_append, ended]
  rfl

theorem version_prefix_header (blocks : List UniformBlock) :
    "#version 450\n".toList <+: setting.header blocks := by
  unfold Setting.header
  generalize "#version 450\n".toList = version
  rw [List.append_assoc]
  exact List.prefix_append _ _

theorem getLast?_header (blocks : List UniformBlock) :
    (setting.header blocks).getLast? = some '\n' := by
  unfold Setting.header
  rcases List.eq_nil_or_concat blocks with rfl | ⟨others, last, rfl⟩
  · split <;> decide
  · have ended := last.getLast?_text
    generalize "#version 450\n".toList = version
    simp only [List.concat_eq_append, List.map_append, List.flatten_append, List.map_singleton,
      List.flatten_singleton, List.getLast?_append, ended, Option.some_or]

/-- A lowered stage is a header and then one line for each line of the stage, behind the
directive that numbers them from one. -/
theorem exists_lowered_lines {pair : StagePair} (lowers : (dialectOf pair stage).needsLowering) :
    ∃ header texts,
      ((lower pair).source stage).toList =
        header ++ "#line 1\n".toList ++ (texts.map (· ++ ['\n'])).flatten ∧
      "#version 450\n".toList <+: header ∧ header.getLast? = some '\n' ∧
      List.Forall₂ (IsLoweredLine (settingOf pair stage)) (lines (pair.source stage).toList)
        texts := by
  rcases @exists_isDocument pair stage with ⟨document, reads⟩
  rcases reads.written lowers with ⟨become, text⟩
  have unbroken : ∀ line ∈ lines (pair.source stage).toList, '\n' ∉ line :=
    fun line member => lineFeed_not_mem_of_mem_lines member
  have lowered := @isLoweredLines (settingOf pair stage) _ _ become unbroken
  refine ⟨(settingOf pair stage).header (blocksOf (placesOf document)), _, ?_,
    version_prefix_header _, getLast?_header _, lowered⟩
  simp only [text, Setting.documentText, List.map_map, Function.comp_def]

/-- A line may hold a precision, a declaration, code and a comment at once. -/
theorem lowered_lines_of_crowded_line :
    let pair : StagePair :=
      { vertex := ""
        fragment := "#version 100\r\nprecision highp float; varying vec2 uv ,  st;  " ++
          "gl_FragColor = v; // uniform int a;\n\tuniform float\rgain;" }
    (dialectOf pair .fragment).needsLowering ∧
      (lower pair).source .fragment =
        "#version 450\nlayout(location = 0) out vec4 zenith_FragColor;\n" ++
          "layout(std140, set = 0, binding = 0) uniform ZenithUniform0 \x7b float gain; \x7d;\n" ++
          "#line 1\n\n" ++
          " layout(location = 1) in vec2 uv; layout(location = 0) in vec2 st;  " ++
          "zenith_FragColor = v; // uniform int a;\n\t\n" ∧
      ∃ header texts,
        ((lower pair).source .fragment).toList =
          header ++ "#line 1\n".toList ++ (texts.map (· ++ ['\n'])).flatten ∧
        "#version 450\n".toList <+: header ∧ header.getLast? = some '\n' ∧
        List.Forall₂ (IsLoweredLine (settingOf pair .fragment))
          (lines (pair.source .fragment).toList) texts := by
  intro pair
  have lowers : (dialectOf pair .fragment).needsLowering := by decide +kernel
  exact ⟨lowers, by decide +kernel, exists_lowered_lines lowers⟩

end LiveShader.Glsl
