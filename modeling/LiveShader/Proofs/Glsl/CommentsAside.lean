import Mathlib.Data.List.TakeWhile
import LiveShader.Proofs.Glsl.CommentedStages

/-! # Comments that are taken for code

In a block comment that stands anywhere else than in a directive, a declaration can be
written that lowering takes for one. -/

namespace LiveShader

open Text

/-- A pair with another source for one of its stages. -/
def StagePair.withSource (pair : StagePair) (stage : Stage) (source : List Char) : StagePair :=
  match stage with
  | .vertex => { pair with vertex := .ofList source }
  | .fragment => { pair with fragment := .ofList source }

namespace Glsl

variable {pair : StagePair} {stage : Stage} {earlier front rest text : List Char}

theorem source_withSource (pair : StagePair) (stage : Stage) (source : List Char) :
    ((pair.withSource stage source).source stage).toList = source := by
  cases stage <;> exact String.toList_ofList

theorem source_withSource_of_ne {other : Stage} (different : other ≠ stage) (pair : StagePair)
    (source : List Char) : (pair.withSource stage source).source other = pair.source other := by
  cases stage <;> cases other <;> first | rfl | exact absurd rfl different

/-- Text in a block comment that does not end it does not count. -/
theorem sameOutsideComments_withSource (source : (pair.source stage).toList = front ++ rest)
    (inside : Region.code.after front = .block) (star : '*' ∉ text) (unbroken : '\n' ∉ text) :
    SameOutsideComments pair (pair.withSource stage (front ++ (text ++ rest))) := by
  intro other
  by_cases same : other = stage
  · subst same
    rcases Region.read_in_block star unbroken with ⟨stays, nothing⟩
    rw [source_withSource, source, Region.outline_append, Region.outline_append,
      Region.outline_append, inside, stays, nothing]
    rfl
  · rw [source_withSource_of_ne same]

/-! ## A version directive -/

namespace Dialect

theorem ofDirective_old (rest : List Char) :
    ofDirective ("#version 100 ".toList ++ rest) = .legacy := by
  have dropped (bound : Nat) :
      dropRepeated versionWord bound (" 100 ".toList ++ rest) = " 100 ".toList ++ rest := by
    cases bound <;> rfl
  have number : words (" 100 ".toList ++ rest) = "100".toList :: words rest := by
    have split : " 100 ".toList ++ rest = [] ++ ' ' :: ("100".toList ++ ' ' :: rest) := rfl
    rw [split, words_append_blank (by decide), words_append_blank (by decide)]
    rfl
  have opened : dropRepeated versionWord ("#version 100 ".toList ++ rest).length
      ("#version 100 ".toList ++ rest) = " 100 ".toList ++ rest := dropped _
  have read : read32? "100".toList = some 100 := by decide
  rw [ofDirective, opened, number]
  simp only [read]
  rfl

theorem detect_append_old (begins : ∀ last ∈ earlier.getLast?, last = '\n')
    (unversioned : ∀ line ∈ lines earlier, ¬versionWord <+: trimLeft line) (rest : List Char) :
    detect (earlier ++ ("#version 100 ".toList ++ rest)) = .legacy := by
  rw [detect_eq, lines_append begins, ofLines_append unversioned]
  rcases exists_lines_append rest with ⟨behind, more, lines⟩
  have split := lines "#version 100 ".toList (by decide) (by decide) (by decide)
  have trimmed : trimLeft ("#version 100 ".toList ++ behind) = "#version 100 ".toList ++ behind :=
    rfl
  have version : versionWord.isPrefixOf ("#version 100 ".toList ++ behind) = true := rfl
  rw [split, ofLines_cons, trimmed, if_pos version, ofDirective_old]

end Dialect

/-! ## A uniform -/

namespace Declaration

/-- The declaration of a uniform number. -/
def ofNumber (name : List Char) : Declaration :=
  { role := .uniform, interpolation := [], type := "float".toList, declarators := [name] }

theorem declaratorsOf_name {name : List Char} (something : name ≠ [])
    (letters : ∀ character ∈ name, isIdentifierCharacter character) :
    declaratorsOf name = [name] := by
  have solid : ∀ character ∈ name, isBlank character = false :=
    fun character member => isBlank_of_isIdentifierCharacter (letters character member)
  have whole : name.splitOn ',' = [name] := by
    rw [List.splitOn_eq_splitOnP]
    refine List.splitOnP_eq_singleton fun character member => ?_
    refine beq_false_of_ne ?_
    rintro rfl
    exact absurd (letters _ member) (by decide)
  have trimmed : trim name = name := by
    have alone := @trim_surrounded name
      ⟨fun character member => solid character (List.mem_of_head? member),
        fun character member => solid character (List.mem_of_getLast? member)⟩ [] [] nofun nofun
    rwa [List.append_nil] at alone
  have kept : name.isEmpty = false := by simpa using something
  rw [declaratorsOf, whole, List.map_singleton, trimmed, List.filter_singleton, kept]
  rfl

theorem parse?_number {name : List Char} (something : name ≠ [])
    (letters : ∀ character ∈ name, isIdentifierCharacter character) (stage : Stage)
    (dialect : Dialect) :
    parse? stage dialect ("uniform float ".toList ++ name ++ [';']) = some (ofNumber name) := by
  have solid : ∀ character ∈ name, isBlank character = false :=
    fun character member => isBlank_of_isIdentifierCharacter (letters character member)
  have plain : ("uniform float ".toList ++ name).any isForeign = false := by
    have opening : "uniform float ".toList.any isForeign = false := by decide
    rw [List.any_append, opening, Bool.false_or, List.any_eq_false]
    intro character member foreign
    have letter := letters character member
    rw [isForeign, Bool.or_eq_true, Bool.or_eq_true, beq_iff_eq, beq_iff_eq, beq_iff_eq] at foreign
    rcases foreign with (rfl | rfl) | rfl <;> revert letter <;> decide
  have read : words ("uniform float ".toList ++ name) =
      ["uniform".toList, "float".toList, name] := by
    have split : "uniform float ".toList ++ name =
        "uniform".toList ++ ' ' :: ("float".toList ++ ' ' :: name) := rfl
    rw [split, words_append_blank (by decide), words_append_blank (by decide),
      words_of_solid something solid]
    rfl
  refine parse?_eq_some_iff.mpr ⟨_, rfl, plain, ?_⟩
  rw [read]
  refine ofWords?_eq_some_iff.mpr ⟨"uniform".toList, [], [name], rfl, ?_⟩
  have alone : join [' '] [name] = name := List.append_nil name
  exact
    { interpolation := nofun
      role := rfl
      precision := nofun
      type := show "float".toList ∉ precisionWords by decide
      declarators := by rw [alone, declaratorsOf_name something letters]; rfl
      something := List.cons_ne_nil _ _ }

end Declaration

/-- What stands between two semicolons in the code of a line is a statement. -/
theorem mem_statements_insert (begins : ∀ last ∈ earlier.getLast?, last = '\n')
    (unbroken : '\n' ∉ front) (missing : ¬['/', '/'] <:+: front)
    (code : ¬Declaration.isDirective (front ++ [';'])) {inner : List Char}
    (oneLine : '\n' ∉ inner) (oneStatement : ';' ∉ inner) (noComment : '/' ∉ inner)
    (rest : List Char) :
    trim (inner ++ [';']) ∈
      Declaration.statements (earlier ++ (front ++ (';' :: (inner ++ [';']) ++ rest))) := by
  have oneFirst : '\n' ∉ front ++ ';' :: (inner ++ [';']) := by simp [unbroken, oneLine]
  have closed : (front ++ ';' :: (inner ++ [';'])).getLast? ≠ some '\r' := by
    rw [← List.cons_append, ← List.append_assoc, List.getLast?_concat]
    decide
  rcases exists_lines_append rest with ⟨behind, more, lines⟩
  have split := lines _ (by simp) oneFirst closed
  have line : front ++ ';' :: (inner ++ [';']) ++ behind =
      front ++ ';' :: (inner ++ ';' :: behind) := by
    simp
  have noOpening : ¬['/', '/'] <:+: inner := fun opens => noComment (opens.subset (.head _))
  have cut : (Declaration.splitComment (front ++ ';' :: (inner ++ ';' :: behind))).1 =
      front ++ [';'] ++ (inner ++ ';' :: (Declaration.splitComment behind).1) := by
    rw [splitComment_append_cons (by decide) missing,
      splitComment_append_cons (by decide) noOpening]
    simp
  have ended : ∀ last ∈ (front ++ [';']).getLast?, last = ';' := by
    intro last member
    rw [List.getLast?_concat] at member
    exact (Option.some.inj member).symm
  have whole : front ++ (';' :: (inner ++ [';']) ++ rest) =
      front ++ ';' :: (inner ++ [';']) ++ rest := by simp
  rw [whole, statements_eq, lines_append begins, split, line]
  refine List.mem_flatMap.mpr ⟨_, List.mem_append_right _ (.head _), ?_⟩
  rw [statementsOfLine, isDirective_append_cons (by decide), if_neg code, cut,
    splitAfter_append ended, splitAfter_append_stop oneStatement]
  exact List.mem_map_of_mem (List.mem_append_right _ (.head _))

theorem mem_declaredIn {dialect : Dialect} {statements : List (List Char)} {statement : List Char}
    {declaration : Declaration} {declared : Declared} (member : statement ∈ statements)
    (parsed : Declaration.parse? stage dialect statement = some declaration)
    (lowered : declaration.isLowered stage) (among : declared ∈ declaration.declared) :
    declared ∈ declaredIn stage dialect statements :=
  List.mem_flatMap.mpr ⟨declaration,
    List.mem_filter.mpr ⟨List.mem_filterMap.mpr ⟨statement, member, parsed⟩, lowered⟩, among⟩

/-- A uniform counts wherever a line does not start as a directive or with a line comment. -/
theorem mem_declaredIn_insert (begins : ∀ last ∈ earlier.getLast?, last = '\n')
    (unbroken : '\n' ∉ front) (missing : ¬['/', '/'] <:+: front)
    (code : ¬Declaration.isDirective (front ++ [';'])) {name : List Char} (something : name ≠ [])
    (letters : ∀ character ∈ name, isIdentifierCharacter character) (stage : Stage)
    (dialect : Dialect) (rest : List Char) :
    { role := .uniform, interpolation := [], type := "float".toList, declarator := name } ∈
      declaredIn stage dialect (Declaration.statements
        (earlier ++ (front ++ (';' :: ("uniform float ".toList ++ name ++ [';']) ++ rest)))) := by
  have free {separator : Char} (outside : isIdentifierCharacter separator = false)
      (other : separator ∉ "uniform float ".toList) :
      separator ∉ "uniform float ".toList ++ name := by
    refine List.not_mem_append other fun member => ?_
    rw [letters separator member] at outside
    cases outside
  have parsed := Declaration.parse?_number something letters stage dialect
  have trimmed : IsTrimmed ("uniform float ".toList ++ name ++ [';']) := by
    refine ⟨fun character member => ?_, fun character member => ?_⟩
    · cases Option.some.inj member
      decide
    · rw [List.getLast?_concat] at member
      cases Option.some.inj member
      decide
  have kept := @trim_surrounded _ trimmed [] [] nofun nofun
  rw [List.nil_append, List.append_nil] at kept
  have member := mem_statements_insert begins unbroken missing code (free (by decide) (by decide))
    (free (by decide) (by decide)) (free (by decide) (by decide)) rest
  rw [kept] at member
  exact mem_declaredIn member parsed rfl (.head _)

theorem declarator_infix_injected (lowers : (dialectOf pair stage).needsLowering)
    {declared : Declared} (member : declared ∈ declaredBy pair stage)
    (uniform : declared.role = .uniform) : declared.declarator <:+: injected pair stage := by
  rcases (settingOf pair stage).exists_linesBecome .initial (knowsLine_of_mem lowers) with
    ⟨document, last, become, _, blocks, _⟩
  have declares : (placesOf document).map Place.toDeclared = declaredBy pair stage :=
    (declared_placesOf become).trans (declaredBy_of_lowers lowers).symm
  rw [← declares] at member
  rcases List.mem_map.mp member with ⟨place, among, rfl⟩
  have hoisted : place.block ∈ blocksOf (placesOf document) :=
    List.mem_map_of_mem (List.mem_filter.mpr ⟨among, by simpa using uniform⟩)
  have inBlock : place.declarator <:+: place.block.text := by
    unfold UniformBlock.text
    exact ⟨_, _, rfl⟩
  have inHeader :
      place.block.text <:+: (settingOf pair stage).header (blocksOf (placesOf document)) :=
    (List.infix_of_mem_flatten (List.mem_map_of_mem hoisted)).trans
      (List.suffix_append _ _).isInfix
  have injects : injected pair stage =
      (settingOf pair stage).header (blocksOf (placesOf document)) ++
      "#line 1\n".toList := by
    rw [injected, if_pos (show (settingOf pair stage).dialect.needsLowering from lowers), blocks]
  rw [injects]
  exact inBlock.trans (inHeader.trans (List.prefix_append _ _).isInfix)

/-! ## Exactly the comments that stand aside -/

/-- Where a declaration in a comment would be taken for one, comments matter. -/
theorem exists_not_lowersAlike (lowers : (dialectOf pair stage).needsLowering)
    (source : (pair.source stage).toList = earlier ++ front ++ rest)
    (begins : ∀ last ∈ earlier.getLast?, last = '\n')
    (inside : Region.code.after (earlier ++ front) = .block) (unbroken : '\n' ∉ front)
    (missing : ¬['/', '/'] <:+: front) (code : ¬Declaration.isDirective (front ++ [';'])) :
    ∃ other, SameOutsideComments pair other ∧ ¬LowersAlike pair other := by
  -- No header of the pair is as long as the name.
  let name := List.replicate ((injected pair stage).length + 1) 'z'
  have something : name ≠ [] := by simp [name]
  have letters : ∀ character ∈ name, isIdentifierCharacter character := by
    intro character member
    rw [List.eq_of_mem_replicate member]
    decide
  let text := ';' :: ("uniform float ".toList ++ name ++ [';'])
  have free {separator : Char} (outside : isIdentifierCharacter separator = false)
      (other : separator ∉ ";uniform float ".toList) : separator ∉ text := by
    have split : text = ";uniform float ".toList ++ name ++ [';'] := rfl
    rw [split]
    refine List.not_mem_append (List.not_mem_append other fun member => ?_) fun member => ?_
    · rw [letters separator member] at outside
      cases outside
    · rw [List.mem_singleton.mp member] at other
      exact other (by decide)
  have same := sameOutsideComments_withSource source inside (free (by decide) (by decide))
    (free (by decide) (by decide))
  refine ⟨_, same, fun alike => ?_⟩
  generalize whole : pair.withSource stage (earlier ++ front ++ (text ++ rest)) = other at alike
  have otherSource : (other.source stage).toList = earlier ++ (front ++ (text ++ rest)) := by
    rw [← whole, source_withSource, List.append_assoc]
  have otherLowers : (dialectOf other stage).needsLowering := alike.dialect stage ▸ lowers
  have member := mem_declaredIn_insert begins unbroken missing code something letters stage
    (dialectOf other stage) rest
  rw [← otherSource, ← declaredBy_of_lowers otherLowers] at member
  have longer := (declarator_infix_injected otherLowers member rfl).length_le
  rw [← alike.injected stage, List.length_replicate] at longer
  omega

theorem code_or_block (begins : ∀ last ∈ earlier.getLast?, last = '\n') :
    Region.code.after earlier = .code ∨ Region.code.after earlier = .block := by
  cases last : earlier.getLast? with
  | none =>
      rw [List.getLast?_eq_none_iff.mp last]
      exact .inl rfl
  | some character =>
      cases begins character last
      rcases List.getLast?_eq_some_iff.mp last with ⟨front, rfl⟩
      rw [Region.after_append]
      cases Region.code.after front <;> decide

theorem exists_opening {opening : List Char} (inside : Region.code.after opening = .block)
    (unbroken : '\n' ∉ opening) : ∃ code rest, IsOpened opening code '*' rest := by
  rcases isPlain_or_isOpened opening with plain | ⟨code, opener, rest, opened⟩
  · have inCode := plain.read.1
    rw [inside] at inCode
    cases inCode
  · rcases opened.opens with rfl | rfl
    · rw [opened.split] at unbroken
      simp only [List.mem_append, List.mem_cons, not_or] at unbroken
      have ended : Region.code.after opening = .line :=
        opened.after_split.trans (Region.after_line unbroken.2.2.2)
      rw [inside] at ended
      cases ended
    · exact ⟨code, rest, opened⟩

theorem IsInBlock.exists_not_lowersAlike {opening : List Char}
    (place : IsInBlock (pair.source stage).toList earlier opening)
    (lowers : (dialectOf pair stage).needsLowering)
    (exposed : ¬(Region.code.after earlier = .code ∧ Declaration.isDirective opening)) :
    ∃ other, SameOutsideComments pair other ∧ ¬LowersAlike pair other := by
  rcases place.reached with ⟨rest, source⟩
  rcases code_or_block place.begins with code | block
  · have inside := place.inside
    rw [Region.after_append, code] at inside
    rcases exists_opening inside place.unbroken with ⟨front, behind, opened⟩
    have split : earlier ++ (front ++ ['/', '*']) ++ (behind ++ rest) =
        (pair.source stage).toList := by
      rw [← source, opened.split]
      simp
    have whole : front ++ ['/', '*'] = (front ++ ['/']) ++ ['*'] := by simp
    have ended : Region.code.after (earlier ++ (front ++ ['/', '*'])) = .block := by
      rw [whole, Region.after_append, code, Region.after_append, opened.after_slash]
      rfl
    have unbroken := place.unbroken
    rw [opened.split] at unbroken
    simp only [List.mem_append, List.mem_cons, not_or] at unbroken
    have missing : ¬['/', '/'] <:+: front ++ ['/', '*'] := by
      rw [whole, List.infix_concat_iff]
      rintro (⟨more, same⟩ | earlier)
      · have last := congrArg List.getLast? same
        rw [List.getLast?_concat, List.getLast?_append] at last
        cases last
      · exact opened.plain.line earlier
    have notDirective : ¬Declaration.isDirective (front ++ ['/', '*'] ++ [';']) := by
      intro directive
      refine exposed ⟨code, ?_⟩
      have solid : isBlank '/' = false := by decide
      rw [List.append_assoc, List.cons_append, isDirective_append_cons solid] at directive
      rw [opened.split, isDirective_append_cons solid]
      exact directive
    exact Glsl.exists_not_lowersAlike lowers split.symm place.begins ended
      (by simpa using unbroken.1) missing notDirective
  · have split : (pair.source stage).toList = earlier ++ [] ++ (opening ++ rest) := by
      rw [← source]
      simp
    refine Glsl.exists_not_lowersAlike lowers split place.begins ?_ List.not_mem_nil (by decide)
      (by decide)
    rwa [List.append_nil]

/-- Comments do not matter to the lowering of a pair exactly if they stand aside. -/
theorem lowersAlike_iff_commentsAside (pair : StagePair) :
    (∀ other, SameOutsideComments pair other → LowersAlike pair other) ↔
      ∀ stage, CommentsAside (pair.source stage).toList := by
  refine ⟨fun alike stage => ?_, fun aside other same => lowersAlike_of_commentsAside same aside⟩
  rw [CommentsAside]
  split_ifs with lowers
  · intro earlier opening place
    by_contra exposed
    rcases place.exists_not_lowersAlike lowers exposed with ⟨other, same, different⟩
    exact different (alike other same)
  · intro earlier place
    by_contra none
    have unversioned : ∀ line ∈ lines earlier, ¬Dialect.versionWord <+: trimLeft line :=
      fun line member leads => none ⟨line, member, leads⟩
    rcases place.reached with ⟨rest, source⟩
    have inside := place.inside
    rw [List.append_nil] at source inside
    have same := @sameOutsideComments_withSource pair stage earlier rest "#version 100 ".toList
      source.symm inside (by decide) (by decide)
    have dialect := (alike _ same).dialect stage
    rw [dialectOf, dialectOf, source_withSource,
      Dialect.detect_append_old place.begins unversioned] at dialect
    exact lowers (by rw [dialect]; rfl)

/-- A declaration between the lines of a comment is hoisted. -/
theorem declaration_in_block_comment :
    let pair (comment : String) : StagePair :=
      { vertex := "void main() \x7b\x7d"
        fragment := "/*\n" ++ comment ++ "\n*/\nvoid main() \x7b\x7d" }
    SameOutsideComments (pair "uniform float unused;") (pair "unused") ∧
      injected (pair "uniform float unused;") .fragment ≠ injected (pair "unused") .fragment := by
  intro pair
  refine ⟨fun stage => ?_, by decide +kernel⟩
  cases stage <;> decide +kernel

end Glsl

end LiveShader
