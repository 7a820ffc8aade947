import LiveShader.Proofs.Glsl.CommentsAside
import LiveShader.Proofs.Glsl.CutDeclarations
import LiveShader.Proofs.Glsl.Gaps
import LiveShader.Proofs.Glsl.Recognition

/-! # Blanks in a declaration

A declaration on one line is recognised with any blanks between its words. With a line end
behind its storage qualifier it is not, and a precision is dropped with one blank only. -/

namespace LiveShader.Glsl

open Text

variable {stage : Stage} {dialect : Dialect}

/-! ## Statements with a gap -/

section

variable {left right blanks : List Char}

namespace Declaration

theorem parse?_closed (body : List Char) : parse? stage dialect (body ++ [';']) =
    if body.any isForeign then none else ofWords? stage dialect (words body) := by
  have closed : withoutSemicolon? (body ++ [';']) = some body := by simp [withoutSemicolon?]
  rw [parse?, closed]

theorem parse?_gap (something : blanks ≠ []) (blank : ∀ character ∈ blanks, isBlank character) :
    parse? stage dialect (left ++ (blanks ++ (right ++ [';']))) =
    if left.any isForeign || right.any isForeign then none
    else ofWords? stage dialect (words left ++ words right) := by
  have plain : blanks.any isForeign = false := by
    refine List.any_eq_false.mpr fun character member => ?_
    rw [@eq_false_of_isBlank isForeign (by decide +kernel) _ (blank character member)]
    exact Bool.false_ne_true
  have whole : left ++ (blanks ++ (right ++ [';'])) = left ++ (blanks ++ right) ++ [';'] := by simp
  rw [whole, parse?_closed, List.any_append, List.any_append, plain, Bool.false_or,
    words_append_blanks something blank]

end Declaration

theorem trim_gap {last first : Char} (ends : left.getLast? = some last)
    (begins : right.head? = some first) (lastVisible : isBlank last = false)
    (firstVisible : isBlank first = false) :
    trim (left ++ (blanks ++ right)) = trim left ++ (blanks ++ trim right) := by
  have front := takeWhile_append_trim ends lastVisible
  rcases exists_trim right with ⟨indent, back, whole, before, behind⟩
  have nothing : indent = [] := by
    cases indent with
    | nil => rfl
    | cons character indent =>
        rw [whole] at begins
        cases Option.some.inj begins
        rw [before _ (.head _)] at firstVisible
        cases firstVisible
  have leftSolid := trim_ne_nil (List.mem_of_getLast? ends) lastVisible
  have rightSolid := trim_ne_nil (List.mem_of_head? begins) firstVisible
  have trimmed : IsTrimmed (trim left ++ (blanks ++ trim right)) := by
    refine ⟨fun character member => (isTrimmed_trim left).first character ?_,
      fun character member => (isTrimmed_trim right).last character ?_⟩
    · rwa [List.head?_append_of_ne_nil _ leftSolid] at member
    · rwa [← List.append_assoc, List.getLast?_append_of_ne_nil _ rightSolid] at member
  have split : left ++ (blanks ++ right) =
      left.takeWhile isBlank ++ ((trim left ++ (blanks ++ trim right)) ++ back) := by
    rw [nothing, List.nil_append] at whole
    calc left ++ (blanks ++ right)
        = (left.takeWhile isBlank ++ trim left) ++ (blanks ++ (trim right ++ back)) := by
          rw [front, ← whole]
      _ = _ := by simp
  rw [split]
  exact trim_surrounded trimmed (fun character member => List.mem_takeWhile_imp member) behind

end

/-! ## What a statement declares -/

/-- The variables that a statement declares, interpolation apart. -/
def found (stage : Stage) (dialect : Dialect) (statement : List Char) : List Declared :=
  (declaredIn stage dialect [trim statement]).map Declared.bare

theorem found_congr {first second : List Char}
    (same : Declaration.parse? stage dialect (trim first) =
      Declaration.parse? stage dialect (trim second)) :
    declaredIn stage dialect [trim first] = declaredIn stage dialect [trim second] := by
  simp only [declaredIn, List.filterMap_cons, same]

theorem found_of_parse? {statement : List Char} {declaration : Declaration}
    (parsed : Declaration.parse? stage dialect (trim statement) = some declaration)
    (lowered : declaration.isLowered stage) :
    found stage dialect statement = declaration.declared.map Declared.bare := by
  simp [found, declaredIn, parsed, lowered]

namespace Declaration

variable {declaration other : Declaration}

theorem IsSame.isLowered (same : IsSame other declaration) :
    other.isLowered stage = declaration.isLowered stage := by
  rw [Declaration.isLowered, Declaration.isLowered, same.role, isOpaque, isOpaque, same.type]

theorem bare_declared_eq_iff (something : declaration.declarators ≠ []) :
    other.declared.map Declared.bare = declaration.declared.map Declared.bare ↔
      IsSame other declaration := by
  constructor
  · intro same
    have declarators := congrArg (List.map Declared.declarator) same
    simp only [declared, List.map_map, Function.comp_def, Declared.bare, List.map_id']
      at declarators
    rcases List.exists_cons_of_ne_nil something with ⟨first, rest, split⟩
    simp only [declared, declarators, split, List.map_cons, Declared.bare, List.cons.injEq,
      Declared.mk.injEq] at same
    exact ⟨same.1.1, same.1.2.2.1, declarators⟩
  · intro same
    simp only [declared, same.role, same.type, same.declarators, List.map_map, Function.comp_def,
      Declared.bare]

end Declaration

/-! ## Statements around a gap -/

namespace Gap

variable (gap : Gap) {blanks : List Char}

/-- The statement that the gap is in, on one line. -/
def joined : List Char :=
  gap.left ++ ([' '] ++ gap.right)

theorem right_cases : gap.right = [] ∨
    ∃ first, gap.right.head? = some first ∧ isBlank first = false := by
  rcases gap.exists_tail with ⟨first, behind, split, visible, _⟩
  rcases right : gap.right with _ | ⟨head, rest⟩
  · exact .inl rfl
  · have begins : gap.right <+: (Declaration.splitComment gap.tail).1 := by
      have whole := flatten_splitAfter ';' (Declaration.splitComment gap.tail).1
      rw [Gap.right] at right ⊢
      cases pieces : splitAfter ';' (Declaration.splitComment gap.tail).1 with
      | nil => exact List.nil_prefix
      | cons piece others =>
          rw [pieces, List.flatten_cons] at whole
          exact ⟨others.flatten, whole⟩
    have leads : gap.right <+: gap.tail :=
      begins.trans ⟨_, Declaration.splitComment_append gap.tail⟩
    rw [right, split] at leads
    refine .inr ⟨head, rfl, ?_⟩
    rw [(List.cons_prefix_cons.mp leads).1]
    exact visible

/-- What is declared on one line does not depend on the blanks. -/
theorem declaredIn_gap (something : blanks ≠ []) (blank : ∀ character ∈ blanks, isBlank character) :
    declaredIn stage dialect [trim (gap.left ++ (blanks ++ gap.right))] =
      declaredIn stage dialect [trim gap.joined] := by
  have single : ∀ character ∈ [' '], isBlank character :=
    List.forall_mem_singleton.mpr (by decide)
  rcases gap.right_cases with nothing | ⟨first, begins, visible⟩
  · have unfinished {blanks : List Char} (blank : ∀ character ∈ blanks, isBlank character) :
        declaredIn stage dialect [trim (gap.left ++ (blanks ++ gap.right))] = [] := by
      rw [nothing, List.append_nil]
      have alone : ∀ statement ∈ [gap.left ++ blanks], ';' ∉ statement :=
        List.forall_mem_singleton.mpr (gap.semicolon_not_mem_left blank)
      exact declaredIn_unfinished stage dialect alone
    rw [unfinished blank, joined, unfinished single]
  · rcases gap.ends with ⟨last, member, lastVisible⟩
    refine found_congr ?_
    rw [joined, trim_gap member begins lastVisible visible,
      trim_gap member begins lastVisible visible]
    by_cases closed : (trim gap.right).getLast? = some ';'
    · rcases List.getLast?_eq_some_iff.mp closed with ⟨body, split⟩
      rw [split, Declaration.parse?_gap something blank,
        Declaration.parse?_gap (List.cons_ne_nil _ _) single]
    · have unclosed (blanks : List Char) : Declaration.parse? stage dialect
          (trim gap.left ++ (blanks ++ trim gap.right)) = none := by
        cases parsed : Declaration.parse? stage dialect
            (trim gap.left ++ (blanks ++ trim gap.right)) with
        | none => rfl
        | some declaration =>
            have ended := Declaration.getLast?_of_parse? parsed
            have solid := trim_ne_nil (List.mem_of_head? begins) visible
            rw [← List.append_assoc, List.getLast?_append_of_ne_nil _ solid] at ended
            exact absurd ended closed
      rw [unclosed, unclosed]

theorem exists_right_of_closed (blank : ∀ character ∈ blanks, isBlank character)
    (ended : (trim (gap.left ++ (blanks ++ gap.right))).getLast? = some ';') :
    ∃ body, trim gap.right = body ++ [';'] ∧ ∀ others,
      trim (gap.left ++ (others ++ gap.right)) = trim gap.left ++ (others ++ trim gap.right) := by
  rcases gap.right_cases with nothing | ⟨first, begins, visible⟩
  · have unfinished := gap.semicolon_not_mem_left blank
    rw [nothing, List.append_nil] at ended
    exact absurd (trim_subset _ (List.mem_of_getLast? ended)) unfinished
  · rcases gap.ends with ⟨last, member, lastVisible⟩
    have split (others : List Char) := @trim_gap gap.left gap.right others last first member begins
      lastVisible visible
    have solid := trim_ne_nil (List.mem_of_head? begins) visible
    rw [split, ← List.append_assoc, List.getLast?_append_of_ne_nil _ solid] at ended
    rcases List.getLast?_eq_some_iff.mp ended with ⟨body, closed⟩
    exact ⟨body, closed, split⟩

theorem found_joined_eq_iff {declaration : Declaration}
    (parsed : Declaration.parse? stage dialect (trim gap.joined) = some declaration)
    (lowered : declaration.isLowered stage) :
    found stage dialect gap.joined = found stage dialect gap.right ↔
      ∀ word ∈ words gap.left, word ∈ Declaration.interpolationWords := by
  have single : ∀ character ∈ [' '], isBlank character :=
    List.forall_mem_singleton.mpr (by decide)
  rcases gap.exists_right_of_closed single (Declaration.getLast?_of_parse? parsed) with
    ⟨body, closed, split⟩
  have whole := parsed
  rw [joined, split, closed, Declaration.parse?_gap (List.cons_ne_nil _ _) single, words_trim]
    at whole
  split_ifs at whole with foreign
  rw [Bool.or_eq_true, not_or] at foreign
  have behind : Declaration.parse? stage dialect (trim gap.right) =
      Declaration.ofWords? stage dialect (words body) := by
    rw [closed, Declaration.parse?_closed, if_neg foreign.2]
  have something : declaration.declarators ≠ [] := by
    rcases Declaration.ofWords?_eq_some_iff.mp whole with ⟨_, _, _, _, worded⟩
    exact worded.something
  rw [← Declaration.exists_isSame_iff whole, found_of_parse? parsed lowered]
  constructor
  · intro same
    have declares : found stage dialect gap.right ≠ [] := by
      rw [← same, Declaration.declared]
      simpa using something
    cases read : Declaration.ofWords? stage dialect (words body) with
    | none =>
        refine absurd ?_ declares
        simp [found, declaredIn, behind, read]
    | some rest =>
        by_cases lowers : rest.isLowered stage
        · rw [found_of_parse? (behind.trans read) lowers] at same
          exact ⟨rest, rfl, (Declaration.bare_declared_eq_iff something).mp same.symm⟩
        · refine absurd ?_ declares
          simp [found, declaredIn, behind, read, lowers]
  · rintro ⟨rest, read, same⟩
    have lowers : rest.isLowered stage := by rw [same.isLowered, lowered]
    rw [found_of_parse? (behind.trans read) lowers]
    exact ((Declaration.bare_declared_eq_iff something).mpr same).symm

end Gap

/-! ## Precisions -/

namespace Setting

variable {setting : Setting} {statement : List Char}

theorem lowerStatement_precision (sets : isPrecision (trim statement)) (slots : Slots) :
    (setting.lowerStatement slots statement).text = statement.takeWhile isBlank := by
  simp [lowerStatement, sets]

theorem lowerStatement_kept (other : ¬isPrecision (trim statement))
    (nothing : Declaration.parse? setting.stage setting.dialect (trim statement) = none)
    (slots : Slots) : (setting.lowerStatement slots statement).text = statement := by
  simp [lowerStatement, other, nothing]

/-- A statement that declares nothing goes down to its indent if it is a precision. -/
theorem lowerStatement_eq_indent_iff
    (nothing : Declaration.parse? setting.stage setting.dialect (trim statement) = none)
    {character : Char} (member : character ∈ statement) (visible : isBlank character = false)
    (slots : Slots) :
    (setting.lowerStatement slots statement).text = statement.takeWhile isBlank ↔
      isPrecision (trim statement) := by
  refine ⟨fun dropped => ?_, fun sets => lowerStatement_precision sets slots⟩
  by_contra other
  rw [lowerStatement_kept other nothing] at dropped
  have blank : ∀ character ∈ statement, isBlank character := by
    rw [dropped]
    exact fun character inside => List.mem_takeWhile_imp inside
  exact not_mem_blanks blank visible member

theorem lowerStatement_unfinished (unfinished : ';' ∉ statement) (slots : Slots) :
    (setting.lowerStatement slots statement).text = statement := by
  have open_ended : (trim statement).getLast? ≠ some ';' := fun closed =>
    unfinished (trim_subset statement (List.mem_of_getLast? closed))
  refine lowerStatement_kept ?_ ?_ slots
  · exact fun sets => open_ended (isPrecision_iff.mp sets).2
  · cases parsed : Declaration.parse? setting.stage setting.dialect (trim statement) with
    | none => rfl
    | some declaration => exact absurd (Declaration.getLast?_of_parse? parsed) open_ended

end Setting

section

variable {left body written blanks : List Char} {last : Char}

theorem Declaration.parse?_precision_gap {rest : List (List Char)}
    (starts : words left = "precision".toList :: rest) (something : blanks ≠ [])
    (blank : ∀ character ∈ blanks, isBlank character) :
    parse? stage dialect (left ++ (blanks ++ (body ++ [';']))) = none := by
  rw [parse?_gap something blank, starts, List.cons_append, ofWords?_precision]
  exact ite_self none

theorem isPrecision_gap_iff :
    Setting.isPrecision (left ++ (blanks ++ (body ++ [';']))) ↔
      "precision ".toList <+: left ++ (blanks ++ (body ++ [';'])) := by
  have ended : (left ++ (blanks ++ (body ++ [';']))).getLast? = some ';' := by
    rw [← List.append_assoc, ← List.append_assoc, List.getLast?_concat]
  exact Setting.isPrecision_iff.trans (and_iff_left ended)

/-- The word for a precision stands in front of the gap, alone or with a blank of its own. -/
theorem precision_cases (ends : left.getLast? = some last) (visible : isBlank last = false)
    (something : written ≠ []) (blank : ∀ character ∈ written, isBlank character)
    (sets : "precision ".toList <+: left ++ (written ++ body)) :
    left = "precision".toList ∨ ∃ rest more,
      "precision ".toList <+: left ∧ words left = "precision".toList :: rest :: more := by
  have split : "precision ".toList = "precision".toList ++ [' '] := rfl
  rcases List.prefix_or_prefix_of_prefix sets (List.prefix_append left _) with whole | part
  · refine .inr ?_
    rcases whole with ⟨rest, rfl⟩
    have later : last ∈ rest := by
      rcases List.eq_nil_or_concat rest with rfl | ⟨front, final, rfl⟩
      · cases Option.some.inj ends
        cases visible
      · rw [List.concat_eq_append, ← List.append_assoc, List.getLast?_concat] at ends
        simp [Option.some.inj ends]
    rcases List.exists_cons_of_ne_nil (words_ne_nil later visible) with ⟨first, more, words⟩
    exact ⟨first, more, List.prefix_append _ _, by rw [Declaration.words_precision, words]⟩
  · refine .inl ?_
    rw [split, List.prefix_concat_iff] at part
    rcases part with same | ⟨missing, word⟩
    · rw [same, List.getLast?_concat] at ends
      cases Option.some.inj ends
      cases visible
    · cases missing with
      | nil => rw [← word, List.append_nil]
      | cons next missing =>
          -- The word would go on with a blank.
          rw [split, ← word, List.append_assoc, List.prefix_append_right_inj] at sets
          rcases List.exists_cons_of_ne_nil something with ⟨first, others, rfl⟩
          have same : next = first := (List.cons_prefix_cons.mp sets).1
          have solid : "precision".toList.any isBlank = false := by decide
          have member : next ∈ "precision".toList := by simp [← word]
          refine absurd (blank first (.head _)) ?_
          rw [← same]
          exact List.any_eq_false.mp solid next member

end

namespace Gap

variable (gap : Gap) {written blanks : List Char}

/-- A precision is dropped with other blanks in its gap if the word for it is followed by a
space. -/
theorem lowerStatement_precision_iff (something : written ≠ [])
    (blank : ∀ character ∈ written, isBlank character) (otherSomething : blanks ≠ [])
    (otherBlank : ∀ character ∈ blanks, isBlank character)
    (sets : Setting.isPrecision (trim (gap.left ++ (written ++ gap.right)))) (setting : Setting)
    (slots : Slots) :
    (setting.lowerStatement slots (gap.left ++ (blanks ++ gap.right))).text =
        (gap.left ++ (blanks ++ gap.right)).takeWhile isBlank ↔
      (words gap.left = ["precision".toList] → blanks.head? = some ' ') := by
  have ended := (Setting.isPrecision_iff.mp sets).2
  rcases gap.exists_right_of_closed blank ended with ⟨body, closed, split⟩
  rcases gap.ends with ⟨last, member, visible⟩
  rw [split, closed, isPrecision_gap_iff] at sets
  have cases := precision_cases (getLast?_trim member visible) visible something blank sets
  have starts : ∃ rest, words (trim gap.left) = "precision".toList :: rest := by
    rcases cases with alone | ⟨rest, more, _, words⟩
    · exact ⟨[], by rw [alone]; rfl⟩
    · exact ⟨rest :: more, words⟩
  have lowered : (setting.lowerStatement slots (gap.left ++ (blanks ++ gap.right))).text =
        (gap.left ++ (blanks ++ gap.right)).takeWhile isBlank ↔
      "precision ".toList <+: trim gap.left ++ (blanks ++ (body ++ [';'])) := by
    rcases starts with ⟨rest, starts⟩
    have nothing : Declaration.parse? setting.stage setting.dialect
        (trim (gap.left ++ (blanks ++ gap.right))) = none := by
      rw [split, closed]
      exact Declaration.parse?_precision_gap starts otherSomething otherBlank
    have inside : last ∈ gap.left ++ (blanks ++ gap.right) :=
      List.mem_append_left _ (List.mem_of_getLast? member)
    rw [Setting.lowerStatement_eq_indent_iff nothing inside visible, split, closed,
      isPrecision_gap_iff]
  rw [lowered, ← words_trim gap.left]
  rcases cases with alone | ⟨rest, more, leads, words⟩
  · have split : "precision ".toList = "precision".toList ++ [' '] := rfl
    have single : words "precision".toList = ["precision".toList] := by decide
    rw [alone, single, split, List.prefix_append_right_inj]
    rcases List.exists_cons_of_ne_nil otherSomething with ⟨first, others, rfl⟩
    have begins : [' '] <+: first :: others ++ (body ++ [';']) ↔ ' ' = first := by
      rw [List.cons_append, List.cons_prefix_cons]
      exact and_iff_left List.nil_prefix
    rw [begins]
    exact ⟨fun same _ => congrArg some same.symm, fun head => (Option.some.inj (head rfl)).symm⟩
  · rw [words]
    refine iff_of_true (leads.trans (List.prefix_append _ _)) fun same => ?_
    cases same

end Gap

/-! ## Pairs -/

theorem declaredBy_congr {first second : StagePair} {stage : Stage}
    (same : first.source stage = second.source stage) :
    declaredBy first stage = declaredBy second stage := by
  simp only [declaredBy, declarationsOf, dialectOf, same]

/-- A stage with another source changes what its own declarations are, if anything. -/
theorem recognised_withSource_eq_iff {pair : StagePair} {source : List Char} :
    (∀ either, recognised (pair.withSource stage source) either = recognised pair either) ↔
      (declaredBy (pair.withSource stage source) stage).map Declared.bare =
        (declaredBy pair stage).map Declared.bare := by
  rw [recognised_eq_iff]
  refine ⟨fun all => all stage, fun same either => ?_⟩
  by_cases here : either = stage
  · rw [here]
    exact same
  · rw [declaredBy_congr (source_withSource_of_ne here pair source)]

/-- What becomes of a pair when the blanks in a gap of one of its stages are replaced. -/
structure IsRespaced (pair : StagePair) (stage : Stage) (gap : Gap) (written other : List Char) :
    Prop where
  /-- The variables and their numbers stay the same exactly if both blanks have a line end or
  neither has, or if the statement declares the same behind the gap as on one line. -/
  recognised :
    (∀ either, recognised (pair.withSource stage (gap.filled other)) either =
        recognised pair either) ↔
      (('\n' ∈ written ↔ '\n' ∈ other) ∨
        found stage (dialectOf pair stage) gap.joined =
          found stage (dialectOf pair stage) gap.right)
  /-- A declaration does so exactly if its storage qualifier stands behind the gap. -/
  declaration : ∀ declaration,
    Declaration.parse? stage (dialectOf pair stage) (trim gap.joined) = some declaration →
      declaration.isLowered stage →
        (found stage (dialectOf pair stage) gap.joined =
            found stage (dialectOf pair stage) gap.right ↔
          ∀ word ∈ words gap.left, word ∈ Declaration.interpolationWords)
  /-- A precision that is dropped is still dropped exactly if the gap has no line end, and
  starts with a space where it stands behind the word for a precision. -/
  precision : '\n' ∉ written →
    Setting.isPrecision (trim (gap.left ++ (written ++ gap.right))) → '\n' ∉ other →
      Gap.IsStatementOf (gap.filled other) (gap.left ++ (other ++ gap.right)) ∧
        ∀ slots, ((settingOf pair stage).lowerStatement slots
              (gap.left ++ (other ++ gap.right))).text =
            (gap.left ++ (other ++ gap.right)).takeWhile isBlank ↔
          (words gap.left = ["precision".toList] → other.head? = some ' ')
  /-- In front of a line end a statement stays as far as it is written. -/
  broken : '\n' ∈ other → ∃ trailing, (∀ character ∈ trailing, isBlank character) ∧
    Gap.IsStatementOf (gap.filled other) (gap.left ++ trailing) ∧
      ∀ slots, ((settingOf pair stage).lowerStatement slots (gap.left ++ trailing)).text =
        gap.left ++ trailing

theorem Gap.bare_declaredBy (gap : Gap) {pair : StagePair} {blanks : List Char}
    (source : (pair.source stage).toList = gap.filled blanks)
    (lowers : (dialectOf pair stage).needsLowering) (something : blanks ≠ [])
    (blank : ∀ character ∈ blanks, isBlank character) :
    (declaredBy pair stage).map Declared.bare =
      (gap.before stage (dialectOf pair stage)).map Declared.bare ++
        (found stage (dialectOf pair stage) (if '\n' ∈ blanks then gap.right else gap.joined) ++
          (gap.behind stage (dialectOf pair stage)).map Declared.bare) := by
  have joined : found stage (dialectOf pair stage) (gap.left ++ (blanks ++ gap.right)) =
      found stage (dialectOf pair stage) gap.joined := by
    rw [found, gap.declaredIn_gap something blank, found]
  rw [declaredBy_of_lowers lowers, source, gap.declaredIn_filled stage _ something blank,
    List.map_append, List.map_append, ← found, apply_ite (found stage _), joined,
    ← apply_ite (found stage _)]

section

variable {pair : StagePair} {gap : Gap} {written other : List Char}
  (source : (pair.source stage).toList = gap.filled written)
  (lowers : (dialectOf pair stage).needsLowering)
  (something : written ≠ []) (blank : ∀ character ∈ written, isBlank character)
  (otherSomething : other ≠ []) (otherBlank : ∀ character ∈ other, isBlank character)

include source lowers something blank otherSomething otherBlank

theorem recognised_withSource_iff :
    (∀ either, recognised (pair.withSource stage (gap.filled other)) either =
        recognised pair either) ↔
      (('\n' ∈ written ↔ '\n' ∈ other) ∨
        found stage (dialectOf pair stage) gap.joined =
          found stage (dialectOf pair stage) gap.right) := by
  have dialect : dialectOf (pair.withSource stage (gap.filled other)) stage =
      dialectOf pair stage := by
    rw [dialectOf, source_withSource, dialectOf, source, gap.detect_filled otherBlank,
      gap.detect_filled blank]
  have declares := gap.bare_declaredBy source lowers something blank
  have otherDeclares := gap.bare_declaredBy (source_withSource pair stage (gap.filled other))
    (dialect ▸ lowers) otherSomething otherBlank
  rw [dialect] at otherDeclares
  rw [recognised_withSource_eq_iff, otherDeclares, declares, List.append_cancel_left_eq,
    List.append_cancel_right_eq]
  by_cases broken : '\n' ∈ written <;> by_cases otherBroken : '\n' ∈ other
  · simp [broken, otherBroken]
  · simp [broken, otherBroken]
  · simp [broken, otherBroken, eq_comm]
  · simp [broken, otherBroken]

/-- The blanks in a gap matter to what is recognised in so far as they end its line. -/
theorem isRespaced : IsRespaced pair stage gap written other where
  recognised := recognised_withSource_iff source lowers something blank otherSomething otherBlank
  declaration := fun _ parsed lowered => gap.found_joined_eq_iff parsed lowered
  precision := fun _ sets unbroken =>
    ⟨gap.isStatementOf_filled unbroken otherSomething otherBlank, fun slots =>
      gap.lowerStatement_precision_iff something blank otherSomething otherBlank sets _ slots⟩
  broken := fun broken => by
    rcases gap.exists_isStatementOf_filled broken otherBlank with ⟨trailing, back, stands⟩
    refine ⟨trailing, back, stands, fun slots => Setting.lowerStatement_unfinished ?_ slots⟩
    exact gap.semicolon_not_mem_left back

end

/-- The gap behind the precision of the uniform that is declared between two others. -/
def precisionGap : Gap where
  earlier := "precision mediump float;\n".toList
  opening := "uniform vec2 size;".toList
  left := " uniform highp".toList
  back := "float gain, fade[2]; // in dB\nvoid main() \x7b\x7d".toList
  begins := by simp
  closed := by simp
  unbroken := by decide
  code := by decide
  uncommented := by decide +kernel
  unfinished := by decide
  ends := ⟨'p', by simp, by decide⟩
  next := ⟨'f', rfl, by decide⟩

/-- A line end there takes two uniforms away, other blanks do not. -/
theorem isRespaced_precisionGap :
    let pair : StagePair :=
      { vertex := "void main() \x7b\x7d", fragment := .ofList (precisionGap.filled [' ']) }
    (dialectOf pair .fragment).needsLowering ∧
      IsRespaced pair .fragment precisionGap [' '] ['\t', '\t'] ∧
      IsRespaced pair .fragment precisionGap [' '] ['\n'] ∧
      (recognised (pair.withSource .fragment (precisionGap.filled ['\t', '\t']))
        .fragment).length = 3 ∧
      (recognised (pair.withSource .fragment (precisionGap.filled ['\n']))
        .fragment).length = 1 := by
  intro pair
  have source : (pair.source .fragment).toList = precisionGap.filled [' '] := String.toList_ofList
  have lowers : (dialectOf pair .fragment).needsLowering := by decide +kernel
  have space : ∀ character ∈ [' '], isBlank character := List.all_eq_true.mp (by decide)
  have tabs : ∀ character ∈ ['\t', '\t'], isBlank character := List.all_eq_true.mp (by decide)
  have lineEnd : ∀ character ∈ ['\n'], isBlank character := List.all_eq_true.mp (by decide)
  refine ⟨lowers, ?_, ?_, by decide +kernel, by decide +kernel⟩
  · exact isRespaced source lowers (by decide) space (by decide) tabs
  · exact isRespaced source lowers (by decide) space (by decide) lineEnd

/-- A uniform that is written over two lines is not recognised. -/
theorem uniform_over_two_lines :
    let pair (blank : String) : StagePair :=
      { vertex := "void main() \x7b\x7d"
        fragment := "precision" ++ blank ++ "mediump float;\nuniform" ++ blank ++ "float gain;" }
    (dialectOf (pair " ") .fragment).needsLowering ∧
      recognised (pair " ") .fragment =
        [{ role := .uniform, type := "float".toList, declarator := "gain".toList
           number := some 0 }] ∧
      recognised (pair "\n") .fragment = [] ∧
      body (pair " ") .fragment = "\n\n".toList ∧
      body (pair "\t") .fragment ≠ "\n\n".toList := by
  decide +kernel

end LiveShader.Glsl
