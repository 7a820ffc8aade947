import LiveShader.Proofs.Glsl.CommentedLines
import LiveShader.Proofs.Glsl.Interface
import LiveShader.Proofs.Glsl.PlainStatements
import LiveShader.Proofs.Text.LineEnds

/-! # Stages that differ in their comments

Two pairs of stages with one outline each are lowered alike if nothing that a comment can
hold is taken for code: each line is then read with no more than a comment at its end. -/

namespace LiveShader.Glsl

open Text

/-! ## Two sources, line by line -/

/-- Whether two texts have the same lines but for their comments. What follows a line that
ends in a comment is not compared. -/
inductive AreAlike : (first second : List Char) → Prop where
  | nil : AreAlike [] []
  | last {line other : List Char} (something : line ≠ []) (otherSomething : other ≠ [])
      (unbroken : '\n' ∉ line) (otherUnbroken : '\n' ∉ other)
      (same : Region.code.outline line = Region.code.outline other) : AreAlike line other
  | line {line other rest others : List Char} (unbroken : '\n' ∉ line)
      (otherUnbroken : '\n' ∉ other)
      (same : Region.code.outline line = Region.code.outline other)
      (later : (Region.code.after line).next '\n' = .code → AreAlike rest others) :
      AreAlike (line ++ '\n' :: rest) (other ++ '\n' :: others)

theorem Region.outline_code_eq_nil_iff {text : List Char} :
    Region.code.outline text = [] ↔ text = [] := by
  cases text with
  | nil => exact Iff.rfl
  | cons => exact ⟨nofun, nofun⟩

theorem areAlike {first second : List Char}
    (same : Region.code.outline first = Region.code.outline second) : AreAlike first second := by
  induction length : first.length using Nat.strongRecOn generalizing first second with
  | ind count induction =>
      rcases exists_first_line first with unbroken | ⟨line, rest, rfl, unbroken⟩ <;>
        rcases exists_first_line second with otherUnbroken | ⟨other, others, rfl, otherUnbroken⟩
      · by_cases something : first = []
        · rw [Region.outline_code_eq_nil_iff.mpr something] at same
          rw [something, Region.outline_code_eq_nil_iff.mp same.symm]
          exact .nil
        · refine .last something ?_ unbroken otherUnbroken same
          rintro rfl
          exact something (Region.outline_code_eq_nil_iff.mp same)
      · rw [Region.outline_lineFeed] at same
        exact absurd (same ▸ by simp) (Region.lineFeed_not_mem_outline unbroken .code)
      · rw [Region.outline_lineFeed] at same
        exact absurd (same ▸ by simp) (Region.lineFeed_not_mem_outline otherUnbroken .code)
      · rw [Region.outline_lineFeed, Region.outline_lineFeed] at same
        rcases eq_of_append_stop (Region.lineFeed_not_mem_outline unbroken .code)
          (Region.lineFeed_not_mem_outline otherUnbroken .code) same with ⟨lines, rests⟩
        refine .line unbroken otherUnbroken lines fun code => ?_
        rw [← Region.next_lineFeed_congr lines, code] at rests
        refine induction _ ?_ rests rfl
        rw [← length, List.length_append, List.length_cons]
        omega

/-! ## Places in block comments -/

/-- A place in a line of a source, in a block comment. -/
structure IsInBlock (source earlier opening : List Char) : Prop where
  /-- In front of the line stand whole lines. -/
  begins : ∀ last ∈ earlier.getLast?, last = '\n'
  unbroken : '\n' ∉ opening
  reached : earlier ++ opening <+: source
  inside : Region.code.after (earlier ++ opening) = .block

namespace IsInBlock

variable {line rest earlier opening : List Char}

theorem behind (inside : IsInBlock rest earlier opening)
    (code : (Region.code.after line).next '\n' = .code) :
    IsInBlock (line ++ '\n' :: rest) (line ++ '\n' :: earlier) opening where
  begins := by
    intro last member
    rw [List.getLast?_append, List.getLast?_cons] at member
    cases ends : earlier.getLast? with
    | none =>
        rw [ends] at member
        exact (Option.some.inj member).symm
    | some final =>
        rw [ends] at member
        exact inside.begins last (ends.trans member)
  unbroken := inside.unbroken
  reached := by
    rw [List.append_assoc, List.cons_append, List.prefix_append_right_inj,
      List.cons_prefix_cons]
    exact ⟨rfl, inside.reached⟩
  inside := by
    have moved : Region.code.after (line ++ ['\n']) = .code := by
      rw [Region.after_append]
      exact code
    have whole : line ++ '\n' :: earlier ++ opening = (line ++ ['\n']) ++ (earlier ++ opening) := by
      simp
    rw [whole, Region.after_append, moved, inside.inside]

/-- The line behind a line that does not end its comment starts in it. -/
theorem of_line (unended : (Region.code.after line).next '\n' ≠ .code) (rest : List Char) :
    IsInBlock (line ++ '\n' :: rest) (line ++ ['\n']) [] where
  begins := by
    intro last member
    rw [List.getLast?_concat] at member
    exact (Option.some.inj member).symm
  unbroken := List.not_mem_nil
  reached := ⟨rest, by simp⟩
  inside := by
    have moved : Region.code.after (line ++ ['\n']) = (Region.code.after line).next '\n' := by
      rw [Region.after_append]
      rfl
    rw [List.append_nil, moved]
    revert unended
    cases Region.code.after line <;> decide

end IsInBlock

/-! ## Dialects -/

namespace Dialect

theorem ofLines_cons_congr {line other : List Char}
    (same : Region.code.outline line = Region.code.outline other) {rest others : List (List Char)}
    (later : ¬versionWord <+: trimLeft line → ofLines rest = ofLines others) :
    ofLines (line :: rest) = ofLines (other :: others) := by
  have leads :
      versionWord.isPrefixOf (trimLeft line) = versionWord.isPrefixOf (trimLeft other) := by
    rw [Bool.eq_iff_iff, List.isPrefixOf_iff_prefix, List.isPrefixOf_iff_prefix]
    exact leads_congr same (by decide)
  rw [ofLines_cons, ofLines_cons, ← leads]
  split_ifs with version
  · exact ofDirective_congr same
  · exact later fun leads => version (List.isPrefixOf_iff_prefix.mpr leads)

/-- Comments do not change the dialect of a stage, as long as no line in front of its version
directive, nor the directive itself, starts in one. -/
theorem detect_congr {first second : List Char} (alike : AreAlike first second)
    (versioned : ∀ earlier, IsInBlock first earlier [] →
      ∃ line ∈ lines earlier, versionWord <+: trimLeft line) :
    detect first = detect second := by
  rw [detect_eq, detect_eq]
  induction alike with
  | nil => rfl
  | @last line other something otherSomething unbroken otherUnbroken same =>
      rw [lines_of_not_mem unbroken something, lines_of_not_mem otherUnbroken otherSomething]
      exact ofLines_cons_congr same fun _ => rfl
  | @line line other rest others unbroken otherUnbroken same later induction =>
      rw [lines_append_lineFeed unbroken, lines_append_lineFeed otherUnbroken]
      have bare : Region.code.outline (dropLineEnd (line ++ ['\n'])) =
          Region.code.outline (dropLineEnd (other ++ ['\n'])) := by
        rw [Region.outline_dropLineEnd, same, Region.outline_dropLineEnd]
      refine ofLines_cons_congr bare fun unversioned => ?_
      have only : lines (line ++ ['\n']) = [dropLineEnd (line ++ ['\n'])] :=
        lines_append_lineFeed unbroken []
      have code : (Region.code.after line).next '\n' = .code := by
        by_contra unended
        rcases versioned _ (.of_line unended rest) with ⟨version, member, leads⟩
        rw [only, List.mem_singleton] at member
        exact unversioned (member ▸ leads)
      refine induction code fun earlier inside => ?_
      rcases versioned _ (inside.behind code) with ⟨version, member, leads⟩
      rw [lines_append_lineFeed unbroken, List.mem_cons] at member
      rcases member with rfl | among
      · exact absurd leads unversioned
      · exact ⟨version, among, leads⟩

end Dialect

/-! ## Lines that a stage reads alike -/

theorem isDirective_of_opening {opening line : List Char}
    (directive : Declaration.isDirective opening)
    (leads : opening <+: line) : Declaration.isDirective line := by
  rcases leads with ⟨rest, rfl⟩
  rw [Declaration.isDirective, beq_iff_eq] at directive ⊢
  rw [trimLeft, List.dropWhile_append]
  split_ifs with blank
  · rw [List.isEmpty_iff] at blank
    rw [trimLeft, blank] at directive
    cases directive
  · rw [List.head?_append, ← trimLeft, directive]
    rfl

/-- Two lines with one outline, with no block comment unless they are directives. -/
structure ReadAlike (line other : List Char) : Prop where
  unbroken : '\n' ∉ line
  otherUnbroken : '\n' ∉ other
  same : Region.code.outline line = Region.code.outline other
  aside : ¬Declaration.isDirective line → ∀ opening, opening <+: line →
    Region.code.after opening ≠ .block

/-- Lines that are read alike, each of which but the last ends in code. -/
inductive AllReadAlike : List (List Char) → List (List Char) → Prop where
  | nil : AllReadAlike [] []
  | last {line other : List Char} (alike : ReadAlike line other) : AllReadAlike [line] [other]
  | cons {line other : List Char} {rest others : List (List Char)} (alike : ReadAlike line other)
      (ended : (Region.code.after line).next '\n' = .code) (later : AllReadAlike rest others) :
      AllReadAlike (line :: rest) (other :: others)

theorem allReadAlike_lines {first second : List Char} (alike : AreAlike first second)
    (aside : ∀ earlier opening, IsInBlock first earlier opening →
      Region.code.after earlier = .code ∧ Declaration.isDirective opening) :
    AllReadAlike (lines first) (lines second) := by
  have plain {line source : List Char} (unbroken : '\n' ∉ line) (leads : line <+: source)
      (aside : ∀ opening, IsInBlock source [] opening → Declaration.isDirective opening)
      (code : ¬Declaration.isDirective line) (opening : List Char) (begins : opening <+: line) :
      Region.code.after opening ≠ .block := by
    intro inside
    refine code (isDirective_of_opening (aside opening ?_) begins)
    exact ⟨nofun, fun member => unbroken (begins.subset member), begins.trans leads, inside⟩
  induction alike with
  | nil => exact .nil
  | @last line other something otherSomething unbroken otherUnbroken same =>
      rw [lines_of_not_mem unbroken something, lines_of_not_mem otherUnbroken otherSomething]
      exact .last ⟨unbroken, otherUnbroken, same,
        plain unbroken List.prefix_rfl fun opening inside => (aside [] opening inside).2⟩
  | @line line other rest others unbroken otherUnbroken same later induction =>
      have code : (Region.code.after line).next '\n' = .code := by
        by_contra unended
        have inside := IsInBlock.of_line unended rest
        have ends := inside.inside
        rw [List.append_nil, (aside _ _ inside).1] at ends
        cases ends
      rw [lines_append_lineFeed unbroken, lines_append_lineFeed otherUnbroken]
      have bare := prefix_dropLineEnd line
      have bareUnbroken : '\n' ∉ dropLineEnd (line ++ ['\n']) :=
        fun member => unbroken (bare.subset member)
      refine .cons
        { unbroken := bareUnbroken
          otherUnbroken := fun member => otherUnbroken ((prefix_dropLineEnd other).subset member)
          same := by rw [Region.outline_dropLineEnd, same, Region.outline_dropLineEnd]
          aside := plain bareUnbroken (bare.trans (List.prefix_append line ('\n' :: rest)))
            fun opening inside => (aside [] opening inside).2 }
        (by rw [Region.next_lineFeed_dropLineEnd, code])
        (induction code fun earlier opening inside => ?_)
      rcases aside _ _ (inside.behind code) with ⟨begins, directive⟩
      refine ⟨?_, directive⟩
      have moved : Region.code.after (line ++ ['\n']) = .code := by
        rw [Region.after_append]
        exact code
      have whole : line ++ '\n' :: earlier = (line ++ ['\n']) ++ earlier := by simp
      rwa [whole, Region.after_append, moved] at begins

/-! ## Code and the comment behind it -/

theorem splitComment_of_isPlain {line : List Char} (plain : IsPlain line) :
    Declaration.splitComment line = (line, []) :=
  Declaration.splitComment_eq_iff.mpr ⟨(List.append_nil line).symm, .inl ⟨rfl, plain.line⟩⟩

theorem IsOpened.splitComment {line code rest : List Char} (opened : IsOpened line code '/' rest) :
    Declaration.splitComment line = (code, '/' :: '/' :: rest) :=
  Declaration.splitComment_eq_iff.mpr ⟨opened.split, .inr ⟨⟨rest, rfl⟩, opened.plain.line⟩⟩

/-- What may stand behind the code of two lines that are read alike. -/
inductive AreRemarks : List Char → List Char → Prop where
  | none : AreRemarks [] []
  | comment {rest behind : List Char} (unbroken : '\n' ∉ rest) (otherUnbroken : '\n' ∉ behind) :
      AreRemarks ('/' :: '/' :: rest) ('/' :: '/' :: behind)

theorem IsPlain.read_comment {code rest : List Char} (plain : IsPlain code)
    (unbroken : '\n' ∉ rest) :
    Region.code.after (code ++ '/' :: '/' :: rest) = .line ∧
      Region.code.outline (code ++ '/' :: '/' :: rest) =
        Region.code.outline (code ++ ['/', '/']) := by
  have inCode := plain.read.1
  rw [Region.after_append, Region.outline_append, Region.outline_append]
  have slashed : '\n' ∉ '/' :: rest := by simpa using unbroken
  cases region : Region.code.after code with
  | code => exact ⟨Region.after_line unbroken, by
      simp [Region.outline, Region.kept, Region.next, Region.outline_line unbroken]⟩
  | slash => exact ⟨Region.after_line slashed, by
      simp [Region.outline, Region.kept, Region.next, Region.outline_line unbroken]⟩
  | line | block | star =>
      rw [region] at inCode
      cases inCode

theorem AreRemarks.read {tail other code : List Char} (remarks : AreRemarks tail other)
    (plain : IsPlain code) :
    Region.code.outline (code ++ tail) = Region.code.outline (code ++ other) ∧
      (Region.code.after (code ++ tail)).next '\n' = .code := by
  cases remarks with
  | none =>
      refine ⟨rfl, ?_⟩
      have inCode := plain.read.1
      rw [List.append_nil]
      revert inCode
      cases Region.code.after code <;> decide
  | comment unbroken otherUnbroken =>
      rw [(plain.read_comment unbroken).1, (plain.read_comment unbroken).2,
        (plain.read_comment otherUnbroken).2]
      exact ⟨rfl, rfl⟩

theorem ReadAlike.exists_splitComment {line other : List Char} (alike : ReadAlike line other)
    (code : ¬Declaration.isDirective line) :
    ∃ front tail otherTail, Declaration.splitComment line = (front, tail) ∧
      Declaration.splitComment other = (front, otherTail) ∧ IsPlain front ∧
        AreRemarks tail otherTail := by
  have comment {front rest : List Char} {opener : Char} (opened : IsOpened line front opener rest) :
      opener = '/' := by
    refine opened.opens.resolve_right ?_
    rintro rfl
    have leads : front ++ ['/', '*'] <+: line := ⟨rest, by simp [opened.split]⟩
    refine alike.aside code _ leads ?_
    have whole : front ++ ['/', '*'] = front ++ ['/'] ++ ['*'] := by simp
    rw [whole, Region.after_append, opened.after_slash]
    rfl
  have unbroken {text front rest : List Char} {opener : Char} (none : '\n' ∉ text)
      (opened : IsOpened text front opener rest) : '\n' ∉ rest := by
    rw [opened.split] at none
    simp only [List.mem_append, List.mem_cons, not_or] at none
    exact none.2.2.2
  have front {text front rest : List Char} {opener : Char}
      (opened : IsOpened text front opener rest) : IsPlain front :=
    opened.plain.part (List.prefix_append front ['/']).isInfix
  rcases eq_or_isOpened alike.same with same | ⟨code, opener, rest, behind, opened, again, _⟩
  · rcases isPlain_or_isOpened line with plain | ⟨code, opener, rest, opened⟩
    · exact ⟨line, [], [], splitComment_of_isPlain plain,
        same ▸ splitComment_of_isPlain plain, plain, .none⟩
    · cases comment opened
      exact ⟨code, _, _, opened.splitComment, same ▸ opened.splitComment, front opened,
        .comment (unbroken alike.unbroken opened) (unbroken alike.unbroken opened)⟩
  · cases comment opened
    exact ⟨code, _, _, opened.splitComment, again.splitComment, front opened,
      .comment (unbroken alike.unbroken opened) (unbroken alike.otherUnbroken again)⟩

/-! ## Lowering -/

theorem ReadAlike.statementsOfLine {line other : List Char} (alike : ReadAlike line other) :
    statementsOfLine line = statementsOfLine other := by
  rw [Glsl.statementsOfLine, Glsl.statementsOfLine, ← isDirective_congr alike.same]
  split_ifs with directive
  · rfl
  · rcases alike.exists_splitComment directive with ⟨front, tail, otherTail, split, otherSplit, _⟩
    rw [split, otherSplit]

theorem AllReadAlike.statements {all others : List (List Char)} (alike : AllReadAlike all others) :
    all.flatMap statementsOfLine = others.flatMap statementsOfLine := by
  induction alike with
  | nil => rfl
  | last alike => rw [List.flatMap_singleton, List.flatMap_singleton, alike.statementsOfLine]
  | cons alike _ _ induction =>
      rw [List.flatMap_cons, List.flatMap_cons, alike.statementsOfLine, induction]

namespace Setting

variable (setting : Setting) (slots : Slots)

theorem lowerLine_congr {line other : List Char} (alike : ReadAlike line other)
    (knows : setting.KnowsLine line) :
    let first := setting.lowerLine slots line
    let second := setting.lowerLine slots other
    (first.blocks = second.blocks ∧ first.slots = second.slots ∧
      Region.code.outline first.text = Region.code.outline second.text) ∧
    ((Region.code.after line).next '\n' = .code →
      (Region.code.after first.text).next '\n' = .code) := by
  intro first second
  have directives := isDirective_congr alike.same
  by_cases drops : isDropped line
  · have otherDrops := drops
    rw [isDropped_congr alike.same] at otherDrops
    simp only [first, second, lowerLine, drops, otherDrops, if_true]
    exact ⟨⟨trivial, trivial, trivial⟩, fun _ => rfl⟩
  · have otherStays := drops
    rw [isDropped_congr alike.same] at otherStays
    by_cases directive : Declaration.isDirective line
    · have otherDirective := directive
      rw [directives] at otherDirective
      simp only [first, second, setting.lowerLine_of_directive slots drops directive,
        setting.lowerLine_of_directive slots otherStays otherDirective,
        (setting.read_renamed _ _).1, (setting.read_renamed _ _).2, alike.same]
      exact ⟨⟨trivial, trivial, trivial⟩, id⟩
    · have otherCode := directive
      rw [directives] at otherCode
      rcases alike.exists_splitComment directive with
        ⟨front, tail, otherTail, split, otherSplit, plain, remarks⟩
      have known := knows directive
      rw [split] at known
      rcases remarks.read (setting.isPlain_lowerStatements slots known plain) with ⟨same, ended⟩
      simp only [first, second, setting.lowerLine_of_code slots directive,
        setting.lowerLine_of_code slots otherCode, split, otherSplit,
        (setting.read_renamed _ _).1, (setting.read_renamed _ _).2, same]
      exact ⟨⟨trivial, trivial, trivial⟩, fun _ => ended⟩

theorem lowerLines_congr {all others : List (List Char)} (alike : AllReadAlike all others)
    (knows : ∀ line ∈ all, setting.KnowsLine line) :
    (setting.lowerLines slots all).2 = (setting.lowerLines slots others).2 ∧
      Region.code.outline ((setting.lowerLines slots all).1.map (· ++ ['\n'])).flatten =
        Region.code.outline ((setting.lowerLines slots others).1.map (· ++ ['\n'])).flatten := by
  induction alike generalizing slots with
  | nil => exact ⟨rfl, rfl⟩
  | @last line other alike =>
      rcases (setting.lowerLine_congr slots alike (knows line (.head _))).1 with
        ⟨blocks, _, text⟩
      refine ⟨congrArg (· ++ []) blocks, ?_⟩
      simp only [lowerLines, List.map_cons, List.map_nil, List.flatten_cons, List.flatten_nil,
        List.append_nil, Region.outline_lineFeed, text]
      rfl
  | @cons line other rest others alike ended later induction =>
      rcases List.forall_mem_cons.mp knows with ⟨first, known⟩
      rcases setting.lowerLine_congr slots alike first with ⟨⟨blocks, slot, text⟩, code⟩
      rcases induction (setting.lowerLine slots line).slots known with ⟨laterBlocks, laterTexts⟩
      have otherEnded : (Region.code.after (setting.lowerLine slots other).text).next '\n' =
          .code := by
        rw [← Region.next_lineFeed_congr text, code ended]
      simp only [lowerLines, List.map_cons, List.flatten_cons, ← slot]
      refine ⟨by rw [blocks, laterBlocks], ?_⟩
      rw [List.append_assoc, List.append_assoc, List.singleton_append, List.singleton_append,
        Region.outline_lineFeed, Region.outline_lineFeed, code ended, otherEnded, text, laterTexts]

end Setting

/-! ## Pairs -/

/-- Two pairs that differ in the characters of their comments and nowhere else. -/
def SameOutsideComments (first second : StagePair) : Prop :=
  ∀ stage, Region.code.outline (first.source stage).toList =
    Region.code.outline (second.source stage).toList

variable (pair : StagePair)

/-- What lowering puts in front of a stage. -/
def injected (stage : Stage) : List Char :=
  let setting := settingOf pair stage
  if setting.dialect.needsLowering then
    setting.header (setting.lowerLines .initial (lines (pair.source stage).toList)).2 ++
      "#line 1\n".toList
  else
    []

/-- The text of a stage behind what was put in front. -/
def body (stage : Stage) : List Char :=
  let setting := settingOf pair stage
  if setting.dialect.needsLowering then
    ((setting.lowerLines .initial (lines (pair.source stage).toList)).1.map (· ++ ['\n'])).flatten
  else
    (pair.source stage).toList

theorem toList_lower (stage : Stage) :
    ((lower pair).source stage).toList = injected pair stage ++ body pair stage := by
  rw [toList_source_lower, Setting.lowerSource, injected, body]
  split_ifs <;> rfl

/-- Two pairs that are lowered to the same text, but for the characters of comments. -/
structure LowersAlike (first second : StagePair) : Prop where
  dialect : ∀ stage, dialectOf first stage = dialectOf second stage
  declared : ∀ stage, declaredBy first stage = declaredBy second stage
  injected : ∀ stage, injected first stage = injected second stage
  body : ∀ stage, Region.code.outline (body first stage) = Region.code.outline (body second stage)

/-- Whether nothing in the comments of a source is taken for code.

A stage that is lowered has block comments in directives only, and each ends with its
directive. In any other stage no line starts in a block comment, up to the version
directive and with it. -/
def CommentsAside (source : List Char) : Prop :=
  if (Dialect.detect source).needsLowering then
    ∀ earlier opening, IsInBlock source earlier opening →
      Region.code.after earlier = .code ∧ Declaration.isDirective opening
  else
    ∀ earlier, IsInBlock source earlier [] →
      ∃ line ∈ lines earlier, Dialect.versionWord <+: trimLeft line

variable {pair}

theorem CommentsAside.versioned {source : List Char} (aside : CommentsAside source) :
    ∀ earlier, IsInBlock source earlier [] →
      ∃ line ∈ lines earlier, Dialect.versionWord <+: trimLeft line := by
  rw [CommentsAside] at aside
  split_ifs at aside with lowers
  · intro earlier inside
    have ends := inside.inside
    rw [List.append_nil, (aside earlier [] inside).1] at ends
    cases ends
  · exact aside

theorem lowersAlike_of_commentsAside {other : StagePair} (same : SameOutsideComments pair other)
    (aside : ∀ stage, CommentsAside (pair.source stage).toList) : LowersAlike pair other := by
  have alike (stage : Stage) := areAlike (same stage)
  have dialect (stage : Stage) : dialectOf pair stage = dialectOf other stage :=
    Dialect.detect_congr (alike stage) (aside stage).versioned
  have read (stage : Stage) (lowers : (dialectOf pair stage).needsLowering) :
      AllReadAlike (lines (pair.source stage).toList) (lines (other.source stage).toList) := by
    have standsAside := aside stage
    rw [CommentsAside, if_pos (show (Dialect.detect _).needsLowering from lowers)] at standsAside
    exact allReadAlike_lines (alike stage) standsAside
  have declarations (stage : Stage) : declarationsOf pair stage = declarationsOf other stage := by
    rw [declarationsOf, declarationsOf, ← dialect stage, Declaration.collect, Declaration.collect]
    split_ifs with lowers
    · rw [statements_eq, statements_eq, (read stage lowers).statements]
    · rfl
  have setting (stage : Stage) : settingOf other stage = settingOf pair stage := by
    rw [settingOf, settingOf, dialect, layoutOf_eq, layoutOf_eq, declarations, declarations]
  refine ⟨dialect, ?_, ?_, ?_⟩
  · intro stage
    rw [declaredBy, declaredBy, declarations]
  · intro stage
    rw [injected, injected, setting stage]
    split_ifs with lowers
    · rw [((settingOf pair stage).lowerLines_congr _ (read stage lowers)
        (knowsLine_of_mem lowers)).1]
    · rfl
  · intro stage
    rw [body, body, setting stage]
    split_ifs with lowers
    · exact ((settingOf pair stage).lowerLines_congr _ (read stage lowers)
        (knowsLine_of_mem lowers)).2
    · exact same stage

end LiveShader.Glsl
