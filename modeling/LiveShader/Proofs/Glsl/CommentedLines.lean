import Mathlib.Data.List.Induction
import LiveShader.Proofs.Glsl.Comments
import LiveShader.Proofs.Glsl.LineByLine
import LiveShader.Proofs.Glsl.Lines

/-! # Lines that differ in their comments

Two lines with one outline are directives together, name one dialect, end alike and are
renamed alike. -/

namespace LiveShader.Glsl

open Text

/-! ## Renaming

No identifier reaches over the border of a comment, so that a line is renamed in its
comments and apart from them. -/

namespace Region

/-- Where the reader stands behind an identifier. -/
def beyond : Region → Region
  | .code | .slash => .code
  | .line => .line
  | .block | .star => .block

theorem isCode_beyond (region : Region) : region.beyond.isCode = region.isCode := by
  cases region <;> rfl

theorem beyond_beyond (region : Region) : region.beyond.beyond = region.beyond := by
  cases region <;> rfl

theorem read_identifierCharacter {character : Char} (identifier : isIdentifierCharacter character)
    (region : Region) :
    region.next character = region.beyond ∧
      region.kept character = if region.isCode then [character] else [] := by
  have other {separator : Char} (outside : isIdentifierCharacter separator = false) :
      character ≠ separator := by
    rintro rfl
    rw [identifier] at outside
    cases outside
  have slash : character ≠ '/' := other (by decide)
  have star : character ≠ '*' := other (by decide)
  have lineFeed : character ≠ '\n' := other (by decide)
  cases region <;> simp [next, kept, beyond, isCode, slash, star, lineFeed]

theorem read_identifier {word : List Char}
    (identifier : ∀ character ∈ word, isIdentifierCharacter character) (something : word ≠ [])
    (region : Region) :
    region.after word = region.beyond ∧
      region.outline word = if region.isCode then word else [] := by
  induction word generalizing region with
  | nil => exact absurd rfl something
  | cons character rest induction =>
      rcases List.forall_mem_cons.mp identifier with ⟨first, others⟩
      rcases region.read_identifierCharacter first with ⟨moved, kept⟩
      rw [after, List.foldl_cons, outline, moved, kept]
      cases rest with
      | nil => exact ⟨rfl, List.append_nil _⟩
      | cons next more =>
          rcases induction others (List.cons_ne_nil next more) region.beyond with ⟨after, outlined⟩
          rw [beyond_beyond] at after
          rw [isCode_beyond] at outlined
          refine ⟨after, ?_⟩
          rw [outlined]
          split_ifs <;> rfl

theorem kept_of_comment {region : Region} (comment : ¬region.isCode) (character : Char) :
    region.kept character = [] ∨ region.kept character = ['\n'] ∨
      region.kept character = ['*', '/'] := by
  cases region with
  | code | slash => exact absurd rfl comment
  | line | block | star =>
      simp only [kept]
      split_ifs <;> simp

end Region

namespace Setting

variable (setting : Setting)

theorem renamed_nil : setting.renamed [] = [] :=
  setting.renamed_of_no_underscore List.not_mem_nil

theorem renamed_eq_nil_iff {text : List Char} : setting.renamed text = [] ↔ text = [] := by
  refine ⟨fun nothing => ?_, fun nothing => nothing ▸ setting.renamed_nil⟩
  rw [renamed] at nothing
  split at nothing
  case isFalse => exact nothing
  case isTrue =>
    cases found : splitFirst? fragColor text with
    | none => rwa [renameIdentifier_of_none found] at nothing
    | some parts =>
        rw [renameIdentifier_of_some (by decide) found, List.append_eq_nil_iff,
          List.append_eq_nil_iff] at nothing
        have word : replacement fragColor fragColorOutput parts.1 parts.2 ≠ [] := by
          rw [replacement]
          split <;> decide
        exact absurd nothing.1.2 word

theorem isIdentifierCharacter_of_mem_renamed {word : List Char}
    (identifier : ∀ character ∈ word, isIdentifierCharacter character) :
    ∀ character ∈ setting.renamed word, isIdentifierCharacter character := by
  have output : ∀ character ∈ fragColorOutput, isIdentifierCharacter character :=
    List.all_eq_true.mp (by decide)
  intro character member
  rw [renamed] at member
  split at member
  case isFalse => exact identifier character member
  case isTrue =>
    rcases List.mem_append.mp (renameWithin_subset _ _ _ _ member) with inside | added
    · exact identifier character inside
    · exact output character added

theorem read_renamed_identifier {word : List Char}
    (identifier : ∀ character ∈ word, isIdentifierCharacter character) (region : Region) :
    region.after (setting.renamed word) = region.after word ∧
      region.outline (setting.renamed word) = setting.renamed (region.outline word) := by
  by_cases something : word = []
  · rw [something, renamed_nil, Region.outline, renamed_nil]
    exact ⟨rfl, rfl⟩
  · have still : setting.renamed word ≠ [] := fun nothing =>
      something (setting.renamed_eq_nil_iff.mp nothing)
    rcases region.read_identifier identifier something with ⟨after, outlined⟩
    rcases region.read_identifier (setting.isIdentifierCharacter_of_mem_renamed identifier) still
      with ⟨afterRenamed, outlinedRenamed⟩
    rw [after, afterRenamed, outlined, outlinedRenamed]
    refine ⟨rfl, ?_⟩
    split_ifs
    · rfl
    · exact setting.renamed_nil.symm

theorem renamed_append_kept {region : Region} {character : Char}
    (outside : isIdentifierCharacter character = false) {first : List Char}
    (apart : region.isCode ∨ first = []) (second : List Char) :
    setting.renamed (first ++ (region.kept character ++ second)) =
      setting.renamed first ++ (region.kept character ++ setting.renamed second) := by
  by_cases code : region.isCode
  · rw [Region.kept_of_isCode code]
    exact setting.renamed_append_cons outside first second
  · have nothing := apart.resolve_left code
    have separated {separator : Char} (other : isIdentifierCharacter separator = false)
        (text : List Char) :
        setting.renamed (separator :: text) = separator :: setting.renamed text := by
      have joined := setting.renamed_append_cons other [] text
      rwa [renamed_nil] at joined
    rw [nothing, renamed_nil]
    rcases Region.kept_of_comment code character with none | lineFeed | closing
    · rw [none]
      rfl
    · rw [lineFeed]
      exact separated (by decide) second
    · rw [closing]
      exact (separated (by decide) _).trans (congrArg _ (separated (by decide) second))

theorem read_renamed (region : Region) (text : List Char) :
    region.after (setting.renamed text) = region.after text ∧
      region.outline (setting.renamed text) = setting.renamed (region.outline text) := by
  -- The text is taken apart behind its first identifier.
  induction length : text.length using Nat.strongRecOn generalizing text region with
  | ind count induction =>
      have split : text.takeWhile isIdentifierCharacter ++ text.dropWhile isIdentifierCharacter =
          text := List.takeWhile_append_dropWhile
      have identifier : ∀ character ∈ text.takeWhile isIdentifierCharacter,
          isIdentifierCharacter character := fun character member => List.mem_takeWhile_imp member
      have stops := List.head?_dropWhile_not isIdentifierCharacter text
      generalize text.takeWhile isIdentifierCharacter = word at split identifier
      generalize text.dropWhile isIdentifierCharacter = behind at split stops
      rcases setting.read_renamed_identifier identifier region with ⟨after, outlined⟩
      cases behind with
      | nil =>
          rw [List.append_nil] at split
          rw [← split]
          exact ⟨after, outlined⟩
      | cons separator rest =>
          have outside : isIdentifierCharacter separator = false := by simpa using stops
          have shorter : rest.length < count := by
            rw [← length, ← split, List.length_append, List.length_cons]
            omega
          have apart : (region.after word).isCode ∨ region.outline word = [] := by
            by_cases something : word = []
            · exact .inr (by rw [something]; rfl)
            · rcases region.read_identifier identifier something with ⟨moved, kept⟩
              rw [moved, kept, Region.isCode_beyond]
              by_cases code : region.isCode
              · exact .inl code
              · exact .inr (if_neg code)
          rcases induction _ shorter ((region.after word).next separator) rest rfl with
            ⟨later, outlinedLater⟩
          rw [← split, setting.renamed_append_cons outside]
          refine ⟨?_, ?_⟩
          · rw [Region.after_append, after, Region.after_append]
            exact later
          · rw [Region.outline_append, after, outlined, Region.outline_append, Region.outline,
              outlinedLater, Region.outline, setting.renamed_append_kept outside apart]

end Setting

/-! ## Directives -/

theorem prefix_append_slash_iff {word front : List Char} (outside : '/' ∉ word)
    (rest : List Char) : word <+: front ++ '/' :: rest ↔ word <+: front := by
  refine ⟨fun leads => ?_, fun leads => leads.trans (List.prefix_append _ _)⟩
  by_contra missing
  exact not_prefix_append_separator outside missing leads

section

variable {first second : List Char}
  (same : Region.code.outline first = Region.code.outline second)

include same

/-- What a line starts with, a comment apart. -/
theorem leads_congr {word : List Char} (outside : '/' ∉ word) :
    word <+: trimLeft first ↔ word <+: trimLeft second := by
  rcases eq_or_isOpened same with rfl | ⟨code, opener, rest, behind, opened, again, _⟩
  · exact Iff.rfl
  · have visible : isBlank '/' = false := by decide
    rw [opened.split, again.split, trimLeft_append_cons visible, trimLeft_append_cons visible,
      prefix_append_slash_iff outside, prefix_append_slash_iff outside]

theorem isDirective_congr :
    Declaration.isDirective first = Declaration.isDirective second := by
  rw [Bool.eq_iff_iff, Declaration.isDirective_iff, Declaration.isDirective_iff]
  exact leads_congr same (by decide)

theorem isDropped_congr : Setting.isDropped first = Setting.isDropped second := by
  rw [Bool.eq_iff_iff, Setting.isDropped_iff, Setting.isDropped_iff,
    leads_congr same (by decide), leads_congr same (by decide)]

end

/-! ## Version directives -/

namespace Dialect

theorem dropRepeated_append_slash {word : List Char} (outside : '/' ∉ word) (bound : Nat)
    (front rest : List Char) :
    dropRepeated word bound (front ++ '/' :: rest) =
      dropRepeated word bound front ++ '/' :: rest := by
  induction bound generalizing front with
  | zero => rfl
  | succ bound induction =>
      rw [dropRepeated, dropRepeated]
      cases leading : dropLeading? word front with
      | none =>
          have missing := dropLeading?_eq_none_iff.mp leading
          rw [dropLeading?_eq_none_iff.mpr (not_prefix_append_separator outside missing)]
      | some left =>
          have whole : front ++ '/' :: rest = word ++ (left ++ '/' :: rest) := by
            rw [dropLeading?_eq_some_iff.mp leading, List.append_assoc]
          rw [dropLeading?_eq_some_iff.mpr whole]
          exact induction left

theorem dropRepeated_bound {word : List Char} (something : word ≠ []) {first second : Nat}
    {text : List Char} (firstFits : text.length ≤ first) (secondFits : text.length ≤ second) :
    dropRepeated word first text = dropRepeated word second text := by
  have empty (bound : Nat) : dropRepeated word bound [] = [] := by
    cases bound with
    | zero => rfl
    | succ bound =>
        have none : dropLeading? word [] = none :=
          dropLeading?_eq_none_iff.mpr fun leads => something (List.prefix_nil.mp leads)
        rw [dropRepeated, none]
  induction first generalizing second text with
  | zero =>
      rw [List.eq_nil_of_length_eq_zero (Nat.le_zero.mp firstFits), empty, empty]
  | succ first induction =>
      cases second with
      | zero => rw [List.eq_nil_of_length_eq_zero (Nat.le_zero.mp secondFits), empty, empty]
      | succ second =>
          rw [dropRepeated, dropRepeated]
          cases leading : dropLeading? word text with
          | none => rfl
          | some left =>
              have whole := congrArg List.length (dropLeading?_eq_some_iff.mp leading)
              have nonempty := List.length_pos_iff.mpr something
              rw [List.length_append] at whole
              exact induction (by omega) (by omega)

theorem read32?_of_slash {word : List Char} (slash : '/' ∈ word) : read32? word = none := by
  rw [read32?]
  unfold readNatural?
  extract_lets digits
  have unread : digits.all Char.isDigit = false := by
    rw [List.all_eq_false]
    refine ⟨'/', ?_, by decide⟩
    simp only [digits]
    split
    case h_1 rest => simpa using slash
    case h_2 => exact slash
  rw [unread, Bool.not_false, Bool.or_true]
  rfl

/-- A slash is part of a word, and the words in front of it do not depend on what follows. -/
theorem exists_words_append_slash (front : List Char) :
    ∃ whole, ∀ rest, ∃ glued more,
      words (front ++ '/' :: rest) = whole ++ glued :: more ∧ '/' ∈ glued := by
  induction length : front.length using Nat.strongRecOn generalizing front with
  | ind count induction =>
      rcases exists_first_stop isBlank front with solid | ⟨word, blank, behind, rfl, between, _⟩
      · refine ⟨[], fun rest => ?_⟩
        have slashSolid : isBlank '/' = false := by decide
        rcases exists_first_stop isBlank ('/' :: rest) with
          solidRest | ⟨word, blank, behind, split, between, solidWord⟩
        · refine ⟨front ++ '/' :: rest, [], words_of_solid (by simp) ?_, by simp⟩
          exact List.forall_mem_append.mpr ⟨solid, solidRest⟩
        · rw [split]
          cases word with
          | nil =>
              cases (List.cons.inj split).1
              rw [slashSolid] at between
              cases between
          | cons first letters =>
              cases (List.cons.inj split).1
              refine ⟨front ++ '/' :: letters, words behind, ?_, by simp⟩
              rw [← List.append_assoc]
              exact words_append_cons (by simp) (List.forall_mem_append.mpr ⟨solid, solidWord⟩)
                between behind
      · have shorter : behind.length < count := by
          rw [← length, List.length_append, List.length_cons]
          omega
        rcases induction _ shorter behind rfl with ⟨whole, same⟩
        refine ⟨words word ++ whole, fun rest => ?_⟩
        rcases same rest with ⟨glued, more, later, slash⟩
        refine ⟨glued, more, ?_, slash⟩
        rw [List.append_assoc, List.cons_append, words_append_blank between, later,
          List.append_assoc]

theorem ofDirective_append_slash (front first second : List Char) :
    ofDirective (front ++ '/' :: first) = ofDirective (front ++ '/' :: second) := by
  have outside : '/' ∉ versionWord := by decide
  have something : versionWord ≠ [] := by decide
  rw [ofDirective, ofDirective, dropRepeated_append_slash outside,
    dropRepeated_append_slash outside]
  have bound (rest : List Char) : front.length ≤ (front ++ '/' :: rest).length := by simp
  rw [dropRepeated_bound something (bound first) (bound second)]
  generalize dropRepeated versionWord (front ++ '/' :: second).length front = numbered
  rcases exists_words_append_slash numbered with ⟨whole, same⟩
  rcases same first with ⟨glued, more, firstWords, slash⟩
  rcases same second with ⟨otherGlued, otherMore, secondWords, otherSlash⟩
  rw [firstWords, secondWords]
  rcases whole with _ | ⟨number, _ | ⟨profile, others⟩⟩
  · simp only [List.nil_append, read32?_of_slash slash, read32?_of_slash otherSlash]
  · have other {word : List Char} (inside : '/' ∈ word) :
        (some word = some "es".toList) = False := by
      refine eq_false fun same => ?_
      rw [Option.some.inj same] at inside
      exact absurd inside (by decide)
    simp only [List.cons_append, List.nil_append, List.head?_cons, other slash, other otherSlash]
  · rfl

theorem ofDirective_congr {first second : List Char}
    (same : Region.code.outline first = Region.code.outline second) :
    ofDirective (trimLeft first) = ofDirective (trimLeft second) := by
  rcases eq_or_isOpened same with rfl | ⟨code, opener, rest, behind, opened, again, _⟩
  · rfl
  · have visible : isBlank '/' = false := by decide
    rw [opened.split, again.split, trimLeft_append_cons visible, trimLeft_append_cons visible]
    exact ofDirective_append_slash _ _ _

end Dialect

/-! ## Ends of lines -/

namespace Region

/-- Only a carriage return in code can end an outline. -/
theorem getLast?_of_outline {region : Region} {text : List Char}
    (returns : (region.outline text).getLast? = some '\r') :
    text.getLast? = some '\r' ∧ (region.after text).isCode := by
  induction text using List.reverseRecOn with
  | nil => cases returns
  | append_singleton text character induction =>
      have moved : (region.after text).after [character] =
          (region.after text).next character := rfl
      have kept : (region.after text).outline [character] =
          (region.after text).kept character := List.append_nil _
      rw [outline_append, kept] at returns
      rw [after_append, moved]
      by_cases code : (region.after text).isCode
      · rw [kept_of_isCode code, List.getLast?_concat, Option.some.injEq] at returns
        subst returns
        refine ⟨List.getLast?_concat, ?_⟩
        revert code
        cases region.after text <;> decide
      · rcases kept_of_comment code character with none | lineFeed | closing
        · rw [none, List.append_nil] at returns
          exact absurd (induction returns).2 code
        · simp [lineFeed] at returns
        · simp [closing] at returns

theorem outline_dropLineEnd (region : Region) (line : List Char) :
    region.outline (dropLineEnd (line ++ ['\n'])) =
      dropLineEnd (region.outline line ++ ['\n']) := by
  by_cases returns : line.getLast? = some '\r'
  · rcases List.getLast?_eq_some_iff.mp returns with ⟨front, rfl⟩
    have kept : (region.after front).outline ['\r'] = (region.after front).kept '\r' :=
      List.append_nil _
    rw [dropLineEnd_return, outline_append, kept]
    by_cases code : (region.after front).isCode
    · rw [kept_of_isCode code, dropLineEnd_return]
    · have nothing : (region.after front).kept '\r' = [] := by
        revert code
        cases region.after front <;> decide
      rw [nothing, List.append_nil,
        dropLineEnd_lineFeed fun last => code (getLast?_of_outline last).2]
  · rw [dropLineEnd_lineFeed returns,
      dropLineEnd_lineFeed fun last => returns (getLast?_of_outline last).1]

theorem next_lineFeed_dropLineEnd (region : Region) (line : List Char) :
    (region.after (dropLineEnd (line ++ ['\n']))).next '\n' = (region.after line).next '\n' := by
  by_cases returns : line.getLast? = some '\r'
  · rcases List.getLast?_eq_some_iff.mp returns with ⟨front, rfl⟩
    have moved : (region.after front).after ['\r'] = (region.after front).next '\r' := rfl
    rw [dropLineEnd_return, after_append, moved]
    cases region.after front <;> rfl
  · rw [dropLineEnd_lineFeed returns]

end Region

end LiveShader.Glsl
