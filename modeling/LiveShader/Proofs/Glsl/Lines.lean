import Mathlib.Tactic.SplitIfs
import LiveShader.Glsl.Lowering
import LiveShader.Proofs.Text.Searching
import LiveShader.Proofs.Text.Trimming

/-! # Reading a source line by line

The dialect of a source and its statements are read off its lines one by one. -/

namespace LiveShader.Glsl

open Text

/-! ## What kind of line it is -/

section

variable {line code comment : List Char}

theorem Declaration.isDirective_iff : isDirective line ↔ ['#'] <+: trimLeft line := by
  rw [isDirective, beq_iff_eq, List.singleton_prefix_iff_head?_eq_some]

theorem Setting.isDropped_iff :
    isDropped line ↔
      "#version".toList <+: trimLeft line ∨ "#extension".toList <+: trimLeft line := by
  rw [isDropped, Bool.or_eq_true, List.isPrefixOf_iff_prefix, List.isPrefixOf_iff_prefix]

theorem Setting.isPrecision_iff :
    isPrecision code ↔ "precision ".toList <+: code ∧ code.getLast? = some ';' := by
  rw [isPrecision, Bool.and_eq_true, List.isPrefixOf_iff_prefix, beq_iff_eq]

/-- A line is cut in front of the first two slashes in it. -/
theorem Declaration.splitComment_eq_iff :
    splitComment line = (code, comment) ↔
      line = code ++ comment ∧
        (comment = [] ∧ ¬['/', '/'] <:+: code ∨
          ['/', '/'] <+: comment ∧ ¬['/', '/'] <:+: code ++ ['/']) := by
  constructor
  · intro split
    rw [splitComment] at split
    cases found : splitFirst? ['/', '/'] line with
    | none =>
        rw [found] at split
        cases split
        have missing := not_infix_of_splitFirst?_eq_none found
        exact ⟨(List.append_nil line).symm, .inl ⟨rfl, missing⟩⟩
    | some parts =>
        rcases parts with ⟨before, after⟩
        rw [found] at split
        cases split
        have whole := eq_append_of_splitFirst? found
        have first := @not_infix_of_splitFirst? ['/'] '/' _ _ _ found
        exact ⟨by simpa using whole, .inr ⟨⟨after, rfl⟩, first⟩⟩
  · rintro ⟨rfl, ⟨rfl, missing⟩ | ⟨⟨rest, rfl⟩, first⟩⟩
    · rw [List.append_nil, splitComment, splitFirst?_of_not_infix missing]
    · have found := @splitFirst?_of_first ['/'] '/' code first rest
      have whole : code ++ ['/'] ++ '/' :: rest = code ++ (['/', '/'] ++ rest) := by simp
      rw [splitComment, ← whole]
      simp only [List.singleton_append] at found
      rw [found]
      rfl

end

/-! ## Dialects -/

namespace Dialect

/-- The dialect that some lines name. -/
def ofLines (all : List (List Char)) : Dialect :=
  match (all.map trimLeft).find? versionWord.isPrefixOf with
  | none => .legacy
  | some directive => ofDirective directive

theorem ofLines_cons (line : List Char) (rest : List (List Char)) :
    ofLines (line :: rest) =
      if versionWord.isPrefixOf (trimLeft line) then ofDirective (trimLeft line)
      else ofLines rest := by
  rw [ofLines, List.map_cons, List.find?_cons]
  split_ifs with version
  · rw [version]
  · simp only [Bool.not_eq_true] at version
    rw [version]
    rfl

theorem detect_eq (source : List Char) : detect source = ofLines (lines source) := rfl

theorem isDirective_of_version {line : List Char} (version : versionWord <+: trimLeft line) :
    Declaration.isDirective line := by
  have begins : ['#'] <+: versionWord := by decide
  exact Declaration.isDirective_iff.mpr (begins.trans version)

theorem ofLines_append {first : List (List Char)}
    (unversioned : ∀ line ∈ first, ¬versionWord <+: trimLeft line) (second : List (List Char)) :
    ofLines (first ++ second) = ofLines second := by
  induction first with
  | nil => rfl
  | cons line others induction =>
      rcases List.forall_mem_cons.mp unversioned with ⟨here, later⟩
      rw [List.cons_append, ofLines_cons, if_neg fun version =>
        here (List.isPrefixOf_iff_prefix.mp version)]
      exact induction later

/-- Only directives name a dialect. -/
theorem ofLines_append_code {code : List (List Char)}
    (none : ∀ line ∈ code, ¬Declaration.isDirective line) (second : List (List Char)) :
    ofLines (code ++ second) = ofLines second :=
  ofLines_append (fun line member version => none line member (isDirective_of_version version)) _

theorem ofLines_append_congr {second third : List (List Char)}
    (same : ofLines second = ofLines third) (first : List (List Char)) :
    ofLines (first ++ second) = ofLines (first ++ third) := by
  induction first with
  | nil => exact same
  | cons line rest induction =>
      rw [List.cons_append, List.cons_append, ofLines_cons, ofLines_cons, induction]

end Dialect

/-! ## Directives -/

theorem trimLeft_append_cons {solid : Char} (visible : isBlank solid = false)
    (front rest : List Char) :
    trimLeft (front ++ solid :: rest) = trimLeft front ++ solid :: rest := by
  rw [trimLeft, trimLeft, List.dropWhile_append]
  split
  case isTrue blank =>
    rw [List.isEmpty_iff.mp blank, List.dropWhile_cons, visible]
    rfl
  case isFalse => rfl

/-- A line is a directive or not by its first character that is not blank. -/
theorem isDirective_append_cons {solid : Char} (visible : isBlank solid = false)
    (front rest : List Char) :
    Declaration.isDirective (front ++ solid :: rest) =
      Declaration.isDirective (front ++ [solid]) := by
  rw [Declaration.isDirective, Declaration.isDirective, trimLeft_append_cons visible,
    trimLeft_append_cons visible]
  cases trimLeft front <;> rfl

/-! ## Statements -/

theorem splitComment_append_cons {front : List Char} {separator : Char} (other : separator ≠ '/')
    (missing : ¬['/', '/'] <:+: front) (rest : List Char) :
    (Declaration.splitComment (front ++ separator :: rest)).1 =
      front ++ separator :: (Declaration.splitComment rest).1 := by
  have outside : separator ∉ ['/', '/'] := by simpa using other
  rw [Declaration.splitComment, Declaration.splitComment,
    splitFirst?_append_separator (List.cons_ne_nil _ _) outside missing]
  cases splitFirst? ['/', '/'] rest <;> rfl

theorem splitComment_blanks_append {blanks : List Char}
    (blank : ∀ character ∈ blanks, isBlank character) (rest : List Char) :
    (Declaration.splitComment (blanks ++ rest)).1 =
      blanks ++ (Declaration.splitComment rest).1 := by
  induction blanks with
  | nil => rfl
  | cons character blanks induction =>
      rcases List.forall_mem_cons.mp blank with ⟨first, others⟩
      have other : character ≠ '/' := ne_of_isBlank first (by decide)
      have single := @splitComment_append_cons [] character other (by decide) (blanks ++ rest)
      rw [List.nil_append, List.nil_append] at single
      rw [List.cons_append, single, induction others, List.cons_append]

/-- Blanks keep a slash from the one behind them. -/
theorem splitComment_append_blanks {front blanks : List Char} (missing : ¬['/', '/'] <:+: front)
    (something : blanks ≠ []) (blank : ∀ character ∈ blanks, isBlank character)
    (rest : List Char) :
    (Declaration.splitComment (front ++ (blanks ++ rest))).1 =
      front ++ (blanks ++ (Declaration.splitComment rest).1) := by
  cases blanks with
  | nil => exact absurd rfl something
  | cons character blanks =>
      rcases List.forall_mem_cons.mp blank with ⟨first, others⟩
      have other : character ≠ '/' := ne_of_isBlank first (by decide)
      rw [List.cons_append, splitComment_append_cons other missing,
        splitComment_blanks_append others, List.cons_append]

/-- The trimmed statements of a line, if it is not a directive. -/
def statementsOfLine (line : List Char) : List (List Char) :=
  if Declaration.isDirective line then []
  else (splitAfter ';' (Declaration.splitComment line).1).map trim

theorem statements_eq (source : List Char) :
    Declaration.statements source = (lines source).flatMap statementsOfLine := by
  rw [Declaration.statements]
  induction lines source with
  | nil => rfl
  | cons line rest induction =>
      rw [List.flatMap_cons, statementsOfLine, ← induction]
      by_cases directive : Declaration.isDirective line <;> simp [directive]

end LiveShader.Glsl
