import Mathlib.Data.List.TakeWhile
import LiveShader.Proofs.Glsl.Lines
import LiveShader.Proofs.Glsl.Renaming
import LiveShader.Proofs.Text.Words

/-! # Statements of a line

Cutting a line at its semicolons leaves no statement but the last one open, and a
statement that sets a default precision declares nothing. -/

namespace LiveShader

namespace Text

theorem getLast?_of_mem_dropLast_splitAfter {stop : Char} {text piece : List Char}
    (member : piece ∈ (splitAfter stop text).dropLast) : piece.getLast? = some stop := by
  induction text generalizing piece with
  | nil => cases member
  | cons character rest induction =>
      rw [splitAfter] at member
      split at member
      case isTrue same =>
        rcases pieces : splitAfter stop rest with _ | ⟨next, others⟩
        · rw [pieces] at member
          cases member
        · rw [pieces, List.dropLast_cons_cons] at member
          rcases List.mem_cons.mp member with rfl | later
          · rw [same]
            rfl
          · exact induction (pieces ▸ later)
      case isFalse =>
        rcases pieces : splitAfter stop rest with _ | ⟨next, _ | ⟨third, others⟩⟩
        · rw [pieces] at member
          cases member
        · rw [pieces] at member
          cases member
        · rw [pieces] at member induction
          rcases List.mem_cons.mp member with rfl | later
          · have ended := induction List.mem_cons_self
            rw [List.getLast?_cons, ended]
            rfl
          · exact induction (List.mem_cons_of_mem _ later)

end Text

namespace Glsl

open Text

/-! ## Blanks in front of a statement -/

section

variable (statement : List Char)

theorem underscore_not_mem_indent : '_' ∉ statement.takeWhile isBlank := by
  intro member
  have outside := isIdentifierCharacter_of_isBlank (List.mem_takeWhile_imp member)
  revert outside
  decide

end

/-! ## Comments and precisions -/

namespace Declaration

theorem head_comment (line : List Char) :
    joinsIdentifier (splitComment line).2.head? = false := by
  have slash : joinsIdentifier (some '/') = false := by decide
  cases split : splitComment line with
  | mk code comment =>
      rcases (splitComment_eq_iff.mp split).2 with ⟨rfl, _⟩ | ⟨⟨rest, rfl⟩, _⟩
      · rfl
      · exact slash

theorem words_precision (rest : List Char) :
    words ("precision ".toList ++ rest) = "precision".toList :: words rest := by
  have unbroken : "precision".toList.any isBlank = false := by decide
  have solid : ∀ character ∈ "precision".toList, isBlank character = false := by
    intro character among
    exact Bool.eq_false_iff.mpr (List.any_eq_false.mp unbroken character among)
  have split : "precision ".toList ++ rest = "precision".toList ++ ' ' :: rest := rfl
  rw [split]
  exact words_append_cons (by decide) solid (by decide) rest

theorem ofWords?_precision (stage : Stage) (dialect : Dialect) (rest : List (List Char)) :
    ofWords? stage dialect ("precision".toList :: rest) = none := by
  have qualifier : Role.ofQualifier? stage dialect "precision".toList = none := by
    cases stage <;> cases dialect <;> decide
  have plain : interpolationWords.contains "precision".toList = false := by decide
  have first : ("precision".toList :: rest).dropWhile interpolationWords.contains =
      "precision".toList :: rest := by
    rw [List.dropWhile_cons, plain]
    rfl
  simp only [ofWords?, first, qualifier]

theorem eq_append_of_withoutSemicolon? {code body : List Char}
    (closed : withoutSemicolon? code = some body) : code = body ++ [';'] := by
  unfold withoutSemicolon? at closed
  split at closed
  case h_1 reversed same =>
    cases closed
    rw [← List.reverse_reverse code, same, List.reverse_cons]
  case h_2 => cases closed

/-- A statement that sets a default precision declares nothing. -/
theorem parse?_of_isPrecision {code : List Char} (sets : Setting.isPrecision code)
    (stage : Stage) (dialect : Dialect) : parse? stage dialect code = none := by
  rcases (Setting.isPrecision_iff.mp sets).1 with ⟨rest, opening⟩
  rw [parse?]
  split
  case h_1 => rfl
  case h_2 body closed =>
    rw [eq_append_of_withoutSemicolon? closed] at opening
    rcases List.eq_nil_or_concat rest with rfl | ⟨inner, last, rfl⟩
    · rw [List.append_nil] at opening
      have ended := congrArg List.getLast? opening
      rw [List.getLast?_concat] at ended
      cases ended
    · rw [List.concat_eq_append, ← List.append_assoc] at opening
      rcases List.append_inj' opening rfl with ⟨same, _⟩
      rw [← same, words_precision, ofWords?_precision]
      exact ite_self none

end Declaration

end Glsl

end LiveShader
