import LiveShader.Glsl.Lowering
import LiveShader.Proofs.Text.Searching
import LiveShader.Proofs.Text.Trimming

/-! # Renaming an identifier piece by piece

A text in pieces is renamed piece by piece, as long as no two pieces meet inside an
identifier. -/

namespace LiveShader

namespace Glsl

open Text

@[simp] theorem joinsIdentifier_none : joinsIdentifier none = false := rfl

/-- Whether two texts side by side do not share an identifier. -/
def Apart (first second : List Char) : Prop :=
  joinsIdentifier first.getLast? = false ∨ joinsIdentifier second.head? = false

/-- A word reaches from one text into the next only inside an identifier. -/
theorem not_prefix_append_of_apart {word first second : List Char}
    (identifier : ∀ character ∈ word, isIdentifierCharacter character)
    (something : first ≠ []) (apart : Apart first second) (different : ¬word <+: first) :
    ¬word <+: first ++ second := by
  rintro ⟨rest, same⟩
  rcases List.append_eq_append_iff.mp same with ⟨left, whole, _⟩ | ⟨reaching, split, other⟩
  · exact different ⟨left, whole.symm⟩
  · cases reaching with
    | nil => exact different ⟨[], by simp [split]⟩
    | cons head tail =>
        have last : first.getLast? = some (first.getLast something) :=
          List.getLast?_eq_some_getLast something
        have lastIn : isIdentifierCharacter (first.getLast something) :=
          identifier _ (by rw [split]; exact List.mem_append_left _ (List.getLast_mem something))
        have headIn : isIdentifierCharacter head := identifier _ (by simp [split])
        rcases apart with ended | begun
        · simp [joinsIdentifier, last, lastIn] at ended
        · simp [joinsIdentifier, other, headIn] at begun

theorem Apart.of_append {before after second : List Char}
    (apart : Apart (before ++ after) second) : Apart after second := by
  cases after with
  | nil => exact .inl rfl
  | cons head tail =>
      rcases apart with ended | begun
      · rw [List.getLast?_append_cons] at ended
        exact .inl ended
      · exact .inr begun

theorem splitFirst?_append_of_apart {word first second : List Char}
    (identifier : ∀ character ∈ word, isIdentifierCharacter character)
    (apart : Apart first second) (missing : splitFirst? word first = none) :
    splitFirst? word (first ++ second) =
      (splitFirst? word second).map fun (before, after) => (first ++ before, after) := by
  induction first with
  | nil => simp
  | cons character rest induction =>
      have different : ¬word <+: character :: rest := by
        rintro ⟨after, leading⟩
        rw [splitFirst?_cons_of_leading leading.symm] at missing
        cases missing
      rw [splitFirst?_cons_of_not_leading different, Option.map_eq_none_iff] at missing
      have still := not_prefix_append_of_apart identifier (List.cons_ne_nil _ _) apart different
      rw [List.cons_append] at still ⊢
      rw [splitFirst?_cons_of_not_leading still,
        induction (@Apart.of_append [character] _ _ apart) missing, Option.map_map]
      rfl

/-! ## One occurrence after the other -/

def replacement (old new before after : List Char) : List Char :=
  if joinsIdentifier before.getLast? || joinsIdentifier after.head? then old else new

section

variable {old new : List Char}

theorem renameWithin_congr (word : old ≠ []) {first second : Nat} {text : List Char}
    (firstBound : text.length ≤ first) (secondBound : text.length ≤ second) :
    renameWithin old new first text = renameWithin old new second text := by
  induction first generalizing second text with
  | zero =>
      cases List.eq_nil_of_length_eq_zero (Nat.le_zero.mp firstBound)
      cases second <;> simp [renameWithin, splitFirst?, word]
  | succ first induction =>
      cases second with
      | zero =>
          cases List.eq_nil_of_length_eq_zero (Nat.le_zero.mp secondBound)
          simp [renameWithin, splitFirst?, word]
      | succ second =>
          rw [renameWithin, renameWithin]
          split
          case h_1 => rfl
          case h_2 before after found =>
            have whole := congrArg List.length (eq_append_of_splitFirst? found)
            have nonempty := List.length_pos_iff.mpr word
            simp only [List.length_append] at whole
            have firstFits : after.length ≤ first := by omega
            have secondFits : after.length ≤ second := by omega
            rw [induction firstFits secondFits]

theorem renameIdentifier_of_some (word : old ≠ []) {text before after : List Char}
    (found : splitFirst? old text = some (before, after)) :
    renameIdentifier old new text =
      before ++ replacement old new before after ++ renameIdentifier old new after := by
  have whole := congrArg List.length (eq_append_of_splitFirst? found)
  have nonempty := List.length_pos_iff.mpr word
  simp only [List.length_append] at whole
  rcases Nat.exists_eq_add_one.mpr (show 0 < text.length by omega) with ⟨bound, length⟩
  have fits : after.length ≤ bound := by omega
  rw [renameIdentifier, length, renameWithin]
  simp only [found, replacement, renameIdentifier]
  rw [renameWithin_congr word fits (Nat.le_refl _)]

theorem renameIdentifier_of_none {text : List Char} (missing : splitFirst? old text = none) :
    renameIdentifier old new text = text := by
  rw [renameIdentifier]
  cases text.length with
  | zero => rfl
  | succ bound => rw [renameWithin, missing]

theorem renameIdentifier_of_not_mem {text : List Char} {character : Char}
    (inside : character ∈ old) (outside : character ∉ text) :
    renameIdentifier old new text = text := by
  apply renameIdentifier_of_none
  cases found : splitFirst? old text with
  | none => rfl
  | some parts =>
      have whole := eq_append_of_splitFirst? found
      exact absurd (by simp [whole, inside]) outside

variable (word : old ≠ []) (identifier : ∀ character ∈ old, isIdentifierCharacter character)

include word identifier

theorem Apart.of_word_left {before second : List Char} (apart : Apart (before ++ old) second) :
    joinsIdentifier second.head? = false := by
  rcases apart.of_append with ended | begun
  · have inside := identifier _ (List.getLast_mem word)
    simp [joinsIdentifier, List.getLast?_eq_some_getLast word, inside] at ended
  · exact begun

theorem Apart.of_word_right {first after : List Char} (apart : Apart first (old ++ after)) :
    joinsIdentifier first.getLast? = false := by
  rcases apart with ended | begun
  · exact ended
  · have inside := identifier _ (List.head_mem word)
    simp [joinsIdentifier, List.head?_append, List.head?_eq_some_head word, inside] at begun

theorem replacement_append_left {first before after : List Char}
    (apart : Apart first (before ++ old ++ after)) :
    replacement old new (first ++ before) after = replacement old new before after := by
  cases before with
  | nil =>
      have ended := Apart.of_word_right word identifier apart
      simp [replacement, ended]
  | cons head tail => rw [replacement, List.getLast?_append_cons, replacement]

theorem replacement_append_right {before after second : List Char}
    (apart : Apart (before ++ old ++ after) second) :
    replacement old new before (after ++ second) = replacement old new before after := by
  cases after with
  | nil =>
      rw [List.append_nil] at apart
      have begun := Apart.of_word_left word identifier apart
      simp [replacement, begun]
  | cons head tail => rfl

/-- Two texts that do not share an identifier are renamed one by one. -/
theorem renameIdentifier_append {first second : List Char} (apart : Apart first second) :
    renameIdentifier old new (first ++ second) =
      renameIdentifier old new first ++ renameIdentifier old new second := by
  -- The first text is shortened past its first occurrence of the old word.
  induction length : first.length using Nat.strongRecOn generalizing first with
  | ind count induction =>
      cases found : splitFirst? old first with
      | some parts =>
          rcases parts with ⟨before, after⟩
          have whole := eq_append_of_splitFirst? found
          have nonempty := List.length_pos_iff.mpr word
          have shorter : after.length < count := by
            rw [← length, whole]
            simp only [List.length_append]
            omega
          rw [whole] at apart
          rw [renameIdentifier_of_some word (splitFirst?_append_of_some found second),
            renameIdentifier_of_some word found, induction _ shorter apart.of_append rfl,
            replacement_append_right word identifier apart, List.append_assoc _ _ (_ ++ _),
            List.append_assoc _ _ (renameIdentifier old new second)]
          simp only [List.append_assoc]
      | none =>
          have searched := splitFirst?_append_of_apart identifier apart found
          cases second_found : splitFirst? old second with
          | none =>
              rw [second_found] at searched
              rw [renameIdentifier_of_none searched, renameIdentifier_of_none found,
                renameIdentifier_of_none second_found]
          | some parts =>
              rcases parts with ⟨before, after⟩
              rw [second_found] at searched
              rw [eq_append_of_splitFirst? second_found] at apart
              rw [renameIdentifier_of_some word searched, renameIdentifier_of_none found,
                renameIdentifier_of_some word second_found,
                replacement_append_left word identifier apart]
              simp only [List.append_assoc]

end

/-! ## The colour output -/

theorem isIdentifierCharacter_of_isBlank {character : Char} (blank : isBlank character) :
    isIdentifierCharacter character = false :=
  eq_false_of_isBlank (by decide +kernel) blank

theorem isBlank_of_isIdentifierCharacter {character : Char}
    (letter : isIdentifierCharacter character) : isBlank character = false := by
  by_contra blank
  have outside := isIdentifierCharacter_of_isBlank (by simpa using blank)
  rw [letter] at outside
  cases outside

section

variable {blanks : List Char} (blank : ∀ character ∈ blanks, isBlank character)

include blank

theorem joinsIdentifier_head?_blanks : joinsIdentifier blanks.head? = false := by
  cases first : blanks.head? with
  | none => rfl
  | some character => exact isIdentifierCharacter_of_isBlank (blank _ (List.mem_of_head? first))

theorem joinsIdentifier_getLast?_blanks : joinsIdentifier blanks.getLast? = false := by
  cases last : blanks.getLast? with
  | none => rfl
  | some character => exact isIdentifierCharacter_of_isBlank (blank _ (List.mem_of_getLast? last))

end

namespace Setting

variable (setting : Setting)

/-- A text of the stage with the ES 1.00 colour output under its new name. -/
def renamed (text : List Char) : List Char :=
  if setting.renamesFragColor then renameIdentifier fragColor fragColorOutput text else text

theorem renamed_append {first second : List Char} (apart : Apart first second) :
    setting.renamed (first ++ second) = setting.renamed first ++ setting.renamed second := by
  have identifier : ∀ character ∈ fragColor, isIdentifierCharacter character :=
    List.all_eq_true.mp (by decide)
  unfold renamed
  split
  case isTrue => exact renameIdentifier_append (by decide) identifier apart
  case isFalse => rfl

theorem renamed_of_no_underscore {text : List Char} (plain : '_' ∉ text) :
    setting.renamed text = text := by
  unfold renamed
  split
  case isTrue => exact renameIdentifier_of_not_mem (show '_' ∈ fragColor by decide) plain
  case isFalse => rfl

end Setting

end Glsl

end LiveShader
