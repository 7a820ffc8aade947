import LiveShader.Proofs.Glsl.Wording
import LiveShader.Proofs.Text.Cutting

/-! # A declaration cut in two

What stands behind a cut through the words of a declaration declares the same variables if
interpolation qualifiers are all that stands in front of it, and else it does not: too few
letters are left for the declarators. -/

namespace LiveShader.Glsl

open Text

/-! ## Letters of declarators -/

/-- The number of characters of a text that neither part declarators nor stand around them. -/
def weight (text : List Char) : Nat :=
  text.countP fun character => !isBlank character && character != ','

theorem weight_append (first second : List Char) :
    weight (first ++ second) = weight first + weight second :=
  List.countP_append

theorem weight_blanks {blanks : List Char} (blank : ∀ character ∈ blanks, isBlank character) :
    weight blanks = 0 := by
  rw [weight, List.countP_eq_zero]
  intro character member
  simp [blank character member]

theorem weight_trim (text : List Char) : weight (trim text) = weight text := by
  rcases exists_trim text with ⟨front, back, whole, before, behind⟩
  have parts := congrArg weight whole
  rw [weight_append, weight_append, weight_blanks before, weight_blanks behind] at parts
  omega

theorem weight_join (pieces : List (List Char)) :
    weight (join [' '] pieces) = weight pieces.flatten := by
  induction pieces with
  | nil => rfl
  | cons piece rest induction =>
      cases rest with
      | nil => simp [join]
      | cons next others =>
          have split : join [' '] (piece :: next :: others) =
              piece ++ ' ' :: join [' '] (next :: others) := rfl
          have blank : weight (' ' :: join [' '] (next :: others)) =
              weight (join [' '] (next :: others)) := by
            have single : weight [' '] = 0 := by decide
            rw [← List.singleton_append, weight_append, single, Nat.zero_add]
          rw [split, weight_append, blank, induction, ← weight_append, ← List.flatten_cons]

namespace Declaration

/-- Declarators have the letters of the text that they are cut out of. -/
theorem weight_declaratorsOf (text : List Char) :
    weight (declaratorsOf text).flatten = weight text := by
  -- Pieces without letters are left out.
  have kept (pieces : List (List Char)) :
      weight ((pieces.map trim).filter fun declarator => !declarator.isEmpty).flatten =
        weight pieces.flatten := by
    induction pieces with
    | nil => rfl
    | cons piece rest induction =>
        rw [List.map_cons, List.filter_cons, List.flatten_cons, weight_append, ← induction,
          ← weight_trim piece]
        cases trim piece with
        | nil => exact (Nat.zero_add _).symm
        | cons first others => exact weight_append (first :: others) _
  rw [declaratorsOf, kept, List.splitOn_eq_splitOnP]
  induction length : text.length using Nat.strongRecOn generalizing text with
  | ind count induction =>
      rcases exists_first_stop (· == ',') text with none | ⟨front, comma, rest, rfl, found, before⟩
      · rw [List.splitOnP_eq_singleton none]
        simp
      · have shorter : rest.length < count := by
          rw [← length, List.length_append, List.length_cons]
          omega
        have nothing : weight [comma] = 0 := by
          rw [eq_of_beq found]
          decide
        rw [List.splitOnP_append_cons_of_forall_mem before comma found, List.flatten_cons,
          weight_append, induction _ shorter rest rfl, List.append_cons, weight_append,
          weight_append, nothing, Nat.add_zero]

/-! ## The cut -/

variable {stage : Stage} {dialect : Dialect} {declaration : Declaration}
  {front back : List (List Char)}

def qualifierWords : List (List Char) :=
  ["uniform".toList, "attribute".toList, "varying".toList, "in".toList, "out".toList]

theorem mem_qualifierWords {qualifier : List Char} {role : Role}
    (known : Role.ofQualifier? stage dialect qualifier = some role) :
    qualifier ∈ qualifierWords := by
  unfold Role.ofQualifier? at known
  split at known
  case isTrue same => exact same ▸ .head _
  case isFalse =>
    cases dialect with
    | desktop => cases known
    | legacy =>
        simp only at known
        split at known
        case isTrue same => exact same ▸ .tail _ (.head _)
        case isFalse =>
          split at known
          case isTrue same => exact same ▸ .tail _ (.tail _ (.head _))
          case isFalse => cases known
    | es3 =>
        simp only at known
        split at known
        case isTrue same => exact same ▸ .tail _ (.tail _ (.tail _ (.head _)))
        case isFalse =>
          split at known
          case isTrue same => exact same ▸ .tail _ (.tail _ (.tail _ (.tail _ (.head _))))
          case isFalse => cases known

theorem weight_qualifier {qualifier : List Char} {role : Role}
    (known : Role.ofQualifier? stage dialect qualifier = some role) : 0 < weight qualifier := by
  have positive : ∀ word ∈ qualifierWords, 0 < weight word := by decide
  exact positive qualifier (mem_qualifierWords known)

theorem not_mem_precisionWords {qualifier : List Char} {role : Role}
    (known : Role.ofQualifier? stage dialect qualifier = some role) :
    qualifier ∉ precisionWords := by
  have other : ∀ word ∈ qualifierWords, word ∉ precisionWords := by decide
  exact other qualifier (mem_qualifierWords known)

/-- Whether a declaration declares the variables of another, interpolation apart. -/
structure IsSame (first second : Declaration) : Prop where
  role : first.role = second.role
  type : first.type = second.type
  declarators : first.declarators = second.declarators

/-- Letters are lost where a second storage qualifier is read. -/
theorem not_isSame_of_later {other : Declaration} {qualifier later : List Char}
    {precision rest between others passed more : List (List Char)} {role : Role}
    (worded : IsWorded stage dialect declaration qualifier precision rest)
    (otherWorded : IsWorded stage dialect other later between others)
    (known : Role.ofQualifier? stage dialect later = some role)
    (split : rest = passed ++ later :: (more ++ others)) :
    ¬IsSame other declaration := by
  intro same
  have weights : weight (join [' '] rest) = weight (join [' '] others) := by
    rw [← weight_declaratorsOf, ← worded.declarators, ← same.declarators, otherWorded.declarators,
      weight_declaratorsOf]
  have letters := weight_qualifier known
  rw [weight_join, weight_join, split] at weights
  simp only [List.flatten_append, List.flatten_cons, weight_append] at weights
  omega

/-- What stands behind the storage qualifier of a declaration does not declare its variables
once more. -/
theorem not_isSame_behind {other : Declaration} {qualifier : List Char}
    {precision rest passed : List (List Char)}
    (worded : IsWorded stage dialect declaration qualifier precision rest)
    (cut : precision ++ declaration.type :: rest = passed ++ back)
    (read : ofWords? stage dialect back = some other) : ¬IsSame other declaration := by
  intro same
  rcases ofWords?_eq_some_iff.mp read with ⟨later, between, others, split, otherWorded⟩
  have known := otherWorded.role
  rw [split, ← List.append_assoc] at cut
  -- The second qualifier is the type, or it stands behind it.
  have typed (type : declaration.type = later)
      (behind : rest = between ++ other.type :: others) : False := by
    rw [same.type, type] at behind
    have split : rest = between ++ later :: ([] ++ others) := behind
    exact not_isSame_of_later worded otherWorded known split same
  rcases List.append_eq_append_iff.mp cut with
    ⟨crossed, _, behindType⟩ | ⟨crossed, precisionSplit, behindQualifier⟩
  · cases crossed with
    | nil =>
        rcases List.cons.inj behindType with ⟨type, behind⟩
        exact typed type behind
    | cons word crossed =>
        have behind := (List.cons.inj behindType).2
        rw [List.append_cons between] at behind
        exact not_isSame_of_later worded otherWorded known behind same
  · cases crossed with
    | nil =>
        rcases List.cons.inj behindQualifier with ⟨type, behind⟩
        exact typed type.symm behind.symm
    | cons word crossed =>
        have first := (List.cons.inj behindQualifier).1
        refine not_mem_precisionWords known (worded.precision later ?_)
        simp [precisionSplit, first]

/-- What is left of a declaration behind a cut declares its variables exactly if nothing but
interpolation qualifiers stands in front of the cut. -/
theorem exists_isSame_iff (read : ofWords? stage dialect (front ++ back) = some declaration) :
    (∃ rest, ofWords? stage dialect back = some rest ∧ IsSame rest declaration) ↔
      ∀ word ∈ front, word ∈ interpolationWords := by
  rcases ofWords?_eq_some_iff.mp read with ⟨qualifier, precision, rest, split, worded⟩
  -- The cut is in front of the storage qualifier, or it is not.
  have inFront (behind : List (List Char))
      (interpolation : declaration.interpolation = front ++ behind)
      (backSplit : back = behind ++ qualifier :: (precision ++ declaration.type :: rest)) :
      (∃ rest, ofWords? stage dialect back = some rest ∧ IsSame rest declaration) ↔
        ∀ word ∈ front, word ∈ interpolationWords := by
    have only : ∀ word ∈ front, word ∈ interpolationWords := fun word member =>
      worded.interpolation word (interpolation ▸ List.mem_append_left _ member)
    refine ⟨fun _ => only, fun _ => ?_⟩
    refine ⟨{ declaration with interpolation := behind }, ?_, rfl, rfl, rfl⟩
    refine ofWords?_eq_some_iff.mpr ⟨qualifier, precision, rest, backSplit, ?_⟩
    exact { worded with
      interpolation := fun word member =>
        worded.interpolation word (interpolation ▸ List.mem_append_right _ member) }
  rcases List.append_eq_append_iff.mp split with
    ⟨behind, interpolation, backSplit⟩ | ⟨passed, frontSplit, rests⟩
  · exact inFront behind interpolation backSplit
  · cases passed with
    | nil =>
        rw [List.append_nil] at frontSplit
        exact inFront [] (by rw [frontSplit, List.append_nil]) rests.symm
    | cons head passed =>
        rw [List.cons_append, List.cons.injEq] at rests
        rcases rests with ⟨rfl, rests⟩
        have inside : qualifier ∈ front := by simp [frontSplit]
        refine iff_of_false ?_ fun only => ?_
        · rintro ⟨other, readOther, same⟩
          exact not_isSame_behind worded rests readOther same
        · have none := ofQualifier?_of_interpolation (only qualifier inside) stage dialect
          rw [worded.role] at none
          cases none

end Declaration

end LiveShader.Glsl
