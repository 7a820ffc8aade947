import LiveShader.Proofs.Glsl.Statements

/-! # The words of a declaration

A declaration is read off the words of its statement: qualifiers, a storage qualifier,
precisions, a type, and the declarators in what is left. -/

namespace LiveShader.Glsl

open Text

namespace Declaration

variable {stage : Stage} {dialect : Dialect} {declaration : Declaration}

/-- The words of a statement behind its interpolation qualifiers, and what they declare. -/
structure IsWorded (stage : Stage) (dialect : Dialect) (declaration : Declaration)
    (qualifier : List Char) (precision rest : List (List Char)) : Prop where
  interpolation : ∀ word ∈ declaration.interpolation, word ∈ interpolationWords
  role : Role.ofQualifier? stage dialect qualifier = some declaration.role
  precision : ∀ word ∈ precision, word ∈ precisionWords
  type : declaration.type ∉ precisionWords
  declarators : declaration.declarators = declaratorsOf (join [' '] rest)
  something : declaration.declarators ≠ []

theorem ofQualifier?_of_interpolation {word : List Char} (known : word ∈ interpolationWords)
    (stage : Stage) (dialect : Dialect) : Role.ofQualifier? stage dialect word = none := by
  have none : ∀ word ∈ interpolationWords, Role.ofQualifier? stage dialect word = none := by
    cases stage <;> cases dialect <;> decide
  exact none word known

theorem interpolation_of_ofWords? {statement : List (List Char)}
    (read : ofWords? stage dialect statement = some declaration) :
    declaration.interpolation = statement.takeWhile interpolationWords.contains := by
  rw [ofWords?] at read
  split at read
  case h_1 => cases read
  case h_2 =>
    split at read
    case h_1 =>
      simp only at read
      split at read
      case isTrue => cases read
      case isFalse =>
        cases read
        rfl
    case h_2 => cases read

theorem exists_isWorded {statement : List (List Char)}
    (read : ofWords? stage dialect statement = some declaration) :
    ∃ qualifier precision rest,
      statement =
          declaration.interpolation ++ qualifier :: (precision ++ declaration.type :: rest) ∧
        IsWorded stage dialect declaration qualifier precision rest := by
  have interpolation := interpolation_of_ofWords? read
  have split : statement.takeWhile interpolationWords.contains ++
      statement.dropWhile interpolationWords.contains = statement :=
    List.takeWhile_append_dropWhile
  rw [ofWords?] at read
  split at read
  case h_1 => cases read
  case h_2 qualifier others opened =>
    have splitOthers : others.takeWhile precisionWords.contains ++
        others.dropWhile precisionWords.contains = others := List.takeWhile_append_dropWhile
    split at read
    case h_1 role type rest known typed =>
      simp only at read
      split at read
      case isTrue => cases read
      case isFalse something =>
        cases read
        rw [← interpolation, opened] at split
        rw [typed] at splitOthers
        refine ⟨qualifier, others.takeWhile precisionWords.contains, rest, ?_, ?_⟩
        · rw [splitOthers]
          exact split.symm
        · exact
            { interpolation := fun word member => by
                rw [interpolation] at member
                simpa using List.mem_takeWhile_imp member
              role := known
              precision := fun word member => by simpa using List.mem_takeWhile_imp member
              type := by
                have stops := List.head?_dropWhile_not precisionWords.contains others
                rw [typed] at stops
                simpa using stops
              declarators := rfl
              something := by simpa using something }
    case h_2 => cases read

theorem IsWorded.ofWords? {qualifier : List Char} {precision rest : List (List Char)}
    (worded : IsWorded stage dialect declaration qualifier precision rest) :
    Declaration.ofWords? stage dialect
        (declaration.interpolation ++ qualifier :: (precision ++ declaration.type :: rest)) =
      some declaration := by
  have stops : interpolationWords.contains qualifier = false := by
    by_contra known
    have none := ofQualifier?_of_interpolation (by simpa using known) stage dialect
    rw [worded.role] at none
    cases none
  have typed : precisionWords.contains declaration.type = false := by
    simpa using worded.type
  have front : ∀ word ∈ declaration.interpolation, interpolationWords.contains word :=
    fun word member => by simpa using worded.interpolation word member
  have between : ∀ word ∈ precision, precisionWords.contains word :=
    fun word member => by simpa using worded.precision word member
  have nonempty : (declaratorsOf (join [' '] rest)).isEmpty = false := by
    simpa [← worded.declarators] using worded.something
  rw [Declaration.ofWords?, List.takeWhile_append_of_pos front, List.dropWhile_append_of_pos front,
    List.takeWhile_cons, List.dropWhile_cons, stops]
  simp only [Bool.false_eq_true, if_false, List.dropWhile_append_of_pos between,
    List.dropWhile_cons, typed, worded.role, nonempty, List.append_nil]
  rw [← worded.declarators]

theorem ofWords?_eq_some_iff {statement : List (List Char)} :
    ofWords? stage dialect statement = some declaration ↔
      ∃ qualifier precision rest,
        statement =
            declaration.interpolation ++ qualifier :: (precision ++ declaration.type :: rest) ∧
          IsWorded stage dialect declaration qualifier precision rest := by
  refine ⟨exists_isWorded, ?_⟩
  rintro ⟨qualifier, precision, rest, rfl, worded⟩
  exact worded.ofWords?

/-- What a statement has to be for its words to be read. -/
theorem parse?_eq_some_iff {code : List Char} :
    parse? stage dialect code = some declaration ↔
      ∃ body, code = body ++ [';'] ∧ body.any isForeign = false ∧
        ofWords? stage dialect (words body) = some declaration := by
  rw [parse?]
  constructor
  · intro parsed
    split at parsed
    case h_1 => cases parsed
    case h_2 body closed =>
      split at parsed
      case isTrue => cases parsed
      case isFalse plain =>
        exact ⟨body, eq_append_of_withoutSemicolon? closed, by simpa using plain, parsed⟩
  · rintro ⟨body, rfl, plain, read⟩
    have closed : withoutSemicolon? (body ++ [';']) = some body := by
      simp [withoutSemicolon?]
    rw [closed]
    simp only [plain, Bool.false_eq_true, if_false, read]

theorem getLast?_of_parse? {code : List Char}
    (parsed : parse? stage dialect code = some declaration) :
    code.getLast? = some ';' := by
  rcases parse?_eq_some_iff.mp parsed with ⟨body, rfl, _⟩
  exact List.getLast?_concat

theorem not_mem_interpolation {code word : List Char} {character : Char}
    (outside : ∀ word ∈ interpolationWords, character ∉ word)
    (parsed : parse? stage dialect code = some declaration)
    (member : word ∈ declaration.interpolation) : character ∉ word := by
  rcases parse?_eq_some_iff.mp parsed with ⟨body, _, _, read⟩
  rcases ofWords?_eq_some_iff.mp read with ⟨qualifier, precision, rest, _, worded⟩
  exact outside word (worded.interpolation word member)

end Declaration

end LiveShader.Glsl
