import LiveShader.Proofs.Glsl.CutDeclarations
import LiveShader.Proofs.Glsl.Lines
import LiveShader.Proofs.Glsl.Places
import LiveShader.Proofs.Text.Cutting
import LiveShader.Proofs.Text.Words

/-! # Definitions

Names of macros, structures and constants can be part of the type of a variable or of the
size of an array. The definition of such a name is not lowered. -/

namespace LiveShader.Glsl

open Text

/-! ## Tokens -/

/-- The identifiers of a text, and the other characters that are not blank. -/
def tokens : List Char → List (List Char)
  | [] => []
  | character :: rest =>
      if isBlank character then
        tokens rest
      else if isIdentifierCharacter character && joinsIdentifier rest.head? then
        (tokens rest).modifyHead (character :: ·)
      else
        [character] :: tokens rest

theorem tokens_cons_of_isBlank {blank : Char} (between : isBlank blank) (rest : List Char) :
    tokens (blank :: rest) = tokens rest := by
  rw [tokens, if_pos between]

theorem tokens_cons_of_joins {letter : Char} {rest : List Char}
    (identifier : isIdentifierCharacter letter) (joins : joinsIdentifier rest.head?) :
    tokens (letter :: rest) = (tokens rest).modifyHead (letter :: ·) := by
  simp [tokens, isBlank_of_isIdentifierCharacter identifier, identifier, joins]

theorem tokens_cons_of_apart {character : Char} {rest : List Char}
    (visible : isBlank character = false) (apart : Apart [character] rest) :
    tokens (character :: rest) = [character] :: tokens rest := by
  rcases apart with alone | begun
  · have other : isIdentifierCharacter character = false := alone
    simp [tokens, visible, other]
  · simp [tokens, visible, begun]

theorem tokens_ne_nil {text : List Char} (joins : joinsIdentifier text.head?) :
    tokens text ≠ [] := by
  induction text with
  | nil => cases joins
  | cons letter rest induction =>
      have identifier : isIdentifierCharacter letter := joins
      by_cases further : joinsIdentifier rest.head?
      · rcases List.exists_cons_of_ne_nil (induction further) with ⟨first, others, split⟩
        rw [tokens_cons_of_joins identifier further, split]
        exact List.cons_ne_nil _ _
      · have apart : Apart [letter] rest := .inr (by simpa using further)
        rw [tokens_cons_of_apart (isBlank_of_isIdentifierCharacter identifier) apart]
        exact List.cons_ne_nil _ _

theorem tokens_append {first second : List Char} (apart : Apart first second) :
    tokens (first ++ second) = tokens first ++ tokens second := by
  induction first with
  | nil => rfl
  | cons character rest induction =>
      have later := induction (@Apart.of_append [character] rest second apart)
      -- The character is a token of its own, or it is in an identifier that goes on.
      have alone (cut : Apart [character] (rest ++ second)) (shorter : Apart [character] rest) :
          tokens (character :: rest ++ second) = tokens (character :: rest) ++ tokens second := by
        cases visible : isBlank character with
        | true =>
            rw [List.cons_append, tokens_cons_of_isBlank visible, tokens_cons_of_isBlank visible,
              later]
        | false =>
            rw [List.cons_append, tokens_cons_of_apart visible cut,
              tokens_cons_of_apart visible shorter, later, List.cons_append]
      cases rest with
      | nil => exact alone apart (.inr rfl)
      | cons next rest =>
          by_cases identifier : isIdentifierCharacter character
          · by_cases joins : isIdentifierCharacter next
            · have first : joinsIdentifier (next :: rest).head? := joins
              have whole : joinsIdentifier (next :: rest ++ second).head? := joins
              rcases List.exists_cons_of_ne_nil (tokens_ne_nil first) with ⟨word, others, split⟩
              rw [List.cons_append, tokens_cons_of_joins identifier whole, later,
                tokens_cons_of_joins identifier first, split]
              rfl
            · have other : isIdentifierCharacter next = false := by simpa using joins
              exact alone (.inr other) (.inr other)
          · have other : isIdentifierCharacter character = false := by simpa using identifier
            exact alone (.inl other) (.inl other)

theorem tokens_blanks {blanks : List Char} (blank : ∀ character ∈ blanks, isBlank character) :
    tokens blanks = [] := by
  induction blanks with
  | nil => rfl
  | cons first rest induction =>
      rcases List.forall_mem_cons.mp blank with ⟨here, later⟩
      rw [tokens_cons_of_isBlank here, induction later]

theorem tokens_identifier {name : List Char} (something : name ≠ [])
    (identifier : ∀ character ∈ name, isIdentifierCharacter character) : tokens name = [name] := by
  induction name with
  | nil => exact absurd rfl something
  | cons letter rest induction =>
      rcases List.forall_mem_cons.mp identifier with ⟨first, others⟩
      cases rest with
      | nil => exact tokens_cons_of_apart (isBlank_of_isIdentifierCharacter first) (.inr rfl)
      | cons next rest =>
          have joins : joinsIdentifier (next :: rest).head? := others next (.head _)
          rw [tokens_cons_of_joins first joins, induction (List.cons_ne_nil _ _) others]
          rfl

theorem tokens_trim (text : List Char) : tokens (trim text) = tokens text := by
  rcases exists_trim text with ⟨front, back, whole, before, behind⟩
  conv_rhs => rw [whole]
  rw [tokens_append (.inl (joinsIdentifier_getLast?_blanks before)),
    tokens_append (.inr (joinsIdentifier_head?_blanks behind)), tokens_blanks before,
    tokens_blanks behind, List.nil_append, List.append_nil]

theorem tokens_concat_semicolon (text : List Char) :
    tokens (text ++ [';']) = tokens text ++ [[';']] := by
  have outside : joinsIdentifier (some ';') = false := by decide
  exact tokens_append (.inr outside)

theorem subset_of_mem_tokens {token text : List Char} (member : token ∈ tokens text) :
    token ⊆ text := by
  induction text generalizing token with
  | nil => cases member
  | cons character rest induction =>
      rw [tokens] at member
      split_ifs at member
      · exact List.subset_cons_of_subset _ (induction member)
      · cases split : tokens rest with
        | nil =>
            rw [split] at member
            cases member
        | cons first others =>
            rw [split] at induction
            rw [split, List.modifyHead_cons, List.mem_cons] at member
            rcases member with rfl | later
            · exact List.cons_subset_cons _ (induction (.head _))
            · exact List.subset_cons_of_subset _ (induction (.tail _ later))
      · rcases List.mem_cons.mp member with rfl | later
        · exact List.cons_subset_cons _ (List.nil_subset _)
        · exact List.subset_cons_of_subset _ (induction later)

/-! ## Names -/

def IsIdentifier (name : List Char) : Prop :=
  name ≠ [] ∧ ∀ character ∈ name, isIdentifierCharacter character

/-- Whether the type of a variable or the size of an array mentions a name. -/
def Declared.Mentions (declared : Declared) (name : List Char) : Prop :=
  name ∈ tokens declared.type ∨ name ∈ tokens (declared.declarator.dropWhile (· != '['))

/-- What follows the name of a constant: the size of an array, if it is one, and a value. -/
structure IsInitialised (rest size value : List (List Char)) : Prop where
  split : rest = size ++ ['='] :: value
  assigned : value.head? ≠ some ['=']
  sized : size = [] ∨ ∃ inside, size = ['['] :: inside ++ [[']']] ∧ [','] ∉ inside

/-- Whether a statement with these tokens introduces a name. A structure may be opened on a
later line, and a constant may follow the end of a block. -/
inductive Introduces (name : List Char) : List (List Char) → Prop where
  | struct {front rest : List (List Char)} (opened : ∀ token ∈ rest.head?, token = ['{']) :
      Introduces name (front ++ "struct".toList :: name :: rest)
  | const {front between rest size value : List (List Char)}
      (closes : ['{'] ∈ front ∨ ∀ token ∈ front, token = ['}'])
      (initialised : IsInitialised rest size value) :
      Introduces name (front ++ "const".toList :: (between ++ name :: rest))

/-- The text in a line that a name is defined in: the directive that defines a macro, or the
statement that introduces a structure or a constant. -/
inductive Defines (line name : List Char) : List Char → Prop where
  | directive {rest : List (List Char)} (directive : Declaration.isDirective line)
      (split : tokens line = ['#'] :: "define".toList :: name :: rest) : Defines line name line
  | statement {statement : List Char} (code : ¬Declaration.isDirective line)
      (member : statement ∈ splitAfter ';' (Declaration.splitComment line).1)
      (other : ¬Setting.isPrecision (trim statement))
      (introduces : Introduces name (tokens statement)) : Defines line name statement

/-! ## Definitions are not lowered -/

theorem exists_tokens_append {word : List Char} (named : IsIdentifier word) (rest : List Char) :
    ∃ more others, tokens (word ++ rest) = (word ++ more) :: others := by
  have split :
      rest.takeWhile isIdentifierCharacter ++ rest.dropWhile isIdentifierCharacter = rest :=
    List.takeWhile_append_dropWhile
  have whole : IsIdentifier (word ++ rest.takeWhile isIdentifierCharacter) := by
    refine ⟨by simp [named.1], List.forall_mem_append.mpr ⟨named.2, fun character member => ?_⟩⟩
    exact List.mem_takeWhile_imp member
  have apart : Apart (word ++ rest.takeWhile isIdentifierCharacter)
      (rest.dropWhile isIdentifierCharacter) := by
    refine .inr ?_
    have stops := List.head?_dropWhile_not isIdentifierCharacter rest
    cases behind : (rest.dropWhile isIdentifierCharacter).head? with
    | none => rfl
    | some next =>
        rw [behind] at stops
        exact stops
  refine ⟨rest.takeWhile isIdentifierCharacter, tokens (rest.dropWhile isIdentifierCharacter), ?_⟩
  conv_lhs => rw [← split, ← List.append_assoc]
  rw [tokens_append apart, tokens_identifier whole.1 whole.2]
  rfl

/-- The directives that are dropped define no macro. -/
theorem not_isDropped_of_define {line : List Char} {rest : List (List Char)}
    (split : tokens line = ['#'] :: "define".toList :: rest) : ¬Setting.isDropped line := by
  have trimmed : tokens (trimLeft line) = tokens line := by
    have whole : line.takeWhile isBlank ++ trimLeft line = line := List.takeWhile_append_dropWhile
    have blank : ∀ character ∈ line.takeWhile isBlank, isBlank character :=
      fun character member => List.mem_takeWhile_imp member
    conv_rhs => rw [← whole, tokens_append (.inl (joinsIdentifier_getLast?_blanks blank)),
      tokens_blanks blank]
    rfl
  have other {word : List Char} (named : IsIdentifier word)
      (different : ¬word <+: "define".toList) :
      ¬('#' :: word) <+: trimLeft line := by
    rintro ⟨behind, same⟩
    rcases exists_tokens_append named behind with ⟨more, others, tokenized⟩
    have sign : Apart ['#'] (word ++ behind) := .inl (by decide)
    rw [← trimmed, ← same, List.cons_append, tokens_cons_of_apart (by decide) sign, tokenized]
      at split
    exact different ⟨more, (List.cons.inj (List.cons.inj split).2).1⟩
  have named (word : List Char) (something : word ≠ []) (all : word.all isIdentifierCharacter) :
      IsIdentifier word := ⟨something, List.all_eq_true.mp all⟩
  rw [Setting.isDropped_iff]
  rintro (version | extension)
  · exact other (named "version".toList (by decide) (by decide)) (by decide) version
  · exact other (named "extension".toList (by decide) (by decide)) (by decide) extension

namespace Declaration

variable {stage : Stage} {dialect : Dialect} {declaration : Declaration}

def openingWords : List (List Char) :=
  interpolationWords ++ qualifierWords

theorem isIdentifier_of_mem_openingWords {word : List Char} (known : word ∈ openingWords) :
    IsIdentifier word := by
  have identifiers : ∀ word ∈ openingWords,
      word ≠ [] ∧ word.all isIdentifierCharacter = true := by decide
  exact ⟨(identifiers word known).1, List.all_eq_true.mp (identifiers word known).2⟩

theorem exists_openingWord {statement : List (List Char)}
    (read : ofWords? stage dialect statement = some declaration) :
    ∃ word rest, statement = word :: rest ∧ word ∈ openingWords := by
  rcases ofWords?_eq_some_iff.mp read with ⟨qualifier, precision, rest, rfl, worded⟩
  cases front : declaration.interpolation with
  | nil =>
      exact ⟨qualifier, _, rfl, List.mem_append_right _ (mem_qualifierWords worded.role)⟩
  | cons word others =>
      refine ⟨word, _, rfl, List.mem_append_left _ (worded.interpolation word ?_)⟩
      exact front ▸ .head _

/-- A declaration opens with a qualifier, has no brace and ends in a semicolon. -/
theorem exists_tokens_of_parse? {statement : List Char}
    (parsed : parse? stage dialect (trim statement) = some declaration) :
    ∃ word rest, word ∈ openingWords ∧ tokens statement = word :: rest ++ [[';']] ∧
      ['{'] ∉ tokens statement := by
  rcases parse?_eq_some_iff.mp parsed with ⟨body, split, plain, read⟩
  rcases exists_openingWord read with ⟨word, others, words, known⟩
  rcases exists_front_of_words words with ⟨blanks, behind, whole, blank, ends⟩
  rcases isIdentifier_of_mem_openingWords known with ⟨something, identifier⟩
  have apart : Apart word behind := by
    refine .inr ?_
    cases behind with
    | nil => rfl
    | cons next behind => exact isIdentifierCharacter_of_isBlank (ends next rfl)
  have bodyTokens : tokens body = word :: tokens behind := by
    rw [whole, tokens_append (.inl (joinsIdentifier_getLast?_blanks blank)),
      tokens_append apart, tokens_blanks blank, tokens_identifier something identifier]
    rfl
  have closed : tokens statement = tokens body ++ [[';']] := by
    rw [← tokens_trim, split, tokens_concat_semicolon]
  refine ⟨word, tokens behind, known, by rw [closed, bodyTokens], fun brace => ?_⟩
  rw [closed, List.mem_append] at brace
  rcases brace with inside | last
  · have foreign : '{' ∈ body := subset_of_mem_tokens inside (.head _)
    have none := List.any_eq_false.mp plain '{' foreign
    revert none
    decide
  · revert last
    decide

end Declaration

theorem Introduces.parse?_eq_none {name statement : List Char}
    (introduces : Introduces name (tokens statement)) (named : IsIdentifier name) (stage : Stage)
    (dialect : Dialect) : Declaration.parse? stage dialect (trim statement) = none := by
  cases parsed : Declaration.parse? stage dialect (trim statement) with
  | none => rfl
  | some declaration =>
      exfalso
      rcases Declaration.exists_tokens_of_parse? parsed with ⟨word, rest, known, split, braceless⟩
      generalize tokens statement = all at introduces split braceless
      cases introduces with
      | @struct front behind opened =>
          cases behind with
          | nil =>
              -- The statement ends with the name, and a declaration with a semicolon.
              have last := congrArg List.getLast? split
              rw [List.getLast?_concat, List.append_cons, List.getLast?_concat,
                Option.some.injEq] at last
              have letter := named.2 ';' (last ▸ .head _)
              revert letter
              decide
          | cons next behind =>
              refine braceless ?_
              simp [opened next rfl]
      | @const front between behind size value closes =>
          rcases closes with opened | closed
          · exact braceless (List.mem_append_left _ opened)
          · have other : ['}'] ∉ Declaration.openingWords ∧
                "const".toList ∉ Declaration.openingWords := by decide
            cases front with
            | nil => exact other.2 ((List.cons.inj split).1 ▸ known)
            | cons first front =>
                have same := (List.cons.inj split).1
                rw [closed first (.head _)] at same
                exact other.1 (same ▸ known)

end LiveShader.Glsl
