import LiveShader.Proofs.Glsl.Comments
import LiveShader.Proofs.Glsl.Document
import LiveShader.Proofs.Glsl.Wording
import LiveShader.Proofs.Text.LineEnds

/-! # Lowering code without comments

The statements of code without comments are lowered to code without comments: no slash
meets another slash or an asterisk that it did not meet before. -/

namespace LiveShader.Glsl

open Text

variable {stage : Stage} {dialect : Dialect}

/-! ## Declarations -/

theorem IsPlain.join {pieces : List (List Char)} (plain : ∀ piece ∈ pieces, IsPlain piece) :
    IsPlain (join [' '] pieces) := by
  induction pieces with
  | nil => exact .nil
  | cons piece rest induction =>
      rcases List.forall_mem_cons.mp plain with ⟨first, others⟩
      cases rest with
      | nil => simpa [Text.join] using first
      | cons next more =>
          have split : Text.join [' '] (piece :: next :: more) =
              piece ++ ' ' :: Text.join [' '] (next :: more) := rfl
          rw [split]
          exact first.append_cons (induction others) (by decide) (by decide)

namespace Declaration

variable {declaration : Declaration} {code : List Char}

theorem isPlain_of_parse? (parsed : parse? stage dialect code = some declaration)
    (plain : IsPlain code) :
    IsPlain declaration.type ∧ ∀ declarator ∈ declaration.declarators, IsPlain declarator := by
  rcases parse?_eq_some_iff.mp parsed with ⟨body, rfl, _, read⟩
  rcases ofWords?_eq_some_iff.mp read with ⟨qualifier, precision, rest, split, worded⟩
  have plainBody : IsPlain body := plain.part (List.prefix_append body [';']).isInfix
  have word : ∀ word ∈ declaration.type :: rest, IsPlain word := by
    intro word member
    have among : word ∈ words body := by
      rw [split]
      exact List.mem_append_right _ (.tail _ (List.mem_append_right _ member))
    exact plainBody.part (isInfix_of_mem_words among)
  rcases List.forall_mem_cons.mp word with ⟨type, others⟩
  refine ⟨type, fun declarator member => ?_⟩
  rw [worded.declarators, declaratorsOf, List.mem_filter, List.mem_map] at member
  rcases member.1 with ⟨piece, cut, rfl⟩
  rw [List.splitOn_eq_splitOnP] at cut
  exact (IsPlain.join others).part
    ((isInfix_trim piece).trans (isInfix_of_mem_splitOnP cut))

end Declaration

theorem Place.isPlain_statement {place : Place}
    (interpolation : ∀ word ∈ place.interpolation, '/' ∉ word) (type : IsPlain place.type)
    (declarator : IsPlain place.declarator) (stage : Stage) :
    IsPlain (place.statement stage id) := by
  have opening : IsPlain (place.opening stage) :=
    .of_no_slash (not_mem_opening interpolation (by decide) (by decide) stage)
  have closing : IsPlain [] := .nil
  rw [statement]
  exact ((opening.append_cons type (by decide) (by decide)).append_cons declarator
    (by decide) (by decide)).append_cons closing (by decide) (by decide)

/-! ## Statements -/

variable {statement : List Char} {piece : Piece}

theorem IsPlain.indent (statement : List Char) : IsPlain (statement.takeWhile isBlank) := by
  refine .of_no_slash fun slash => ?_
  have solid : isBlank '/' = false := by decide
  rw [List.mem_takeWhile_imp slash] at solid
  cases solid

theorem StatementBecomes.isPlain (becomes : StatementBecomes stage dialect statement piece)
    (plain : IsPlain statement) : IsPlain (piece.text stage id) := by
  cases becomes with
  | precision => exact .indent statement
  | kept => exact plain
  | @declared declaration places parsed lowered declares =>
      have trimmed : IsPlain (trim statement) := plain.part (isInfix_trim statement)
      rcases Declaration.isPlain_of_parse? parsed trimmed with ⟨type, declarators⟩
      have stands : IsPlain (statementsOf stage id places) := by
        refine .join fun text member => ?_
        rcases List.mem_map.mp member with ⟨place, located, rfl⟩
        have known : place.toDeclared ∈ declaration.declared := by
          rw [← declares]
          exact List.mem_map_of_mem (List.mem_filter.mp located).1
        rcases List.mem_map.mp known with ⟨declarator, among, same⟩
        refine place.isPlain_statement ?_ ?_ ?_ stage
        · rw [← same]
          exact fun word => Declaration.not_mem_interpolation (by decide) parsed
        · rw [← same]
          exact type
        · rw [← same]
          exact declarators declarator among
      have blank : (statement.takeWhile isBlank).getLast? ≠ some '/' := by
        intro slash
        have solid : isBlank '/' = false := by decide
        rw [List.mem_takeWhile_imp (List.mem_of_getLast? slash)] at solid
        cases solid
      exact (IsPlain.indent statement).append stands blank

theorem isPlain_pieces {statements : List (List Char)} {pieces : List Piece}
    (become : List.Forall₂ (StatementBecomes stage dialect) statements pieces)
    (closed : ∀ statement ∈ statements.dropLast, statement.getLast? = some ';')
    (plain : ∀ statement ∈ statements, IsPlain statement) :
    IsPlain (pieces.flatMap (Piece.text stage id)) := by
  induction become with
  | nil => exact .nil
  | @cons statement piece rest others becomes later induction =>
      rcases List.forall_mem_cons.mp plain with ⟨first, plainRest⟩
      rw [List.flatMap_cons]
      cases later with
      | nil =>
          rw [List.flatMap_nil, List.append_nil]
          exact becomes.isPlain first
      | @cons next other rest others more most =>
          have ended : (piece.text stage id).getLast? ≠ some '/' := by
            intro slash
            rcases becomes.getLast?_text (closed statement List.mem_cons_self) slash with
              other | blank
            · cases other
            · revert blank
              decide
          refine (becomes.isPlain first).append (induction ?_ plainRest) ended
          exact fun statement member => closed statement (.tail _ member)

namespace Setting

variable (setting : Setting) (slots : Slots)

/-- The statements of code without comments are lowered to code without comments. -/
theorem isPlain_lowerStatements {code : List Char}
    (knows : ∀ statement ∈ splitAfter ';' code, setting.Knows statement) (plain : IsPlain code) :
    IsPlain (setting.lowerStatements slots (splitAfter ';' code)).text := by
  rcases setting.exists_statementsBecome slots knows with ⟨pieces, become, writes⟩
  rw [writes.text]
  refine isPlain_pieces become
    (fun statement member => getLast?_of_mem_dropLast_splitAfter member) fun statement member => ?_
  exact plain.part (isInfix_of_mem_splitAfter member)

end Setting

end LiveShader.Glsl
