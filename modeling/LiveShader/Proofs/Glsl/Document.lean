import Mathlib.Data.List.Forall2
import LiveShader.Proofs.Glsl.Places
import LiveShader.Proofs.Glsl.Wording

/-! # A lowered stage, piece by piece

Every line of a stage becomes a line of pieces. A piece is the text of a statement that
stays, or the variables of a declaration that is lowered. -/

namespace LiveShader.Glsl

open Text

inductive Piece where
  /-- Text that stays. -/
  | kept (text : List Char)
  /-- The variables of a declaration, with the blanks in front of it. -/
  | declared (indent : List Char) (places : List Place)

namespace Piece

def places : Piece → List Place
  | .kept _ => []
  | .declared _ places => places

/-- What stands for a piece below the header. -/
def text (stage : Stage) (rename : List Char → List Char) : Piece → List Char
  | .kept text => rename text
  | .declared indent places => indent ++ statementsOf stage rename places

end Piece

def placesOf (document : List (List Piece)) : List Place :=
  document.flatten.flatMap Piece.places

def Setting.documentText (setting : Setting) (document : List (List Piece)) : List Char :=
  setting.header (blocksOf (placesOf document)) ++ "#line 1\n".toList ++
    (document.map fun pieces =>
      pieces.flatMap (Piece.text setting.stage setting.renamed) ++ ['\n']).flatten

section

variable (stage : Stage) (dialect : Dialect)

inductive StatementBecomes (statement : List Char) : Piece → Prop where
  | precision (sets : Setting.isPrecision (trim statement)) :
      StatementBecomes statement (.kept (statement.takeWhile isBlank))
  | kept (other : ¬Setting.isPrecision (trim statement))
      (stays : ∀ declaration, Declaration.parse? stage dialect (trim statement) = some declaration →
        declaration.isLowered stage = false) :
      StatementBecomes statement (.kept statement)
  | declared {declaration : Declaration} {places : List Place}
      (parsed : Declaration.parse? stage dialect (trim statement) = some declaration)
      (lowered : declaration.isLowered stage)
      (declares : places.map Place.toDeclared = declaration.declared) :
      StatementBecomes statement (.declared (statement.takeWhile isBlank) places)

/-- What becomes of a line. Its comment is the last piece. -/
inductive LineBecomes (line : List Char) : List Piece → Prop where
  | dropped (drops : Setting.isDropped line) : LineBecomes line []
  | directive (stays : ¬Setting.isDropped line) (directive : Declaration.isDirective line) :
      LineBecomes line [.kept line]
  | code {pieces : List Piece} (code : ¬Declaration.isDirective line)
      (become : List.Forall₂ (StatementBecomes stage dialect)
        (splitAfter ';' (Declaration.splitComment line).1) pieces) :
      LineBecomes line (pieces ++ [.kept (Declaration.splitComment line).2])

/-- The variables that some statements declare for their stage, in order. -/
def declaredIn (statements : List (List Char)) : List Declared :=
  ((statements.filterMap (Declaration.parse? stage dialect)).filter
    (Declaration.isLowered stage)).flatMap Declaration.declared

end

variable {stage : Stage} {dialect : Dialect}

/-! ## The variables of a document -/

theorem placesOf_cons (pieces : List Piece) (rest : List (List Piece)) :
    placesOf (pieces :: rest) = pieces.flatMap Piece.places ++ placesOf rest := by
  simp [placesOf]

theorem blocksOf_append (first second : List Place) :
    blocksOf (first ++ second) = blocksOf first ++ blocksOf second := by
  simp [blocksOf]

theorem declaredIn_append (first second : List (List Char)) :
    declaredIn stage dialect (first ++ second) =
      declaredIn stage dialect first ++ declaredIn stage dialect second := by
  simp [declaredIn]

theorem isDirective_of_isDropped {line : List Char} (drops : Setting.isDropped line) :
    Declaration.isDirective line := by
  rw [Declaration.isDirective_iff]
  rcases Setting.isDropped_iff.mp drops with version | extension
  · have sign : ['#'] <+: "#version".toList := by decide
    exact sign.trans version
  · have sign : ['#'] <+: "#extension".toList := by decide
    exact sign.trans extension

theorem StatementBecomes.declared_places {statement : List Char} {piece : Piece}
    (becomes : StatementBecomes stage dialect statement piece) :
    piece.places.map Place.toDeclared = declaredIn stage dialect [trim statement] := by
  cases becomes with
  | precision sets =>
      simp [Piece.places, declaredIn, Declaration.parse?_of_isPrecision sets]
  | kept other stays =>
      cases parsed : Declaration.parse? stage dialect (trim statement) with
      | none => simp [Piece.places, declaredIn, parsed]
      | some declaration =>
          simp [Piece.places, declaredIn, parsed, stays declaration parsed]
  | declared parsed lowered declares =>
      simp [Piece.places, declaredIn, parsed, lowered, declares]

theorem declared_places_of_statements {statements : List (List Char)} {pieces : List Piece}
    (become : List.Forall₂ (StatementBecomes stage dialect) statements pieces) :
    (pieces.flatMap Piece.places).map Place.toDeclared =
      declaredIn stage dialect (statements.map trim) := by
  induction become with
  | nil => rfl
  | @cons statement piece statements pieces becomes _ induction =>
      rw [List.flatMap_cons, List.map_append, becomes.declared_places, induction,
        ← declaredIn_append]
      rfl

theorem LineBecomes.declared_places {line : List Char} {pieces : List Piece}
    (becomes : LineBecomes stage dialect line pieces) :
    (pieces.flatMap Piece.places).map Place.toDeclared =
      declaredIn stage dialect
        (if Declaration.isDirective line then []
          else (splitAfter ';' (Declaration.splitComment line).1).map trim) := by
  cases becomes with
  | dropped drops => rw [if_pos (isDirective_of_isDropped drops)]; rfl
  | directive stays directive => rw [if_pos directive]; rfl
  | code code become =>
      rw [if_neg code, ← declared_places_of_statements become]
      simp [Piece.places]

/-- A document holds the variables of the stage, each once and in order. -/
theorem declared_placesOf {source : List Char} {document : List (List Piece)}
    (become : List.Forall₂ (LineBecomes stage dialect) (lines source) document) :
    (placesOf document).map Place.toDeclared =
      declaredIn stage dialect (Declaration.statements source) := by
  rw [Declaration.statements]
  generalize lines source = all at become
  induction become with
  | nil => rfl
  | @cons line pieces rest others becomes _ induction =>
      rw [placesOf_cons, List.map_append, becomes.declared_places, induction,
        ← declaredIn_append]
      by_cases directive : Declaration.isDirective line <;> simp [directive]

/-! ## Renaming a document -/

namespace Setting

variable (setting : Setting)

theorem renamed_append_cons {separator : Char}
    (outside : isIdentifierCharacter separator = false) (first second : List Char) :
    setting.renamed (first ++ separator :: second) =
      setting.renamed first ++ separator :: setting.renamed second := by
  have alone : '_' ∉ [separator] := by
    intro member
    rw [← List.mem_singleton.mp member] at outside
    revert outside
    decide
  have before : Apart first (separator :: second) := .inr outside
  have behind : Apart [separator] second := .inl outside
  rw [setting.renamed_append before, ← List.singleton_append, setting.renamed_append behind,
    setting.renamed_of_no_underscore alone]
  rfl

theorem renamed_opening {place : Place} (plain : ∀ word ∈ place.interpolation, '_' ∉ word) :
    setting.renamed (place.opening setting.stage) = place.opening setting.stage :=
  setting.renamed_of_no_underscore (Place.not_mem_opening plain (by decide) (by decide) _)

/-- The number and the qualifiers of a variable stay; its type and its declarator are
renamed. -/
theorem renamed_statement {place : Place}
    (plain : ∀ word ∈ place.interpolation, '_' ∉ word) :
    setting.renamed (place.statement setting.stage id) =
      place.statement setting.stage setting.renamed := by
  have blank : isIdentifierCharacter ' ' = false := by decide
  have semicolon : isIdentifierCharacter ';' = false := by decide
  have nothing : setting.renamed [] = [] := setting.renamed_of_no_underscore List.not_mem_nil
  have grouped (front type declarator : List Char) :
      front ++ ' ' :: type ++ ' ' :: declarator ++ [';'] =
        front ++ ' ' :: (type ++ ' ' :: (declarator ++ [';'])) := by simp
  rw [Place.statement, Place.statement, grouped, grouped, setting.renamed_append_cons blank,
    setting.renamed_opening plain, setting.renamed_append_cons blank,
    setting.renamed_append_cons semicolon, nothing]
  rfl

theorem renamed_join (texts : List (List Char)) :
    setting.renamed (join [' '] texts) = join [' '] (texts.map setting.renamed) := by
  have blank : isIdentifierCharacter ' ' = false := by decide
  induction texts with
  | nil => exact setting.renamed_of_no_underscore List.not_mem_nil
  | cons text rest induction =>
      cases rest with
      | nil => simp [join]
      | cons next others =>
          have split (first second : List Char) (others : List (List Char)) :
              join [' '] (first :: second :: others) =
                first ++ ' ' :: join [' '] (second :: others) := rfl
          rw [split, setting.renamed_append_cons blank, induction]
          rfl

theorem renamed_statementsOf {places : List Place}
    (plain : ∀ place ∈ places, ∀ word ∈ place.interpolation, '_' ∉ word) :
    setting.renamed (statementsOf setting.stage id places) =
      statementsOf setting.stage setting.renamed places := by
  rw [statementsOf, statementsOf, renamed_join, List.map_map]
  congr 1
  refine List.map_congr_left fun place member => ?_
  exact setting.renamed_statement (plain place (List.mem_of_mem_filter member))

end Setting

theorem getLast?_statement (stage : Stage) (rename : List Char → List Char) (place : Place) :
    (place.statement stage rename).getLast? = some ';' :=
  List.getLast?_concat

/-- What stands for a declaration is closed by a semicolon, if there is anything. -/
theorem getLast?_statementsOf (stage : Stage) (rename : List Char → List Char)
    (places : List Place) :
    statementsOf stage rename places = [] ∨
      (statementsOf stage rename places).getLast? = some ';' := by
  unfold statementsOf
  generalize places.filter (fun place => place.role ≠ .uniform) = located
  suffices closed : located ≠ [] →
      (join [' '] (located.map (Place.statement stage rename))).getLast? = some ';' by
    by_cases nothing : located = []
    · exact .inl (by rw [nothing]; rfl)
    · exact .inr (closed nothing)
  induction located with
  | nil => exact absurd rfl
  | cons place rest induction =>
      intro _
      cases rest with
      | nil =>
          have alone : join [' '] ([place].map (Place.statement stage rename)) =
              place.statement stage rename := List.append_nil _
          rw [alone]
          exact getLast?_statement stage rename place
      | cons next others =>
          have split : join [' '] ((place :: next :: others).map (Place.statement stage rename)) =
              place.statement stage rename ++ ' ' ::
                join [' '] ((next :: others).map (Place.statement stage rename)) := rfl
          rw [split, List.getLast?_append_cons, List.getLast?_cons,
            induction (List.cons_ne_nil next others)]
          rfl

/-- What becomes of a closed statement ends in its semicolon or in a blank. -/
theorem StatementBecomes.getLast?_text {statement : List Char} {piece : Piece}
    (becomes : StatementBecomes stage dialect statement piece)
    (closed : statement.getLast? = some ';') {last : Char}
    (ends : (piece.text stage id).getLast? = some last) : last = ';' ∨ isBlank last := by
  have indented (ends : (statement.takeWhile isBlank).getLast? = some last) : isBlank last :=
    List.mem_takeWhile_imp (List.mem_of_getLast? ends)
  cases becomes with
  | precision => exact .inr (indented ends)
  | kept =>
      rw [Piece.text, id, closed, Option.some.injEq] at ends
      exact .inl ends.symm
  | @declared declaration places =>
      rw [Piece.text] at ends
      rcases getLast?_statementsOf stage id places with nothing | ended
      · rw [nothing, List.append_nil] at ends
        exact .inr (indented ends)
      · rw [List.getLast?_append, ended, Option.some_or, Option.some.injEq] at ends
        exact .inl ends.symm

/-- A piece that does not end its line ends outside of identifiers. -/
theorem StatementBecomes.ends {statement : List Char} {piece : Piece}
    (becomes : StatementBecomes stage dialect statement piece)
    (closed : statement.getLast? = some ';') :
    joinsIdentifier (piece.text stage id).getLast? = false := by
  have semicolon : joinsIdentifier (some ';') = false := by decide
  cases ends : (piece.text stage id).getLast? with
  | none => rfl
  | some last =>
      rcases becomes.getLast?_text closed ends with rfl | blank
      · exact semicolon
      · exact isIdentifierCharacter_of_isBlank blank

theorem StatementBecomes.renamed_text (setting : Setting) {statement : List Char} {piece : Piece}
    (becomes : StatementBecomes setting.stage dialect statement piece) :
    setting.renamed (piece.text setting.stage id) = piece.text setting.stage setting.renamed := by
  cases becomes with
  | precision => rfl
  | kept => rfl
  | @declared declaration places parsed lowered declares =>
      have plain : ∀ place ∈ places, ∀ word ∈ place.interpolation, '_' ∉ word := by
        intro place member word among
        have known : place.toDeclared ∈ declaration.declared := by
          rw [← declares]
          exact List.mem_map_of_mem member
        rcases List.mem_map.mp known with ⟨declarator, _, same⟩
        rw [← same] at among
        exact Declaration.not_mem_interpolation (by decide) parsed among
      have indent : ∀ character ∈ statement.takeWhile isBlank, isBlank character :=
        fun character member => List.mem_takeWhile_imp member
      rw [Piece.text, Piece.text,
        setting.renamed_append (.inl (joinsIdentifier_getLast?_blanks indent)),
        setting.renamed_of_no_underscore (underscore_not_mem_indent statement),
        setting.renamed_statementsOf plain]

theorem renamed_pieces (setting : Setting) {statements : List (List Char)} {pieces : List Piece}
    (become : List.Forall₂ (StatementBecomes setting.stage dialect) statements pieces)
    (closed : ∀ statement ∈ statements.dropLast, statement.getLast? = some ';')
    {comment : List Char} (begins : joinsIdentifier comment.head? = false) :
    setting.renamed (pieces.flatMap (Piece.text setting.stage id) ++ comment) =
      pieces.flatMap (Piece.text setting.stage setting.renamed) ++ setting.renamed comment := by
  induction become with
  | nil => rfl
  | @cons statement piece rest others becomes later induction =>
      -- Only the last statement of a line can be open, and its comment starts with a slash.
      have apart : Apart (piece.text setting.stage id)
          (others.flatMap (Piece.text setting.stage id) ++ comment) := by
        cases later with
        | nil => exact .inr begins
        | cons => exact .inl (becomes.ends (closed statement List.mem_cons_self))
      have closedLater : ∀ statement ∈ rest.dropLast, statement.getLast? = some ';' := by
        cases rest with
        | nil => simp
        | cons next more => exact fun statement member => closed statement (.tail _ member)
      rw [List.flatMap_cons, List.flatMap_cons, List.append_assoc,
        setting.renamed_append apart, becomes.renamed_text, induction closedLater,
        List.append_assoc]

/-! ## What a stage writes -/

/-- Whether a piece of a lowered stage stands for these pieces of a document. -/
structure Setting.Writes (setting : Setting) (rename : List Char → List Char) (slots : Slots)
    (lowered : Lowered) (pieces : List Piece) : Prop where
  text : lowered.text = pieces.flatMap (Piece.text setting.stage rename)
  blocks : lowered.blocks = blocksOf (pieces.flatMap Piece.places)
  numbered : Numbered setting.layout slots (pieces.flatMap Piece.places) lowered.slots

def Setting.Knows (setting : Setting) (statement : List Char) : Prop :=
  ∀ declaration, Declaration.parse? setting.stage setting.dialect (trim statement) =
    some declaration → setting.layout.Holds declaration

namespace Setting

variable (setting : Setting) (slots : Slots)

theorem writes_kept (rename : List Char → List Char) (text : List Char) :
    setting.Writes rename slots { text := rename text, blocks := [], slots } [.kept text] where
  text := by simp [Piece.text]
  blocks := rfl
  numbered := .nil slots

variable {setting slots} in
theorem Writes.append {rename : List Char → List Char} {first second : Lowered}
    {pieces others : List Piece} (writes : setting.Writes rename slots first pieces)
    (later : setting.Writes rename first.slots second others) :
    setting.Writes rename slots
      { text := first.text ++ second.text
        blocks := first.blocks ++ second.blocks
        slots := second.slots }
      (pieces ++ others) where
  text := by rw [List.flatMap_append, writes.text, later.text]
  blocks := by rw [List.flatMap_append, blocksOf_append, writes.blocks, later.blocks]
  numbered := by
    rw [List.flatMap_append]
    exact writes.numbered.append later.numbered

theorem exists_statementBecomes {statement : List Char} (knows : setting.Knows statement) :
    ∃ piece, StatementBecomes setting.stage setting.dialect statement piece ∧
      setting.Writes id slots (setting.lowerStatement slots statement) [piece] := by
  by_cases sets : isPrecision (trim statement)
  · refine ⟨_, .precision sets, ?_⟩
    simp only [lowerStatement, sets, if_true]
    exact setting.writes_kept slots id _
  · cases parsed : Declaration.parse? setting.stage setting.dialect (trim statement) with
    | none =>
        refine ⟨_, .kept sets (by simp [parsed]), ?_⟩
        simp only [lowerStatement, sets, parsed]
        exact setting.writes_kept slots id statement
    | some declaration =>
        cases lowered : declaration.isLowered setting.stage with
        | false =>
            have stays : ∀ other, Declaration.parse? setting.stage setting.dialect
                (trim statement) = some other → other.isLowered setting.stage = false := by
              intro other same
              rw [parsed, Option.some.injEq] at same
              exact same ▸ lowered
            refine ⟨_, .kept sets stays, ?_⟩
            simp only [lowerStatement, sets, parsed, Option.bind_some,
              setting.lowerDeclaration?_of_kept slots lowered]
            exact setting.writes_kept slots id statement
        | true =>
            rcases setting.exists_lowers slots lowered (knows declaration parsed) with
              ⟨places, lowers⟩
            refine ⟨_, .declared parsed lowered lowers.declared, ?_⟩
            simp only [lowerStatement, sets, parsed, Option.bind_some, lowers.result]
            exact
              { text := by simp [Piece.text]
                blocks := by simp [Piece.places]
                numbered := by simpa [Piece.places] using lowers.numbered }

theorem exists_statementsBecome {statements : List (List Char)}
    (knows : ∀ statement ∈ statements, setting.Knows statement) :
    ∃ pieces, List.Forall₂ (StatementBecomes setting.stage setting.dialect) statements pieces ∧
      setting.Writes id slots (setting.lowerStatements slots statements) pieces := by
  induction statements generalizing slots with
  | nil => exact ⟨[], .nil, rfl, rfl, .nil slots⟩
  | cons statement rest induction =>
      rcases List.forall_mem_cons.mp knows with ⟨first, others⟩
      rcases setting.exists_statementBecomes slots first with ⟨piece, becomes, writes⟩
      rcases induction (setting.lowerStatement slots statement).slots others with
        ⟨pieces, become, later⟩
      exact ⟨piece :: pieces, .cons becomes become, writes.append later⟩

/-! ## Lines -/

theorem lowerLine_of_directive {line : List Char} (stays : ¬isDropped line)
    (directive : Declaration.isDirective line) :
    setting.lowerLine slots line = { text := setting.renamed line, blocks := [], slots } := by
  cases renames : setting.renamesFragColor <;> simp [lowerLine, stays, directive, renamed, renames]

theorem lowerLine_of_code {line : List Char} (code : ¬Declaration.isDirective line) :
    setting.lowerLine slots line =
      let lowered := setting.lowerStatements slots
        (splitAfter ';' (Declaration.splitComment line).1)
      { lowered with
        text := setting.renamed (lowered.text ++ (Declaration.splitComment line).2) } := by
  have stays : ¬isDropped line := fun drops => code (isDirective_of_isDropped drops)
  cases renames : setting.renamesFragColor <;> simp [lowerLine, stays, code, renamed, renames]

def KnowsLine (line : List Char) : Prop :=
  ¬Declaration.isDirective line →
    ∀ statement ∈ splitAfter ';' (Declaration.splitComment line).1, setting.Knows statement

theorem exists_lineBecomes {line : List Char} (knows : setting.KnowsLine line) :
    ∃ pieces, LineBecomes setting.stage setting.dialect line pieces ∧
      setting.Writes setting.renamed slots (setting.lowerLine slots line) pieces := by
  by_cases drops : isDropped line
  · refine ⟨[], .dropped drops, ?_⟩
    simp only [lowerLine, drops, if_true]
    exact ⟨rfl, rfl, .nil slots⟩
  · by_cases directive : Declaration.isDirective line
    · refine ⟨_, .directive drops directive, ?_⟩
      rw [setting.lowerLine_of_directive slots drops directive]
      exact setting.writes_kept slots setting.renamed line
    · rcases setting.exists_statementsBecome slots (knows directive) with ⟨pieces, become, writes⟩
      refine ⟨_, .code directive become, ?_⟩
      rw [setting.lowerLine_of_code slots directive]
      exact
        { text := by
            simp only [writes.text, List.flatMap_append, List.flatMap_singleton, Piece.text]
            exact renamed_pieces setting become
              (fun statement member => getLast?_of_mem_dropLast_splitAfter member)
              (Declaration.head_comment line)
          blocks := by simpa [Piece.places] using writes.blocks
          numbered := by simpa [Piece.places] using writes.numbered }

theorem exists_linesBecome {all : List (List Char)} (knows : ∀ line ∈ all, setting.KnowsLine line) :
    ∃ document last, List.Forall₂ (LineBecomes setting.stage setting.dialect) all document ∧
      (setting.lowerLines slots all).1 =
        document.map (fun pieces => pieces.flatMap (Piece.text setting.stage setting.renamed)) ∧
      (setting.lowerLines slots all).2 = blocksOf (placesOf document) ∧
      Numbered setting.layout slots (placesOf document) last := by
  induction all generalizing slots with
  | nil => exact ⟨[], slots, .nil, rfl, rfl, .nil slots⟩
  | cons line rest induction =>
      rcases List.forall_mem_cons.mp knows with ⟨first, others⟩
      rcases setting.exists_lineBecomes slots first with ⟨pieces, becomes, writes⟩
      rcases induction (setting.lowerLine slots line).slots others with
        ⟨document, last, become, texts, blocks, numbered⟩
      refine ⟨pieces :: document, last, .cons becomes become, ?_, ?_, ?_⟩
      · rw [List.map_cons, ← texts, ← writes.text]
        rfl
      · rw [placesOf_cons, blocksOf_append, ← blocks, ← writes.blocks]
        rfl
      · rw [placesOf_cons]
        exact writes.numbered.append numbered

/-- A stage is lowered to a document whose places have the numbers they are due. -/
theorem exists_document {source : List Char} (lowers : setting.dialect.needsLowering)
    (knows : ∀ line ∈ lines source, setting.KnowsLine line) :
    ∃ document last,
      List.Forall₂ (LineBecomes setting.stage setting.dialect) (lines source) document ∧
        setting.lowerSource source = setting.documentText document ∧
        Numbered setting.layout .initial (placesOf document) last := by
  rcases setting.exists_linesBecome .initial knows with
    ⟨document, last, become, texts, blocks, numbered⟩
  refine ⟨document, last, become, ?_, numbered⟩
  simp only [lowerSource, lowers, if_true, texts, blocks, documentText, List.map_map]
  rfl

end Setting

end LiveShader.Glsl
