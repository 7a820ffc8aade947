import LiveShader.Proofs.Glsl.Document
import LiveShader.Proofs.Glsl.Lines
import LiveShader.Proofs.Glsl.Wording
import LiveShader.Proofs.Text.LineEnds

/-! # Gaps between words

The blanks between two words of a statement can be written in many ways. They are read in
one of two: on one line, as a gap in the statement, or with a line end, as its end. -/

namespace LiveShader.Glsl

open Text

/-- A place between two words in the code of a source. -/
structure Gap where
  /-- The lines in front of the line that the gap is on. -/
  earlier : List Char
  /-- The closed statements in front of the statement that the gap is in. -/
  opening : List Char
  left : List Char
  back : List Char
  begins : ∀ last ∈ earlier.getLast?, last = '\n'
  closed : ∀ last ∈ opening.getLast?, last = ';'
  unbroken : '\n' ∉ opening ++ left
  code : ¬Declaration.isDirective (opening ++ left)
  uncommented : ¬['/', '/'] <:+: opening ++ left
  unfinished : ';' ∉ left
  ends : ∃ last ∈ left.getLast?, isBlank last = false
  /-- The word behind the gap does not start a directive, wherever it stands. -/
  next : ∃ first ∈ back.head?, isBlank first = false ∧ first ≠ '#'

namespace Gap

variable (gap : Gap) {blanks : List Char}

/-- The source with these blanks in its gap. -/
def filled (blanks : List Char) : List Char :=
  gap.earlier ++ (gap.opening ++ (gap.left ++ (blanks ++ gap.back)))

/-- What stands behind the gap on its line. -/
def tail : List Char :=
  (lines gap.back).headD []

/-- The lines behind the line that the gap is on. -/
def later : List (List Char) :=
  (lines gap.back).tail

/-! ## Lines -/

theorem exists_lines_back : ∃ first behind more, isBlank first = false ∧ first ≠ '#' ∧
    ∀ front, '\n' ∉ front → lines (front ++ gap.back) = (front ++ first :: behind) :: more := by
  rcases gap.next with ⟨first, member, visible, solid⟩
  rcases List.head?_eq_some_iff.mp member with ⟨rest, back⟩
  rcases exists_lines_append rest with ⟨behind, more, whole⟩
  have other {control : Char} (blank : isBlank control) : first ≠ control :=
    (ne_of_isBlank blank visible).symm
  refine ⟨first, behind, more, visible, solid, fun front unbroken => ?_⟩
  have lineFeed : '\n' ≠ first := Ne.symm (other (by decide))
  have alone : '\n' ∉ front ++ [first] := by simp [unbroken, lineFeed]
  have ended : (front ++ [first]).getLast? ≠ some '\r' := by
    rw [List.getLast?_concat]
    simpa using other (by decide)
  rw [back, List.append_cons front, whole _ (by simp) alone ended, ← List.append_cons]

theorem exists_tail : ∃ first behind,
    gap.tail = first :: behind ∧ isBlank first = false ∧ first ≠ '#' := by
  rcases gap.exists_lines_back with ⟨first, behind, more, visible, solid, whole⟩
  have back := whole [] List.not_mem_nil
  rw [List.nil_append] at back
  exact ⟨first, behind, by rw [tail, back]; rfl, visible, solid⟩

theorem lines_append_back {front : List Char} (unbroken : '\n' ∉ front) :
    lines (front ++ gap.back) = (front ++ gap.tail) :: gap.later := by
  rcases gap.exists_lines_back with ⟨first, behind, more, _, _, whole⟩
  have back := whole [] List.not_mem_nil
  rw [List.nil_append] at back
  rw [whole front unbroken, tail, later, back]
  rfl

theorem exists_lines_blanks (blank : ∀ character ∈ blanks, isBlank character) :
    ∃ between leading,
      (∀ line ∈ between, ∀ character ∈ line, isBlank character) ∧
      (∀ character ∈ leading, isBlank character) ∧
      lines (blanks ++ gap.back) = between ++ (leading ++ gap.tail) :: gap.later := by
  induction length : blanks.length using Nat.strongRecOn generalizing blanks with
  | ind count induction =>
      rcases exists_first_line blanks with unbroken | ⟨line, rest, rfl, unbroken⟩
      · exact ⟨[], blanks, nofun, blank, gap.lines_append_back unbroken⟩
      · rw [List.forall_mem_append, List.forall_mem_cons] at blank
        have shorter : rest.length < count := by
          rw [← length, List.length_append, List.length_cons]
          omega
        rcases induction _ shorter blank.2.2 rfl with ⟨between, leading, blanks, front, split⟩
        refine ⟨dropLineEnd (line ++ ['\n']) :: between, leading, ?_, front, ?_⟩
        · refine List.forall_mem_cons.mpr ⟨fun character member => ?_, blanks⟩
          exact blank.1 character (dropLineEnd_append_subset line member)
        · rw [List.append_assoc, List.cons_append, lines_append_lineFeed unbroken, split]
          rfl

theorem lines_filled (unbroken : '\n' ∉ blanks) :
    lines (gap.filled blanks) =
      lines gap.earlier ++ (gap.opening ++ (gap.left ++ (blanks ++ gap.tail))) :: gap.later := by
  have whole : gap.filled blanks =
      gap.earlier ++ ((gap.opening ++ gap.left ++ blanks) ++ gap.back) := by simp [filled]
  rw [whole, lines_append gap.begins,
    gap.lines_append_back (List.not_mem_append gap.unbroken unbroken)]
  simp only [List.append_assoc]

/-- A line end in a gap leaves a line with the left part, blank lines and a line with the
right part. -/
theorem exists_lines_filled (broken : '\n' ∈ blanks)
    (blank : ∀ character ∈ blanks, isBlank character) :
    ∃ trailing between leading,
      (∀ character ∈ trailing, isBlank character) ∧
      (∀ line ∈ between, ∀ character ∈ line, isBlank character) ∧
      (∀ character ∈ leading, isBlank character) ∧
      lines (gap.filled blanks) = lines gap.earlier ++
        ((gap.opening ++ (gap.left ++ trailing)) ::
          (between ++ (leading ++ gap.tail) :: gap.later)) := by
  rcases List.eq_append_cons_of_mem broken with ⟨line, rest, rfl, unbroken⟩
  rw [List.forall_mem_append, List.forall_mem_cons] at blank
  rcases gap.exists_lines_blanks blank.2.2 with ⟨between, leading, blanks, front, split⟩
  refine ⟨dropLineEnd (line ++ ['\n']), between, leading, fun character member => ?_, blanks,
    front, ?_⟩
  · exact blank.1 character (dropLineEnd_append_subset line member)
  · have whole : gap.filled (line ++ '\n' :: rest) = gap.earlier ++
        ((gap.opening ++ gap.left) ++ line ++ '\n' :: (rest ++ gap.back)) := by simp [filled]
    have ended : (gap.opening ++ gap.left).getLast? ≠ some '\r' := by
      rcases gap.ends with ⟨last, member, visible⟩
      rw [List.getLast?_append, Option.mem_def.mp member, Option.some_or]
      rintro same
      cases Option.some.inj same
      revert visible
      decide
    rw [whole, lines_append gap.begins,
      lines_append_lineFeed (List.not_mem_append gap.unbroken unbroken),
      dropLineEnd_append ended, split, List.append_assoc]

/-! ## Dialects -/

theorem isDirective_blank {line : List Char} (blank : ∀ character ∈ line, isBlank character) :
    ¬Declaration.isDirective line := by
  rw [Declaration.isDirective, trimLeft, List.dropWhile_eq_nil_iff.mpr blank]
  decide

theorem isDirective_left (rest : List Char) :
    ¬Declaration.isDirective (gap.opening ++ (gap.left ++ rest)) := by
  rcases gap.ends with ⟨last, member, visible⟩
  rcases List.getLast?_eq_some_iff.mp member with ⟨front, split⟩
  have code := gap.code
  have whole : gap.opening ++ (gap.left ++ rest) = gap.opening ++ front ++ last :: rest := by
    simp [split]
  rw [split, ← List.append_assoc] at code
  rwa [whole, isDirective_append_cons visible]

theorem isDirective_tail {leading : List Char} (blank : ∀ character ∈ leading, isBlank character) :
    ¬Declaration.isDirective (leading ++ gap.tail) := by
  rcases gap.exists_tail with ⟨first, behind, split, visible, solid⟩
  have trimmed : trimLeft leading = [] := List.dropWhile_eq_nil_iff.mpr blank
  rw [split, Declaration.isDirective, trimLeft_append_cons visible, trimmed]
  simpa using solid

/-- The dialect of a source does not depend on its gaps. -/
theorem detect_filled (blank : ∀ character ∈ blanks, isBlank character) :
    Dialect.detect (gap.filled blanks) = Dialect.ofLines (lines gap.earlier ++ gap.later) := by
  rw [Dialect.detect_eq]
  by_cases broken : '\n' ∈ blanks
  · rcases gap.exists_lines_filled broken blank with
      ⟨trailing, between, leading, _, blankLines, front, split⟩
    have code : ∀ line ∈ (gap.opening ++ (gap.left ++ trailing)) ::
        (between ++ [leading ++ gap.tail]), ¬Declaration.isDirective line := by
      refine List.forall_mem_cons.mpr ⟨gap.isDirective_left trailing, ?_⟩
      refine List.forall_mem_append.mpr ⟨fun line member => ?_, ?_⟩
      · exact isDirective_blank (blankLines line member)
      · exact List.forall_mem_singleton.mpr (gap.isDirective_tail front)
    have grouped : (gap.opening ++ (gap.left ++ trailing)) ::
        (between ++ (leading ++ gap.tail) :: gap.later) =
          (gap.opening ++ (gap.left ++ trailing)) :: (between ++ [leading ++ gap.tail]) ++
            gap.later := by
      simp
    rw [split, grouped, Dialect.ofLines_append_congr (Dialect.ofLines_append_code code _)]
  · have code : ∀ line ∈ [gap.opening ++ (gap.left ++ (blanks ++ gap.tail))],
        ¬Declaration.isDirective line :=
      List.forall_mem_singleton.mpr (gap.isDirective_left _)
    rw [gap.lines_filled broken, ← List.singleton_append,
      Dialect.ofLines_append_congr (Dialect.ofLines_append_code code _)]

/-! ## Statements -/

/-- What follows the gap of the statement that it is in, on the same line. -/
def right : List Char :=
  (splitAfter ';' (Declaration.splitComment gap.tail).1).headD []

variable (stage : Stage) (dialect : Dialect)

theorem declaredIn_unfinished {statements : List (List Char)}
    (unfinished : ∀ statement ∈ statements, ';' ∉ statement) :
    declaredIn stage dialect (statements.map trim) = [] := by
  have none : (statements.map trim).filterMap (Declaration.parse? stage dialect) = [] := by
    rw [List.filterMap_eq_nil_iff]
    intro trimmed member
    rcases List.mem_map.mp member with ⟨statement, among, rfl⟩
    cases parsed : Declaration.parse? stage dialect (trim statement) with
    | none => rfl
    | some declaration =>
        have closed := Declaration.getLast?_of_parse? parsed
        exact absurd (trim_subset statement (List.mem_of_getLast? closed))
          (unfinished statement among)
  rw [declaredIn, none]
  rfl

theorem semicolon_not_mem_left (blank : ∀ character ∈ blanks, isBlank character) :
    ';' ∉ gap.left ++ blanks :=
  List.not_mem_append gap.unfinished (not_mem_blanks blank (by decide))

theorem declaredIn_blank {between : List (List Char)}
    (blank : ∀ line ∈ between, ∀ character ∈ line, isBlank character) :
    declaredIn stage dialect (between.flatMap statementsOfLine) = [] := by
  induction between with
  | nil => rfl
  | cons line rest induction =>
      rcases List.forall_mem_cons.mp blank with ⟨first, others⟩
      have code : (Declaration.splitComment line).1 = line := by
        have whole := splitComment_blanks_append first []
        simpa [Declaration.splitComment, splitFirst?] using whole
      have unfinished : ∀ statement ∈ splitAfter ';' line, ';' ∉ statement :=
        fun statement member inside =>
          not_mem_blanks first (by decide) ((isInfix_of_mem_splitAfter member).subset inside)
      rw [List.flatMap_cons, declaredIn_append, induction others, statementsOfLine,
        if_neg (isDirective_blank first), code, declaredIn_unfinished stage dialect unfinished,
        List.append_nil]

/-- The variables that are declared in front of the statement. -/
def before : List Declared :=
  declaredIn stage dialect (Declaration.statements gap.earlier) ++
    declaredIn stage dialect ((splitAfter ';' gap.opening).map trim)

/-- The variables that are declared behind the statement on its line. -/
def besides : List Declared :=
  declaredIn stage dialect ((splitAfter ';' (Declaration.splitComment gap.tail).1).tail.map trim)

/-- The variables that are declared behind the statement. -/
def behind : List Declared :=
  gap.besides stage dialect ++ declaredIn stage dialect (gap.later.flatMap statementsOfLine)

theorem splitAfter_left (blank : ∀ character ∈ blanks, isBlank character) :
    splitAfter ';' (Declaration.splitComment (gap.opening ++ (gap.left ++ blanks))).1 =
      splitAfter ';' gap.opening ++ [gap.left ++ blanks] := by
  have code : (Declaration.splitComment (gap.opening ++ (gap.left ++ blanks))).1 =
      gap.opening ++ (gap.left ++ blanks) := by
    by_cases something : blanks = []
    · rw [something, List.append_nil, Declaration.splitComment,
        splitFirst?_of_not_infix gap.uncommented]
    · have whole := splitComment_append_blanks gap.uncommented something blank []
      simpa [Declaration.splitComment, splitFirst?] using whole
  have unfinished := gap.semicolon_not_mem_left blank
  have solid : gap.left ++ blanks ≠ [] := by
    rcases gap.ends with ⟨last, member, _⟩
    simp [List.ne_nil_of_mem (List.mem_of_getLast? member)]
  rw [code, splitAfter_append gap.closed, splitAfter_of_not_mem unfinished solid]

theorem splitAfter_whole (something : blanks ≠ [])
    (blank : ∀ character ∈ blanks, isBlank character) :
    splitAfter ';' (Declaration.splitComment
        (gap.opening ++ (gap.left ++ (blanks ++ gap.tail)))).1 =
      splitAfter ';' gap.opening ++ (gap.left ++ (blanks ++ gap.right)) ::
        (splitAfter ';' (Declaration.splitComment gap.tail).1).tail := by
  have unfinished := gap.semicolon_not_mem_left blank
  have code : (Declaration.splitComment (gap.opening ++ (gap.left ++ (blanks ++ gap.tail)))).1 =
      gap.opening ++ (gap.left ++ blanks ++ (Declaration.splitComment gap.tail).1) := by
    rw [← List.append_assoc gap.opening, splitComment_append_blanks gap.uncommented something blank]
    simp only [List.append_assoc]
  rw [code, splitAfter_append gap.closed,
    splitAfter_append_unfinished unfinished (by simp [something]), List.append_assoc gap.left]
  rfl

theorem declaredIn_left (blank : ∀ character ∈ blanks, isBlank character) :
    declaredIn stage dialect (statementsOfLine (gap.opening ++ (gap.left ++ blanks))) =
      declaredIn stage dialect ((splitAfter ';' gap.opening).map trim) := by
  have unfinished := gap.semicolon_not_mem_left blank
  rw [statementsOfLine, if_neg (gap.isDirective_left blanks), gap.splitAfter_left blank,
    List.map_append, declaredIn_append,
    declaredIn_unfinished stage dialect (List.forall_mem_singleton.mpr unfinished),
    List.append_nil]

theorem declaredIn_whole (something : blanks ≠ [])
    (blank : ∀ character ∈ blanks, isBlank character) :
    declaredIn stage dialect
        (statementsOfLine (gap.opening ++ (gap.left ++ (blanks ++ gap.tail)))) =
      declaredIn stage dialect ((splitAfter ';' gap.opening).map trim) ++
        (declaredIn stage dialect [trim (gap.left ++ (blanks ++ gap.right))] ++
          gap.besides stage dialect) := by
  rw [statementsOfLine, if_neg (gap.isDirective_left _), gap.splitAfter_whole something blank,
    List.map_append, declaredIn_append, List.map_cons, ← List.singleton_append, declaredIn_append]
  rfl

theorem declaredIn_right (blank : ∀ character ∈ blanks, isBlank character) :
    declaredIn stage dialect (statementsOfLine (blanks ++ gap.tail)) =
      declaredIn stage dialect [trim gap.right] ++ gap.besides stage dialect := by
  have unfinished : ';' ∉ blanks := not_mem_blanks blank (by decide)
  rw [statementsOfLine, if_neg (gap.isDirective_tail blank), splitComment_blanks_append blank]
  by_cases something : blanks ++ (Declaration.splitComment gap.tail).1 = []
  · have nothing : (Declaration.splitComment gap.tail).1 = [] :=
      (List.append_eq_nil_iff.mp something).2
    rw [something, right, besides, nothing]
    rfl
  · rw [splitAfter_append_unfinished unfinished something, List.map_cons,
      ← List.singleton_append, declaredIn_append]
    congr 2
    rw [trim_blanks_append blank]
    rfl

/-- A gap on one line stands in its statement. A gap with a line end leaves the right part. -/
theorem declaredIn_filled (something : blanks ≠ [])
    (blank : ∀ character ∈ blanks, isBlank character) :
    declaredIn stage dialect (Declaration.statements (gap.filled blanks)) =
      gap.before stage dialect ++
        (declaredIn stage dialect
            [trim (if '\n' ∈ blanks then gap.right else gap.left ++ (blanks ++ gap.right))] ++
          gap.behind stage dialect) := by
  rw [statements_eq, before, statements_eq, behind]
  split_ifs with broken
  · rcases gap.exists_lines_filled broken blank with
      ⟨trailing, between, leading, back, blankLines, front, split⟩
    have nothing : declaredIn stage dialect (between.flatMap statementsOfLine) = [] :=
      declaredIn_blank stage dialect blankLines
    rw [split, List.flatMap_append, declaredIn_append, List.flatMap_cons, declaredIn_append,
      gap.declaredIn_left stage dialect back, List.flatMap_append, declaredIn_append, nothing,
      List.flatMap_cons, declaredIn_append, gap.declaredIn_right stage dialect front]
    simp only [List.append_assoc, List.nil_append]
  · rw [gap.lines_filled broken, List.flatMap_append, declaredIn_append, List.flatMap_cons,
      declaredIn_append, gap.declaredIn_whole stage dialect something blank]
    simp only [List.append_assoc]

/-! ## Where the statement stands -/

def IsStatementOf (source statement : List Char) : Prop :=
  ∃ line ∈ lines source, ¬Declaration.isDirective line ∧
    statement ∈ splitAfter ';' (Declaration.splitComment line).1

theorem isStatementOf_filled (unbroken : '\n' ∉ blanks) (something : blanks ≠ [])
    (blank : ∀ character ∈ blanks, isBlank character) :
    IsStatementOf (gap.filled blanks) (gap.left ++ (blanks ++ gap.right)) := by
  refine ⟨_, ?_, gap.isDirective_left (blanks ++ gap.tail), ?_⟩
  · rw [gap.lines_filled unbroken]
    exact List.mem_append_right _ (.head _)
  · rw [gap.splitAfter_whole something blank]
    exact List.mem_append_right _ (.head _)

theorem exists_isStatementOf_filled (broken : '\n' ∈ blanks)
    (blank : ∀ character ∈ blanks, isBlank character) :
    ∃ trailing, (∀ character ∈ trailing, isBlank character) ∧
      IsStatementOf (gap.filled blanks) (gap.left ++ trailing) := by
  rcases gap.exists_lines_filled broken blank with ⟨trailing, _, _, back, _, _, split⟩
  refine ⟨trailing, back, _, ?_, gap.isDirective_left trailing, ?_⟩
  · rw [split]
    exact List.mem_append_right _ (.head _)
  · rw [gap.splitAfter_left back]
    exact List.mem_append_right _ (.head _)

end Gap

end LiveShader.Glsl
