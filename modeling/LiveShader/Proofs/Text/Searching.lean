import Mathlib.Data.List.Basic
import LiveShader.Text.Search

/-! # Searching in two texts

The first occurrence of a pattern in two texts side by side is the one in the first text.
If there is none, it is the first one in the second text, as long as the pattern does not
reach over the border. -/

namespace LiveShader.Text

theorem dropLeading?_eq_none_iff {pattern text : List Char} :
    dropLeading? pattern text = none ↔ ¬pattern <+: text := by
  constructor
  · rintro none ⟨rest, rfl⟩
    have some : dropLeading? pattern (pattern ++ rest) = some rest :=
      dropLeading?_eq_some_iff.mpr rfl
    rw [none] at some
    cases some
  · intro different
    cases leading : dropLeading? pattern text with
    | none => rfl
    | some rest => exact absurd ⟨rest, (dropLeading?_eq_some_iff.mp leading).symm⟩ different

theorem splitFirst?_cons_of_leading {pattern rest : List Char} {character : Char}
    {after : List Char} (leading : character :: rest = pattern ++ after) :
    splitFirst? pattern (character :: rest) = some ([], after) := by
  rw [splitFirst?, dropLeading?_eq_some_iff.mpr leading]

theorem splitFirst?_cons_of_not_leading {pattern rest : List Char} {character : Char}
    (different : ¬pattern <+: character :: rest) :
    splitFirst? pattern (character :: rest) =
      (splitFirst? pattern rest).map fun (before, after) => (character :: before, after) := by
  rw [splitFirst?, dropLeading?_eq_none_iff.mpr different]

theorem splitFirst?_append_of_some {pattern first before after : List Char}
    (found : splitFirst? pattern first = some (before, after)) (second : List Char) :
    splitFirst? pattern (first ++ second) = some (before, after ++ second) := by
  induction first generalizing before with
  | nil =>
      cases pattern with
      | nil =>
          cases found
          cases second <;> rfl
      | cons head rest => cases found
  | cons character rest induction =>
      by_cases leading : pattern <+: character :: rest
      · rcases leading with ⟨left, same⟩
        rw [splitFirst?_cons_of_leading same.symm] at found
        cases found
        rw [List.cons_append]
        exact splitFirst?_cons_of_leading (by rw [← List.append_assoc, same, List.cons_append])
      · rw [splitFirst?_cons_of_not_leading leading] at found
        rcases Option.map_eq_some_iff.mp found with ⟨⟨passed, left⟩, later, same⟩
        cases same
        have still : ¬pattern <+: character :: (rest ++ second) := by
          -- The word occurs later in the first text, so it is no longer than that text.
          intro whole
          have fits : pattern.length ≤ (character :: rest).length := by
            rw [eq_append_of_splitFirst? later]
            simp
            omega
          exact leading (List.prefix_of_prefix_length_le whole
            (List.prefix_append (character :: rest) second) fits)
        rw [List.cons_append, splitFirst?_cons_of_not_leading still, induction later]
        rfl

section

variable {pattern : List Char}

theorem splitFirst?_of_not_infix {text : List Char} (missing : ¬pattern <:+: text) :
    splitFirst? pattern text = none := by
  cases found : splitFirst? pattern text with
  | none => rfl
  | some parts => exact absurd ⟨_, _, (eq_append_of_splitFirst? found).symm⟩ missing

/-- An occurrence is the first one if there is none in what stands in front of its end. -/
theorem splitFirst?_of_first {last : Char} {before : List Char}
    (first : ¬(pattern ++ [last]) <:+: before ++ pattern) (after : List Char) :
    splitFirst? (pattern ++ [last]) (before ++ pattern ++ last :: after) =
      some (before, after) := by
  induction before with
  | nil =>
      have whole : pattern ++ last :: after = (pattern ++ [last]) ++ after := by simp
      rw [List.nil_append, whole]
      cases same : pattern ++ [last] with
      | nil => cases pattern <;> cases same
      | cons character rest => exact splitFirst?_cons_of_leading rfl
  | cons character before induction =>
      have different :
          ¬(pattern ++ [last]) <+: character :: (before ++ pattern ++ last :: after) := by
        intro leads
        have fits : (pattern ++ [last]).length ≤ (character :: (before ++ pattern)).length := by
          simp only [List.length_append, List.length_cons, List.length_nil]
          omega
        have inside : character :: (before ++ pattern) <+:
            character :: (before ++ pattern ++ last :: after) :=
          List.prefix_append (character :: (before ++ pattern)) (last :: after)
        exact first (List.prefix_of_prefix_length_le leads inside fits).isInfix
      have later : ¬(pattern ++ [last]) <:+: before ++ pattern :=
        fun inside => first (inside.trans (List.suffix_cons character _).isInfix)
      rw [List.cons_append, List.cons_append, splitFirst?_cons_of_not_leading different,
        induction later]
      rfl

theorem not_infix_of_splitFirst?_eq_none {text : List Char}
    (missing : splitFirst? pattern text = none) : ¬pattern <:+: text := by
  induction text with
  | nil =>
      intro inside
      rw [List.infix_nil.mp inside] at missing
      cases missing
  | cons character rest induction =>
      have different : ¬pattern <+: character :: rest := by
        rintro ⟨after, same⟩
        rw [splitFirst?_cons_of_leading same.symm] at missing
        cases missing
      rw [splitFirst?_cons_of_not_leading different, Option.map_eq_none_iff] at missing
      rw [List.infix_cons_iff, not_or]
      exact ⟨different, induction missing⟩

/-- In front of the end of the first occurrence there is no other. -/
theorem not_infix_of_splitFirst? {last : Char} {text before after : List Char}
    (found : splitFirst? (pattern ++ [last]) text = some (before, after)) :
    ¬(pattern ++ [last]) <:+: before ++ pattern := by
  induction text generalizing before with
  | nil =>
      rw [splitFirst?, if_neg (by simp)] at found
      cases found
  | cons character rest induction =>
      by_cases leading : (pattern ++ [last]) <+: character :: rest
      · rcases leading with ⟨left, same⟩
        rw [splitFirst?_cons_of_leading same.symm] at found
        cases found
        intro inside
        have fits := inside.length_le
        simp only [List.length_append, List.length_cons, List.length_nil] at fits
        omega
      · rw [splitFirst?_cons_of_not_leading leading] at found
        rcases Option.map_eq_some_iff.mp found with ⟨⟨passed, left⟩, later, same⟩
        cases same
        rw [List.cons_append, List.infix_cons_iff, not_or]
        refine ⟨fun leads => leading (leads.trans ?_), induction later⟩
        rw [eq_append_of_splitFirst? later]
        exact ⟨last :: after, by simp⟩

end

/-! ## A separator between a text and a pattern -/

variable {pattern first rest : List Char} {separator : Char}

/-- A pattern does not reach over a character that it does not have. -/
theorem not_prefix_append_separator (outside : separator ∉ pattern)
    (missing : ¬pattern <+: first) : ¬pattern <+: first ++ separator :: rest := by
  rintro ⟨behind, split⟩
  rcases List.append_eq_append_iff.mp split with ⟨left, whole, _⟩ | ⟨reaching, whole, other⟩
  · exact missing ⟨left, whole.symm⟩
  · cases reaching with
    | nil => exact missing ⟨[], by simp [whole]⟩
    | cons next reaching =>
        cases (List.cons.inj other).1
        exact outside (by simp [whole])

theorem splitFirst?_append_separator (something : pattern ≠ []) (outside : separator ∉ pattern)
    (missing : ¬pattern <:+: first) :
    splitFirst? pattern (first ++ separator :: rest) =
      (splitFirst? pattern rest).map fun (before, after) =>
        (first ++ separator :: before, after) := by
  induction first with
  | nil =>
      have alone : ¬pattern <+: [] ++ separator :: rest :=
        not_prefix_append_separator outside fun none => something (List.prefix_nil.mp none)
      exact splitFirst?_cons_of_not_leading alone
  | cons character first induction =>
      have here : ¬pattern <+: character :: first := fun leads => missing leads.isInfix
      have later : ¬pattern <:+: first :=
        fun inside => missing (inside.trans (List.suffix_cons character first).isInfix)
      have leading := @not_prefix_append_separator pattern (character :: first) rest _ outside here
      rw [List.cons_append] at leading ⊢
      rw [splitFirst?_cons_of_not_leading leading, induction later, Option.map_map]
      rfl

end LiveShader.Text
