import LiveShader.Proofs.Text.Trimming
import LiveShader.Proofs.Text.Words
import LiveShader.Text.Lines
import LiveShader.Text.Search

/-! # Pieces of a text

A piece that is cut out of a text has no character that the text does not have. It has
the character it was cut at, if at all, at its end. -/

namespace LiveShader.Text

variable {text piece : List Char}

theorem exists_of_mem_splitAfter {stop : Char} (member : piece ∈ splitAfter stop text) :
    ∃ front, stop ∉ front ∧ (piece = front ∨ piece = front ++ [stop]) := by
  induction text generalizing piece with
  | nil => cases member
  | cons character rest induction =>
      rw [splitAfter] at member
      split at member
      case isTrue same =>
        rcases List.mem_cons.mp member with rfl | later
        · exact ⟨[], List.not_mem_nil, .inr (by rw [same]; rfl)⟩
        · exact induction later
      case isFalse different =>
        rcases pieces : splitAfter stop rest with _ | ⟨next, others⟩
        · rw [pieces] at member
          cases List.mem_singleton.mp member
          exact ⟨[character], by simpa using Ne.symm different, .inl rfl⟩
        · rw [pieces] at member induction
          rcases List.mem_cons.mp member with rfl | later
          · rcases induction List.mem_cons_self with ⟨front, outside, ended⟩
            refine ⟨character :: front, by simp [outside, Ne.symm different], ?_⟩
            rcases ended with rfl | rfl
            · exact .inl rfl
            · exact .inr rfl
          · exact induction (List.mem_cons_of_mem _ later)

/-! ## Lines -/

theorem dropLineEnd_subset (line : List Char) : dropLineEnd line ⊆ line := by
  intro character member
  rw [dropLineEnd] at member
  rw [← List.mem_reverse]
  split at member
  case h_1 reversed same =>
    rw [same]
    exact .tail _ (.tail _ (List.mem_reverse.mp member))
  case h_2 reversed _ same =>
    rw [same]
    exact .tail _ (List.mem_reverse.mp member)
  case h_3 => exact List.mem_reverse.mpr member

theorem dropLineEnd_append_subset (line : List Char) : dropLineEnd (line ++ ['\n']) ⊆ line := by
  intro character member
  rw [dropLineEnd, List.reverse_append] at member
  rw [← List.mem_reverse]
  split at member
  case h_1 reversed same =>
    have rest : line.reverse = '\r' :: reversed := (List.cons.inj same).2
    rw [rest]
    exact .tail _ (List.mem_reverse.mp member)
  case h_2 reversed _ same =>
    have rest : line.reverse = reversed := (List.cons.inj same).2
    rw [rest]
    exact List.mem_reverse.mp member
  case h_3 _ other => exact absurd rfl (other _)

theorem lineFeed_not_mem_of_mem_lines {line : List Char} (member : line ∈ lines text) :
    '\n' ∉ line := by
  rcases List.mem_map.mp member with ⟨piece, cut, rfl⟩
  rcases exists_of_mem_splitAfter cut with ⟨front, outside, rfl | rfl⟩
  · exact fun inside => outside (dropLineEnd_subset _ inside)
  · exact fun inside => outside (dropLineEnd_append_subset _ inside)

/-! ## Trimming -/

theorem isInfix_trim (text : List Char) : trim text <:+: text := by
  rcases exists_trim text with ⟨front, back, whole, _⟩
  exact ⟨front, back, by rw [List.append_assoc, ← whole]⟩

theorem trim_subset (text : List Char) : trim text ⊆ text :=
  (isInfix_trim text).subset

/-- Nothing is trimmed behind a character that is not blank. -/
theorem takeWhile_append_trim {last : Char} (ended : text.getLast? = some last)
    (solid : isBlank last = false) : text.takeWhile isBlank ++ trim text = text := by
  have kept := trimRight_append_takeWhile (trimLeft text)
  have parts : text.takeWhile isBlank ++ trimLeft text = text := List.takeWhile_append_dropWhile
  have nothing : (trimLeft text).reverse.takeWhile isBlank = [] := by
    rcases left : (trimLeft text).reverse with _ | ⟨next, others⟩
    · rfl
    · have begins : (trimLeft text).getLast? = some next := by
        rw [← List.head?_reverse, left]
        rfl
      rw [← parts, List.getLast?_append, begins] at ended
      cases ended
      rw [List.takeWhile_cons, solid]
      rfl
  rw [nothing, List.reverse_nil, List.append_nil] at kept
  rw [trim, kept, parts]

theorem getLast?_trim {last : Char} (ended : text.getLast? = some last)
    (solid : isBlank last = false) : (trim text).getLast? = some last := by
  have parts := congrArg List.getLast? (takeWhile_append_trim ended solid)
  rw [List.getLast?_append] at parts
  cases trimmed : (trim text).getLast? with
  | none =>
      have kept := trim_ne_nil (List.mem_of_getLast? ended) solid
      exact absurd (List.getLast?_eq_none_iff.mp trimmed) kept
  | some character =>
      rw [trimmed, Option.some_or] at parts
      exact parts.trans ended

/-! ## Words -/

theorem subset_of_mem_words {word : List Char} (member : word ∈ words text) : word ⊆ text :=
  (isInfix_of_mem_words member).subset

theorem words_trim (text : List Char) : words (trim text) = words text := by
  rcases exists_trim text with ⟨front, back, whole, before, behind⟩
  have same : words text = words (trim text ++ back) :=
    (congrArg words whole).trans (words_blanks_append before _)
  cases back with
  | nil => rw [same, List.append_nil]
  | cons first rest =>
      have nothing := words_append_blanks (List.cons_ne_nil first rest) behind (trim text) []
      rw [List.append_nil, words_nil, List.append_nil] at nothing
      rw [same, nothing]

theorem subset_of_mem_splitOn {stop : Char} (member : piece ∈ text.splitOn stop) :
    piece ⊆ text := by
  rw [List.splitOn_eq_splitOnP] at member
  exact (isInfix_of_mem_splitOnP member).subset

theorem mem_join {separator : List Char} {pieces : List (List Char)} {character : Char}
    (member : character ∈ join separator pieces) :
    character ∈ separator ∨ ∃ piece ∈ pieces, character ∈ piece := by
  induction pieces with
  | nil => cases member
  | cons piece rest induction =>
      cases rest with
      | nil => exact .inr ⟨piece, .head _, by simpa [join] using member⟩
      | cons next others =>
          have parts : join separator (piece :: next :: others) =
              piece ++ (separator ++ join separator (next :: others)) := rfl
          rw [parts, List.mem_append, List.mem_append] at member
          rcases member with first | between | later
          · exact .inr ⟨piece, .head _, first⟩
          · exact .inl between
          · rcases induction later with between | ⟨other, among, inside⟩
            · exact .inl between
            · exact .inr ⟨other, .tail _ among, inside⟩

theorem isInfix_join (separator : List Char) {pieces : List (List Char)} {piece : List Char}
    (member : piece ∈ pieces) : piece <:+: join separator pieces := by
  induction pieces with
  | nil => cases member
  | cons first rest induction =>
      cases rest with
      | nil =>
          rw [List.mem_singleton.mp member]
          exact ⟨[], [], by simp [join]⟩
      | cons next others =>
          have parts : join separator (first :: next :: others) =
              first ++ (separator ++ join separator (next :: others)) := rfl
          rw [parts]
          rcases List.mem_cons.mp member with rfl | later
          · exact (List.prefix_append _ _).isInfix
          · have behind : join separator (next :: others) <:+
                first ++ (separator ++ join separator (next :: others)) :=
              (List.suffix_append _ _).trans (List.suffix_append _ _)
            exact (induction later).trans behind.isInfix

end LiveShader.Text
