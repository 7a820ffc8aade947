import LiveShader.Proofs.Text.Cutting

/-! # Cutting at the end of a piece

A text that is cut behind each stop is cut apart where a piece ends. Its first line is
what stands in front of its first line feed. -/

namespace LiveShader.Text

variable {stop : Char} {first rest : List Char}

theorem isInfix_of_mem_splitAfter {piece : List Char} (member : piece ∈ splitAfter stop first) :
    piece <:+: first := by
  have inside := List.infix_of_mem_flatten member
  rwa [flatten_splitAfter] at inside

theorem splitAfter_append_stop (outside : stop ∉ first) (rest : List Char) :
    splitAfter stop (first ++ stop :: rest) = (first ++ [stop]) :: splitAfter stop rest := by
  induction first with
  | nil => simp [splitAfter]
  | cons character first induction =>
      rw [List.mem_cons, not_or] at outside
      rw [List.cons_append, splitAfter, if_neg (Ne.symm outside.1), induction outside.2]
      rfl

theorem splitAfter_of_not_mem (outside : stop ∉ first) (something : first ≠ []) :
    splitAfter stop first = [first] := by
  induction first with
  | nil => exact absurd rfl something
  | cons character first induction =>
      rw [List.mem_cons, not_or] at outside
      rw [splitAfter, if_neg (Ne.symm outside.1)]
      cases first with
      | nil => rfl
      | cons next others => rw [induction outside.2 (List.cons_ne_nil _ _)]

/-- What has no stop goes on with the first piece of what follows. -/
theorem splitAfter_append_unfinished (outside : stop ∉ first) (something : first ++ rest ≠ []) :
    splitAfter stop (first ++ rest) =
      (first ++ (splitAfter stop rest).headD []) :: (splitAfter stop rest).tail := by
  induction first with
  | nil =>
      have whole := flatten_splitAfter stop rest
      rw [List.nil_append] at something ⊢
      cases pieces : splitAfter stop rest with
      | nil =>
          rw [pieces] at whole
          exact absurd whole.symm something
      | cons piece pieces => rfl
  | cons character first induction =>
      rw [List.mem_cons, not_or] at outside
      rw [List.cons_append, splitAfter, if_neg (Ne.symm outside.1)]
      by_cases nothing : first ++ rest = []
      · rcases List.append_eq_nil_iff.mp nothing with ⟨rfl, rfl⟩
        rfl
      · rw [induction outside.2 nothing]
        rfl

theorem splitAfter_append (ended : ∀ last ∈ first.getLast?, last = stop) (rest : List Char) :
    splitAfter stop (first ++ rest) = splitAfter stop first ++ splitAfter stop rest := by
  induction length : first.length using Nat.strongRecOn generalizing first with
  | ind count induction =>
      by_cases member : stop ∈ first
      · rcases List.eq_append_cons_of_mem member with ⟨front, behind, rfl, outside⟩
        have shorter : behind.length < count := by
          rw [← length, List.length_append, List.length_cons]
          omega
        have endedBehind : ∀ last ∈ behind.getLast?, last = stop := by
          intro last among
          refine ended last ?_
          rw [List.getLast?_append, List.getLast?_cons, Option.mem_def.mp among]
          rfl
        rw [List.append_assoc, List.cons_append, splitAfter_append_stop outside,
          splitAfter_append_stop outside, induction _ shorter endedBehind rfl, List.cons_append]
      · cases last : first.getLast? with
        | none =>
            rw [List.getLast?_eq_none_iff.mp last]
            rfl
        | some character =>
            have same := ended character last
            exact absurd (same ▸ List.mem_of_getLast? last) member

theorem lines_append_lineFeed (outside : '\n' ∉ first) (rest : List Char) :
    lines (first ++ '\n' :: rest) = dropLineEnd (first ++ ['\n']) :: lines rest := by
  rw [lines, splitAfter_append_stop outside]
  rfl

theorem dropLineEnd_of_not_mem (outside : '\n' ∉ first) : dropLineEnd first = first := by
  have reversed : '\n' ∉ first.reverse := fun member => outside (List.mem_reverse.mp member)
  rw [dropLineEnd]
  split
  case h_1 same => exact absurd (same ▸ List.mem_cons_self) reversed
  case h_2 same => exact absurd (same ▸ List.mem_cons_self) reversed
  case h_3 => rfl

theorem lines_of_not_mem (outside : '\n' ∉ first) (something : first ≠ []) :
    lines first = [first] := by
  rw [lines, splitAfter_of_not_mem outside something, List.map_singleton,
    dropLineEnd_of_not_mem outside]

/-- Whole lines are cut apart from what follows them. -/
theorem lines_append (ended : ∀ last ∈ first.getLast?, last = '\n') (rest : List Char) :
    lines (first ++ rest) = lines first ++ lines rest := by
  rw [lines, splitAfter_append ended, List.map_append]
  rfl

theorem dropLineEnd_return (line : List Char) :
    dropLineEnd (line ++ ['\r'] ++ ['\n']) = line := by
  have reversed : (line ++ ['\r'] ++ ['\n']).reverse = '\n' :: '\r' :: line.reverse := by simp
  rw [dropLineEnd, reversed]
  exact List.reverse_reverse line

theorem dropLineEnd_lineFeed {line : List Char} (other : line.getLast? ≠ some '\r') :
    dropLineEnd (line ++ ['\n']) = line := by
  have reversed : (line ++ ['\n']).reverse = '\n' :: line.reverse := by simp
  rw [dropLineEnd, reversed]
  split
  case h_1 before same =>
    have begins : line.reverse.head? = some '\r' := by rw [(List.cons.inj same).2]; rfl
    exact absurd (List.head?_reverse ▸ begins) other
  case h_2 before _ same =>
    rw [← (List.cons.inj same).2, List.reverse_reverse]
  case h_3 _ none => exact absurd rfl (none _)

/-- The first line feed parts a text in one way. -/
theorem eq_of_append_stop {second others : List Char} (outside : stop ∉ first)
    (otherOutside : stop ∉ second) (same : first ++ stop :: rest = second ++ stop :: others) :
    first = second ∧ rest = others := by
  induction first generalizing second with
  | nil =>
      cases second with
      | nil => exact ⟨rfl, (List.cons.inj same).2⟩
      | cons next second => exact absurd ((List.cons.inj same).1 ▸ .head _) otherOutside
  | cons character first induction =>
      cases second with
      | nil => exact absurd ((List.cons.inj same).1 ▸ .head _) outside
      | cons next second =>
          rw [List.mem_cons, not_or] at outside otherOutside
          rcases List.cons.inj same with ⟨rfl, later⟩
          rcases induction outside.2 otherOutside.2 later with ⟨rfl, rests⟩
          exact ⟨rfl, rests⟩

theorem exists_first_line (text : List Char) :
    '\n' ∉ text ∨ ∃ first rest, text = first ++ '\n' :: rest ∧ '\n' ∉ first := by
  by_cases member : '\n' ∈ text
  · rcases List.eq_append_cons_of_mem member with ⟨first, rest, split, outside⟩
    exact .inr ⟨first, rest, split, outside⟩
  · exact .inl member

theorem dropLineEnd_cases (line : List Char) :
    dropLineEnd (line ++ ['\n']) = line ∨ line = dropLineEnd (line ++ ['\n']) ++ ['\r'] := by
  by_cases returns : line.getLast? = some '\r'
  · rcases List.getLast?_eq_some_iff.mp returns with ⟨front, rfl⟩
    rw [dropLineEnd_return]
    exact .inr rfl
  · exact .inl (dropLineEnd_lineFeed returns)

theorem prefix_dropLineEnd (line : List Char) : dropLineEnd (line ++ ['\n']) <+: line := by
  rcases dropLineEnd_cases line with whole | returned
  · exact ⟨[], by rw [whole, List.append_nil]⟩
  · exact ⟨['\r'], returned.symm⟩

theorem dropLineEnd_append (other : first.getLast? ≠ some '\r') (line : List Char) :
    dropLineEnd (first ++ line ++ ['\n']) = first ++ dropLineEnd (line ++ ['\n']) := by
  by_cases returns : line.getLast? = some '\r'
  · rcases List.getLast?_eq_some_iff.mp returns with ⟨front, rfl⟩
    rw [← List.append_assoc first, dropLineEnd_return, dropLineEnd_return]
  · have ends : (first ++ line).getLast? ≠ some '\r' := by
      rw [List.getLast?_append]
      cases last : line.getLast? with
      | none => rwa [Option.none_or]
      | some character =>
          rw [last] at returns
          exact returns
    rw [dropLineEnd_lineFeed ends, dropLineEnd_lineFeed returns]

theorem exists_lines_append (rest : List Char) :
    ∃ behind more, ∀ first, first ≠ [] → '\n' ∉ first → first.getLast? ≠ some '\r' →
      lines (first ++ rest) = (first ++ behind) :: more := by
  rcases exists_first_line rest with outside | ⟨line, more, rfl, outside⟩
  · refine ⟨rest, [], fun first something unbroken _ => ?_⟩
    exact lines_of_not_mem (List.not_mem_append unbroken outside) (by simp [something])
  · refine ⟨dropLineEnd (line ++ ['\n']), lines more, fun first _ unbroken other => ?_⟩
    rw [← List.append_assoc, lines_append_lineFeed (List.not_mem_append unbroken outside),
      dropLineEnd_append other]

end LiveShader.Text
