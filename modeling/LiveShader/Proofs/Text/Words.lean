import LiveShader.Text.Blank

/-! # Words between blanks

A blank keeps the words in front of it and behind it apart. -/

namespace LiveShader.Text

/-- A text has no character of a kind, or a first one. -/
theorem exists_first_stop (stops : Char → Bool) (text : List Char) :
    (∀ character ∈ text, stops character = false) ∨
      ∃ front stop rest, text = front ++ stop :: rest ∧ stops stop ∧
        ∀ character ∈ front, stops character = false := by
  induction text with
  | nil => exact .inl (by simp)
  | cons character text induction =>
      by_cases stop : stops character
      · exact .inr ⟨[], character, text, rfl, stop, by simp⟩
      · have passed : stops character = false := by simpa using stop
        rcases induction with none | ⟨front, first, rest, rfl, found, before⟩
        · exact .inl (List.forall_mem_cons.mpr ⟨passed, none⟩)
        · exact .inr ⟨character :: front, first, rest, rfl, found,
            List.forall_mem_cons.mpr ⟨passed, before⟩⟩

theorem isInfix_of_mem_splitOnP {stops : Char → Bool} {text piece : List Char}
    (member : piece ∈ text.splitOnP stops) : piece <:+: text := by
  induction length : text.length using Nat.strongRecOn generalizing text with
  | ind count induction =>
      rcases exists_first_stop stops text with none | ⟨front, stop, rest, rfl, found, before⟩
      · rw [List.splitOnP_eq_singleton none, List.mem_singleton] at member
        exact member ▸ List.infix_rfl
      · rw [List.splitOnP_append_cons_of_forall_mem before stop found, List.mem_cons] at member
        rcases member with rfl | later
        · exact (List.prefix_append _ _).isInfix
        · have shorter : rest.length < count := by
            rw [← length, List.length_append, List.length_cons]
            omega
          have inside := induction _ shorter later rfl
          have behind : rest <:+ front ++ stop :: rest := ⟨front ++ [stop], by simp⟩
          exact inside.trans behind.isInfix

theorem isInfix_of_mem_words {word text : List Char} (member : word ∈ words text) :
    word <:+: text :=
  isInfix_of_mem_splitOnP (List.mem_filter.mp member).1

theorem words_nil : words [] = [] := rfl

theorem words_of_solid {word : List Char} (something : word ≠ [])
    (solid : ∀ character ∈ word, isBlank character = false) : words word = [word] := by
  have nonempty : word.isEmpty = false := by simpa using something
  rw [words, List.splitOnP_eq_singleton solid, List.filter_cons]
  simp [nonempty]

theorem words_append_blank {blank : Char} (between : isBlank blank) (first rest : List Char) :
    words (first ++ blank :: rest) = words first ++ words rest := by
  rw [words, List.splitOnP_append_cons first rest between, List.filter_append]
  rfl

theorem words_blanks_append {blanks : List Char}
    (blank : ∀ character ∈ blanks, isBlank character) (rest : List Char) :
    words (blanks ++ rest) = words rest := by
  induction blanks with
  | nil => rfl
  | cons first others induction =>
      rcases List.forall_mem_cons.mp blank with ⟨here, later⟩
      exact (words_append_blank here [] (others ++ rest)).trans (induction later)

theorem words_append_blanks {blanks : List Char} (something : blanks ≠ [])
    (blank : ∀ character ∈ blanks, isBlank character) (first rest : List Char) :
    words (first ++ (blanks ++ rest)) = words first ++ words rest := by
  cases blanks with
  | nil => exact absurd rfl something
  | cons character others =>
      rcases List.forall_mem_cons.mp blank with ⟨here, later⟩
      rw [List.cons_append, words_append_blank here, words_blanks_append later]

theorem words_ne_nil {text : List Char} {character : Char} (member : character ∈ text)
    (visible : isBlank character = false) : words text ≠ [] := by
  induction length : text.length using Nat.strongRecOn generalizing text with
  | ind count induction =>
      rcases exists_first_stop isBlank text with solid | ⟨front, blank, rest, rfl, between, solid⟩
      · rw [words_of_solid (List.ne_nil_of_mem member) solid]
        exact List.cons_ne_nil text []
      · rw [words_append_blank between]
        rcases List.mem_append.mp member with inFront | behind
        · rw [words_of_solid (List.ne_nil_of_mem inFront) solid]
          exact List.cons_ne_nil front _
        · have later : character ∈ rest := by
            rcases List.mem_cons.mp behind with rfl | later
            · rw [visible] at between
              cases between
            · exact later
          have shorter : rest.length < count := by
            rw [← length, List.length_append, List.length_cons]
            omega
          exact fun nothing => induction _ shorter later rfl (List.append_eq_nil_iff.mp nothing).2

theorem words_append_cons {word : List Char} (something : word ≠ [])
    (solid : ∀ character ∈ word, isBlank character = false) {blank : Char}
    (between : isBlank blank) (rest : List Char) :
    words (word ++ blank :: rest) = word :: words rest := by
  rw [words_append_blank between, words_of_solid something solid, List.singleton_append]

/-- The first word of a text stands behind blanks alone and in front of a blank or the end. -/
theorem exists_front_of_words {text word : List Char} {others : List (List Char)}
    (split : words text = word :: others) :
    ∃ blanks behind, text = blanks ++ (word ++ behind) ∧
      (∀ character ∈ blanks, isBlank character) ∧
      ∀ character ∈ behind.head?, isBlank character := by
  induction text with
  | nil => cases split
  | cons first rest induction =>
      cases between : isBlank first with
      | true =>
          have later : words rest = word :: others := by
            rw [← split]
            exact (words_blanks_append (List.forall_mem_singleton.mpr between) rest).symm
          rcases induction later with ⟨blanks, behind, rfl, blank, ends⟩
          exact ⟨first :: blanks, behind, rfl, List.forall_mem_cons.mpr ⟨between, blank⟩, ends⟩
      | false =>
          rcases exists_first_stop isBlank (first :: rest) with
            solid | ⟨front, blank, behind, whole, stop, solid⟩
          · rw [words_of_solid (List.cons_ne_nil _ _) solid] at split
            cases split
            exact ⟨[], [], by simp, nofun, nofun⟩
          · have something : front ≠ [] := by
              rintro rfl
              cases whole
              rw [between] at stop
              cases stop
            rw [whole, words_append_cons something solid stop] at split
            cases split
            refine ⟨[], blank :: behind, whole, nofun, ?_⟩
            rintro _ ⟨⟩
            exact stop

end LiveShader.Text
