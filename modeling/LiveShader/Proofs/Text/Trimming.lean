import Mathlib.Data.List.TakeWhile
import LiveShader.Text.Blank

/-! # Trimming

A text is its trimmed middle with blanks on both sides, and trimming finds that middle
again whatever blanks stand there. -/

namespace LiveShader.Text

variable {text : List Char}

/-- The blanks one by one. -/
def blankCharacters : List Char :=
  blankRanges.flatMap fun (low, high) => (List.range' low (high + 1 - low)).map Char.ofNat

theorem mem_blankCharacters {character : Char} (blank : isBlank character) :
    character ∈ blankCharacters := by
  rcases List.any_eq_true.mp blank with ⟨⟨low, high⟩, range, within⟩
  simp only [Bool.and_eq_true, decide_eq_true_eq] at within
  refine List.mem_flatMap.mpr ⟨_, range, List.mem_map.mpr ⟨character.toNat, ?_, ?_⟩⟩
  · rw [List.mem_range'_1]
    omega
  · exact Char.ofNat_toNat character

theorem eq_false_of_isBlank {kind : Char → Bool} (none_blank : blankCharacters.any kind = false)
    {character : Char} (blank : isBlank character) : kind character = false :=
  Bool.eq_false_iff.mpr (List.any_eq_false.mp none_blank _ (mem_blankCharacters blank))

theorem ne_of_isBlank {blank solid : Char} (between : isBlank blank)
    (visible : isBlank solid = false) : blank ≠ solid := by
  rintro rfl
  rw [between] at visible
  cases visible

theorem not_mem_blanks {blanks : List Char} (blank : ∀ character ∈ blanks, isBlank character)
    {solid : Char} (visible : isBlank solid = false) : solid ∉ blanks :=
  fun member => ne_of_isBlank (blank solid member) visible rfl

theorem dropWhile_front {drops : Char → Bool} {front rest : List Char}
    (dropped : ∀ character ∈ front, drops character)
    (stops : ∀ next ∈ rest.head?, drops next = false) :
    (front ++ rest).dropWhile drops = rest := by
  rw [List.dropWhile_append_of_pos dropped]
  cases rest with
  | nil => rfl
  | cons next others => rw [List.dropWhile_cons, stops next rfl]; rfl

/-- A text with no blank at either end. -/
structure IsTrimmed (text : List Char) : Prop where
  first : ∀ character ∈ text.head?, isBlank character = false
  last : ∀ character ∈ text.getLast?, isBlank character = false

theorem trimRight_append_takeWhile (text : List Char) :
    trimRight text ++ (text.reverse.takeWhile isBlank).reverse = text := by
  rw [trimRight, ← List.reverse_append, List.takeWhile_append_dropWhile, List.reverse_reverse]

/-- What trimming takes away stands in front or behind and is blank. -/
theorem exists_trim (text : List Char) :
    ∃ front back, text = front ++ (trim text ++ back) ∧
      (∀ character ∈ front, isBlank character) ∧ ∀ character ∈ back, isBlank character := by
  refine ⟨text.takeWhile isBlank, ((trimLeft text).reverse.takeWhile isBlank).reverse, ?_, ?_, ?_⟩
  · rw [trim, trimRight_append_takeWhile, trimLeft, List.takeWhile_append_dropWhile]
  · exact fun character member => List.mem_takeWhile_imp member
  · intro character member
    exact List.mem_takeWhile_imp (List.mem_reverse.mp member)

theorem isTrimmed_trim (text : List Char) : IsTrimmed (trim text) where
  first := by
    intro character member
    have kept : trim text ++ _ = trimLeft text := trimRight_append_takeWhile (trimLeft text)
    have begins : (trimLeft text).head? = some character := by
      rw [← kept, List.head?_append, Option.mem_def.mp member]
      rfl
    have solid := List.head?_dropWhile_not isBlank text
    rw [← trimLeft, begins] at solid
    exact solid
  last := by
    intro character member
    have solid := List.head?_dropWhile_not isBlank (trimLeft text).reverse
    rw [trim, trimRight, List.getLast?_reverse] at member
    rw [member] at solid
    exact solid

/-- Blanks around a trimmed text are all that trimming takes away. -/
theorem trim_surrounded (trimmed : IsTrimmed text) {front back : List Char}
    (before : ∀ character ∈ front, isBlank character)
    (behind : ∀ character ∈ back, isBlank character) :
    trim (front ++ (text ++ back)) = text := by
  cases text with
  | nil =>
      have left : trimLeft (front ++ back) = [] :=
        List.dropWhile_eq_nil_iff.mpr (List.forall_mem_append.mpr ⟨before, behind⟩)
      rw [List.nil_append, trim, left]
      rfl
  | cons first rest =>
      have left : trimLeft (front ++ (first :: rest ++ back)) = first :: rest ++ back :=
        dropWhile_front before trimmed.first
      have dropped : ∀ character ∈ back.reverse, isBlank character := by simpa using behind
      have ends : ∀ character ∈ (first :: rest).reverse.head?, isBlank character = false := by
        rw [List.head?_reverse]
        exact trimmed.last
      rw [trim, left, trimRight, List.reverse_append, dropWhile_front dropped ends,
        List.reverse_reverse]

theorem IsTrimmed.trim_eq (trimmed : IsTrimmed text) : trim text = text := by
  have alone := @trim_surrounded text trimmed [] [] nofun nofun
  rwa [List.nil_append, List.append_nil] at alone

theorem trim_ne_nil {character : Char} (member : character ∈ text)
    (visible : isBlank character = false) : trim text ≠ [] := by
  intro nothing
  rcases exists_trim text with ⟨front, back, whole, before, behind⟩
  rw [nothing, List.nil_append] at whole
  rw [whole] at member
  rcases List.mem_append.mp member with inFront | inBack
  · exact not_mem_blanks before visible inFront
  · exact not_mem_blanks behind visible inBack

theorem trim_append_blanks {back : List Char} (blank : ∀ character ∈ back, isBlank character)
    (text : List Char) : trim (text ++ back) = trim text := by
  rcases exists_trim text with ⟨front, behind, whole, before, after⟩
  have around : text ++ back = front ++ (trim text ++ (behind ++ back)) := by
    refine (congrArg (· ++ back) whole).trans ?_
    simp only [List.append_assoc]
  rw [around]
  exact trim_surrounded (isTrimmed_trim text) before (List.forall_mem_append.mpr ⟨after, blank⟩)

theorem trim_blanks_append {front : List Char} (blank : ∀ character ∈ front, isBlank character)
    (text : List Char) : trim (front ++ text) = trim text := by
  rw [trim, trimLeft, List.dropWhile_append_of_pos blank]
  rfl

/-- Trimming leaves nothing of a text that is blank, and something of any other. -/
theorem isEmpty_trim (text : List Char) : (trim text).isEmpty = text.all isBlank := by
  rw [Bool.eq_iff_iff, List.isEmpty_iff, List.all_eq_true]
  constructor
  · intro nothing character member
    by_contra visible
    exact trim_ne_nil member (by simpa using visible) nothing
  · intro blank
    have gone := trim_blanks_append blank []
    rw [List.append_nil] at gone
    exact gone

end LiveShader.Text
