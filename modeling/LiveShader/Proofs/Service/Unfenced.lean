import Mathlib.Data.List.Infix
import LiveShader.Proofs.Text.Searching
import LiveShader.Proofs.Text.Trimming
import LiveShader.Service.Fence

/-! # Texts without fences

What stands in front of a fence does not end in a backtick, or the fence would begin
earlier. So the pieces between the fences can be joined without a new fence, whatever tags
and line ends have gone from between them. -/

namespace LiveShader.Fence

open Text

variable {text : List Char}

/-- A text with no fence in it and no blank at either end. -/
structure IsClean (text : List Char) : Prop extends IsTrimmed text where
  unfenced : ¬mark <:+: text

/-! ## Behind a fence -/

theorem dropTag_suffix (text : List Char) : dropTag text <:+ text := by
  unfold dropTag
  simp only
  split
  case isTrue => exact List.dropWhile_suffix isTagCharacter
  case isFalse => exact List.suffix_refl text

theorem dropLineBreak_suffix (text : List Char) : dropLineBreak text <:+ text := by
  unfold dropLineBreak
  split
  case h_1 rest => exact List.suffix_cons '\n' rest
  case h_2 rest => exact List.suffix_append ['\r', '\n'] rest
  case h_3 => exact List.suffix_refl text

/-! ## Joining the pieces -/

theorem eq_backtick_of_mem_mark {character : Char} (member : character ∈ mark) :
    character = '`' := by
  simpa [mark] using member

/-- What stands in front of the first fence holds none and does not end in a backtick. -/
theorem front_of_splitFirst? {before after : List Char}
    (found : splitFirst? mark text = some (before, after)) :
    ¬mark <:+: before ∧ '`' ∉ before.getLast? := by
  have first : ¬mark <:+: before ++ ['`', '`'] := @not_infix_of_splitFirst? ['`', '`'] _ _ _ _ found
  constructor
  · exact fun inside => first (inside.trans (List.prefix_append before _).isInfix)
  · intro last
    rcases List.getLast?_eq_some_iff.mp last with ⟨front, rfl⟩
    exact first ⟨front, [], by simp [mark]⟩

theorem not_infix_append {first second : List Char} (inFirst : ¬mark <:+: first)
    (last : '`' ∉ first.getLast?) (inSecond : ¬mark <:+: second) :
    ¬mark <:+: first ++ second := by
  rw [List.infix_append_iff]
  rintro (inside | inside | ⟨left, right, parts, leftEnds, rightBegins⟩)
  · exact inFirst inside
  · exact inSecond inside
  · rcases List.eq_nil_or_concat left with rfl | ⟨more, final, rfl⟩
    · rw [List.nil_append] at parts
      exact inSecond (parts ▸ rightBegins.isInfix)
    · -- A fence over the border would make the first text end in a backtick.
      rcases leftEnds with ⟨front, rfl⟩
      have backtick : final = '`' := eq_backtick_of_mem_mark (by simp [parts])
      exact last (by simp [backtick])

/-- As many fences as a text has characters are all its fences. -/
theorem not_infix_removeWithin {bound : Nat} (enough : text.length ≤ bound) :
    ¬mark <:+: removeWithin bound text := by
  induction bound generalizing text with
  | zero =>
      rw [List.eq_nil_of_length_eq_zero (Nat.le_zero.mp enough)]
      decide
  | succ bound induction =>
      rw [removeWithin]
      cases found : splitFirst? mark text with
      | none => exact not_infix_of_splitFirst?_eq_none found
      | some parts =>
          rcases parts with ⟨before, after⟩
          rcases front_of_splitFirst? found with ⟨inFront, last⟩
          have shorter : (dropLineBreak (dropTag after)).length ≤ bound := by
            have tail := ((dropLineBreak_suffix _).trans (dropTag_suffix after)).length_le
            have whole := congrArg List.length (eq_append_of_splitFirst? found)
            simp only [List.length_append, mark, List.length_cons, List.length_nil] at whole
            omega
          exact not_infix_append inFront last (induction shorter)

theorem removeWithin_of_unfenced (unfenced : ¬mark <:+: text) (bound : Nat) :
    removeWithin bound text = text := by
  cases bound with
  | zero => rfl
  | succ bound => rw [removeWithin, splitFirst?_of_not_infix unfenced]

/-! ## What is left -/

theorem isClean_stripMarks (text : List Char) : IsClean (stripMarks text) where
  toIsTrimmed := isTrimmed_trim _
  unfenced := by
    intro inside
    rcases exists_trim (removeWithin text.length text) with ⟨front, back, whole, _, _⟩
    apply not_infix_removeWithin (Nat.le_refl text.length)
    rw [whole]
    exact inside.trans ⟨front, back, List.append_assoc _ _ _⟩

theorem IsClean.stripMarks_eq (clean : IsClean text) : stripMarks text = text := by
  rw [stripMarks, removeWithin_of_unfenced clean.unfenced, clean.toIsTrimmed.trim_eq]

/-- A text without its fences has no fence, no leading and no trailing blank. Such a text is
left as it is, and only such a text, so that removing fences again changes nothing. -/
theorem strip_settles (text : String) :
    IsClean (strip text).toList ∧ (strip text = text ↔ IsClean text.toList) ∧
      strip (strip text) = strip text := by
  have clean : IsClean (strip text).toList := by
    rw [strip, String.toList_ofList]
    exact isClean_stripMarks text.toList
  have stays {text : String} (clean : IsClean text.toList) : strip text = text := by
    rw [strip, clean.stripMarks_eq, String.ofList_toList]
  exact ⟨clean, ⟨fun same => same ▸ clean, stays⟩, stays clean⟩

/-- The five backticks in the middle are a fence and two backticks, next to which another
fence goes with its tag. -/
example : strip "```glsl\na`````\n```\n`b``` \n" = "a``\n`b" := by decide +kernel

end LiveShader.Fence
