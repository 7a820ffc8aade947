import Mathlib.Data.List.Basic
import LiveShader.Proofs.Shader.Splitting
import LiveShader.Proofs.Text.Searching
import LiveShader.Service.Fence

/-! # Stages in a code fence

A text between two fences comes out trimmed and otherwise as it was. Trimming a text
takes no marker away and brings none forth, so that the fenced text is cut into the same
stages as the text itself. -/

namespace LiveShader

open Text Marker

/-! ## Markers in a text between blanks -/

namespace Marker

variable {stage : Stage} {text before after front back : List Char}

theorem Spells.exists_solid_end {marker : List Char} (spells : Spells stage marker) :
    ∃ opening last, marker = opening ++ [last] ∧ isBlank last = false := by
  cases spells with
  | @marker indent name gap word indented named apart spaced closed =>
      rcases List.eq_nil_or_concat word with rfl | ⟨letters, last, rfl⟩
      · cases closed
      · refine ⟨'/' :: '/' :: (indent ++ (name ++ (gap ++ letters))), last, by simp, ?_⟩
        have closes : last.toLower = 'r' := by
          have ended := congrArg List.getLast? closed
          rw [List.concat_eq_append, List.map_append, List.map_singleton,
            List.getLast?_concat] at ended
          exact Option.some.inj ended
        by_contra blank
        have blank : isBlank last := by simpa using blank
        have solid := @eq_false_of_isBlank (fun character => character.toLower == 'r')
          (by decide +kernel) _ blank
        exact beq_eq_false_iff_ne.mp solid closes

/-- A marker ends in a letter, so none reaches into the blanks behind a text. -/
theorem stands_append_blanks_iff (blank : ∀ character ∈ back, isBlank character)
    {rest : List Char} :
    Stands stage (text ++ back) before rest ↔
      ∃ after, rest = after ++ back ∧ Stands stage text before after := by
  constructor
  · rintro ⟨⟨marker, spells, split⟩, ends⟩
    rw [← List.append_assoc] at split
    rcases List.append_eq_append_iff.mp split with ⟨reaching, whole, inner⟩ | ⟨after, whole, rfl⟩
    · rcases spells.exists_solid_end with ⟨opening, last, rfl, solid⟩
      rcases List.eq_nil_or_concat reaching with rfl | ⟨more, final, rfl⟩
      · refine ⟨[], inner.symm, ⟨⟨_, spells, ?_⟩, nofun⟩⟩
        simpa using whole.symm
      · -- The last letter of the marker would be a blank.
        rw [List.concat_eq_append] at inner whole
        rw [← List.append_assoc, ← List.append_assoc] at whole
        have same := List.singleton_inj.mp (List.append_inj' whole rfl).2
        have member : last ∈ back := by simp [inner, same]
        rw [blank last member] at solid
        cases solid
    · refine ⟨after, rfl, ⟨⟨marker, spells, by simpa using whole⟩, fun next member => ?_⟩⟩
      exact ends next (List.mem_head?_append_of_mem_head? member)
  · rintro ⟨after, rfl, ⟨⟨marker, spells, rfl⟩, ends⟩⟩
    refine ⟨⟨marker, spells, by simp⟩, ?_⟩
    cases after with
    | nil =>
        have nothing : EndsWord ([] : List Char) := nofun
        simpa using EndsWord.of_blanks blank nothing
    | cons next after => exact ends

theorem isSeen_append_blanks_iff (blank : ∀ character ∈ back, isBlank character)
    {rest : List Char} :
    IsSeen stage (text ++ back) before rest ↔
      ∃ after, rest = after ++ back ∧ IsSeen stage text before after := by
  constructor
  · rintro ⟨stands, paired⟩
    rcases (stands_append_blanks_iff blank).mp stands with ⟨after, split, inner⟩
    exact ⟨after, split, inner, paired⟩
  · rintro ⟨after, split, seen⟩
    exact ⟨(stands_append_blanks_iff blank).mpr ⟨after, split, seen.toStands⟩, seen.paired⟩

theorem split?_append_blanks (blank : ∀ character ∈ back, isBlank character) :
    split? stage (text ++ back) =
      (split? stage text).map fun (before, after) => (before, after ++ back) := by
  cases found : split? stage text with
  | none =>
      rw [split?_eq_none_iff] at found
      refine split?_eq_none_iff.mpr fun before rest seen => ?_
      rcases (isSeen_append_blanks_iff blank).mp seen with ⟨after, _, inner⟩
      exact found before after inner
  | some parts =>
      have isFound := isFound_of_split? found
      refine split?_eq_some_iff.mpr ⟨?_, fun earlier rest seen => ?_⟩
      · exact (isSeen_append_blanks_iff blank).mpr ⟨_, rfl, isFound.toIsSeen⟩
      · rcases (isSeen_append_blanks_iff blank).mp seen with ⟨after, _, inner⟩
        exact isFound.least earlier after inner

theorem split?_blanks_append (blank : ∀ character ∈ front, isBlank character) :
    split? stage (front ++ text) =
      (split? stage text).map fun (before, after) => (front ++ before, after) :=
  split?_append_of_not_mem (not_mem_blanks blank (by decide)) text

end Marker

/-- Trimming a text changes nothing about the stages it is cut into. -/
theorem splitStages_trimString (text : String) :
    splitStages (trimString text) = splitStages text := by
  rcases exists_trim text.toList with ⟨front, back, whole, before, behind⟩
  have around (stage : Stage) : split? stage text.toList =
      (split? stage (trim text.toList)).map fun (first, rest) =>
        (front ++ first, rest ++ back) := by
    conv_lhs => rw [whole]
    rw [split?_blanks_append before, split?_append_blanks behind, Option.map_map]
    rfl
  rw [splitStages, splitStages, trimString, String.toList_ofList, around, around]
  cases split? .vertex (trim text.toList) with
  | none => rfl
  | some announced =>
      rcases announced with ⟨preamble, rest⟩
      simp only [Option.map_some, split?_append_blanks behind]
      cases split? .fragment rest with
      | none => simp
      | some parted => simp [trim_append_blanks behind]

/-! ## Fences -/

namespace Fence

/-- A text in a code block, with the tag and the line end of the opening fence. -/
def enclosed (tag lineEnd text : String) : String :=
  "```" ++ tag ++ lineEnd ++ text ++ "\n```"

theorem removeWithin_nil (bound : Nat) : removeWithin bound [] = [] := by
  cases bound <;> rfl

/-- A fence is removed with its tag where the tag ends the line. -/
theorem removeWithin_opening {tag lineEnd : List Char}
    (word : ∀ character ∈ tag, isTagCharacter character)
    (broken : lineEnd = ['\n'] ∨ lineEnd = ['\r', '\n']) (bound : Nat) (rest : List Char) :
    removeWithin (bound + 1) (mark ++ (tag ++ (lineEnd ++ rest))) = removeWithin bound rest := by
  have found : splitFirst? mark (mark ++ (tag ++ (lineEnd ++ rest))) =
      some ([], tag ++ (lineEnd ++ rest)) := splitFirst?_cons_of_leading rfl
  have stops : ∀ next ∈ (lineEnd ++ rest).head?, isTagCharacter next = false := by
    rcases broken with rfl | rfl <;> exact fun next member => by cases member; rfl
  have behind : (tag ++ (lineEnd ++ rest)).dropWhile isTagCharacter = lineEnd ++ rest :=
    dropWhile_front word stops
  have ends : endsLine (lineEnd ++ rest) := by rcases broken with rfl | rfl <;> rfl
  have tagged : dropTag (tag ++ (lineEnd ++ rest)) = lineEnd ++ rest := by
    simp only [dropTag, behind, ends, Bool.true_or, if_true]
  have next : dropLineBreak (lineEnd ++ rest) = rest := by rcases broken with rfl | rfl <;> rfl
  rw [removeWithin, found]
  simp only [tagged, next, List.nil_append]

theorem removeWithin_closing {text : List Char} (unfenced : ¬mark <:+: text) (bound : Nat) :
    removeWithin (bound + 1) (text ++ '\n' :: mark) = text ++ ['\n'] := by
  have found : splitFirst? mark (text ++ '\n' :: mark) = some (text ++ ['\n'], []) := by
    have closes : splitFirst? mark mark = some ([], []) := by decide
    rw [splitFirst?_append_separator (by decide) (by decide) unfenced, closes]
    rfl
  have nothing : dropLineBreak (dropTag []) = [] := by decide
  rw [removeWithin, found]
  simp only [nothing, removeWithin_nil, List.append_nil]

end Fence

/-- What stands between two fences comes out of them trimmed, and with the same stages. -/
theorem strip_enclosed {tag lineEnd text : String}
    (word : ∀ character ∈ tag.toList, Fence.isTagCharacter character)
    (broken : lineEnd = "\n" ∨ lineEnd = "\r\n")
    (unfenced : ¬Fence.mark <:+: text.toList) :
    Fence.strip (Fence.enclosed tag lineEnd text) = trimString text ∧
      splitStages (Fence.strip (Fence.enclosed tag lineEnd text)) = splitStages text := by
  have written : (Fence.enclosed tag lineEnd text).toList =
      Fence.mark ++ (tag.toList ++ (lineEnd.toList ++ (text.toList ++ '\n' :: Fence.mark))) := by
    have opening : "```".toList = Fence.mark := rfl
    have closing : "\n```".toList = '\n' :: Fence.mark := rfl
    simp only [Fence.enclosed, String.toList_append, opening, closing, List.append_assoc]
  have lineEnds : lineEnd.toList = ['\n'] ∨ lineEnd.toList = ['\r', '\n'] := by
    rcases broken with rfl | rfl
    · exact .inl rfl
    · exact .inr rfl
  have stripped : Fence.strip (Fence.enclosed tag lineEnd text) = trimString text := by
    have long : 2 ≤ (Fence.enclosed tag lineEnd text).toList.length := by
      rw [written]
      simp [Fence.mark]
    rcases Nat.exists_eq_add_of_le' long with ⟨bound, length⟩
    have lineEnd : ∀ character ∈ ['\n'], isBlank character := List.all_eq_true.mp (by decide)
    rw [Fence.strip, Fence.stripMarks, length, written, Fence.removeWithin_opening word lineEnds,
      Fence.removeWithin_closing unfenced, trim_append_blanks lineEnd, trimString]
  exact ⟨stripped, by rw [stripped, splitStages_trimString]⟩

/-- The text may begin and end with two backticks and look like a tag. -/
theorem strip_enclosed_backticks :
    let text := "``glsl\r\n// VERTEX SHADER\n`A`\n // Fragment\tshader\rB ``\n"
    (∀ character ∈ "c++-20_x".toList, Fence.isTagCharacter character) ∧
      ¬Fence.mark <:+: text.toList ∧
      Fence.strip (Fence.enclosed "c++-20_x" "\r\n" text) = trimString text ∧
      splitStages (Fence.strip (Fence.enclosed "c++-20_x" "\r\n" text)) = splitStages text ∧
      splitStages text = .ok { vertex := "`A`", fragment := "B ``" } := by
  intro text
  have word : ∀ character ∈ "c++-20_x".toList, Fence.isTagCharacter character :=
    List.all_eq_true.mp (by decide)
  have unfenced : ¬Fence.mark <:+: text.toList := by decide +kernel
  have stripped := strip_enclosed word (.inr rfl) unfenced
  exact ⟨word, unfenced, stripped.1, stripped.2, by decide +kernel⟩

end LiveShader
