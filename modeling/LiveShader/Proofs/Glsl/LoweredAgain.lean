import LiveShader.Proofs.Glsl.HeaderNames
import LiveShader.Proofs.Glsl.Lines
import LiveShader.Proofs.Text.LineEnds

/-! # Lowering once is enough

The header of a lowered stage begins with a version directive of its own. As the dialect is
judged by the first such line, nothing in the body can win over it, and a lowered pair has
no stage left to lower. -/

namespace LiveShader.Glsl

open Text

/-! ## The first version directive -/

namespace Dialect

/-- A source that begins with a version directive is in the dialect that this line names,
whatever the lines below it hold. -/
theorem detect_of_first_line {line : List Char} (unbroken : '\n' ∉ line)
    (whole : line.getLast? ≠ some '\r') (version : versionWord.isPrefixOf (trimLeft line))
    (rest : List Char) : detect (line ++ '\n' :: rest) = ofDirective (trimLeft line) := by
  rw [detect_eq, lines_append_lineFeed unbroken, dropLineEnd_lineFeed whole, ofLines_cons,
    if_pos version]

theorem detect_injected (rest : List Char) :
    detect ("#version 450\n".toList ++ rest) = .desktop := by
  have named : ofDirective (trimLeft "#version 450".toList) = .desktop := by decide +kernel
  have split : "#version 450\n".toList ++ rest = "#version 450".toList ++ '\n' :: rest := rfl
  rw [split, detect_of_first_line (by decide) (by decide) (by decide), named]

theorem needsLowering_iff {dialect : Dialect} : dialect.needsLowering ↔ dialect ≠ .desktop := by
  cases dialect <;> decide

end Dialect

theorem StagePair.ext_source {first second : StagePair}
    (same : ∀ stage, first.source stage = second.source stage) : first = second := by
  rcases first with ⟨vertex, fragment⟩
  rcases second with ⟨otherVertex, otherFragment⟩
  have vertices : vertex = otherVertex := same .vertex
  have fragments : fragment = otherFragment := same .fragment
  rw [vertices, fragments]

theorem Setting.exists_header_eq (setting : Setting) (blocks : List UniformBlock) :
    ∃ below, setting.header blocks = "#version 450\n".toList ++ below :=
  ⟨_, List.append_assoc _ _ _⟩

/-! ## Stages of a lowered pair -/

section

variable {pair : StagePair} {stage : Stage}

/-- A desktop stage passes through, whatever the layout makes of the other stage. -/
theorem source_lower_of_desktop (desktop : dialectOf pair stage = .desktop) :
    (lower pair).source stage = pair.source stage := by
  have kept : ¬(dialectOf pair stage).needsLowering := by
    rw [desktop]
    decide
  apply String.toList_injective
  rw [toList_source_lower]
  exact if_neg kept

theorem dialectOf_lower (pair : StagePair) (stage : Stage) :
    dialectOf (lower pair) stage = .desktop := by
  by_cases lowers : (dialectOf pair stage).needsLowering
  · rcases exists_source_lower_eq lowers with ⟨body, written⟩
    rcases (settingOf pair stage).exists_header_eq (headerBlocks pair stage) with ⟨below, header⟩
    rw [dialectOf, written, header, List.append_assoc, List.append_assoc]
    exact Dialect.detect_injected _
  · have desktop : dialectOf pair stage = .desktop :=
      of_not_not fun other => lowers (Dialect.needsLowering_iff.mpr other)
    rw [dialectOf, source_lower_of_desktop desktop]
    exact desktop

theorem source_lower_eq_iff :
    (lower pair).source stage = pair.source stage ↔ dialectOf pair stage = .desktop := by
  refine ⟨fun same => ?_, source_lower_of_desktop⟩
  have lowered := dialectOf_lower pair stage
  rwa [dialectOf, same] at lowered

end

/-- Both stages of a lowered pair are in the desktop dialect. Exactly the stages that were in
it before are kept as they were, whatever the other stage is, and so lowering a lowered pair
changes nothing. -/
theorem lower_settles (pair : StagePair) :
    (∀ stage, dialectOf (lower pair) stage = .desktop) ∧
      (∀ stage, (lower pair).source stage = pair.source stage ↔
        dialectOf pair stage = .desktop) ∧
      lower (lower pair) = lower pair :=
  ⟨dialectOf_lower pair, fun _ => source_lower_eq_iff,
    StagePair.ext_source fun stage => source_lower_of_desktop (dialectOf_lower pair stage)⟩

end LiveShader.Glsl
