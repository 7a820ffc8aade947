import Mathlib.Data.Bool.AllAny
import LiveShader.Proofs.Shader.Marker
import LiveShader.Proofs.Text.Searching
import LiveShader.Proofs.Text.Slices

/-! # Markers by their byte offsets

The same scan on a text in UTF-8. It looks for two slashes in a slice of the text, reads the
words of the marker byte by byte and remembers offsets only. Its slices never fail, and it
finds what the scan by characters finds. -/

namespace LiveShader.Marker

open Text

variable {stage : Stage} {text front rest : List Char}

/-- Where something stands in a text, in bytes. -/
structure Span where
  start : Nat
  stop : Nat
  deriving DecidableEq, Repr

/-- Looks for the marker of a stage from a byte offset on. There is no answer where the text
cannot be sliced. -/
def locate? (stage : Stage) (text : List Char) (offset : Nat) : Option (Option Span) :=
  match _ : splitBytes? offset text with
  | none => none
  | some (_, rest) =>
      match _ : splitFirst? ['/', '/'] rest with
      | none => some none
      | some (before, _) =>
          let start := offset + byteLength before
          match dropWords? stage ((byteView text).drop (start + 2)) with
          | some after => some (some { start, stop := byteLength text - after.length })
          | none => locate? stage text (start + 2)
termination_by byteLength text - offset
decreasing_by
  rename_i _ sliced _ found
  rcases eq_of_splitBytes? sliced with ⟨whole, length⟩
  rw [whole, eq_append_of_splitFirst? found]
  simp only [byteLength_append, byteLength_cons]
  have slash : '/'.utf8Size = 1 := rfl
  omega

/-! ## Words by their bytes -/

theorem isSingleTest_isGap : IsSingleTest isGap := by
  intro character gap
  simp only [isGap, Bool.or_eq_true, beq_iff_eq] at gap
  rcases gap with rfl | rfl <;> decide

theorem isSingleTest_isWordCharacter : IsSingleTest isWordCharacter := by
  intro character word
  delta isWordCharacter Char.isAlphanum Char.isAlpha Char.isUpper Char.isLower Char.isDigit at word
  simp only [Bool.or_eq_true, Bool.and_eq_true, decide_eq_true_eq, beq_iff_eq,
    UInt32.le_iff_toNat_le, ge_iff_le] at word
  unfold IsSingle
  rcases word with ((⟨_, upper⟩ | ⟨_, lower⟩) | ⟨_, digit⟩) | rfl
  · exact Nat.le_trans upper (by decide)
  · exact Nat.le_trans lower (by decide)
  · exact Nat.le_trans digit (by decide)
  · decide

theorem isSingle_of_toLower {character : Char} (lower : IsSingle character.toLower) :
    IsSingle character := by
  by_contra wide
  have beyond : ¬(character.val ≥ 65 ∧ character.val ≤ 90) := by
    rintro ⟨_, upper⟩
    exact wide (Nat.le_trans (UInt32.le_iff_toNat_le.mp upper) (by decide))
  have same : character.toLower = character := dif_neg beyond
  exact wide (same ▸ lower)

theorem dropLetters?_byteView {word : List Char} (single : ∀ letter ∈ word, IsSingle letter)
    (text : List Char) :
    dropLetters? word (byteView text) = (dropLetters? word text).map byteView := by
  induction word generalizing text with
  | nil => rfl
  | cons letter word induction =>
      rcases List.forall_mem_cons.mp single with ⟨first, others⟩
      cases text with
      | nil => rfl
      | cons character rest =>
          by_cases same : character.toLower = letter
          · have narrow : IsSingle character := isSingle_of_toLower (same ▸ first)
            rw [byteView_of_isSingle narrow, dropLetters?, dropLetters?, if_pos same, if_pos same,
              induction others]
          · have test : IsSingleTest fun other => other.toLower == letter := by
              intro other spelled
              exact isSingle_of_toLower (beq_iff_eq.mp spelled ▸ first)
            rcases exists_byteView_cons test character rest with ⟨byte, bytes, view, alike⟩
            have different : byte.toLower ≠ letter := by
              rw [beq_eq_beq] at alike
              exact fun spelled => same (alike.mp spelled)
            rw [view, dropLetters?, dropLetters?, if_neg same, if_neg different]
            rfl

theorem dropWord?_byteView {word : List Char} (single : ∀ letter ∈ word, IsSingle letter)
    (text : List Char) :
    dropWord? word (byteView text) = (dropWord? word text).map byteView := by
  rw [dropWord?, dropWord?, dropLetters?_byteView single]
  cases read : dropLetters? word text with
  | none => rfl
  | some left =>
      cases left with
      | nil => rfl
      | cons next rest =>
          rcases exists_byteView_cons isSingleTest_isWordCharacter next rest with
            ⟨byte, bytes, view, same⟩
          simp only [Option.map_some, view, same]
          split
          case isTrue => rfl
          case isFalse => rw [Option.map_some, view]

theorem dropWords?_byteView (stage : Stage) (text : List Char) :
    dropWords? stage (byteView text) = (dropWords? stage text).map byteView := by
  have named : ∀ letter ∈ stage.name.toList, IsSingle letter :=
    List.all_iff_forall_prop.mp (by cases stage <;> decide)
  have closed : ∀ letter ∈ "shader".toList, IsSingle letter :=
    List.all_iff_forall_prop.mp (by decide)
  rw [dropWords?, dropWords?, dropWhile_byteView isSingleTest_isGap, dropWord?_byteView named]
  cases read : dropWord? stage.name.toList (text.dropWhile isGap) with
  | none => rfl
  | some left =>
      cases left with
      | nil => rfl
      | cons next rest =>
          cases gap : isGap next with
          | false =>
              rcases exists_byteView_cons isSingleTest_isGap next rest with
                ⟨byte, bytes, view, same⟩
              simp only [Option.map_some, view, same, gap]
              rfl
          | true =>
              have view := byteView_of_isSingle (isSingleTest_isGap next gap) rest
              simp only [Option.map_some, view, gap, if_true,
                dropWhile_byteView isSingleTest_isGap, dropWord?_byteView closed]

/-! ## From slashes to slashes -/

theorem split?_of_no_slashes (missing : splitFirst? ['/', '/'] text = none) :
    split? stage text = none := by
  induction text with
  | nil => rfl
  | cons character rest induction =>
      have single : ¬['/', '/'] <+: character :: rest :=
        fun leads => not_infix_of_splitFirst?_eq_none missing leads.isInfix
      rw [splitFirst?_cons_of_not_leading single, Option.map_eq_none_iff] at missing
      rw [split?_cons_of_single single, induction missing]
      rfl

/-- The scan reads words at the first two slashes and goes on behind them. -/
theorem split?_of_slashes {before after : List Char}
    (found : splitFirst? ['/', '/'] text = some (before, after)) :
    split? stage text =
      match dropWords? stage after with
      | some left => some (before, left)
      | none => (split? stage after).map fun (first, left) =>
          (before ++ '/' :: '/' :: first, left) := by
  induction text generalizing before with
  | nil => cases found
  | cons character rest induction =>
      by_cases leading : ['/', '/'] <+: character :: rest
      · rcases leading with ⟨left, same⟩
        rw [splitFirst?_cons_of_leading same.symm] at found
        cases found
        cases same
        rfl
      · rw [splitFirst?_cons_of_not_leading leading] at found
        rcases Option.map_eq_some_iff.mp found with ⟨⟨passed, left⟩, later, same⟩
        cases same
        rw [split?_cons_of_single leading, induction later]
        cases dropWords? stage after with
        | some read => rfl
        | none => simp only [Option.map_map, List.cons_append]; rfl

/-! ## The two scans -/

/-- The span of a marker, given what stands before and after it. -/
def spanBetween (text before after : List Char) : Span where
  start := byteLength before
  stop := byteLength text - byteLength after

theorem locate?_of_no_slashes (missing : splitFirst? ['/', '/'] rest = none) :
    locate? stage (front ++ rest) (byteLength front) = some none := by
  rw [locate?]
  split
  case h_1 failed => simp [splitBytes?_append] at failed
  case h_2 sliced =>
    rw [splitBytes?_append] at sliced
    cases sliced
    split
    case h_1 => rfl
    case h_2 found => simp [missing] at found

theorem locate?_of_slashes {before after : List Char}
    (found : splitFirst? ['/', '/'] rest = some (before, after)) :
    locate? stage (front ++ rest) (byteLength front) =
      match dropWords? stage after with
      | some left => some (some (spanBetween (front ++ rest) (front ++ before) left))
      | none => locate? stage (front ++ rest) (byteLength (front ++ (before ++ ['/', '/']))) := by
  have regrouped : front ++ rest = (front ++ (before ++ ['/', '/'])) ++ after := by
    simp [eq_append_of_splitFirst? found]
  have behind : byteLength front + byteLength before + 2 =
      byteLength (front ++ (before ++ ['/', '/'])) := by
    have slash : '/'.utf8Size = 1 := rfl
    simp [slash, Nat.add_assoc]
  have words : dropWords? stage ((byteView (front ++ rest)).drop
      (byteLength front + byteLength before + 2)) = (dropWords? stage after).map byteView := by
    rw [behind, regrouped, drop_byteView, dropWords?_byteView]
  rw [locate?]
  split
  case h_1 failed => simp [splitBytes?_append] at failed
  case h_2 sliced =>
    rw [splitBytes?_append] at sliced
    cases sliced
    split
    case h_1 missing => simp [missing] at found
    case h_2 again =>
      rw [found] at again
      cases again
      simp only [words]
      cases dropWords? stage after with
      | none => simp only [Option.map_none, behind]
      | some left => simp only [Option.map_some, length_byteView, spanBetween, byteLength_append]

/-- From a character boundary on, the scan by offsets goes through, and it finds the span of
the marker that the scan by characters finds. -/
theorem locate?_boundary (stage : Stage) (front rest : List Char) :
    locate? stage (front ++ rest) (byteLength front) =
      some ((split? stage rest).map fun (before, after) =>
        spanBetween (front ++ rest) (front ++ before) after) := by
  induction length : rest.length using Nat.strongRecOn generalizing front rest with
  | ind count induction =>
      cases found : splitFirst? ['/', '/'] rest with
      | none =>
          rw [locate?_of_no_slashes found, split?_of_no_slashes found]
          rfl
      | some parts =>
          rcases parts with ⟨before, after⟩
          rw [locate?_of_slashes found, split?_of_slashes found]
          cases dropWords? stage after with
          | some left => rfl
          | none =>
              have whole : rest = before ++ '/' :: '/' :: after := by
                simpa using eq_append_of_splitFirst? found
              have shorter : after.length < count := by
                rw [← length, whole, List.length_append, List.length_cons, List.length_cons]
                omega
              have regrouped : front ++ rest = (front ++ (before ++ ['/', '/'])) ++ after := by
                simp [whole]
              simp only
              rw [regrouped, induction _ shorter _ after rfl, Option.map_map]
              simp only [Function.comp_def, List.append_assoc, List.cons_append, List.nil_append]

end LiveShader.Marker
