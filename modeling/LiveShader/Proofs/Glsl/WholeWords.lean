import Mathlib.Algebra.Order.BigOperators.Group.List
import Mathlib.Algebra.Order.Group.Nat
import Mathlib.Data.List.Infix
import Mathlib.Data.List.SplitBy
import LiveShader.Proofs.Glsl.Document

/-! # Renaming whole identifiers

A text is cut into the longest runs of identifier characters and what stands between them.
Renaming goes from occurrence to occurrence and forgets what it has passed. So it takes a
name for a whole run that stands right behind another such name, and it does so only at the
end of a run. -/

namespace LiveShader

namespace Text

/-! ## Runs -/

/-- The longest runs of a text: of identifier characters, and of others between them. -/
def runs (text : List Char) : List (List Char) :=
  text.splitBy fun first second => isIdentifierCharacter first == isIdentifierCharacter second

theorem flatten_runs (text : List Char) : (runs text).flatten = text :=
  List.flatten_splitBy _ text

/-- A run has identifier characters only, or none. -/
theorem alike_of_mem_runs {text run : List Char} (member : run ∈ runs text) :
    (∀ character ∈ run, isIdentifierCharacter character) ∨
      ∀ character ∈ run, isIdentifierCharacter character = false := by
  have chain := List.isChain_of_mem_splitBy member
  cases run with
  | nil => exact .inl nofun
  | cons first rest =>
      have alike : ∀ character ∈ first :: rest,
          isIdentifierCharacter first = isIdentifierCharacter character := by
        have pairwise : (first :: rest).Pairwise fun character other =>
            isIdentifierCharacter character = isIdentifierCharacter other := by
          have equal := chain.imp fun _ _ => eq_of_beq
          have trans : IsTrans Char fun character other =>
              isIdentifierCharacter character = isIdentifierCharacter other :=
            ⟨fun _ _ _ => Eq.trans⟩
          exact equal.pairwise
        exact List.forall_mem_cons.mpr ⟨rfl, (List.pairwise_cons.mp pairwise).1⟩
      cases kind : isIdentifierCharacter first with
      | true => exact .inl fun character among => (alike character among).symm.trans kind
      | false => exact .inr fun character among => (alike character among).symm.trans kind

end Text

namespace Glsl

open Text

/-- No identifier reaches from one run into the next. -/
theorem isChain_apart_runs (text : List Char) : (runs text).IsChain Apart := by
  refine (List.isChain_getLast_head_splitBy _ text).imp fun run next differ => ?_
  rcases differ with ⟨something, other, differ⟩
  rw [beq_eq_false_iff_ne] at differ
  rw [Apart, List.getLast?_eq_some_getLast something, List.head?_eq_some_head other]
  simp only [joinsIdentifier, Option.any_some]
  cases last : isIdentifierCharacter (run.getLast something) with
  | false => exact .inl rfl
  | true =>
      rw [last] at differ
      exact .inr (by simpa using differ.symm)

section

variable {old new : List Char} (word : old ≠ [])
  (identifier : ∀ character ∈ old, isIdentifierCharacter character)

include word identifier

theorem renameIdentifier_flatten {pieces : List (List Char)} (nonempty : [] ∉ pieces)
    (apart : pieces.IsChain Apart) :
    renameIdentifier old new pieces.flatten = pieces.flatMap (renameIdentifier old new) := by
  induction pieces with
  | nil => rfl
  | cons piece rest induction =>
      simp only [List.mem_cons, not_or] at nonempty
      have border : Apart piece rest.flatten := by
        cases rest with
        | nil => exact .inr rfl
        | cons next others =>
            have something : next ≠ [] := fun none => nonempty.2 (by simp [none])
            have head : (next :: others).flatten.head? = next.head? := by
              rw [List.flatten_cons, List.head?_append_of_ne_nil _ something]
            rw [Apart, head]
            exact (List.isChain_cons_cons.mp apart).1
      rw [List.flatten_cons, renameIdentifier_append word identifier border,
        induction nonempty.2 apart.tail, List.flatMap_cons]

end

/-- An occurrence in a run is renamed if it is all of the run. -/
theorem replacement_of_run {old new before after : List Char}
    (run : ∀ character ∈ before ++ after, isIdentifierCharacter character) :
    replacement old new before after = if before ++ after = [] then new else old := by
  rcases List.forall_mem_append.mp run with ⟨front, behind⟩
  cases before with
  | cons first rest =>
      have last := front _ (List.getLast_mem (List.cons_ne_nil first rest))
      simp [replacement, joinsIdentifier, List.getLast?_eq_some_getLast, last]
  | nil =>
      cases after with
      | nil => simp [replacement]
      | cons next others => simp [replacement, joinsIdentifier, behind]

/-! ## Occurrences that do not overlap -/

/-- Whether two occurrences of a word cannot overlap: no end of it is its beginning. -/
def IsUnbordered (word : List Char) : Prop :=
  ∀ part, part <:+ word → part <+: word → part = [] ∨ part = word

section

variable {old new : List Char} (word : old ≠ [])

include word

theorem splitFirst?_self_append (rest : List Char) :
    splitFirst? old (old ++ rest) = some ([], rest) := by
  cases same : old with
  | nil => exact absurd same word
  | cons first others => exact splitFirst?_cons_of_leading rfl

/-- The first occurrence of a word is a known one, or it ends in front of that one. -/
theorem exists_splitFirst?_append (unbordered : IsUnbordered old) (front rest : List Char) :
    ∃ before after, splitFirst? old (front ++ (old ++ rest)) = some (before, after) ∧
      (before = front ∧ after = rest ∨
        ∃ middle, front = before ++ (old ++ middle) ∧ after = middle ++ (old ++ rest)) := by
  induction front with
  | nil => exact ⟨[], rest, splitFirst?_self_append word rest, .inl ⟨rfl, rfl⟩⟩
  | cons first front induction =>
      by_cases leads : old <+: first :: (front ++ (old ++ rest))
      · rcases leads with ⟨after, same⟩
        refine ⟨[], after, splitFirst?_cons_of_leading same.symm, .inr ?_⟩
        rcases List.append_eq_append_iff.mp (same.trans List.cons_append.symm) with
          ⟨middle, whole, other⟩ | ⟨reaching, whole, other⟩
        · exact ⟨middle, whole, other⟩
        · -- What reaches into the known occurrence is an end and a beginning of the word.
          have length := congrArg List.length whole
          rw [List.length_append, List.length_cons] at length
          have opens : reaching <+: old :=
            List.prefix_of_prefix_length_le ⟨after, other.symm⟩ (List.prefix_append old rest)
              (by omega)
          rcases unbordered reaching ⟨_, whole.symm⟩ opens with rfl | rfl
          · exact ⟨[], by simpa using whole.symm, by simpa using other.symm⟩
          · omega
      · rcases induction with ⟨before, after, found, place⟩
        refine ⟨first :: before, after, ?_, ?_⟩
        · rw [List.cons_append, splitFirst?_cons_of_not_leading leads, found]
          rfl
        · rcases place with ⟨rfl, rfl⟩ | ⟨middle, rfl, behind⟩
          · exact .inl ⟨rfl, rfl⟩
          · exact .inr ⟨middle, rfl, behind⟩

theorem renameIdentifier_self : renameIdentifier old new old = new := by
  have found := splitFirst?_self_append word []
  rw [List.append_nil] at found
  have nothing : renameIdentifier old new [] = [] :=
    renameIdentifier_of_not_mem (List.head_mem word) List.not_mem_nil
  rw [renameIdentifier_of_some word found, nothing, replacement_of_run (by simp)]
  simp

theorem renameIdentifier_of_alone {run : List Char}
    (inside : ∀ character ∈ run, isIdentifierCharacter character) (other : run ≠ old)
    (alone : ¬old ++ old <:+ run) : renameIdentifier old new run = run := by
  induction length : run.length using Nat.strongRecOn generalizing run with
  | ind count induction =>
      cases found : splitFirst? old run with
      | none => exact renameIdentifier_of_none found
      | some parts =>
          rcases parts with ⟨before, after⟩
          obtain rfl := eq_append_of_splitFirst? found
          simp only [List.forall_mem_append] at inside
          have partly : before ++ after ≠ [] := by
            intro nothing
            rcases List.append_eq_nil_iff.mp nothing with ⟨rfl, rfl⟩
            exact other (by simp)
          have shorter : after.length < count := by
            have nonempty := List.length_pos_iff.mpr word
            rw [← length, List.length_append, List.length_append]
            omega
          have later : after ≠ old := by
            rintro rfl
            exact alone ⟨before, by simp⟩
          have aloneLater : ¬old ++ old <:+ after :=
            fun ends => alone (ends.trans (List.suffix_append _ _))
          rw [renameIdentifier_of_some word found,
            replacement_of_run (List.forall_mem_append.mpr ⟨inside.1.1, inside.2⟩),
            if_neg partly, induction _ shorter inside.2 later aloneLater rfl]

variable (identifier : ∀ character ∈ old, isIdentifierCharacter character)

include identifier

theorem renameIdentifier_of_behind (unbordered : IsUnbordered old) {front : List Char}
    (run : ∀ character ∈ front, isIdentifierCharacter character) :
    renameIdentifier old new (front ++ (old ++ old)) = front ++ (old ++ new) := by
  -- Each earlier occurrence shortens the front, down to the last two.
  induction length : front.length using Nat.strongRecOn generalizing front with
  | ind count induction =>
      rcases exists_splitFirst?_append word unbordered front old with
        ⟨before, after, found, ⟨rfl, rfl⟩ | ⟨middle, rfl, rfl⟩⟩
      · have inside := List.forall_mem_append.mpr ⟨run, identifier⟩
        rw [renameIdentifier_of_some word found, replacement_of_run inside,
          renameIdentifier_self word]
        simp [word]
      · simp only [List.forall_mem_append] at run
        have shorter : middle.length < count := by
          have nonempty := List.length_pos_iff.mpr word
          rw [← length, List.length_append, List.length_append]
          omega
        have inside : ∀ character ∈ before ++ (middle ++ (old ++ old)),
            isIdentifierCharacter character := by
          simp only [List.forall_mem_append]
          exact ⟨run.1, run.2.2, identifier, identifier⟩
        rw [renameIdentifier_of_some word found, replacement_of_run inside,
          induction _ shorter run.2.2 rfl]
        simp [word]

theorem renameIdentifier_of_outside {run : List Char}
    (outside : ∀ character ∈ run, isIdentifierCharacter character = false) :
    renameIdentifier old new run = run := by
  refine renameIdentifier_of_not_mem (List.head_mem word) fun member => ?_
  have letter := identifier _ (List.head_mem word)
  rw [outside _ member] at letter
  cases letter

end

/-- What a run becomes. The name at the end of a run is taken for a whole one where it stands
right behind another. -/
def renamedRun (old new run : List Char) : List Char :=
  if run = old then new
  else if old ++ old <:+ run then run.take (run.length - old.length) ++ new
  else run

/-- What a run is to become: a name on its own is replaced, and all else stays. -/
def replacedRun (old new run : List Char) : List Char :=
  if run = old then new else run

section

variable {old new : List Char} (word : old ≠ [])

include word

theorem renameIdentifier_run (identifier : ∀ character ∈ old, isIdentifierCharacter character)
    (unbordered : IsUnbordered old) {text run : List Char} (member : run ∈ runs text) :
    renameIdentifier old new run = renamedRun old new run := by
  rcases alike_of_mem_runs member with inside | outside
  · unfold renamedRun
    split
    case isTrue same =>
      rw [same]
      exact renameIdentifier_self word
    case isFalse other =>
      split
      case isTrue ends =>
        rcases ends with ⟨front, rfl⟩
        have letters := (List.forall_mem_append.mp inside).1
        rw [renameIdentifier_of_behind word identifier unbordered letters, ← List.append_assoc,
          ← List.append_assoc, List.length_append, Nat.add_sub_cancel, List.take_left]
      case isFalse alone => exact renameIdentifier_of_alone word inside other alone
  · have something : old.head word ∈ run → False := fun among => by
      have letter := identifier _ (List.head_mem word)
      rw [outside _ among] at letter
      cases letter
    have other : run ≠ old := fun same => something (same ▸ List.head_mem word)
    have alone : ¬old ++ old <:+ run := fun ends =>
      something (ends.subset (List.mem_append_left old (List.head_mem word)))
    rw [renameIdentifier_of_outside word identifier outside, renamedRun, if_neg other,
      if_neg alone]

theorem renamedRun_eq_iff (longer : old.length < new.length) (run : List Char) :
    renamedRun old new run = replacedRun old new run ↔ ¬old ++ old <:+ run := by
  have nonempty := List.length_pos_iff.mpr word
  unfold renamedRun replacedRun
  split
  case isTrue same =>
    refine ⟨fun _ ends => ?_, fun _ => rfl⟩
    have short := ends.length_le
    rw [same, List.length_append] at short
    omega
  case isFalse =>
    split
    case isTrue ends =>
      refine ⟨fun same => ?_, fun alone => absurd ends alone⟩
      have length := congrArg List.length same
      have long := ends.length_le
      rw [List.length_append, List.length_take] at length
      rw [List.length_append] at long
      omega
    case isFalse alone => exact ⟨fun _ => alone, fun _ => rfl⟩

theorem length_replacedRun_le (longer : old.length < new.length) (run : List Char) :
    (replacedRun old new run).length ≤ (renamedRun old new run).length := by
  by_cases alone : old ++ old <:+ run
  · rw [renamedRun, replacedRun, if_pos alone]
    split
    case isTrue => exact Nat.le_refl _
    case isFalse =>
      have long := alone.length_le
      rw [List.length_append] at long
      rw [List.length_append, List.length_take]
      omega
  · rw [(renamedRun_eq_iff word longer run).mpr alone]

end

/-! ## All runs -/

/-- Longer pieces give the same text only where they are the same. -/
theorem flatMap_eq_flatMap_iff {pieces : List (List Char)} {first second : List Char → List Char}
    (longer : ∀ piece ∈ pieces, (second piece).length ≤ (first piece).length) :
    pieces.flatMap first = pieces.flatMap second ↔
      ∀ piece ∈ pieces, first piece = second piece := by
  refine ⟨fun same => ?_, List.flatMap_congr⟩
  induction pieces with
  | nil => exact nofun
  | cons piece rest induction =>
      rcases List.forall_mem_cons.mp longer with ⟨here, later⟩
      have behind : (rest.flatMap second).length ≤ (rest.flatMap first).length := by
        rw [List.length_flatMap, List.length_flatMap]
        exact List.sum_le_sum later
      rw [List.flatMap_cons, List.flatMap_cons] at same
      have length := congrArg List.length same
      rw [List.length_append, List.length_append] at length
      rcases List.append_inj same (by omega) with ⟨equal, others⟩
      exact List.forall_mem_cons.mpr ⟨equal, induction later others⟩

section

variable {old new : List Char} (word : old ≠ [])

include word

theorem renameIdentifier_runs (identifier : ∀ character ∈ old, isIdentifierCharacter character)
    (unbordered : IsUnbordered old) (text : List Char) :
    renameIdentifier old new text = (runs text).flatMap (renamedRun old new) := by
  calc renameIdentifier old new text
      = renameIdentifier old new (runs text).flatten := by rw [flatten_runs]
    _ = (runs text).flatMap (renameIdentifier old new) :=
        renameIdentifier_flatten word identifier (List.nil_notMem_splitBy _ text)
          (isChain_apart_runs text)
    _ = (runs text).flatMap (renamedRun old new) :=
        List.flatMap_congr fun run member =>
          renameIdentifier_run word identifier unbordered member

theorem flatMap_renamedRun_eq_iff (longer : old.length < new.length)
    (pieces : List (List Char)) :
    pieces.flatMap (renamedRun old new) = pieces.flatMap (replacedRun old new) ↔
      ∀ run ∈ pieces, ¬old ++ old <:+ run := by
  rw [flatMap_eq_flatMap_iff fun run _ => length_replacedRun_le word longer run]
  simp only [renamedRun_eq_iff word longer]

end

/-! ## The lines of a stage -/

namespace Setting

variable (setting : Setting) (slots : Slots)

/-- What a line becomes before the colour output is renamed in it. -/
def unrenamedLine (line : List Char) : List Char :=
  if isDropped line then []
  else if Declaration.isDirective line then line
  else
    let (code, comment) := Declaration.splitComment line
    (setting.lowerStatements slots (splitAfter ';' code)).text ++ comment

theorem text_lowerLine (line : List Char) :
    (setting.lowerLine slots line).text = setting.renamed (setting.unrenamedLine slots line) := by
  unfold unrenamedLine
  split
  case isTrue drops =>
    rw [setting.renamed_of_no_underscore List.not_mem_nil, lowerLine, if_pos drops]
  case isFalse stays =>
    split
    case isTrue directive => rw [setting.lowerLine_of_directive slots stays directive]
    case isFalse code => rw [setting.lowerLine_of_code slots code]

end Setting

theorem isUnbordered_fragColor : IsUnbordered fragColor := by
  have ends : ∀ part ∈ fragColor.tails, part <+: fragColor → part = [] ∨ part = fragColor := by
    decide
  exact fun part ending => ends part ((List.mem_tails part fragColor).mpr ending)

/-- In a line of an ES 1.00 fragment stage, the colour output is renamed where it is a whole
run, and all else stays, exactly if no run ends in the name twice. -/
theorem renames_whole_runs_iff (layout : Layout) (slots : Slots) (line : List Char) :
    let setting : Setting := { stage := .fragment, dialect := .legacy, layout }
    let text := setting.unrenamedLine slots line
    (setting.lowerLine slots line).text =
        (runs text).flatMap (renamedRun fragColor fragColorOutput) ∧
      ((setting.lowerLine slots line).text =
          (runs text).flatMap (replacedRun fragColor fragColorOutput) ↔
        ∀ run ∈ runs text, ¬fragColor ++ fragColor <:+ run) := by
  intro setting text
  have identifier : ∀ character ∈ fragColor, isIdentifierCharacter character :=
    List.all_eq_true.mp (by decide)
  have law : (setting.lowerLine slots line).text =
      (runs text).flatMap (renamedRun fragColor fragColorOutput) := by
    rw [setting.text_lowerLine]
    exact renameIdentifier_runs (by decide) identifier isUnbordered_fragColor text
  refine ⟨law, ?_⟩
  rw [law]
  exact flatMap_renamedRun_eq_iff (by decide) (by decide) (runs text)

/-- A run that is not the name of the colour output, and yet is renamed at its end. -/
theorem renamed_within_run :
    let setting : Setting := { stage := .fragment, dialect := .legacy, layout := .empty }
    let line := "float gl_FragColorgl_FragColor;".toList
    let lowered := (setting.lowerLine .initial line).text
    runs line = ["float".toList, [' '], "gl_FragColorgl_FragColor".toList, [';']] ∧
      setting.unrenamedLine .initial line = line ∧
      lowered = "float gl_FragColorzenith_FragColor;".toList ∧
      lowered ≠ (runs line).flatMap (replacedRun fragColor fragColorOutput) := by
  decide +kernel

end Glsl

end LiveShader
