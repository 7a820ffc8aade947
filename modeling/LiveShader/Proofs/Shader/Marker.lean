import Mathlib.Algebra.Group.Nat.Even
import LiveShader.Proofs.Text.Trimming
import LiveShader.Shader.Split

/-! # Markers in a text

Where a marker stands in a text, and which of the markers the scan finds. The scan
takes slashes in pairs from the left, so it sees the markers in front of which the
slashes pair up, and of these it finds the first. -/

namespace LiveShader.Marker

variable {stage : Stage} {text before after : List Char}

/-- The characters of a stage's marker: two slashes, the stage's name and `shader`, in
any ASCII case, with spaces or tabs between them. -/
inductive Spells (stage : Stage) : List Char → Prop where
  | marker {indent name gap word : List Char} (indented : ∀ character ∈ indent, isGap character)
      (named : name.map Char.toLower = stage.name.toList)
      (apart : gap ≠ []) (spaced : ∀ character ∈ gap, isGap character)
      (closed : word.map Char.toLower = "shader".toList) :
      Spells stage ('/' :: '/' :: (indent ++ (name ++ (gap ++ word))))

/-- Whether a word may end where a text begins. -/
def EndsWord (text : List Char) : Prop :=
  ∀ next ∈ text.head?, isWordCharacter next = false

/-- A marker of a stage stands in a text between what precedes and what follows it. -/
structure Stands (stage : Stage) (text before after : List Char) : Prop where
  marker : ∃ marker, Spells stage marker ∧ text = before ++ (marker ++ after)
  ends : EndsWord after

/-- No marker of the stage stands further to the left. -/
structure IsFirst (stage : Stage) (text before after : List Char) : Prop
    extends Stands stage text before after where
  least : ∀ earlier rest, Stands stage text earlier rest → before.length ≤ earlier.length

/-- The number of slashes that a text ends with. -/
def trailingSlashes (text : List Char) : Nat :=
  (text.reverse.takeWhile (· == '/')).length

/-- A marker that the scan comes to. The slashes in front of it pair up. -/
structure IsSeen (stage : Stage) (text before after : List Char) : Prop
    extends Stands stage text before after where
  paired : Even (trailingSlashes before)

/-- The marker that the scan finds: of those that it comes to, the first. -/
structure IsFound (stage : Stage) (text before after : List Char) : Prop
    extends IsSeen stage text before after where
  least : ∀ earlier rest, IsSeen stage text earlier rest → before.length ≤ earlier.length

/-! ## Slashes at the end of a text -/

theorem trailingSlashes_of_all_slashes (all : ∀ character ∈ text, character = '/') :
    trailingSlashes text = text.length := by
  have whole : text.reverse.takeWhile (· == '/') = text.reverse := by
    simpa [List.takeWhile_eq_self_iff] using all
  rw [trailingSlashes, whole, List.length_reverse]

/-- Slashes are counted back to the last character that is none. -/
theorem trailingSlashes_append_of_other {first second : List Char}
    (other : ∃ character ∈ second, character ≠ '/') :
    trailingSlashes (first ++ second) = trailingSlashes second := by
  have short : (second.reverse.takeWhile (· == '/')).length ≠ second.reverse.length := by
    intro same
    have whole : second.reverse.takeWhile (· == '/') = second.reverse :=
      (List.takeWhile_prefix _).eq_of_length same
    rw [List.takeWhile_eq_self_iff] at whole
    rcases other with ⟨character, member, different⟩
    exact different (by simpa using whole character (List.mem_reverse.mpr member))
  rw [trailingSlashes, List.reverse_append, List.takeWhile_append, if_neg short, trailingSlashes]

theorem trailingSlashes_append_of_all_slashes {first second : List Char}
    (all : ∀ character ∈ second, character = '/') :
    trailingSlashes (first ++ second) = second.length + trailingSlashes first := by
  have whole : (second.reverse.takeWhile (· == '/')).length = second.reverse.length := by
    rw [← trailingSlashes, trailingSlashes_of_all_slashes all, List.length_reverse]
  rw [trailingSlashes, List.reverse_append, List.takeWhile_append, if_pos whole,
    List.length_append, List.length_reverse, trailingSlashes]

/-- Behind a text that does not end in a slash, only the later slashes count. -/
theorem trailingSlashes_append {first : List Char} (none : trailingSlashes first = 0)
    (second : List Char) : trailingSlashes (first ++ second) = trailingSlashes second := by
  by_cases all : ∀ character ∈ second, character = '/'
  · rw [trailingSlashes_append_of_all_slashes all, trailingSlashes_of_all_slashes all, none,
      Nat.add_zero]
  · exact trailingSlashes_append_of_other (by simpa using all)

theorem trailingSlashes_of_not_mem (none : '/' ∉ text) : trailingSlashes text = 0 := by
  rw [trailingSlashes, List.length_eq_zero_iff, List.takeWhile_eq_nil_iff]
  intro bound slash
  have member := List.mem_reverse.mp (List.get_mem text.reverse ⟨0, bound⟩)
  exact none (beq_iff_eq.mp slash ▸ member)

/-! ## The words of a marker -/

theorem dropLetters?_eq_some_iff {word rest : List Char} :
    dropLetters? word text = some rest ↔
      ∃ letters, text = letters ++ rest ∧ letters.map Char.toLower = word := by
  induction word generalizing text with
  | nil =>
      constructor
      · intro read
        cases read
        exact ⟨[], rfl, rfl⟩
      · rintro ⟨letters, rfl, none⟩
        rw [List.map_eq_nil_iff.mp none]
        rfl
  | cons letter word induction =>
      cases text with
      | nil =>
          constructor
          · intro read
            cases read
          · rintro ⟨letters, split, spelled⟩
            rw [(List.append_eq_nil_iff.mp split.symm).1] at spelled
            cases spelled
      | cons character text =>
          rw [dropLetters?]
          constructor
          · intro read
            split at read
            case isTrue same =>
              rcases induction.mp read with ⟨letters, rfl, spelled⟩
              exact ⟨character :: letters, rfl, by rw [List.map_cons, same, spelled]⟩
            case isFalse => cases read
          · rintro ⟨letters, split, spelled⟩
            cases letters with
            | nil => cases spelled
            | cons first letters =>
                rw [List.map_cons, List.cons.injEq] at spelled
                rw [List.cons_append, List.cons.injEq] at split
                rw [if_pos (split.1 ▸ spelled.1)]
                exact induction.mpr ⟨letters, split.2, spelled.2⟩

theorem dropWord?_eq_some_iff {word rest : List Char} :
    dropWord? word text = some rest ↔
      EndsWord rest ∧ ∃ letters, text = letters ++ rest ∧ letters.map Char.toLower = word := by
  rw [← dropLetters?_eq_some_iff, dropWord?]
  split
  case h_1 next others read =>
    rw [read, Option.some.injEq]
    cases continued : isWordCharacter next with
    | false =>
        simp only [Bool.false_eq_true, if_false, Option.some.injEq]
        constructor
        · rintro rfl
          exact ⟨fun character member => Option.some.inj member ▸ continued, rfl⟩
        · exact And.right
    | true =>
        simp only [if_true, reduceCtorEq, false_iff, not_and]
        rintro ends rfl
        rw [ends next rfl] at continued
        cases continued
  case h_2 read =>
    simp only [read, Option.some.injEq]
    constructor
    · rintro rfl
      exact ⟨nofun, rfl⟩
    · exact And.right
  case h_3 read => simp [read]

theorem toLower_of_isGap {character : Char} (gap : isGap character) :
    character.toLower = character := by
  simp only [isGap, Bool.or_eq_true, beq_iff_eq] at gap
  rcases gap with rfl | rfl <;> rfl

theorem isWordCharacter_of_isGap {character : Char} (gap : isGap character) :
    isWordCharacter character = false := by
  simp only [isGap, Bool.or_eq_true, beq_iff_eq] at gap
  rcases gap with rfl | rfl <;> rfl

theorem solid_of_spelled {word letters : List Char} (spelled : letters.map Char.toLower = word)
    (solid : word.head?.any isGap = false) (something : word ≠ []) (rest : List Char) :
    ∀ next ∈ (letters ++ rest).head?, isGap next = false := by
  cases letters with
  | nil => exact absurd spelled.symm something
  | cons first letters =>
      intro next member
      cases member
      by_contra gap
      have gap : isGap first := by simpa using gap
      have same : word.head? = some first.toLower := by rw [← spelled]; rfl
      rw [same, toLower_of_isGap gap, Option.any_some, gap] at solid
      cases solid

theorem dropWords?_eq_some_iff :
    dropWords? stage text = some after ↔
      EndsWord after ∧ ∃ marker, Spells stage marker ∧ '/' :: '/' :: text = marker ++ after := by
  have solid : stage.name.toList.head?.any isGap = false := by cases stage <;> decide
  have something : stage.name.toList ≠ [] := by cases stage <;> decide
  constructor
  · intro read
    rw [dropWords?] at read
    split at read
    case h_1 gap rest named =>
      split at read
      case isTrue blank =>
        rcases dropWord?_eq_some_iff.mp named with ⟨_, name, nameSplit, spelled⟩
        rcases dropWord?_eq_some_iff.mp read with ⟨ends, word, wordSplit, closed⟩
        let indent := text.takeWhile isGap
        let gaps := rest.takeWhile isGap
        have words : text = indent ++ (name ++ gap :: (gaps ++ (word ++ after))) := by
          rw [← wordSplit, List.takeWhile_append_dropWhile, ← nameSplit,
            List.takeWhile_append_dropWhile]
        have indented : ∀ character ∈ indent, isGap character :=
          fun _ member => List.mem_takeWhile_imp member
        have spaced : ∀ character ∈ gap :: gaps, isGap character :=
          List.forall_mem_cons.mpr ⟨blank, fun _ member => List.mem_takeWhile_imp member⟩
        refine ⟨ends, _, .marker indented spelled (List.cons_ne_nil gap gaps) spaced closed, ?_⟩
        rw [words]
        simp
      case isFalse => cases read
    case h_2 => cases read
  · rintro ⟨ends, marker, spells, split⟩
    cases spells with
    | @marker indent name gap word indented named apart spaced closed =>
        have words : text = indent ++ (name ++ (gap ++ (word ++ after))) := by
          simpa using split
        rcases List.exists_cons_of_ne_nil apart with ⟨first, gaps, rfl⟩
        rcases List.forall_mem_cons.mp spaced with ⟨firstGap, otherGaps⟩
        have nameRead : dropWord? stage.name.toList (text.dropWhile isGap) =
            some (first :: (gaps ++ (word ++ after))) := by
          rw [words, Text.dropWhile_front indented (solid_of_spelled named solid something _)]
          refine dropWord?_eq_some_iff.mpr ⟨?_, name, rfl, named⟩
          intro next member
          cases member
          exact isWordCharacter_of_isGap firstGap
        have wordRead : dropWord? "shader".toList ((gaps ++ (word ++ after)).dropWhile isGap) =
            some after := by
          rw [Text.dropWhile_front otherGaps (solid_of_spelled closed (by decide) (by decide) _)]
          exact dropWord?_eq_some_iff.mpr ⟨ends, word, rfl, closed⟩
        simp only [dropWords?, nameRead, firstGap, if_true, wordRead]

/-! ## Places of markers -/

theorem stands_nil_iff :
    Stands stage text [] after ↔
      ∃ rest, text = '/' :: '/' :: rest ∧ dropWords? stage rest = some after := by
  constructor
  · rintro ⟨⟨marker, spells, split⟩, ends⟩
    cases spells with
    | @marker indent name gap word indented named apart spaced closed =>
        have spells : Spells stage _ := .marker indented named apart spaced closed
        exact ⟨_, split, dropWords?_eq_some_iff.mpr ⟨ends, _, spells, rfl⟩⟩
  · rintro ⟨rest, rfl, read⟩
    rcases dropWords?_eq_some_iff.mp read with ⟨ends, marker, spells, split⟩
    exact ⟨⟨marker, spells, split⟩, ends⟩

theorem stands_cons_iff {character first : Char} :
    Stands stage (character :: text) (first :: before) after ↔
      first = character ∧ Stands stage text before after := by
  constructor
  · rintro ⟨⟨marker, spells, split⟩, ends⟩
    rw [List.cons_append, List.cons.injEq] at split
    exact ⟨split.1.symm, ⟨marker, spells, split.2⟩, ends⟩
  · rintro ⟨rfl, ⟨marker, spells, split⟩, ends⟩
    exact ⟨⟨marker, spells, congrArg _ split⟩, ends⟩

theorem Stands.append_left (stands : Stands stage text before after) (front : List Char) :
    Stands stage (front ++ text) (front ++ before) after := by
  rcases stands with ⟨⟨marker, spells, rfl⟩, ends⟩
  exact ⟨⟨marker, spells, (List.append_assoc _ _ _).symm⟩, ends⟩

theorem not_stands_nil_text : ¬Stands stage [] before after := by
  rintro ⟨⟨marker, spells, split⟩, ends⟩
  cases spells
  simp at split

theorem Stands.unique {other rest : List Char} (stands : Stands stage text before after)
    (again : Stands stage text other rest) (same : other.length = before.length) :
    other = before ∧ rest = after := by
  induction before generalizing text other with
  | nil =>
      cases List.eq_nil_of_length_eq_zero same
      rcases stands_nil_iff.mp stands with ⟨inner, rfl, read⟩
      rcases stands_nil_iff.mp again with ⟨_, split, readAgain⟩
      cases split
      rw [read] at readAgain
      cases readAgain
      exact ⟨rfl, rfl⟩
  | cons first before induction =>
      cases text with
      | nil => exact absurd stands not_stands_nil_text
      | cons character text =>
          cases other with
          | nil => cases same
          | cons second other =>
              rcases stands_cons_iff.mp stands with ⟨rfl, later⟩
              rcases stands_cons_iff.mp again with ⟨rfl, laterAgain⟩
              rcases induction later laterAgain (Nat.succ.inj same) with ⟨rfl, rfl⟩
              exact ⟨rfl, rfl⟩

/-- Behind two slashes that open no marker, the scan goes on as in a new text. -/
theorem isSeen_slashes_iff {rest : List Char} (closed : dropWords? stage rest = none) :
    IsSeen stage ('/' :: '/' :: rest) before after ↔
      ∃ later, before = '/' :: '/' :: later ∧ IsSeen stage rest later after := by
  have parity (later : List Char) :
      Even (trailingSlashes ('/' :: '/' :: later)) ↔ Even (trailingSlashes later) := by
    by_cases all : ∀ character ∈ later, character = '/'
    · have more : trailingSlashes ('/' :: '/' :: later) = later.length + 2 :=
        @trailingSlashes_of_all_slashes ('/' :: '/' :: later) (by simpa using all)
      rw [more, trailingSlashes_of_all_slashes all, Nat.even_iff, Nat.even_iff]
      omega
    · have other : ∃ character ∈ later, character ≠ '/' := by simpa using all
      rw [← @trailingSlashes_append_of_other ['/', '/'] _ other]
      rfl
  constructor
  · rintro ⟨stands, paired⟩
    rcases before with _ | ⟨first, _ | ⟨second, later⟩⟩
    · rcases stands_nil_iff.mp stands with ⟨_, split, read⟩
      cases split
      rw [closed] at read
      cases read
    · cases (stands_cons_iff.mp stands).1
      exact absurd paired Nat.not_even_one
    · rcases stands_cons_iff.mp stands with ⟨rfl, behind⟩
      rcases stands_cons_iff.mp behind with ⟨rfl, inner⟩
      exact ⟨later, rfl, inner, (parity later).mp paired⟩
  · rintro ⟨later, rfl, seen⟩
    exact ⟨seen.toStands.append_left ['/', '/'], (parity later).mpr seen.paired⟩

/-- A character that does not begin two slashes is passed over alone. -/
theorem isSeen_other_iff {character : Char} {rest : List Char}
    (single : ∀ more, character = '/' → rest = '/' :: more → False) :
    IsSeen stage (character :: rest) before after ↔
      ∃ later, before = character :: later ∧ IsSeen stage rest later after := by
  have slashes {later : List Char} (stands : Stands stage rest later after) :
      trailingSlashes (character :: later) = trailingSlashes later := by
    by_cases slash : character = '/'
    · -- The marker does not begin here, so some other character comes first.
      rcases later with _ | ⟨first, later⟩
      · rcases stands_nil_iff.mp stands with ⟨more, split, _⟩
        exact (single _ slash split).elim
      · have other : first ≠ '/' := by
          rintro rfl
          cases rest with
          | nil => exact not_stands_nil_text stands
          | cons second more =>
              cases (stands_cons_iff.mp stands).1
              exact single more slash rfl
        exact @trailingSlashes_append_of_other [character] _ ⟨first, .head _, other⟩
    · have none : '/' ∉ [character] := by simpa using Ne.symm slash
      exact trailingSlashes_append (trailingSlashes_of_not_mem none) later
  constructor
  · rintro ⟨stands, paired⟩
    rcases before with _ | ⟨first, later⟩
    · rcases stands_nil_iff.mp stands with ⟨more, split, _⟩
      cases split
      exact (single _ rfl rfl).elim
    · rcases stands_cons_iff.mp stands with ⟨rfl, inner⟩
      rw [slashes inner] at paired
      exact ⟨later, rfl, inner, paired⟩
  · rintro ⟨later, rfl, seen⟩
    have paired := seen.paired
    rw [← slashes seen.toStands] at paired
    exact ⟨seen.toStands.append_left [character], paired⟩

/-! ## What the scan passes over -/

theorem split?_cons_of_single {character : Char} {rest : List Char}
    (single : ¬['/', '/'] <+: character :: rest) :
    split? stage (character :: rest) =
      (split? stage rest).map fun (before, after) => (character :: before, after) := by
  rw [split?]
  rintro more rfl rfl
  exact single ⟨more, rfl⟩

theorem split?_append_of_not_mem {front : List Char} (none : '/' ∉ front) (rest : List Char) :
    split? stage (front ++ rest) =
      (split? stage rest).map fun (before, after) => (front ++ before, after) := by
  induction front with
  | nil => simp
  | cons character front induction =>
      rw [List.mem_cons, not_or] at none
      have single : ¬['/', '/'] <+: character :: (front ++ rest) :=
        fun leads => none.1 (List.cons_prefix_cons.mp leads).1
      rw [List.cons_append, split?_cons_of_single single, induction none.2, Option.map_map]
      rfl

/-! ## What the scan finds -/

section

variable {passed rest : List Char}

theorem forall_not_isSeen_iff
    (goes : ∀ before after, IsSeen stage text before after ↔
      ∃ later, before = passed ++ later ∧ IsSeen stage rest later after) :
    (∀ before after, ¬IsSeen stage rest before after) ↔
      ∀ before after, ¬IsSeen stage text before after := by
  constructor
  · intro none before after seen
    rcases (goes before after).mp seen with ⟨later, _, seenLater⟩
    exact none later after seenLater
  · exact fun none before after seen => none _ after ((goes _ after).mpr ⟨before, rfl, seen⟩)

theorem IsFound.append_left
    (goes : ∀ before after, IsSeen stage text before after ↔
      ∃ later, before = passed ++ later ∧ IsSeen stage rest later after)
    (found : IsFound stage rest before after) : IsFound stage text (passed ++ before) after where
  toIsSeen := (goes _ _).mpr ⟨before, rfl, found.toIsSeen⟩
  least := by
    intro earlier behind seen
    rcases (goes earlier behind).mp seen with ⟨later, rfl, seenLater⟩
    rw [List.length_append, List.length_append]
    exact Nat.add_le_add_left (found.least later behind seenLater) _

end

theorem split?_eq_none_iff :
    split? stage text = none ↔ ∀ before after, ¬IsSeen stage text before after := by
  fun_induction split? stage text with
  | case1 =>
      have nothing : ∀ before after, ¬IsSeen stage [] before after :=
        fun before after seen => not_stands_nil_text seen.toStands
      exact iff_of_true rfl nothing
  | case2 rest after read =>
      refine iff_of_false nofun fun none => none [] after ⟨?_, Even.zero⟩
      exact stands_nil_iff.mpr ⟨rest, rfl, read⟩
  | case3 rest closed induction =>
      rw [Option.map_eq_none_iff, induction]
      exact @forall_not_isSeen_iff _ _ ['/', '/'] _ fun _ _ => isSeen_slashes_iff closed
  | case4 character rest single induction =>
      rw [Option.map_eq_none_iff, induction]
      exact @forall_not_isSeen_iff _ _ [character] _ fun _ _ => isSeen_other_iff single

theorem isFound_of_split? (read : split? stage text = some (before, after)) :
    IsFound stage text before after := by
  fun_induction split? stage text generalizing before with
  | case1 => cases read
  | case2 rest after words =>
      cases read
      exact ⟨⟨stands_nil_iff.mpr ⟨rest, rfl, words⟩, Even.zero⟩, fun _ _ _ => Nat.zero_le _⟩
  | case3 rest closed induction =>
      rcases Option.map_eq_some_iff.mp read with ⟨⟨later, behind⟩, readLater, same⟩
      cases same
      exact @IsFound.append_left _ _ _ _ ['/', '/'] _ (fun _ _ => isSeen_slashes_iff closed)
        (induction readLater)
  | case4 character rest single induction =>
      rcases Option.map_eq_some_iff.mp read with ⟨⟨later, behind⟩, readLater, same⟩
      cases same
      exact @IsFound.append_left _ _ _ _ [character] _ (fun _ _ => isSeen_other_iff single)
        (induction readLater)

theorem split?_eq_some_iff :
    split? stage text = some (before, after) ↔ IsFound stage text before after := by
  constructor
  · exact isFound_of_split?
  · intro found
    cases read : split? stage text with
    | none => exact absurd found.toIsSeen (split?_eq_none_iff.mp read before after)
    | some parts =>
        have other := isFound_of_split? read
        have same : parts.1.length = before.length :=
          Nat.le_antisymm (other.least _ _ found.toIsSeen) (found.least _ _ other.toIsSeen)
        rcases found.toStands.unique other.toStands same with ⟨rfl, rfl⟩
        rfl

/-- The scan finds the first marker exactly if the slashes in front of it pair up. -/
theorem IsFirst.split?_iff (first : IsFirst stage text before after) :
    split? stage text = some (before, after) ↔ Even (trailingSlashes before) := by
  rw [split?_eq_some_iff]
  constructor
  · exact fun found => found.paired
  · exact fun paired =>
      ⟨⟨first.toStands, paired⟩, fun earlier rest seen => first.least earlier rest seen.toStands⟩

theorem exists_isFirst (stands : Stands stage text before after) :
    ∃ first rest, IsFirst stage text first rest ∧ first.length ≤ before.length := by
  induction length : before.length using Nat.strongRecOn generalizing before after with
  | ind count induction =>
      by_cases least : ∀ earlier rest, Stands stage text earlier rest →
          before.length ≤ earlier.length
      · exact ⟨before, after, ⟨stands, least⟩, Nat.le_of_eq length⟩
      · push Not at least
        rcases least with ⟨earlier, rest, standsEarlier, shorter⟩
        rw [length] at shorter
        rcases induction _ shorter standsEarlier rfl with ⟨first, behind, isFirst, bound⟩
        exact ⟨first, behind, isFirst, by omega⟩

/-! ## What stands between markers -/

/-- A marker is one piece: behind its slashes stand letters, spaces and tabs only. -/
theorem Spells.exists_body {marker : List Char} (spells : Spells stage marker) :
    ∃ body, marker = '/' :: '/' :: body ∧ '/' ∉ body ∧ '\n' ∉ body := by
  cases spells with
  | @marker indent name gap word indented named apart spaced closed =>
      have outside (character : Char) (solid : isGap character = false)
          (foreign : character.toLower ∉ stage.name.toList)
          (unknown : character.toLower ∉ "shader".toList) :
          character ∉ indent ++ (name ++ (gap ++ word)) := by
        simp only [List.mem_append, not_or]
        refine ⟨fun member => ?_, fun member => ?_, fun member => ?_, fun member => ?_⟩
        · rw [indented _ member] at solid
          cases solid
        · rw [← named] at foreign
          exact foreign (List.mem_map_of_mem member)
        · rw [spaced _ member] at solid
          cases solid
        · rw [← closed] at unknown
          exact unknown (List.mem_map_of_mem member)
      refine ⟨_, rfl, outside _ rfl ?_ (by decide), outside _ rfl ?_ (by decide)⟩ <;>
        cases stage <;> decide

/-- A marker that begins behind the slashes of another stands behind that whole marker. -/
theorem Stands.behind {other : Stage} {front rest : List Char}
    (stands : Stands stage text before after) (later : Stands other text front rest)
    (further : before.length + 2 ≤ front.length) :
    ∃ between, Stands other after between rest := by
  rcases stands with ⟨⟨marker, spells, split⟩, _⟩
  rcases later with ⟨⟨second, secondSpells, again⟩, ends⟩
  rcases spells.exists_body with ⟨body, rfl, noSlash, _⟩
  rcases secondSpells.exists_body with ⟨_, rfl, _, _⟩
  rw [split, ← List.append_assoc] at again
  rcases List.append_eq_append_iff.mp again with ⟨between, _, left⟩ | ⟨inner, reaches, begins⟩
  · exact ⟨between, ⟨_, secondSpells, left⟩, ends⟩
  · cases inner with
    | nil => exact ⟨[], ⟨_, secondSpells, begins.symm⟩, ends⟩
    | cons slash inner =>
        -- The other marker would begin with a slash inside of this one.
        cases (List.cons.inj begins).1
        have regrouped : (before ++ ['/', '/']) ++ body = front ++ '/' :: inner := by
          simpa using reaches
        rcases List.append_eq_append_iff.mp regrouped with ⟨_, _, inside⟩ | ⟨short, whole, inside⟩
        · exact absurd (inside ▸ List.mem_append_right _ List.mem_cons_self) noSlash
        · have lengths := congrArg List.length whole
          simp only [List.length_append, List.length_cons, List.length_nil] at lengths
          cases List.eq_nil_of_length_eq_zero (show short.length = 0 by omega)
          rw [List.nil_append] at inside
          exact absurd (inside ▸ List.mem_cons_self) noSlash

/-- The comment that announces a stage is a marker where its last word ends. -/
theorem stands_marker (stage : Stage) (before : List Char) (ends : EndsWord after) :
    Stands stage (before ++ (stage.marker.toList ++ after)) before after := by
  refine ⟨⟨stage.marker.toList, ?_, rfl⟩, ends⟩
  have gap : ∀ character ∈ [' '], isGap character := List.all_eq_true.mp (by decide)
  have shader : "SHADER".toList.map Char.toLower = "shader".toList := by decide
  have spells {name : List Char} (named : name.map Char.toLower = stage.name.toList) :
      Spells stage ('/' :: '/' :: ([' '] ++ (name ++ ([' '] ++ "SHADER".toList)))) :=
    .marker gap named (List.cons_ne_nil _ _) gap shader
  cases stage with
  | vertex => exact spells (show "VERTEX".toList.map Char.toLower = _ by decide)
  | fragment => exact spells (show "FRAGMENT".toList.map Char.toLower = _ by decide)

end LiveShader.Marker
