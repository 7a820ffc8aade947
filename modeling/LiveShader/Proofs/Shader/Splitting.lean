import LiveShader.Proofs.Shader.Marker

/-! # Cutting a text at its markers

A text is cut at the first marker of each stage, as far as the slashes in front of that
marker pair up. The stages that come out, put under fresh markers, are cut into the same
stages again. -/

namespace LiveShader

open Text Marker

variable {text : String} {pair : StagePair}

/-- The text that announces each stage and then gives its source. -/
def StagePair.joined (pair : StagePair) : String :=
  Stage.vertex.marker ++ "\n" ++ pair.vertex ++ "\n" ++ Stage.fragment.marker ++ "\n" ++
    pair.fragment

theorem splitStages_eq_ok_iff :
    splitStages text = .ok pair ↔
      ∃ preamble rest vertex fragment,
        split? .vertex text.toList = some (preamble, rest) ∧
        split? .fragment rest = some (vertex, fragment) ∧
        trim vertex ≠ [] ∧ trim fragment ≠ [] ∧
        pair = { vertex := .ofList (trim vertex), fragment := .ofList (trim fragment) } := by
  constructor
  · intro split
    rw [splitStages] at split
    split at split
    case h_1 => cases split
    case h_2 preamble rest announced =>
      split at split
      case h_1 => split at split <;> cases split
      case h_2 vertex fragment parted =>
        simp only [List.isEmpty_iff] at split
        split at split
        case isTrue => cases split
        case isFalse something =>
          split at split
          case isTrue => cases split
          case isFalse anything =>
            cases split
            exact ⟨preamble, rest, vertex, fragment, announced, parted, something, anything, rfl⟩
  · rintro ⟨preamble, rest, vertex, fragment, announced, parted, something, anything, rfl⟩
    simp [splitStages, announced, parted, something, anything]

theorem splitStages_ne_missing {preamble rest : List Char}
    (announced : split? .vertex text.toList = some (preamble, rest)) :
    splitStages text ≠ .error (.missingMarker .vertex) := by
  intro missing
  rw [splitStages, announced] at missing
  simp only at missing
  split at missing
  case h_1 => split at missing <;> cases missing
  case h_2 =>
    split at missing
    case isTrue => cases missing
    case isFalse => split at missing <;> cases missing

/-! ## The first markers -/

/-- Where the comments that announce the stages stand in order, so do a first vertex
marker and a first fragment marker behind it. -/
theorem exists_first_markers {all opening between closing : List Char}
    (written : all = opening ++ (Stage.vertex.marker.toList ++
      (between ++ (Stage.fragment.marker.toList ++ closing))))
    (vertexEnds : EndsWord between) (fragmentEnds : EndsWord closing) :
    ∃ preamble rest vertex fragment,
      IsFirst .vertex all preamble rest ∧ IsFirst .fragment rest vertex fragment := by
  have boundary : EndsWord (between ++ (Stage.fragment.marker.toList ++ closing)) := by
    cases between with
    | nil => exact fun next member => by cases member; rfl
    | cons first others => exact vertexEnds
  have vertexStands : Stands .vertex all opening _ :=
    written ▸ stands_marker .vertex opening boundary
  have fragmentStands : Stands .fragment all
      (opening ++ (Stage.vertex.marker.toList ++ between)) closing := by
    have stands := stands_marker .fragment
      (opening ++ (Stage.vertex.marker.toList ++ between)) fragmentEnds
    simpa only [written, List.append_assoc] using stands
  rcases exists_isFirst vertexStands with ⟨preamble, rest, first, early⟩
  have further : preamble.length + 2 ≤
      (opening ++ (Stage.vertex.marker.toList ++ between)).length := by
    have long : 2 ≤ Stage.vertex.marker.toList.length := by decide
    simp only [List.length_append]
    omega
  rcases first.toStands.behind fragmentStands further with ⟨_, fragmentBehind⟩
  rcases exists_isFirst fragmentBehind with ⟨vertex, fragment, second, _⟩
  exact ⟨preamble, rest, vertex, fragment, first, second⟩

/-- The marker of each stage that a text is cut at is the first one, exactly if the
slashes in front of the first one pair up. A text with the comments that announce the
stages has these markers. -/
theorem splitStages_at_first_markers (text : String) :
    (∀ preamble rest, IsFirst .vertex text.toList preamble rest →
      (split? .vertex text.toList = some (preamble, rest) ↔ Even (trailingSlashes preamble)) ∧
      (Even (trailingSlashes preamble) → splitStages text ≠ .error (.missingMarker .vertex))) ∧
    (∀ preamble rest, split? .vertex text.toList = some (preamble, rest) →
      ∀ vertex fragment, IsFirst .fragment rest vertex fragment →
        (split? .fragment rest = some (vertex, fragment) ↔ Even (trailingSlashes vertex)) ∧
        (Even (trailingSlashes vertex) → trim vertex ≠ [] → trim fragment ≠ [] →
          splitStages text =
            .ok { vertex := .ofList (trim vertex), fragment := .ofList (trim fragment) })) ∧
    ∀ opening between closing,
      text.toList = opening ++ (Stage.vertex.marker.toList ++
        (between ++ (Stage.fragment.marker.toList ++ closing))) →
      EndsWord between → EndsWord closing →
        ∃ preamble rest vertex fragment,
          IsFirst .vertex text.toList preamble rest ∧ IsFirst .fragment rest vertex fragment ∧
          (Even (trailingSlashes preamble) → Even (trailingSlashes vertex) →
            trim vertex ≠ [] → trim fragment ≠ [] →
              splitStages text =
                .ok { vertex := .ofList (trim vertex), fragment := .ofList (trim fragment) }) := by
  refine ⟨?_, ?_, ?_⟩
  · intro preamble rest first
    exact ⟨first.split?_iff, fun paired => splitStages_ne_missing (first.split?_iff.mpr paired)⟩
  · intro preamble rest announced vertex fragment first
    refine ⟨first.split?_iff, fun paired something anything => ?_⟩
    have parted := first.split?_iff.mpr paired
    exact splitStages_eq_ok_iff.mpr
      ⟨preamble, rest, vertex, fragment, announced, parted, something, anything, rfl⟩
  · intro opening between closing written vertexEnds fragmentEnds
    rcases exists_first_markers written vertexEnds fragmentEnds with
      ⟨preamble, rest, vertex, fragment, first, second⟩
    refine ⟨preamble, rest, vertex, fragment, first, second, ?_⟩
    intro vertexPaired fragmentPaired something anything
    have announced := first.split?_iff.mpr vertexPaired
    have parted := second.split?_iff.mpr fragmentPaired
    exact splitStages_eq_ok_iff.mpr
      ⟨preamble, rest, vertex, fragment, announced, parted, something, anything, rfl⟩

/-- Two slashes in front of it leave the vertex marker to be found. -/
theorem splitStages_behind_paired_slashes :
    let text := "//// VERTEX SHADER\nA\n// FRAGMENT SHADER\nB"
    let rest := "\nA\n// FRAGMENT SHADER\nB".toList
    IsFirst .vertex text.toList ['/', '/'] rest ∧ Even (trailingSlashes ['/', '/']) ∧
      IsFirst .fragment rest "\nA\n".toList "\nB".toList ∧
      Even (trailingSlashes "\nA\n".toList) ∧
      splitStages text = .ok { vertex := "A", fragment := "B" } := by
  intro text rest
  let comment := " VERTEX SHADER\nA\n// FRAGMENT SHADER\nB".toList
  have law := splitStages_at_first_markers text
  have written : text.toList = ['/', '/'] ++ (Stage.vertex.marker.toList ++ rest) := by
    decide +kernel
  have inner : rest = "\nA\n".toList ++ (Stage.fragment.marker.toList ++ "\nB".toList) := by
    decide +kernel
  have ends : EndsWord rest := fun next member => by cases member; rfl
  have closes : EndsWord "\nB".toList := fun next member => by cases member; rfl
  have pairedVertex : Even (trailingSlashes ['/', '/']) := by decide
  have pairedFragment : Even (trailingSlashes "\nA\n".toList) := by decide
  have vertexFirst : IsFirst .vertex text.toList ['/', '/'] rest := by
    refine ⟨written ▸ stands_marker .vertex ['/', '/'] ends, fun earlier behind other => ?_⟩
    have slashes : text.toList = '/' :: '/' :: '/' :: '/' :: comment := by decide +kernel
    rw [slashes] at other
    rcases earlier with _ | ⟨first, _ | ⟨second, more⟩⟩
    · rcases stands_nil_iff.mp other with ⟨_, split, read⟩
      cases split
      have closed : dropWords? .vertex ('/' :: '/' :: comment) = none := by decide +kernel
      rw [closed] at read
      cases read
    · rcases stands_nil_iff.mp (stands_cons_iff.mp other).2 with ⟨_, split, read⟩
      cases split
      have closed : dropWords? .vertex ('/' :: comment) = none := by decide +kernel
      rw [closed] at read
      cases read
    · simp
  have fragmentFirst : IsFirst .fragment rest "\nA\n".toList "\nB".toList := by
    refine ⟨inner ▸ stands_marker .fragment "\nA\n".toList closes, fun earlier behind other => ?_⟩
    have line : rest = '\n' :: 'A' :: '\n' :: "// FRAGMENT SHADER\nB".toList := by decide +kernel
    rw [line] at other
    rcases earlier with _ | ⟨first, _ | ⟨second, _ | ⟨third, more⟩⟩⟩
    · rcases stands_nil_iff.mp other with ⟨_, split, _⟩
      cases split
    · rcases stands_nil_iff.mp (stands_cons_iff.mp other).2 with ⟨_, split, _⟩
      cases split
    · have last := (stands_cons_iff.mp (stands_cons_iff.mp other).2).2
      rcases stands_nil_iff.mp last with ⟨_, split, _⟩
      cases split
    · simp
  have announced := ((law.1 _ _ vertexFirst).1).mpr pairedVertex
  have split := (law.2.1 _ _ announced _ _ fragmentFirst).2 pairedFragment (by decide) (by decide)
  exact ⟨vertexFirst, pairedVertex, fragmentFirst, pairedFragment, split⟩

/-- A third slash in front of it hides the vertex marker. -/
theorem marker_behind_third_slash :
    let text := "/// VERTEX SHADER\nA\n// FRAGMENT SHADER\nB"
    IsFirst .vertex text.toList ['/'] "\nA\n// FRAGMENT SHADER\nB".toList ∧
      splitStages text = .error (.missingMarker .vertex) := by
  intro text
  let behind := "\nA\n// FRAGMENT SHADER\nB".toList
  have written : text.toList = ['/'] ++ (Stage.vertex.marker.toList ++ behind) := by
    decide +kernel
  have ends : EndsWord behind := fun next member => by cases member; rfl
  have stands : Stands .vertex text.toList ['/'] behind :=
    written ▸ stands_marker .vertex ['/'] ends
  have nowhere : split? .vertex text.toList = none := by decide +kernel
  refine ⟨⟨stands, fun earlier rest other => ?_⟩, ?_⟩
  · cases earlier with
    | nil =>
        -- A marker in front of which nothing stands would be seen.
        have seen : IsSeen .vertex text.toList [] rest := ⟨other, Even.zero⟩
        exact absurd seen (split?_eq_none_iff.mp nowhere [] rest)
    | cons => exact Nat.le_add_left 1 _
  · simp only [splitStages, nowhere]

/-! ## Cutting again -/

namespace Marker

variable {stage : Stage} {before after : List Char}

theorem isWordCharacter_of_isBlank {character : Char} (blank : isBlank character) :
    isWordCharacter character = false :=
  eq_false_of_isBlank (by decide +kernel) blank

/-- A marker that begins in front of a line end stands there as a whole. -/
theorem Stands.of_line {line rest : List Char}
    (stands : Stands stage (line ++ '\n' :: rest) before after)
    (early : before.length ≤ line.length) :
    ∃ marker left, Spells stage marker ∧ line = before ++ (marker ++ left) ∧
      after = left ++ '\n' :: rest := by
  rcases stands with ⟨⟨marker, spells, split⟩, _⟩
  rw [← List.append_assoc] at split
  rcases List.append_eq_append_iff.mp split with ⟨beyond, reaches, ended⟩ | ⟨left, inside, behind⟩
  · cases beyond with
    | nil => exact ⟨marker, [], spells, by simpa using reaches.symm, ended.symm⟩
    | cons first beyond =>
        -- The line end would be a character of the marker.
        cases (List.cons.inj ended).1
        rcases spells.exists_body with ⟨body, rfl, _, noLineEnd⟩
        rcases List.append_eq_append_iff.mp reaches with ⟨front, _, whole⟩ | ⟨front, short, whole⟩
        · have member : '\n' ∈ '/' :: '/' :: body := by simp [whole]
          exact absurd (by simpa using member) noLineEnd
        · have lengths := congrArg List.length short
          rw [List.length_append] at lengths
          cases List.eq_nil_of_length_eq_zero (show front.length = 0 by omega)
          cases whole
  · exact ⟨marker, left, spells, by simpa using inside, behind⟩

theorem EndsWord.of_blanks {blanks rest : List Char}
    (blank : ∀ character ∈ blanks, isBlank character) (ends : EndsWord rest) :
    EndsWord (blanks ++ rest) := by
  cases blanks with
  | nil => exact ends
  | cons next blanks =>
      intro character member
      cases member
      exact isWordCharacter_of_isBlank (blank next (.head _))

/-- A marker seen in a line is seen as well where blanks stand around the line. -/
theorem IsSeen.exists_of_line {line behind earlier rest front back more : List Char}
    (seen : IsSeen stage ('\n' :: (line ++ '\n' :: behind)) ('\n' :: earlier) rest)
    (early : earlier.length ≤ line.length) (frontBlank : ∀ character ∈ front, isBlank character)
    (backBlank : ∀ character ∈ back, isBlank character) (ends : EndsWord more) :
    earlier.length < line.length ∧
      ∃ left, IsSeen stage (front ++ (line ++ (back ++ more))) (front ++ earlier) left := by
  rcases (stands_cons_iff.mp seen.toStands).2.of_line early with
    ⟨marker, left, spells, rfl, rfl⟩
  refine ⟨?_, left ++ (back ++ more), ⟨⟨marker, spells, by simp⟩, ?_⟩, ?_⟩
  · rcases spells.exists_body with ⟨body, rfl, _⟩
    simp only [List.length_append, List.length_cons]
    omega
  · cases left with
    | nil =>
        have boundary : EndsWord (back ++ more) := .of_blanks backBlank ends
        exact boundary
    | cons next left => exact seen.ends
  · have paired := seen.paired
    rwa [← List.singleton_append, trailingSlashes_append (show trailingSlashes ['\n'] = 0 from rfl),
      ← trailingSlashes_append
        (trailingSlashes_of_not_mem (not_mem_blanks frontBlank (by decide)))] at paired

/-- What stands in front of the first marker, trimmed and put between line ends in front
of a fresh one, brings no marker forth. -/
theorem split?_between_line_ends {between behind : List Char}
    (found : split? stage before = some (between, after)) :
    split? stage ('\n' :: (trim between ++ '\n' :: (stage.marker.toList ++ '\n' :: behind))) =
      some ('\n' :: (trim between ++ ['\n']), '\n' :: behind) := by
  have ends : EndsWord ('\n' :: behind) := fun next member => by cases member; rfl
  rcases isFound_of_split? found with ⟨⟨⟨⟨marker, spells, split⟩, _⟩, _⟩, least⟩
  rcases exists_trim between with ⟨front, back, whole, frontBlank, backBlank⟩
  rw [split?_eq_some_iff]
  refine ⟨⟨?_, ?_⟩, fun earlier rest seen => ?_⟩
  · simpa using stands_marker stage ('\n' :: (trim between ++ ['\n'])) ends
  · have apart : '\n' :: (trim between ++ ['\n']) = '\n' :: trim between ++ ['\n'] := rfl
    have other : ∃ character ∈ ['\n'], character ≠ '/' := ⟨'\n', .head _, by decide⟩
    rw [apart, trailingSlashes_append_of_other other]
    exact Even.zero
  · by_contra short
    cases earlier with
    | nil =>
        rcases stands_nil_iff.mp seen.toStands with ⟨_, slashes, _⟩
        cases slashes
    | cons first earlier =>
        cases (stands_cons_iff.mp seen.toStands).1
        have early : earlier.length ≤ (trim between).length := by
          simp only [List.length_cons, List.length_append, List.length_nil] at short
          omega
        have markerEnds : EndsWord (marker ++ after) := by
          rcases spells.exists_body with ⟨body, rfl, _⟩
          intro character member
          cases member
          rfl
        -- The same marker would be seen in the old text, in front of the one found there.
        rcases seen.exists_of_line early frontBlank backBlank markerEnds with ⟨inside, left, again⟩
        have same : before = front ++ (trim between ++ (back ++ (marker ++ after))) := by
          rw [split]
          conv_lhs => rw [whole]
          simp only [List.append_assoc]
        have bound := least _ _ (same ▸ again)
        rw [whole] at bound
        simp only [List.length_append] at bound
        omega

end Marker

section

variable {preamble rest vertex fragment : List Char}

theorem splitStages_joined_of_parted (parted : split? .fragment rest = some (vertex, fragment))
    (something : trim vertex ≠ []) (anything : trim fragment ≠ []) :
    let pair : StagePair :=
      { vertex := .ofList (trim vertex), fragment := .ofList (trim fragment) }
    splitStages pair.joined = .ok pair := by
  intro pair
  let again := '\n' :: (trim vertex ++
    '\n' :: (Stage.fragment.marker.toList ++ '\n' :: trim fragment))
  have written : pair.joined.toList = Stage.vertex.marker.toList ++ again := by
    simp [pair, again, StagePair.joined]
  have ends : EndsWord again := fun next member => by cases member; rfl
  have first : IsFirst .vertex pair.joined.toList [] again :=
    ⟨written ▸ stands_marker .vertex [] ends, fun _ _ _ => Nat.zero_le _⟩
  have lineEnd : ∀ character ∈ ['\n'], isBlank character := List.all_eq_true.mp (by decide)
  have vertexAgain : trim ('\n' :: (trim vertex ++ ['\n'])) = trim vertex :=
    trim_surrounded (isTrimmed_trim vertex) lineEnd lineEnd
  have fragmentAgain : trim ('\n' :: trim fragment) = trim fragment := by
    simpa using trim_surrounded (isTrimmed_trim fragment) lineEnd (List.forall_mem_nil _)
  exact splitStages_eq_ok_iff.mpr
    ⟨[], again, '\n' :: (trim vertex ++ ['\n']), '\n' :: trim fragment,
      first.split?_iff.mpr Even.zero, split?_between_line_ends parted,
      by rwa [vertexAgain], by rwa [fragmentAgain], by rw [vertexAgain, fragmentAgain]⟩

/-- What is cut out and trimmed stands in the text, the vertex stage first. -/
theorem exists_split_around (announced : split? .vertex text.toList = some (preamble, rest))
    (parted : split? .fragment rest = some (vertex, fragment)) :
    ∃ front between back : String,
      text = front ++ .ofList (trim vertex) ++ between ++ .ofList (trim fragment) ++ back := by
  rcases (isFound_of_split? announced).marker with ⟨vertexMarker, _, whole⟩
  rcases (isFound_of_split? parted).marker with ⟨fragmentMarker, _, inner⟩
  rcases exists_trim vertex with ⟨vertexFront, vertexBack, vertexWhole, _, _⟩
  rcases exists_trim fragment with ⟨fragmentFront, fragmentBack, fragmentWhole, _, _⟩
  refine ⟨.ofList (preamble ++ (vertexMarker ++ vertexFront)),
    .ofList (vertexBack ++ (fragmentMarker ++ fragmentFront)), .ofList fragmentBack, ?_⟩
  apply String.toList_injective
  simp only [String.toList_append, String.toList_ofList, List.append_assoc]
  calc text.toList
    _ = preamble ++ (vertexMarker ++ (vertex ++ (fragmentMarker ++ fragment))) := by
      rw [whole, inner]
    _ = _ := by
      conv_lhs => rw [vertexWhole, fragmentWhole]
      simp only [List.append_assoc]

end

/-- The stages of a text come out again when they are put under fresh markers. Each of
them is something and is trimmed, and they stand in the text one behind the other. -/
theorem splitStages_joined (split : splitStages text = .ok pair) :
    splitStages pair.joined = .ok pair ∧
      (∀ stage, pair.source stage ≠ "" ∧ IsTrimmed (pair.source stage).toList) ∧
      ∃ front between back : String,
        text = front ++ pair.vertex ++ between ++ pair.fragment ++ back := by
  rcases splitStages_eq_ok_iff.mp split with
    ⟨preamble, rest, vertex, fragment, announced, parted, something, anything, rfl⟩
  refine ⟨splitStages_joined_of_parted parted something anything, fun stage => ?_,
    exists_split_around announced parted⟩
  have trimmed {stageText : List Char} (left : trim stageText ≠ []) :
      String.ofList (trim stageText) ≠ "" ∧
        IsTrimmed (String.ofList (trim stageText)).toList := by
    rw [String.toList_ofList]
    exact ⟨by simpa using left, isTrimmed_trim stageText⟩
  cases stage with
  | vertex => exact trimmed something
  | fragment => exact trimmed anything

/-- A comment in a stage that only begins like a marker stays a comment. -/
theorem splitStages_joined_near_miss :
    let text := "//Vertex\tshader A // vertex /\n// fragment shaders\r\n" ++
      "//\tFRAGMENT shader\u00a0B\n"
    let pair : StagePair := { vertex := "A // vertex /\n// fragment shaders", fragment := "B" }
    splitStages text = .ok pair ∧ splitStages pair.joined = .ok pair ∧
      (∀ stage, pair.source stage ≠ "" ∧ IsTrimmed (pair.source stage).toList) ∧
      ∃ front between back : String,
        text = front ++ pair.vertex ++ between ++ pair.fragment ++ back := by
  intro text pair
  have split : splitStages text = .ok pair := by decide +kernel
  exact ⟨split, splitStages_joined split⟩

end LiveShader
