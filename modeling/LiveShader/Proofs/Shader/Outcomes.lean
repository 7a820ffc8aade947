import LiveShader.Proofs.Shader.Location
import LiveShader.Proofs.Shader.Splitting

/-! # What comes of cutting a text

The scan for one stage passes a marker of the other as it passes any two slashes. So, where
a fragment marker is found from the start of a text, it is found in front of the vertex
marker, or it is the one that is found behind it. -/

namespace LiveShader

open Text Marker

namespace Marker

variable {stage other : Stage} {text preamble rest : List Char}

/-! ## Words in front of a slash -/

section

variable (text more : List Char)

theorem dropLetters?_append_slash {word : List Char} (none : '/' ∉ word) :
    dropLetters? word (text ++ '/' :: more) =
      (dropLetters? word text).map (· ++ '/' :: more) := by
  induction word generalizing text with
  | nil => rfl
  | cons letter word induction =>
      rw [List.mem_cons, not_or] at none
      cases text with
      | nil => exact if_neg none.1
      | cons character text =>
          rw [List.cons_append, dropLetters?, dropLetters?, induction _ none.2]
          split
          case isTrue => rfl
          case isFalse => rfl

theorem dropWord?_append_slash {word : List Char} (none : '/' ∉ word) :
    dropWord? word (text ++ '/' :: more) = (dropWord? word text).map (· ++ '/' :: more) := by
  rw [dropWord?, dropWord?, dropLetters?_append_slash text more none]
  cases dropLetters? word text with
  | none => rfl
  | some left =>
      cases left with
      | nil => rfl
      | cons next left =>
          simp only [Option.map_some, List.cons_append]
          split
          case isTrue => rfl
          case isFalse => rfl

theorem dropWhile_isGap_append_slash :
    (text ++ '/' :: more).dropWhile isGap = text.dropWhile isGap ++ '/' :: more := by
  rw [List.dropWhile_append]
  split
  case isTrue nothing =>
    rw [List.isEmpty_iff.mp nothing]
    rfl
  case isFalse => rfl

/-- Words that stand in front of a slash are read as if the text ended there. -/
theorem dropWords?_append_slash (stage : Stage) :
    dropWords? stage (text ++ '/' :: more) = (dropWords? stage text).map (· ++ '/' :: more) := by
  have named : '/' ∉ stage.name.toList := by cases stage <;> decide
  rw [dropWords?, dropWords?, dropWhile_isGap_append_slash, dropWord?_append_slash _ _ named]
  cases dropWord? stage.name.toList (text.dropWhile isGap) with
  | none => rfl
  | some left =>
      cases left with
      | nil => rfl
      | cons gap left =>
          simp only [Option.map_some, List.cons_append]
          split
          case isTrue =>
            rw [dropWhile_isGap_append_slash, dropWord?_append_slash _ _ (by decide)]
          case isFalse => rfl

end

/-! ## Markers of the two stages -/

theorem head?_of_dropWords? (read : dropWords? stage text = some rest) :
    (text.dropWhile isGap).head?.map Char.toLower = stage.name.toList.head? := by
  rw [dropWords?] at read
  split at read
  case h_1 gap left named =>
    rcases dropWord?_eq_some_iff.mp named with ⟨_, letters, split, spelled⟩
    rw [split, ← spelled]
    cases letters with
    | nil => exact absurd spelled (by cases stage <;> decide)
    | cons => rfl
  case h_2 => cases read

theorem dropWords?_other (different : other ≠ stage)
    (read : dropWords? stage text = some rest) : dropWords? other text = none := by
  cases again : dropWords? other text with
  | none => rfl
  | some left =>
      have same := (head?_of_dropWords? again).symm.trans (head?_of_dropWords? read)
      cases stage <;> cases other <;>
        first
        | exact absurd rfl different
        | exact absurd same (by decide)

/-- A marker of one stage parts a text for the scan for the other stage, which finds the
first marker in front of it or else the first one behind it. -/
theorem split?_other (different : other ≠ stage)
    (found : split? stage text = some (preamble, rest)) :
    ∃ marker, Spells stage marker ∧ text = preamble ++ (marker ++ rest) ∧
      split? other text =
        ((split? other preamble).map fun (before, after) => (before, after ++ (marker ++ rest))).or
          ((split? other rest).map fun (before, after) =>
            (preamble ++ (marker ++ before), after)) := by
  fun_induction split? stage text generalizing preamble with
  | case1 => cases found
  | case2 text after read =>
      cases found
      rcases dropWords?_eq_some_iff.mp read with ⟨_, marker, spells, whole⟩
      rcases spells.exists_body with ⟨body, rfl, noSlash, _⟩
      cases whole
      refine ⟨'/' :: '/' :: body, spells, rfl, ?_⟩
      have behind : split? other (body.append rest) = _ := split?_append_of_not_mem noSlash rest
      simp only [split?, dropWords?_other different read, behind, Option.map_none,
        Option.none_or, Option.map_map]
      rfl
  | case3 text read induction =>
      rcases Option.map_eq_some_iff.mp found with ⟨⟨before, after⟩, later, same⟩
      cases same
      rcases induction later with ⟨marker, spells, rfl, parted⟩
      refine ⟨marker, spells, rfl, ?_⟩
      rcases spells.exists_body with ⟨body, rfl, _⟩
      rw [split?, split?, parted, List.cons_append, dropWords?_append_slash]
      cases dropWords? other before with
      | some left => rfl
      | none =>
          simp only [Option.map_none, Option.map_or, Option.map_map]
          rfl
  | case4 character text single induction =>
      rcases Option.map_eq_some_iff.mp found with ⟨⟨before, after⟩, later, same⟩
      cases same
      rcases induction later with ⟨marker, spells, rfl, parted⟩
      refine ⟨marker, spells, rfl, ?_⟩
      have alone : ¬['/', '/'] <+: character :: (before ++ (marker ++ rest)) := by
        rintro ⟨more, slashes⟩
        rcases List.cons.inj slashes with ⟨slash, second⟩
        exact single more slash.symm second.symm
      have within : ¬['/', '/'] <+: character :: before :=
        fun leads => alone (leads.trans (List.prefix_append (character :: before) _))
      rw [split?_cons_of_single alone, split?_cons_of_single within, parted]
      simp only [Option.map_or, Option.map_map]
      rfl

/-! ## Spans in a text -/

theorem spanBetween_stop {marker : List Char} (split : text = preamble ++ (marker ++ rest)) :
    (spanBetween text preamble rest).stop = byteLength (preamble ++ marker) := by
  have whole : byteLength text = byteLength (preamble ++ marker) + byteLength rest := by
    rw [split, ← List.append_assoc, byteLength_append]
  rw [spanBetween, whole, Nat.add_sub_cancel]

theorem locate?_from_start (stage : Stage) (text : List Char) :
    locate? stage text 0 =
      some ((split? stage text).map fun (before, after) => spanBetween text before after) :=
  locate?_boundary stage [] text

theorem locate?_from_stop {marker : List Char} (split : text = preamble ++ (marker ++ rest)) :
    locate? stage text (spanBetween text preamble rest).stop =
      some ((split? stage rest).map fun (before, after) =>
        spanBetween text (preamble ++ (marker ++ before)) after) := by
  have regrouped : text = (preamble ++ marker) ++ rest := by rw [split, List.append_assoc]
  rw [spanBetween_stop split]
  conv_lhs => rw [regrouped]
  rw [locate?_boundary, ← regrouped]
  simp only [List.append_assoc]

/-- A marker of the other stage that is found from the start of the text, but not behind the
marker of this stage, ends before that one starts. -/
theorem stop_le_start_of_unparted {before after : List Char} (different : other ≠ stage)
    (found : split? stage text = some (preamble, rest)) (missing : split? other rest = none)
    (first : split? other text = some (before, after)) :
    (spanBetween text before after).stop ≤ (spanBetween text preamble rest).start := by
  rcases split?_other different found with ⟨marker, _, whole, passed⟩
  rw [first, missing, Option.map_none, Option.or_none] at passed
  rcases Option.map_eq_some_iff.mp passed.symm with ⟨⟨_, left⟩, within, same⟩
  cases same
  rcases (isFound_of_split? within).marker with ⟨other, _, split⟩
  have parted : text = before ++ (other ++ (left ++ (marker ++ rest))) := by
    simp only [whole, split, List.append_assoc]
  rw [spanBetween_stop parted, spanBetween, split, ← List.append_assoc,
    byteLength_append (before ++ other)]
  exact Nat.le_add_right _ _

/-- The slices behind the two markers, as their spans give them. -/
theorem slice?_between_spans {marker closingMarker between closing : List Char}
    (whole : text = preamble ++ (marker ++ rest))
    (inner : rest = between ++ (closingMarker ++ closing)) :
    let second := spanBetween text (preamble ++ (marker ++ between)) closing
    slice? (spanBetween text preamble rest).stop second.start text = some between ∧
      slice? second.stop (byteLength text) text = some closing := by
  have parted : text = (preamble ++ (marker ++ between)) ++ (closingMarker ++ closing) := by
    simp only [whole, inner, List.append_assoc]
  constructor
  · rw [spanBetween_stop whole, spanBetween, whole, inner, ← List.append_assoc,
      ← List.append_assoc]
    exact slice?_append _ _ _
  · have ending : text = (preamble ++ (marker ++ between) ++ closingMarker) ++ closing := by
      rw [parted, List.append_assoc (preamble ++ (marker ++ between))]
    rw [spanBetween_stop parted]
    conv_lhs => rw [ending]
    exact slice?_append_end _ _

end Marker

/-! ## The outcomes -/

section

variable {text : String} {preamble rest : List Char}
  (announced : split? .vertex text.toList = some (preamble, rest))

include announced

/-- Without a fragment marker behind it, the one that is found from the start of the text
tells whether the markers are out of order. -/
theorem splitStages_of_unparted (missing : split? .fragment rest = none) :
    splitStages text =
      if (split? .fragment text.toList).isSome then .error .markersOutOfOrder
      else .error (.missingMarker .fragment) := by
  simp only [splitStages, announced, missing]

theorem splitStages_of_parted {between closing : List Char}
    (parted : split? .fragment rest = some (between, closing)) :
    splitStages text =
      if between.all isBlank then .error (.emptyStage .vertex)
      else if closing.all isBlank then .error (.emptyStage .fragment)
      else .ok { vertex := .ofList (trim between), fragment := .ofList (trim closing) } := by
  simp only [splitStages, announced, parted, isEmpty_trim]

end

/-- A text is cut as the spans of its markers say, and no slice of it is taken that does not
exist. Without a vertex marker nothing else counts. Behind the vertex marker, a fragment
marker is looked for; if there is none, one that is found from the start of the text stands
in front of the vertex marker. -/
theorem splitStages_outcome (text : String) :
    ∃ vertex? first?,
      locate? .vertex text.toList 0 = some vertex? ∧
      locate? .fragment text.toList 0 = some first? ∧
      (splitStages text = .error (.missingMarker .vertex) ↔ vertex? = none) ∧
      ∀ vertex ∈ vertex?, ∃ behind?,
        locate? .fragment text.toList vertex.stop = some behind? ∧
        (splitStages text = .error .markersOutOfOrder ↔
          behind? = none ∧ ∃ first ∈ first?, first.stop ≤ vertex.start) ∧
        (splitStages text = .error (.missingMarker .fragment) ↔ first? = none) ∧
        (first? = none → behind? = none) ∧
        (behind? = none → ∀ first ∈ first?, first.stop ≤ vertex.start) ∧
        ∀ fragment ∈ behind?, ∃ between closing,
          slice? vertex.stop fragment.start text.toList = some between ∧
          slice? fragment.stop (byteLength text.toList) text.toList = some closing ∧
          (splitStages text = .error (.emptyStage .vertex) ↔ between.all isBlank) ∧
          (splitStages text = .error (.emptyStage .fragment) ↔
            ¬between.all isBlank ∧ closing.all isBlank) ∧
          ∀ pair, splitStages text = .ok pair ↔
            ¬between.all isBlank ∧ ¬closing.all isBlank ∧
              pair = { vertex := .ofList (trim between), fragment := .ofList (trim closing) } := by
  refine ⟨_, _, locate?_from_start .vertex _, locate?_from_start .fragment _, ?_, ?_⟩
  · cases announced : split? .vertex text.toList with
    | none => simp only [splitStages, announced, Option.map_none]
    | some parts => simpa using splitStages_ne_missing announced
  · intro vertex member
    rcases Option.map_eq_some_iff.mp member with ⟨⟨preamble, rest⟩, announced, rfl⟩
    have different : Stage.fragment ≠ Stage.vertex := by decide
    rcases split?_other different announced with ⟨marker, _, whole, passed⟩
    refine ⟨_, locate?_from_stop whole, ?_⟩
    cases parted : split? .fragment rest with
    | none =>
        have cut := splitStages_of_unparted announced parted
        cases first : split? .fragment text.toList with
        | none => simp [cut, first]
        | some parts =>
            have precedes := stop_le_start_of_unparted different announced parted first
            simpa [cut, first] using precedes
    | some parts =>
        rcases parts with ⟨between, closing⟩
        have cut := splitStages_of_parted announced parted
        rcases (isFound_of_split? parted).marker with ⟨closingMarker, _, inner⟩
        rcases slice?_between_spans whole inner with ⟨vertexSlice, fragmentSlice⟩
        have first : split? .fragment text.toList ≠ none := by
          rw [passed, parted]
          simp
        have behind : splitStages text ≠ .error .markersOutOfOrder ∧
            splitStages text ≠ .error (.missingMarker .fragment) := by
          rw [cut]
          split_ifs <;> simp
        refine ⟨iff_of_false behind.1 (by simp), iff_of_false behind.2 (by simpa using first),
          by simp [first], by simp, fun fragment member => ?_⟩
        cases member
        refine ⟨between, closing, vertexSlice, fragmentSlice, ?_⟩
        simp only [cut]
        cases between.all isBlank with
        | true => simp
        | false =>
            cases closing.all isBlank with
            | true => simp
            | false => simp [eq_comm]

/-- Behind the vertex marker stands no fragment marker, and the one in front of it is told. -/
theorem splitStages_outcome_reversed :
    let text := "é// fragment shader // Vertex\tShader\u00a0A"
    locate? .vertex text.toList 0 = some (some { start := 21, stop := 37 }) ∧
      locate? .fragment text.toList 0 = some (some { start := 2, stop := 20 }) ∧
      locate? .fragment text.toList 37 = some none ∧
      splitStages text = .error .markersOutOfOrder := by
  intro text
  have announced : locate? .vertex text.toList 0 = some (some { start := 21, stop := 37 }) := by
    rw [locate?_from_start]
    decide +kernel
  have first : locate? .fragment text.toList 0 = some (some { start := 2, stop := 20 }) := by
    rw [locate?_from_start]
    decide +kernel
  have missing : locate? .fragment text.toList 37 = some none := by
    let front := "é// fragment shader // Vertex\tShader".toList
    have split : text.toList = front ++ "\u00a0A".toList := by decide +kernel
    have length : byteLength front = 37 := by decide +kernel
    rw [split, ← length, locate?_boundary]
    decide +kernel
  rcases splitStages_outcome text with ⟨vertex?, first?, vertexAt, firstAt, _, outcome⟩
  rw [announced] at vertexAt
  cases vertexAt
  rw [first] at firstAt
  cases firstAt
  rcases outcome _ rfl with ⟨behind?, behindAt, reversed, _⟩
  rw [missing] at behindAt
  cases behindAt
  exact ⟨announced, first, missing, reversed.mpr ⟨rfl, _, rfl, by decide⟩⟩

end LiveShader
