import LiveShader.Data.Bytes

/-! # Stretches

A stretch is given by where it starts and by how long it is. -/

namespace LiveShader

/-! ## Places in common -/

/-- Whether a place stands in a stretch. -/
def Covers (offset width index : Nat) : Prop :=
  offset ≤ index ∧ index < offset + width

/-- Whether two stretches have a place in common. -/
def Meet (offset width start otherWidth : Nat) : Prop :=
  ∃ index, Covers offset width index ∧ Covers start otherWidth index

theorem Meet.symm {offset width start otherWidth : Nat}
    (meet : Meet offset width start otherWidth) : Meet start otherWidth offset width := by
  rcases meet with ⟨index, first, second⟩
  exact ⟨index, second, first⟩

theorem not_meet_iff {offset width start otherWidth : Nat} (filled : 0 < width)
    (otherFilled : 0 < otherWidth) :
    ¬Meet offset width start otherWidth ↔
      offset + width ≤ start ∨ start + otherWidth ≤ offset := by
  constructor
  · intro apart
    -- If they meet, the start of the one behind is a place in common.
    rcases Nat.le_total offset start with behind | ahead
    · refine .inl (Nat.le_of_not_lt fun reaches => apart ?_)
      exact ⟨start, ⟨behind, reaches⟩, ⟨Nat.le_refl _, by omega⟩⟩
    · refine .inr (Nat.le_of_not_lt fun reaches => apart ?_)
      exact ⟨offset, ⟨Nat.le_refl _, by omega⟩, ⟨ahead, reaches⟩⟩
  · rintro apart ⟨index, ⟨above, below⟩, ⟨otherAbove, otherBelow⟩⟩
    omega

/-- Stretches that start one place after the other are apart exactly if none but the last
is longer than one place. -/
theorem pairwise_apart_of_consecutive {α : Type} {start width : α → Nat} {all : List α}
    (filled : ∀ one ∈ all, 0 < width one) {first : Nat}
    (consecutive : all.map start = List.range' first all.length) :
    all.Pairwise (fun one other => ¬Meet (start one) (width one) (start other) (width other)) ↔
      ∀ one ∈ all.dropLast, width one = 1 := by
  induction all generalizing first with
  | nil => simp
  | cons one rest induction =>
      rcases List.forall_mem_cons.mp filled with ⟨long, others⟩
      rw [List.map_cons, List.length_cons, List.range'_succ, List.cons.injEq] at consecutive
      rcases consecutive with ⟨starts, behind⟩
      rw [List.pairwise_cons, induction others behind]
      cases rest with
      | nil => simp
      | cons next more =>
          have split : (∀ stretch ∈ (one :: next :: more).dropLast, width stretch = 1) ↔
              width one = 1 ∧ ∀ stretch ∈ (next :: more).dropLast, width stretch = 1 :=
            List.forall_mem_cons
          rw [split]
          refine and_congr_left fun _ => ?_
          constructor
          · intro apart
            have follows : start next = first + 1 := by
              rw [List.map_cons, List.length_cons, List.range'_succ, List.cons.injEq] at behind
              exact behind.1
            have short := apart next (.head _)
            rw [not_meet_iff long (others next (.head _))] at short
            omega
          · intro short other member
            have above : start other ∈ (next :: more).map start := List.mem_map_of_mem member
            rw [behind, List.mem_range'_1] at above
            rw [not_meet_iff long (others other member)]
            omega

/-! ## Bytes -/

theorem exists_overlay? {bytes written : List UInt8} {offset : Nat}
    (room : offset + written.length ≤ bytes.length) :
    ∃ laid, overlay? bytes offset written = some laid := by
  rw [overlay?, if_pos room]
  exact ⟨_, rfl⟩

theorem length_of_overlay? {written bytes : List UInt8} {all : List UInt8}
    (fits : overlay? all offset written = some bytes) : bytes.length = all.length := by
  unfold overlay? at fits
  split at fits
  case isTrue room =>
    cases fits
    simp only [List.length_append, List.length_take, List.length_drop]
    omega
  case isFalse => cases fits

theorem getElem?_of_overlay? {bytes written laid : List UInt8} {offset : Nat}
    (fits : overlay? bytes offset written = some laid) (index : Nat) :
    laid[index]? =
      if offset ≤ index ∧ index < offset + written.length then written[index - offset]?
      else bytes[index]? := by
  unfold overlay? at fits
  split at fits
  case isTrue room =>
    cases fits
    have taken : (bytes.take offset).length = offset := by
      rw [List.length_take]
      omega
    rw [List.append_assoc]
    by_cases front : index < offset
    · rw [List.getElem?_append_left (by omega), List.getElem?_take_of_lt front, if_neg (by omega)]
    · rw [List.getElem?_append_right (by omega), taken]
      by_cases inside : index - offset < written.length
      · rw [List.getElem?_append_left inside, if_pos (by omega)]
      · rw [List.getElem?_append_right (by omega), List.getElem?_drop, if_neg (by omega)]
        congr 1
        omega
  case isFalse => cases fits

/-- The bytes of a stretch, if they are all there. -/
def stretch? (bytes : List UInt8) (offset width : Nat) : Option (List UInt8) :=
  if offset + width ≤ bytes.length then some ((bytes.drop offset).take width) else none

theorem getElem?_stretch {bytes : List UInt8} {offset width index : Nat} (inside : index < width) :
    ((bytes.drop offset).take width)[index]? = bytes[offset + index]? := by
  rw [List.getElem?_take_of_lt inside, List.getElem?_drop]

/-- What is laid over bytes beside a stretch leaves the stretch alone. -/
theorem stretch?_overlay?_apart {bytes written : List UInt8} {offset start width : Nat}
    (apart : offset + written.length ≤ bytes.length → start + width ≤ bytes.length →
      ¬Meet offset written.length start width) :
    stretch? ((overlay? bytes offset written).getD bytes) start width =
      stretch? bytes start width := by
  by_cases room : offset + written.length ≤ bytes.length
  case neg => rw [overlay?, if_neg room, Option.getD_none]
  case pos =>
    rcases exists_overlay? room with ⟨laid, fits⟩
    rw [fits, Option.getD_some, stretch?, stretch?, length_of_overlay? fits]
    by_cases held : start + width ≤ bytes.length
    case neg => rw [if_neg held, if_neg held]
    case pos =>
      rw [if_pos held, if_pos held]
      refine congrArg some (List.ext_getElem? fun index => ?_)
      by_cases inside : index < width
      · rw [getElem?_stretch inside, getElem?_stretch inside, getElem?_of_overlay? fits, if_neg]
        exact fun covered =>
          apart room held ⟨start + index, covered, Nat.le_add_right _ _, by omega⟩
      · rw [List.getElem?_eq_none, List.getElem?_eq_none] <;>
          simp only [List.length_take, List.length_drop] <;> omega

/-- Equal bytes laid over a part of a stretch change it, unless they stand there already. -/
theorem stretch?_overlay?_meet {bytes : List UInt8} {offset count start width index : Nat}
    {byte : UInt8} (room : offset + count ≤ bytes.length) (held : start + width ≤ bytes.length)
    (written : Covers offset count index) (inside : Covers start width index)
    (other : bytes[index]? ≠ some byte) :
    stretch? ((overlay? bytes offset (.replicate count byte)).getD bytes) start width ≠
      stretch? bytes start width := by
  have spread : (List.replicate count byte).length = count := List.length_replicate
  rcases exists_overlay? (spread.symm ▸ room) with ⟨laid, fits⟩
  rcases written with ⟨behind, ahead⟩
  rcases inside with ⟨above, below⟩
  rw [fits, Option.getD_some, stretch?, stretch?, length_of_overlay? fits,
    if_pos held, if_pos held]
  intro same
  have short : index - start < width := by omega
  have shared := congrArg (fun all => all[index - start]?) (Option.some.inj same)
  simp only [getElem?_stretch short, Nat.add_sub_cancel' above] at shared
  rw [getElem?_of_overlay? fits, List.length_replicate, if_pos ⟨behind, ahead⟩,
    List.getElem?_replicate, if_pos (by omega)] at shared
  exact other shared.symm

end LiveShader
