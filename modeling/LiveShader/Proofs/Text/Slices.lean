import Mathlib.Data.List.Basic
import Mathlib.Tactic.SplitIfs
import LiveShader.Proofs.Text.ByteOrder

/-! # Slices of a text

A slice is taken between two byte offsets. There is none where an offset lies behind the end
of the text or inside a character, or where the offsets are the wrong way round.

The bytes of a text can be looked at one by one. Those of a character beyond ASCII are beyond
ASCII as well, so a test for ASCII characters answers for bytes as it does for characters. -/

namespace LiveShader.Text

variable {text front rest : List Char}

/-- The number of bytes of a text in UTF-8. -/
def byteLength (text : List Char) : Nat :=
  (utf8 text).length

/-- What stands before and after a byte offset, which has to be a character boundary. -/
def splitBytes? : (offset : Nat) → List Char → Option (List Char × List Char)
  | 0, text => some ([], text)
  | _ + 1, [] => none
  | offset + 1, character :: rest =>
      if offset + 1 < character.utf8Size then none
      else (splitBytes? (offset + 1 - character.utf8Size) rest).map fun (before, after) =>
        (character :: before, after)

/-- What stands between two byte offsets. -/
def slice? (start stop : Nat) (text : List Char) : Option (List Char) :=
  if start ≤ stop then do
    let (_, rest) ← splitBytes? start text
    let (middle, _) ← splitBytes? (stop - start) rest
    some middle
  else none

/-! ## Offsets -/

@[simp] theorem byteLength_nil : byteLength [] = 0 := rfl

@[simp] theorem byteLength_cons (character : Char) (rest : List Char) :
    byteLength (character :: rest) = character.utf8Size + byteLength rest := by
  rw [byteLength, utf8_cons, List.length_append, String.length_utf8EncodeChar, byteLength]

@[simp] theorem byteLength_append (first second : List Char) :
    byteLength (first ++ second) = byteLength first + byteLength second := by
  rw [byteLength, utf8, List.flatMap_append, List.length_append]
  rfl

theorem splitBytes?_append (front rest : List Char) :
    splitBytes? (byteLength front) (front ++ rest) = some (front, rest) := by
  induction front with
  | nil => rw [byteLength_nil, splitBytes?, List.nil_append]
  | cons character front induction =>
      have positive := character.utf8Size_pos
      obtain ⟨offset, length⟩ : ∃ offset, byteLength (character :: front) = offset + 1 :=
        Nat.exists_eq_succ_of_ne_zero (by rw [byteLength_cons]; omega)
      rw [length, List.cons_append, splitBytes?, ← length, byteLength_cons,
        if_neg (Nat.not_lt.mpr (Nat.le_add_right _ _)), Nat.add_sub_cancel_left, induction]
      rfl

theorem slice?_append (front middle back : List Char) :
    slice? (byteLength front) (byteLength (front ++ middle)) (front ++ (middle ++ back)) =
      some middle := by
  rw [byteLength_append, slice?, if_pos (Nat.le_add_right _ _), splitBytes?_append,
    Nat.add_sub_cancel_left]
  simp only [Option.bind_eq_bind, Option.bind_some, splitBytes?_append]

theorem slice?_append_end (front middle : List Char) :
    slice? (byteLength front) (byteLength (front ++ middle)) (front ++ middle) = some middle := by
  have whole := slice?_append front middle []
  rwa [List.append_nil] at whole

theorem eq_of_splitBytes? {offset : Nat} (split : splitBytes? offset text = some (front, rest)) :
    text = front ++ rest ∧ byteLength front = offset := by
  fun_induction splitBytes? offset text generalizing front with
  | case1 =>
      cases split
      exact ⟨rfl, rfl⟩
  | case2 => cases split
  | case3 => cases split
  | case4 offset character more fits induction =>
      rcases Option.map_eq_some_iff.mp split with ⟨⟨before, after⟩, inner, same⟩
      cases same
      rcases induction inner with ⟨rfl, length⟩
      refine ⟨rfl, ?_⟩
      rw [byteLength_cons, length]
      omega

/-! ## Bytes one by one -/

/-- A byte as the character with its number. -/
def byteCharacter (byte : UInt8) : Char :=
  Char.ofNat byte.toNat

/-- The bytes of a text, one by one. -/
def byteView (text : List Char) : List Char :=
  (utf8 text).map byteCharacter

/-- A character of one byte. -/
def IsSingle (character : Char) : Prop :=
  character.toNat ≤ 127

instance : DecidablePred IsSingle :=
  fun character => inferInstanceAs (Decidable (character.toNat ≤ 127))

@[simp] theorem length_byteView (text : List Char) : (byteView text).length = byteLength text :=
  List.length_map _

theorem byteView_append (first second : List Char) :
    byteView (first ++ second) = byteView first ++ byteView second := by
  rw [byteView, utf8, List.flatMap_append, List.map_append]
  rfl

theorem byteView_cons (character : Char) (rest : List Char) :
    byteView (character :: rest) =
      (String.utf8EncodeChar character).map byteCharacter ++ byteView rest := by
  rw [byteView, utf8_cons, List.map_append, byteView]

/-- The bytes behind a boundary are those of the text behind it. -/
theorem drop_byteView (front rest : List Char) :
    (byteView (front ++ rest)).drop (byteLength front) = byteView rest := by
  rw [byteView_append, List.drop_left' (length_byteView front)]

theorem toNat_byteCharacter (byte : UInt8) : (byteCharacter byte).toNat = byte.toNat := by
  have bound := byte.toNat_lt
  have valid : byte.toNat.isValidChar := .inl (by omega)
  rw [byteCharacter, Char.ofNat, dif_pos valid]
  rfl

theorem byteView_of_isSingle {character : Char} (single : IsSingle character) (rest : List Char) :
    byteView (character :: rest) = character :: byteView rest := by
  have number : (UInt8.ofNat character.toNat).toNat = character.toNat := by
    unfold IsSingle at single
    rw [UInt8.toNat_ofNat', Nat.mod_eq_of_lt (by omega)]
  have encoded : String.utf8EncodeChar character = [UInt8.ofNat character.toNat] :=
    if_pos (show character.val.toNat ≤ 127 from single)
  rw [byteView_cons, encoded, List.map_singleton, byteCharacter, number, Char.ofNat_toNat]
  rfl

/-- All bytes of a character of several are beyond ASCII. -/
theorem not_isSingle_of_mem_byteView {character : Char} (wide : ¬IsSingle character) :
    ∀ byte ∈ (String.utf8EncodeChar character).map byteCharacter, ¬IsSingle byte := by
  intro byte member
  rcases List.mem_map.mp member with ⟨encoded, inside, rfl⟩
  rw [IsSingle, toNat_byteCharacter]
  have beyond : ¬character.val.toNat ≤ 127 := wide
  unfold String.utf8EncodeChar at inside
  simp only [if_neg beyond] at inside
  split_ifs at inside <;> simp only [List.mem_cons, List.not_mem_nil, or_false] at inside
  · rcases inside with rfl | rfl <;> simp only [UInt8.toNat_ofNat'] <;> omega
  · rcases inside with rfl | rfl | rfl <;> simp only [UInt8.toNat_ofNat'] <;> omega
  · rcases inside with rfl | rfl | rfl | rfl <;> simp only [UInt8.toNat_ofNat'] <;> omega

/-! ## Tests -/

/-- A test that no character of several bytes passes. -/
def IsSingleTest (kind : Char → Bool) : Prop :=
  ∀ character, kind character → IsSingle character

section

variable {kind : Char → Bool} (test : IsSingleTest kind)

include test

/-- The first byte of a text passes a test exactly if the first character does. -/
theorem exists_byteView_cons (character : Char) (rest : List Char) :
    ∃ byte bytes, byteView (character :: rest) = byte :: bytes ∧ kind byte = kind character := by
  by_cases single : IsSingle character
  · exact ⟨character, byteView rest, byteView_of_isSingle single rest, rfl⟩
  · have beyond := not_isSingle_of_mem_byteView single
    have fails {other : Char} (wide : ¬IsSingle other) : kind other = false :=
      Bool.eq_false_iff.mpr fun passes => wide (test other passes)
    rw [byteView_cons]
    cases encoded : (String.utf8EncodeChar character).map byteCharacter with
    | nil => exact absurd (List.map_eq_nil_iff.mp encoded) String.utf8EncodeChar_ne_nil
    | cons byte bytes =>
        rw [encoded] at beyond
        exact ⟨byte, _, rfl, by rw [fails (beyond byte (.head _)), fails single]⟩

theorem dropWhile_byteView (text : List Char) :
    (byteView text).dropWhile kind = byteView (text.dropWhile kind) := by
  induction text with
  | nil => rfl
  | cons character rest induction =>
      cases passes : kind character with
      | true =>
          rw [byteView_of_isSingle (test character passes), List.dropWhile_cons_of_pos passes,
            List.dropWhile_cons_of_pos passes, induction]
      | false =>
          rcases exists_byteView_cons test character rest with ⟨byte, bytes, view, same⟩
          have stops : ¬kind byte := by rw [same, passes]; exact Bool.false_ne_true
          rw [List.dropWhile_cons_of_neg (by rw [passes]; exact Bool.false_ne_true), view,
            List.dropWhile_cons_of_neg stops]

end

end LiveShader.Text
