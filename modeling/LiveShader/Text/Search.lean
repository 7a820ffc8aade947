/-! Finding a piece of text inside another. -/

namespace LiveShader.Text

/-- What follows `pattern` in a text that starts with it. -/
def dropLeading? : (pattern text : List Char) → Option (List Char)
  | [], text => some text
  | _ :: _, [] => none
  | expected :: pattern, character :: rest =>
      if character = expected then dropLeading? pattern rest else none

theorem dropLeading?_eq_some_iff {pattern text rest : List Char} :
    dropLeading? pattern text = some rest ↔ text = pattern ++ rest := by
  induction pattern generalizing text with
  | nil => simp [dropLeading?]
  | cons expected pattern induction =>
      cases text with
      | nil => simp [dropLeading?]
      | cons character text =>
          rw [dropLeading?]
          split <;> simp_all

/-- What stands before and after the first occurrence of `pattern`. -/
def splitFirst? (pattern : List Char) : List Char → Option (List Char × List Char)
  | [] => if pattern.isEmpty then some ([], []) else none
  | character :: rest =>
      match dropLeading? pattern (character :: rest) with
      | some after => some ([], after)
      | none => (splitFirst? pattern rest).map fun (before, after) =>
          (character :: before, after)

theorem eq_append_of_splitFirst? {pattern text before after : List Char}
    (found : splitFirst? pattern text = some (before, after)) :
    text = before ++ pattern ++ after := by
  induction text generalizing before with
  | nil =>
      cases pattern <;> simp_all [splitFirst?]
  | cons character rest induction =>
      rw [splitFirst?] at found
      split at found
      · next equation =>
          obtain ⟨rfl, rfl⟩ := by simpa using found
          simpa using dropLeading?_eq_some_iff.1 equation
      · obtain ⟨⟨before', after'⟩, recursive, equal⟩ := Option.map_eq_some_iff.1 found
        obtain ⟨rfl, rfl⟩ := by simpa using equal
        simp [induction recursive]

/-- Whether `pattern` occurs in `text`. -/
def occursIn (pattern text : List Char) : Bool :=
  (splitFirst? pattern text).isSome

/-- What stands before and after the first character with a property. -/
def splitAtFirst? (stops : Char → Bool) : List Char → Option (List Char × List Char)
  | [] => none
  | character :: rest =>
      if stops character then
        some ([], rest)
      else
        (splitAtFirst? stops rest).map fun (before, after) => (character :: before, after)

/-- Joins pieces of text with a separator between neighbours. -/
def join (separator : List Char) (pieces : List (List Char)) : List Char :=
  (pieces.intersperse separator).flatten

end LiveShader.Text
