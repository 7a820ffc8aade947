/-! Cutting text into lines and statements without losing a character. -/

namespace LiveShader.Text

/-- Cuts a text after every occurrence of `stop`, which stays at the end of its
piece. A text that ends in `stop` has no empty last piece. -/
def splitAfter (stop : Char) : List Char → List (List Char)
  | [] => []
  | character :: rest =>
      if character = stop then
        [character] :: splitAfter stop rest
      else
        match splitAfter stop rest with
        | [] => [[character]]
        | piece :: pieces => (character :: piece) :: pieces

/-- The pieces of `splitAfter` are a partition of the text. -/
theorem flatten_splitAfter (stop : Char) (text : List Char) :
    (splitAfter stop text).flatten = text := by
  induction text with
  | nil => rfl
  | cons character rest induction =>
      rw [splitAfter]
      split
      · simp [induction]
      · cases equation : splitAfter stop rest with
        | nil => rw [equation] at induction; simp_all
        | cons piece pieces => rw [equation] at induction; simp_all

/-- Removes the line feed that ends a line, with the carriage return before it.
A carriage return with no line feed after it belongs to the line. -/
def dropLineEnd (line : List Char) : List Char :=
  match line.reverse with
  | '\n' :: '\r' :: reversed => reversed.reverse
  | '\n' :: reversed => reversed.reverse
  | _ => line

/-- The lines of a text, without their ends. -/
def lines (text : List Char) : List (List Char) :=
  (splitAfter '\n' text).map dropLineEnd

example : lines "a\r\n\nb\r".toList = [['a'], [], ['b', '\r']] := by decide

end LiveShader.Text
