import LiveShader.Text.Blank
import LiveShader.Text.Search

/-! Removing Markdown code fences from generated text. -/

namespace LiveShader.Fence

open Text

/-- Three backticks. -/
def mark : List Char := ['`', '`', '`']

/-- The characters of a language tag. -/
def isTagCharacter (character : Char) : Bool :=
  character.isAlphanum || character == '_' || character == '+' || character == '-'

/-- Whether a text starts with the end of a line, or is empty. -/
def endsLine : List Char → Bool
  | [] => true
  | '\n' :: _ => true
  | '\r' :: '\n' :: _ => true
  | _ => false

/-- Drops a language tag. A word directly behind a fence is a tag when it ends
its line or is `glsl`, in any ASCII case. -/
def dropTag (text : List Char) : List Char :=
  let tag := text.takeWhile isTagCharacter
  let rest := text.dropWhile isTagCharacter
  if endsLine rest || tag.map Char.toLower = "glsl".toList then rest else text

/-- Drops one line end. -/
def dropLineBreak : List Char → List Char
  | '\n' :: rest => rest
  | '\r' :: '\n' :: rest => rest
  | text => text

/-- Removes each fence with its tag and the line end after it. At most `bound`
fences are removed. -/
def removeWithin : (bound : Nat) → List Char → List Char
  | 0, text => text
  | bound + 1, text =>
      match splitFirst? mark text with
      | none => text
      | some (before, after) => before ++ removeWithin bound (dropLineBreak (dropTag after))

/-- The text without its fences, trimmed. -/
def stripMarks (text : List Char) : List Char :=
  trim (removeWithin text.length text)

/-- `stripMarks` on strings. -/
def strip (text : String) : String :=
  .ofList (stripMarks text.toList)

end LiveShader.Fence
