import LiveShader.Text.Blank

/-! Tables of code points, written as text.

A table is a text of rows with blanks or line ends between them, and a row is made of
hexadecimal numbers with a comma between two of them. Large tables are kept in this
form, since they are read once and then only looked up. -/

namespace LiveShader.Text

/-- The value of a lower-case hexadecimal digit. -/
def codeDigit (digit : Char) : Nat :=
  if digit.isDigit then digit.toNat - '0'.toNat else digit.toNat - 'a'.toNat + 10

/-- The number that lower-case hexadecimal digits stand for. -/
def codeOf (digits : List Char) : Nat :=
  digits.foldl (fun value digit => value * 16 + codeDigit digit) 0

/-- The rows of a table. -/
def codeRows (table : String) : List (List Nat) :=
  (words table.toList).map fun row => (row.splitOn ',').map codeOf

/-- The closed ranges of a table whose rows are ranges or single code points. -/
def codeRanges (table : String) : List (Nat × Nat) :=
  (codeRows table).filterMap fun
    | [code] => some (code, code)
    | [low, high] => some (low, high)
    | _ => none

/-- Whether a character is in one of some closed ranges. -/
def isWithin (ranges : List (Nat × Nat)) (character : Char) : Bool :=
  ranges.any fun (low, high) => low ≤ character.toNat && character.toNat ≤ high

example : codeRows "c0,41,300 1a" = [[0xc0, 0x41, 0x300], [0x1a]] := by decide

end LiveShader.Text
