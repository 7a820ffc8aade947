/-! Blank characters and trimming. Every rule of this library that speaks of
blank text means the Unicode `White_Space` property, not only the ASCII blanks. -/

namespace LiveShader.Text

/-- The 25 code points with the `White_Space` property, as closed ranges. -/
def blankRanges : List (Nat × Nat) :=
  [(0x9, 0xd), (0x20, 0x20), (0x85, 0x85), (0xa0, 0xa0), (0x1680, 0x1680),
   (0x2000, 0x200a), (0x2028, 0x2029), (0x202f, 0x202f), (0x205f, 0x205f),
   (0x3000, 0x3000)]

def isBlank (character : Char) : Bool :=
  blankRanges.any fun (low, high) => low ≤ character.toNat && character.toNat ≤ high

/-- Drops the leading blanks. -/
def trimLeft (text : List Char) : List Char :=
  text.dropWhile isBlank

/-- Drops the trailing blanks. -/
def trimRight (text : List Char) : List Char :=
  (text.reverse.dropWhile isBlank).reverse

/-- Drops the blanks at both ends. -/
def trim (text : List Char) : List Char :=
  trimRight (trimLeft text)

/-- `trim` on strings. -/
def trimString (text : String) : String :=
  .ofList (trim text.toList)

/-- Whether a string holds nothing but blanks. -/
def isBlankString (text : String) : Bool :=
  text.toList.all isBlank

/-- The maximal runs of nonblank characters, in order. -/
def words (text : List Char) : List (List Char) :=
  (text.splitOnP isBlank).filter fun word => !word.isEmpty

example : trim " \u3000a b\u0085\n".toList = ['a', ' ', 'b'] := by decide

example : words "  uniform\tvec2  x ".toList =
    ["uniform".toList, "vec2".toList, ['x']] := by decide +kernel

end LiveShader.Text
