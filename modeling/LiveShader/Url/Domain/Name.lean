import LiveShader.Text.Search
import LiveShader.Url.Domain.Direction
import LiveShader.Url.Domain.Folding
import LiveShader.Url.Domain.Joining
import LiveShader.Url.Punycode

/-! Domain names in ASCII. Names may be written in any script; what is looked up is an
encoding of their labels. -/

namespace LiveShader.Url.Domain

def isAscii (text : List Char) : Bool :=
  text.all fun character => character.toNat < 0x80

/-- A label as it is meant and as it is written in ASCII. -/
structure Label where
  meant : List Char
  written : List Char
  deriving DecidableEq, Repr

/-- The mark of an encoded label. -/
def encodedMark : List Char := "xn--".toList

/-- The length of the longest label that is encoded. -/
def greatestLength : Nat := 1000

/-- The length of the longest encoding that is read. -/
def greatestEncodedLength : Nat := 2000

/-- Whether a label in canonical form may stand in a name. -/
def isWellFormed (label : List Char) : Bool :=
  !(label.head?.any isMark) && joinersFit [] label &&
    (isAscii label || label.length ≤ greatestLength)

/-- The label that an encoding stands for. An encoding of another form of a label is
none. -/
def decode? (encoded : List Char) : Option (List Char) :=
  if !isAscii encoded || encoded.getLast?.all (· == '-') ||
      greatestEncodedLength < encoded.length then
    none
  else do
    let label ← Punycode.decode? encoded
    if fold? label = some label && isWellFormed label then some label else none

/-- Reads a label of a name in canonical form. -/
def readLabel? (text : List Char) : Option Label :=
  match Text.dropLeading? encodedMark text with
  | some encoded => (decode? encoded).map fun meant => { meant, written := text }
  | none =>
      if isWellFormed text then
        some {
          meant := text
          written := if isAscii text then text else encodedMark ++ Punycode.encode text }
      else
        none

/-- The characters of ASCII that no name holds. -/
def isForbidden (character : Char) : Bool :=
  character.toNat ≤ 0x20 || character.toNat = 0x7f ||
    "#%/:<>?@[\\]^|".toList.contains character

/-- Whether the directions of the labels go together. -/
def areOrdered (labels : List Label) : Bool :=
  !(labels.any (·.meant.any isRightToLeft)) || labels.all (isOrdered ·.meant)

/-- A name in ASCII. -/
def toAscii? (name : List Char) : Option (List Char) := do
  let folded ← fold? name
  let labels ← (folded.splitOn '.').mapM readLabel?
  let written := Text.join ['.'] (labels.map Label.written)
  if !areOrdered labels || written.any isForbidden then none else some written

end LiveShader.Url.Domain
