import LiveShader.Text.Decimal
import LiveShader.Url.Domain.Name
import LiveShader.Url.Percent

/-! Hosts of URLs: domain names, addresses of versions 4 and 6, and the opaque
hosts of other schemes. A host is kept in its written form. -/

namespace LiveShader.Url

/-! ## Version 4 addresses -/

/-- The value of digits in a base up to 16, if all of them are digits of it. -/
def readInBase? (base : Nat) (digits : List Char) : Option Nat :=
  digits.foldl
    (fun value digit => do
      let value ← value
      let digit ← Json.hexValue? digit
      if digit < base then some (value * base + digit) else none)
    (some 0)

/-- One number of an address: hexadecimal behind `0x`, octal behind `0`, and
decimal otherwise. -/
def readAddressPart? : List Char → Option Nat
  | [] => none
  | '0' :: 'x' :: digits => readInBase? 16 digits
  | '0' :: 'X' :: digits => readInBase? 16 digits
  | '0' :: digit :: digits => readInBase? 8 (digit :: digits)
  | digits => readInBase? 10 digits

/-- The labels of a name, without an empty last one. -/
def labelsOf (name : List Char) : List (List Char) :=
  let labels := name.splitOn '.'
  if labels.getLast? = some [] ∧ 1 < labels.length then labels.dropLast else labels

/-- Whether the last label of a name is a number, so that the name has to be an
address. -/
def endsInNumber (name : List Char) : Bool :=
  match (labelsOf name).getLast? with
  | none => false
  | some label =>
      (!label.isEmpty && label.all Char.isDigit) ||
        (match label with
        | '0' :: 'x' :: _ => (readAddressPart? label).isSome
        | '0' :: 'X' :: _ => (readAddressPart? label).isSome
        | _ => false)

/-- The address given by its numbers. The last number fills what the others
leave. -/
def addressOfParts? (parts : List Nat) : Option Nat :=
  match parts.getLast? with
  | none => none
  | some last =>
      let leading := parts.dropLast
      if 4 < parts.length ∨ leading.any (255 < ·) ∨ Nat.pow 256 (5 - parts.length) ≤ last then
        none
      else
        let shifted := leading.mapIdx fun index part => part * Nat.pow 256 (3 - index)
        some (last + shifted.foldr (· + ·) 0)

/-- An address in four decimal numbers. -/
def writeAddress (address : Nat) : List Char :=
  Text.decimal (address / Nat.pow 256 3) ++ ['.'] ++
    Text.decimal (address / Nat.pow 256 2 % 256) ++ ['.'] ++
    Text.decimal (address / 256 % 256) ++ ['.'] ++ Text.decimal (address % 256)

def readAddress? (name : List Char) : Option (List Char) := do
  let parts ← (labelsOf name).mapM readAddressPart?
  let address ← addressOfParts? parts
  some (writeAddress address)

/-! ## Version 6 addresses -/

/-- A group of up to four hexadecimal digits. -/
def readGroup? (digits : List Char) : Option Nat :=
  if digits.isEmpty ∨ 4 < digits.length then none else readInBase? 16 digits

/-- One number of an embedded version 4 address, without leading zeros. -/
def readOctet? (digits : List Char) : Option Nat :=
  match digits with
  | '0' :: _ :: _ => none
  | _ =>
      if digits.isEmpty ∨ !digits.all Char.isDigit then none
      else
        let value := Text.digitsValue 0 digits
        if value < 256 then some value else none

/-- The two groups of an embedded version 4 address. -/
def readEmbedded? (text : List Char) : Option (List Nat) := do
  match ← (text.splitOn '.').mapM readOctet? with
  | [a, b, c, d] => some [a * 256 + b, c * 256 + d]
  | _ => none

/-- The groups of a side of an address. Only the last one may be a version 4
address. -/
def readGroups? : List (List Char) → Option (List Nat)
  | [] => some []
  | [last] => if last.contains '.' then readEmbedded? last else (readGroup? last).map ([·])
  | group :: rest => do
      let group ← readGroup? group
      let rest ← readGroups? rest
      some (group :: rest)

/-- What stands before and after the two colons that leave out groups. -/
def splitCompression? : List Char → Option (List Char × List Char)
  | [] => none
  | ':' :: ':' :: rest => some ([], rest)
  | character :: rest =>
      (splitCompression? rest).map fun (before, after) => (character :: before, after)

/-- The groups between single colons. -/
def sideOf (text : List Char) : List (List Char) :=
  if text.isEmpty then [] else text.splitOn ':'

/-- The eight groups of an address. -/
def readSixGroups? (text : List Char) : Option (List Nat) := do
  match splitCompression? text with
  | none =>
      let groups ← readGroups? (sideOf text)
      if groups.length = 8 then some groups else none
  | some (before, after) =>
      let left ← readGroups? (sideOf before)
      let right ← readGroups? (sideOf after)
      if before.contains '.' ∨ 8 ≤ left.length + right.length then none
      else some (left ++ .replicate (8 - left.length - right.length) 0 ++ right)

/-- The length of the run of zeros at the front. -/
def zeroRun (groups : List Nat) : Nat :=
  (groups.takeWhile (· == 0)).length

/-- Where the first longest run of at least two zeros starts, and its length. -/
def longestZeroRun (groups : List Nat) : Option (Nat × Nat) :=
  (List.range groups.length).foldl
    (fun best start =>
      let length := zeroRun (groups.drop start)
      if 2 ≤ length ∧ (best.map Prod.snd).getD 0 < length then some (start, length) else best)
    none

def writeGroups (groups : List Nat) : List Char :=
  ((groups.map fun group => Nat.toDigits 16 group).intersperse [':']).flatten

/-- An address in brackets, its first longest run of zeros left out. -/
def writeSix (groups : List Nat) : List Char :=
  let inner :=
    match longestZeroRun groups with
    | none => writeGroups groups
    | some (start, length) =>
        writeGroups (groups.take start) ++ [':', ':'] ++ writeGroups (groups.drop (start + length))
  ['['] ++ inner ++ [']']

/-- An address in brackets, or none if the brackets hold something else. -/
def readBracketed? (text : List Char) : Option (List Char) :=
  match text.reverse with
  | ']' :: reversed => (readSixGroups? reversed.reverse.tail).map writeSix
  | _ => none

/-! ## Hosts -/

/-- The host of a scheme with hosts of its own. -/
def readDomainHost? (text : List Char) : Option (List Char) :=
  match text with
  | '[' :: _ => readBracketed? text
  | _ => do
      let decoded ← String.fromUTF8? ⟨(decodeBytes text).toArray⟩
      let name ← Domain.toAscii? decoded.toList
      if name.isEmpty then none
      else if endsInNumber name then readAddress? name
      else some name

/-- The characters an opaque host may not hold. -/
def isForbiddenOpaque (character : Char) : Bool :=
  character.toNat = 0 || "\t\n\r #/:<>?@[\\]^|".toList.contains character

/-- The host of any other scheme. -/
def readOpaqueHost? (text : List Char) : Option (List Char) :=
  match text with
  | '[' :: _ => readBracketed? text
  | _ => if text.any isForbiddenOpaque then none else some (encode escapesControl text)

end LiveShader.Url
