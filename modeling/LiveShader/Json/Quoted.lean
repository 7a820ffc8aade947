/-! JSON strings: writing them, and reading them back. -/

namespace LiveShader.Json

/-! ## Writing -/

/-- The lower-case hexadecimal digit of a number below 16. -/
def hexDigit (value : Nat) : Char :=
  Nat.digitChar value

/-- A character as it stands between quotes. Only quotes, backslashes and control
characters are escaped. -/
def escape (character : Char) : List Char :=
  match character with
  | '"' => ['\\', '"']
  | '\\' => ['\\', '\\']
  | '\n' => ['\\', 'n']
  | '\r' => ['\\', 'r']
  | '\t' => ['\\', 't']
  | _ =>
      if character.toNat = 0x8 then ['\\', 'b']
      else if character.toNat = 0xc then ['\\', 'f']
      else if character.toNat < 0x20 then
        ['\\', 'u', '0', '0', hexDigit (character.toNat / 16), hexDigit (character.toNat % 16)]
      else [character]

def quote (text : List Char) : List Char :=
  '"' :: text.flatMap escape ++ ['"']

/-- An object of strings, without blanks, in the order given. -/
def objectOfStrings (fields : List (String × String)) : String :=
  let written := fields.map fun (name, value) =>
    quote name.toList ++ [':'] ++ quote value.toList
  .ofList (['{'] ++ (written.intersperse [',']).flatten ++ ['}'])

/-! ## Reading -/

/-- The value of a hexadecimal digit of either case. -/
def hexValue? (character : Char) : Option Nat :=
  if '0' ≤ character ∧ character ≤ '9' then some (character.toNat - '0'.toNat)
  else if 'a' ≤ character ∧ character ≤ 'f' then some (character.toNat - 'a'.toNat + 10)
  else if 'A' ≤ character ∧ character ≤ 'F' then some (character.toNat - 'A'.toNat + 10)
  else none

/-- The UTF-16 unit written as four hexadecimal digits, and what follows. -/
def readUnit? : List Char → Option (Nat × List Char)
  | a :: b :: c :: d :: rest => do
      let a ← hexValue? a
      let b ← hexValue? b
      let c ← hexValue? c
      let d ← hexValue? d
      some (((a * 16 + b) * 16 + c) * 16 + d, rest)
  | _ => none

def isHighSurrogate (unit : Nat) : Bool :=
  0xd800 ≤ unit && unit ≤ 0xdbff

def isLowSurrogate (unit : Nat) : Bool :=
  0xdc00 ≤ unit && unit ≤ 0xdfff

/-- The character after `\u`, and what follows. Surrogates have to come in
pairs. -/
def readCharacter? (text : List Char) : Option (Char × List Char) := do
  let (unit, rest) ← readUnit? text
  if isLowSurrogate unit then
    none
  else if isHighSurrogate unit then
    match rest with
    | '\\' :: 'u' :: rest =>
        let (low, rest) ← readUnit? rest
        if isLowSurrogate low then
          some (.ofNat (0x10000 + (unit - 0xd800) * 0x400 + (low - 0xdc00)), rest)
        else
          none
    | _ => none
  else
    some (.ofNat unit, rest)

/-- The character that a one-letter escape stands for. -/
def shortEscape? : Char → Option Char
  | '"' => some '"'
  | '\\' => some '\\'
  | '/' => some '/'
  | 'b' => some '\x08'
  | 'f' => some '\x0c'
  | 'n' => some '\n'
  | 'r' => some '\r'
  | 't' => some '\t'
  | _ => none

/-- The text up to the closing quote, and what follows. `bound` bounds the number
of characters read. -/
def readQuoted? : (bound : Nat) → List Char → Option (List Char × List Char)
  | 0, _ => none
  | _ + 1, [] => none
  | _ + 1, '"' :: rest => some ([], rest)
  | bound + 1, '\\' :: 'u' :: rest => do
      let (character, rest) ← readCharacter? rest
      let (text, rest) ← readQuoted? bound rest
      some (character :: text, rest)
  | bound + 1, '\\' :: letter :: rest => do
      let character ← shortEscape? letter
      let (text, rest) ← readQuoted? bound rest
      some (character :: text, rest)
  | bound + 1, character :: rest =>
      if character.toNat < 0x20 then none
      else do
        let (text, rest) ← readQuoted? bound rest
        some (character :: text, rest)

/-- A string at the front of a text, and what follows it. -/
def readString? : List Char → Option (List Char × List Char)
  | '"' :: rest => readQuoted? (rest.length + 1) rest
  | _ => none

/-- What follows the closing quote of a string whose value is not needed. Here
surrogates need not come in pairs. -/
def skipQuoted? : (bound : Nat) → List Char → Option (List Char)
  | 0, _ => none
  | _ + 1, [] => none
  | _ + 1, '"' :: rest => some rest
  | bound + 1, '\\' :: 'u' :: rest => do
      let (_, rest) ← readUnit? rest
      skipQuoted? bound rest
  | bound + 1, '\\' :: letter :: rest => do
      let _ ← shortEscape? letter
      skipQuoted? bound rest
  | bound + 1, character :: rest =>
      if character.toNat < 0x20 then none else skipQuoted? bound rest

example : quote "a\"\n".toList = "\"a\\\"\\n\"".toList := by decide

example : readString? (quote "a\"\n".toList ++ [',']) = some ("a\"\n".toList, [',']) := by
  decide

end LiveShader.Json
