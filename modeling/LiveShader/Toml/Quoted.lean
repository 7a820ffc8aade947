import LiveShader.Text.Search

/-! The four kinds of strings in TOML.

Every reader takes the text from after the opening quotation marks and gives what
the string says and what follows it. -/

namespace LiveShader.Toml

open Text

/-- A character that may stand in a string or a comment as it is. -/
def isPlain (character : Char) : Bool :=
  character == '\t' || (0x20 ≤ character.toNat && character.toNat ≠ 0x7f)

/-- What follows a line end. -/
def skipLineEnd? : List Char → Option (List Char)
  | '\n' :: rest => some rest
  | '\r' :: '\n' :: rest => some rest
  | _ => none

def isSpace (character : Char) : Bool :=
  character == ' ' || character == '\t'

def skipSpaces (text : List Char) : List Char :=
  text.dropWhile isSpace

/-! ## Escapes -/

def hexadecimalDigit? (character : Char) : Option Nat :=
  if character.isDigit then some (character.toNat - '0'.toNat)
  else if 'a' ≤ character && character ≤ 'f' then some (character.toNat - 'a'.toNat + 10)
  else if 'A' ≤ character && character ≤ 'F' then some (character.toNat - 'A'.toNat + 10)
  else none

/-- Reads a number of exactly `count` hexadecimal digits, on from `value`. -/
def readHexadecimal? : (count : Nat) → (value : Nat) → List Char → Option (Nat × List Char)
  | 0, value, rest => some (value, rest)
  | _ + 1, _, [] => none
  | count + 1, value, character :: rest => do
      let digit ← hexadecimalDigit? character
      readHexadecimal? count (value * 16 + digit) rest

def readCodePoint? (count : Nat) (text : List Char) : Option (Char × List Char) := do
  let (value, rest) ← readHexadecimal? count 0 text
  if value.isValidChar then some (Char.ofNat value, rest) else none

/-- The character of an escape, from after its backslash. -/
def readEscape? : List Char → Option (Char × List Char)
  | 'b' :: rest => some ('\x08', rest)
  | 't' :: rest => some ('\t', rest)
  | 'n' :: rest => some ('\n', rest)
  | 'f' :: rest => some ('\x0c', rest)
  | 'r' :: rest => some ('\r', rest)
  | '"' :: rest => some ('"', rest)
  | '\\' :: rest => some ('\\', rest)
  | 'u' :: rest => readCodePoint? 4 rest
  | 'U' :: rest => readCodePoint? 8 rest
  | _ => none

/-- Skips blanks and line ends, at most `bound` of them. -/
def skipLines : (bound : Nat) → List Char → List Char
  | 0, text => text
  | bound + 1, text =>
      match skipLineEnd? text with
      | some rest => skipLines bound rest
      | none =>
          match text with
          | character :: rest => if isSpace character then skipLines bound rest else text
          | [] => []

/-- What follows a backslash at the end of a line, with the blanks and line ends
after it. -/
def skipContinuation? (text : List Char) : Option (List Char) := do
  let rest ← skipLineEnd? (skipSpaces text)
  some (skipLines rest.length rest)

/-! ## Strings on one line -/

/-- Reads a string in double quotation marks. `bound` bounds the number of
characters. -/
def readBasic? : (bound : Nat) → List Char → Option (List Char × List Char)
  | 0, _ => none
  | _, [] => none
  | _ + 1, '"' :: rest => some ([], rest)
  | bound + 1, '\\' :: rest => do
      let (character, rest) ← readEscape? rest
      let (value, rest) ← readBasic? bound rest
      some (character :: value, rest)
  | bound + 1, character :: rest =>
      if isPlain character then do
        let (value, rest) ← readBasic? bound rest
        some (character :: value, rest)
      else none

/-- Reads a string in single quotation marks. -/
def readLiteral? : List Char → Option (List Char × List Char)
  | [] => none
  | '\'' :: rest => some ([], rest)
  | character :: rest =>
      if isPlain character then do
        let (value, rest) ← readLiteral? rest
        some (character :: value, rest)
      else none

/-! ## Strings on many lines -/

/-- Up to two marks that belong to a string, in front of the three that ended it. -/
def readLastMarks (mark : Char) : List Char → List Char × List Char
  | first :: second :: rest =>
      if first = mark && second = mark then ([mark, mark], rest)
      else if first = mark then ([mark], second :: rest)
      else ([], first :: second :: rest)
  | [first] => if first = mark then ([mark], []) else ([], [first])
  | [] => ([], [])

/-- Reads a string between three marks, with escapes if it `hasEscapes`. `bound` bounds
the number of characters. -/
def readLong? (mark : Char) (hasEscapes : Bool) :
    (bound : Nat) → List Char → Option (List Char × List Char)
  | 0, _ => none
  | bound + 1, text =>
      match dropLeading? [mark, mark, mark] text with
      | some rest => some (readLastMarks mark rest)
      | none =>
          match skipLineEnd? text, text with
          | some rest, _ => do
              let (value, rest) ← readLong? mark hasEscapes bound rest
              some ('\n' :: value, rest)
          | none, [] => none
          | none, character :: rest =>
              if hasEscapes && character = '\\' then
                match skipContinuation? rest with
                | some rest => readLong? mark hasEscapes bound rest
                | none => do
                    let (escaped, rest) ← readEscape? rest
                    let (value, rest) ← readLong? mark hasEscapes bound rest
                    some (escaped :: value, rest)
              else if isPlain character then do
                let (value, rest) ← readLong? mark hasEscapes bound rest
                some (character :: value, rest)
              else none

/-- Reads a string between three marks, whose first line end does not count. -/
def readLongFromStart? (mark : Char) (hasEscapes : Bool) (text : List Char) :
    Option (List Char × List Char) :=
  let text := (skipLineEnd? text).getD text
  readLong? mark hasEscapes (text.length + 1) text

/-- Reads a string of any kind, with its opening marks. -/
def readString? : List Char → Option (List Char × List Char)
  | '"' :: '"' :: '"' :: rest => readLongFromStart? '"' true rest
  | '\'' :: '\'' :: '\'' :: rest => readLongFromStart? '\'' false rest
  | '"' :: rest => readBasic? (rest.length + 1) rest
  | '\'' :: rest => readLiteral? rest
  | _ => none

end LiveShader.Toml
