import LiveShader.Toml.Moment
import LiveShader.Toml.Number

/-! The syntax of TOML 1.0.

A document that breaks a rule is refused without a reason: readers give what they
read and what follows it, or nothing. -/

namespace LiveShader.Toml

/-- How many containers may stand in each other, and how many keys in a path. -/
def depthLimit : Nat := 80

/-! ## Keys -/

def isBareCharacter (character : Char) : Bool :=
  character.isAlphanum || character == '_' || character == '-'

/-- Reads one key of a path. -/
def readKey? (text : List Char) : Option (String × List Char) :=
  match text with
  | '"' :: rest => (readBasic? (rest.length + 1) rest).map fun (key, rest) => (.ofList key, rest)
  | '\'' :: rest => (readLiteral? rest).map fun (key, rest) => (.ofList key, rest)
  | _ =>
      match text.span isBareCharacter with
      | ([], _) => none
      | (key, rest) => some (.ofList key, rest)

/-- Reads a path of at most `bound` keys with dots between them, and the blanks around
it. -/
def readPath? : (bound : Nat) → List Char → Option (Path × List Char)
  | 0, _ => none
  | bound + 1, text => do
      let (key, rest) ← readKey? (skipSpaces text)
      match skipSpaces rest with
      | '.' :: rest =>
          let (path, rest) ← readPath? bound rest
          some ({ path with parents := key :: path.parents }, rest)
      | rest => some ({ parents := [], key }, rest)

/-! ## Comments and line ends -/

/-- What follows a comment, if the text begins with one. -/
def skipComment : List Char → List Char
  | '#' :: rest => rest.dropWhile isPlain
  | text => text

/-- What follows the rest of a line, which has only blanks and a comment left. -/
def skipLineRest? (text : List Char) : Option (List Char) :=
  match skipComment (skipSpaces text) with
  | [] => some []
  | rest => skipLineEnd? rest

/-- What follows blanks, comments and line ends in an array. -/
def skipGap? : (bound : Nat) → List Char → Option (List Char)
  | 0, _ => none
  | bound + 1, text =>
      match skipSpaces text with
      | '#' :: rest => do
          let rest ← skipLineEnd? (skipComment ('#' :: rest))
          skipGap? bound rest
      | rest =>
          match skipLineEnd? rest with
          | some rest => skipGap? bound rest
          | none => some rest

/-- What follows a gap of any length. -/
def skipWholeGap? (text : List Char) : Option (List Char) :=
  skipGap? (text.length + 1) text

/-! ## Values -/

def readScalar? (text : List Char) : Option (Value × List Char) :=
  match text with
  | 't' :: 'r' :: 'u' :: 'e' :: rest => some (.boolean true, rest)
  | 'f' :: 'a' :: 'l' :: 's' :: 'e' :: rest => some (.boolean false, rest)
  | '"' :: _ => (readString? text).map fun (value, rest) => (.text (.ofList value), rest)
  | '\'' :: _ => (readString? text).map fun (value, rest) => (.text (.ofList value), rest)
  | _ =>
      match readMoment? text with
      | some (moment, rest) => some (.moment (.ofList moment), rest)
      | none => readNumber? text

mutual

/-- Reads a value with at most `depth` containers in each other. `bound` bounds the
number of steps. -/
def readValue? : (bound depth : Nat) → List Char → Option (Value × List Char)
  | 0, _, _ => none
  | bound + 1, depth, text =>
      match text, depth with
      | '[' :: _, 0 => none
      | '[' :: rest, depth + 1 => do
          let rest ← skipWholeGap? rest
          let (elements, rest) ← readElements? bound depth rest
          some (.array elements, rest)
      | '\x7b' :: _, 0 => none
      | '\x7b' :: rest, depth + 1 => do
          let (entries, rest) ←
            match skipSpaces rest with
            | '\x7d' :: rest => some ([], rest)
            | rest => readMembers? bound depth [] rest
          some (.table .inline entries, rest)
      | _, _ => readScalar? text

/-- Reads the elements of an array and its closing bracket. The last one may have a
comma after it. -/
def readElements? : (bound depth : Nat) → List Char → Option (List Value × List Char)
  | 0, _, _ => none
  | bound + 1, depth, text =>
      match text with
      | ']' :: rest => some ([], rest)
      | _ => do
          let (element, rest) ← readValue? bound depth text
          let rest ← skipWholeGap? rest
          match rest with
          | ']' :: rest => some ([element], rest)
          | ',' :: rest =>
              let rest ← skipWholeGap? rest
              let (elements, rest) ← readElements? bound depth rest
              some (element :: elements, rest)
          | _ => none

/-- Reads the members of an inline table and its closing brace, and adds them to
those before them. -/
def readMembers? : (bound depth : Nat) → Entries → List Char → Option (Entries × List Char)
  | 0, _, _, _ => none
  | bound + 1, depth, entries, text => do
      let (path, rest) ← readPath? (depthLimit - 1) text
      let rest ← skip? '=' rest
      let (value, rest) ← readValue? bound depth (skipSpaces rest)
      let entries ← Entries.assign? path.parents path.key value .header entries
      match skipSpaces rest with
      | ',' :: rest => readMembers? bound depth entries rest
      | '\x7d' :: rest => some (entries, rest)
      | _ => none

end

/-! ## Documents -/

/-- Reads a header, from after its first bracket. -/
def readHeader? : List Char → Option (Statement × List Char)
  | '[' :: rest => do
      let (path, rest) ← readPath? (depthLimit - 1) rest
      let rest ← skip? ']' rest
      let rest ← skip? ']' rest
      some (.element path, rest)
  | text => do
      let (path, rest) ← readPath? (depthLimit - 1) text
      let rest ← skip? ']' rest
      some (.table path, rest)

def readAssignment? (text : List Char) : Option (Statement × List Char) := do
  let (path, rest) ← readPath? (depthLimit - 1) text
  let rest ← skip? '=' rest
  let rest := skipSpaces rest
  let (value, rest) ← readValue? (2 * rest.length + 1) (depthLimit - 1) rest
  some (.assignment path value, rest)

/-- Reads the statements of a document, at most `bound` lines of it. -/
def readStatements? : (bound : Nat) → List Char → Option (List Statement)
  | 0, _ => none
  | bound + 1, text =>
      let line := skipSpaces text
      match line with
      | [] => some []
      | '#' :: _ => do
          let rest ← skipLineRest? line
          readStatements? bound rest
      | '[' :: rest => do
          let (statement, rest) ← readHeader? rest
          let rest ← skipLineRest? rest
          let statements ← readStatements? bound rest
          some (statement :: statements)
      | _ =>
          match skipLineEnd? line with
          | some rest => readStatements? bound rest
          | none => do
              let (statement, rest) ← readAssignment? line
              let rest ← skipLineRest? rest
              let statements ← readStatements? bound rest
              some (statement :: statements)

/-- What follows a byte order mark, if there is one. -/
def skipMark : List Char → List Char
  | '\ufeff' :: rest => rest
  | text => text

/-- The entries of a document. -/
def read? (text : String) : Option Entries := do
  let text := skipMark text.toList
  let statements ← readStatements? (text.length + 1) text
  let document ← statements.foldlM Document.extend? .empty
  some document.entries

end LiveShader.Toml
