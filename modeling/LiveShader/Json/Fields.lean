import LiveShader.Json.Quoted

/-! Reading the one field of a JSON document that matters.

Everything else in the document only has to be well formed, so it is passed over
without a value being made of it. -/

namespace LiveShader.Json

/-- The blanks of JSON, which are fewer than those of Unicode. -/
def isBlank (character : Char) : Bool :=
  character == ' ' || character == '\n' || character == '\t' || character == '\r'

def skipBlanks (text : List Char) : List Char :=
  text.dropWhile isBlank

/-! ## Numbers -/

/-- What follows one or more digits. -/
def skipDigits? : List Char → Option (List Char)
  | digit :: rest => if digit.isDigit then some (rest.dropWhile Char.isDigit) else none
  | [] => none

def skipExponent? : List Char → Option (List Char)
  | 'e' :: '+' :: rest => skipDigits? rest
  | 'e' :: '-' :: rest => skipDigits? rest
  | 'e' :: rest => skipDigits? rest
  | 'E' :: '+' :: rest => skipDigits? rest
  | 'E' :: '-' :: rest => skipDigits? rest
  | 'E' :: rest => skipDigits? rest
  | rest => some rest

def skipFraction? : List Char → Option (List Char)
  | '.' :: rest => skipDigits? rest
  | rest => some rest

/-- What follows the digits before the point, which have no leading zero. -/
def skipInteger? : List Char → Option (List Char)
  | '0' :: digit :: rest => if digit.isDigit then none else some (digit :: rest)
  | '0' :: [] => some []
  | rest => skipDigits? rest

/-- What follows a number without its sign. -/
def skipMagnitude? (text : List Char) : Option (List Char) := do
  let rest ← skipInteger? text
  let rest ← skipFraction? rest
  skipExponent? rest

/-! ## Values -/

mutual

/-- What follows a value at the front of a text. `bound` bounds the number of
steps. -/
def skipValue? : (bound : Nat) → List Char → Option (List Char)
  | 0, _ => none
  | bound + 1, text =>
      match skipBlanks text with
      | '"' :: rest => skipQuoted? (rest.length + 1) rest
      | '[' :: rest =>
          match skipBlanks rest with
          | ']' :: rest => some rest
          | rest => skipElements? bound rest
      | '{' :: rest =>
          match skipBlanks rest with
          | '}' :: rest => some rest
          | rest => skipMembers? bound rest
      | 't' :: 'r' :: 'u' :: 'e' :: rest => some rest
      | 'f' :: 'a' :: 'l' :: 's' :: 'e' :: rest => some rest
      | 'n' :: 'u' :: 'l' :: 'l' :: rest => some rest
      | '-' :: rest => skipMagnitude? rest
      | rest => skipMagnitude? rest

/-- What follows the elements of an array and its closing bracket. -/
def skipElements? : (bound : Nat) → List Char → Option (List Char)
  | 0, _ => none
  | bound + 1, text => do
      let rest ← skipValue? bound text
      match skipBlanks rest with
      | ',' :: rest => skipElements? bound rest
      | ']' :: rest => some rest
      | _ => none

/-- What follows the members of an object and its closing brace. -/
def skipMembers? : (bound : Nat) → List Char → Option (List Char)
  | 0, _ => none
  | bound + 1, text =>
      match skipBlanks text with
      | '"' :: rest => do
          let rest ← skipQuoted? (rest.length + 1) rest
          match skipBlanks rest with
          | ':' :: rest =>
              let rest ← skipValue? bound rest
              match skipBlanks rest with
              | ',' :: rest => skipMembers? bound rest
              | '}' :: rest => some rest
              | _ => none
          | _ => none
      | _ => none

end

/-- A number of steps that suffices for any value in a text. -/
def stepBound (text : List Char) : Nat :=
  2 * text.length + 2

/-! ## One field -/

/-- The string at `name` among the members of an object, and what follows the
object's closing brace. The name must occur, and only once. -/
def fieldOfMembers? (name : List Char) : (bound : Nat) → (found : Option (List Char)) →
    List Char → Option (List Char × List Char)
  | 0, _, _ => none
  | bound + 1, found, text => do
      let (key, rest) ← readString? (skipBlanks text)
      match skipBlanks rest with
      | ':' :: rest =>
          let (found, rest) ←
            if key = name then
              if found.isSome then none
              else (readString? (skipBlanks rest)).map fun (value, rest) => (some value, rest)
            else
              (skipValue? (stepBound rest) rest).map fun rest => (found, rest)
          match skipBlanks rest with
          | ',' :: rest => fieldOfMembers? name bound found rest
          | '}' :: rest => found.map fun value => (value, rest)
          | _ => none
      | _ => none

/-- The only string field `name` of a record. The record is written as an object
with other members ignored, or as an array of its one field. Nothing but blanks
follows it. -/
def readField? (name : List Char) (text : List Char) : Option (List Char) := do
  let (value, rest) ←
    match skipBlanks text with
    | '{' :: rest => fieldOfMembers? name (rest.length + 1) none rest
    | '[' :: rest => do
        let (value, rest) ← readString? (skipBlanks rest)
        match skipBlanks rest with
        | ']' :: rest => some (value, rest)
        | _ => none
    | _ => none
  if (skipBlanks rest).isEmpty then some value else none

end LiveShader.Json
