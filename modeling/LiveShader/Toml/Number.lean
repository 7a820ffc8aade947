import LiveShader.Text.Decimal
import LiveShader.Toml.Quoted
import LiveShader.Toml.Value

/-! Numbers in TOML. -/

namespace LiveShader.Toml

open Text

/-! ## Digits -/

/-- Reads digits of any base on from where at least one has been read. An underscore
has to stand between two digits. -/
def readMoreDigits? (isDigit : Char → Bool) : List Char → Option (List Char × List Char)
  | '_' :: digit :: rest =>
      if isDigit digit then do
        let (digits, rest) ← readMoreDigits? isDigit rest
        some (digit :: digits, rest)
      else none
  | character :: rest =>
      if isDigit character then do
        let (digits, rest) ← readMoreDigits? isDigit rest
        some (character :: digits, rest)
      else if character = '_' then none
      else some ([], character :: rest)
  | [] => some ([], [])

/-- Reads one or more digits, without the underscores between them. -/
def readDigits? (isDigit : Char → Bool) : List Char → Option (List Char × List Char)
  | character :: rest =>
      if isDigit character then do
        let (digits, rest) ← readMoreDigits? isDigit rest
        some (character :: digits, rest)
      else none
  | [] => none

/-- Reads the digits of a decimal number, where a zero in front is the only digit. -/
def readDecimal? : List Char → Option (List Char × List Char)
  | '0' :: rest => some (['0'], rest)
  | text => readDigits? Char.isDigit text

/-! ## Integers -/

/-- An integer of 64 bits with a sign. -/
def integer? (value : Int) : Option Value :=
  if -(Int.pow 2 63) ≤ value && value < Int.pow 2 63 then some (.integer value) else none

/-- Reads the digits of an integer in another base than ten. -/
def readInBase? (base : Nat) (text : List Char) : Option (Value × List Char) := do
  let isDigit (character : Char) : Bool :=
    match hexadecimalDigit? character with
    | some digit => digit < base
    | none => false
  let (digits, rest) ← readDigits? isDigit text
  let value := digits.foldl
    (fun value digit => value * base + (hexadecimalDigit? digit).getD 0) 0
  let value ← integer? value
  some (value, rest)

/-! ## Floats -/

/-- Splits a sign off, which is whether it is a minus. -/
def splitSign : List Char → Bool × List Char
  | '-' :: rest => (true, rest)
  | '+' :: rest => (false, rest)
  | text => (false, text)

/-- The digits after a point, if there is one. -/
def readFraction? : List Char → Option (Option (List Char) × List Char)
  | '.' :: rest => do
      let (digits, rest) ← readDigits? Char.isDigit rest
      some (some digits, rest)
  | text => some (none, text)

/-- The number after an `e`, if there is one. -/
def readExponent? (text : List Char) : Option (Option Int × List Char) :=
  match text with
  | letter :: rest =>
      if letter = 'e' || letter = 'E' then do
        let ( isNegative, rest) := splitSign rest
        let (digits, rest) ← readDigits? Char.isDigit rest
        let value : Int := digitsValue 0 digits
        some (some (if isNegative then -value else value), rest)
      else some (none, text)
  | [] => some (none, [])

/-- A finite float, or one that is too small. -/
def float? (value : Binary64) : Option Value :=
  if value = .infinite false then none else some (.float value)

/-- Reads a decimal number: an integer, or a float if it has a fraction or an
exponent. -/
def readDecimalNumber? ( isNegative : Bool) (text : List Char) :
    Option (Value × List Char) := do
  let (whole, rest) ← readDecimal? text
  let (fraction, rest) ← readFraction? rest
  let (exponent, rest) ← readExponent? rest
  let value ←
    match fraction, exponent with
    | none, none =>
        let value : Int := digitsValue 0 whole
        integer? (if isNegative then -value else value)
    | _, _ =>
        let fraction := fraction.getD []
        float? <| .ofDecimal isNegative (digitsValue 0 (whole ++ fraction))
          (exponent.getD 0 - fraction.length)
  some (value, rest)

/-- Reads a number of any kind. -/
def readNumber? (text : List Char) : Option (Value × List Char) :=
  match text with
  | '0' :: 'x' :: rest => readInBase? 16 rest
  | '0' :: 'o' :: rest => readInBase? 8 rest
  | '0' :: 'b' :: rest => readInBase? 2 rest
  | _ =>
      let ( isNegative, text) := splitSign text
      match text with
      | 'i' :: 'n' :: 'f' :: rest => some (.float (.infinite isNegative), rest)
      | 'n' :: 'a' :: 'n' :: rest => some (.float .nan, rest)
      | _ => readDecimalNumber? isNegative text

end LiveShader.Toml
