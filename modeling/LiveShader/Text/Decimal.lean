/-! Unsigned numbers in decimal. -/

namespace LiveShader.Text

/-- The value of a string of digits, read on from `value`. -/
def digitsValue (value : Nat) : List Char → Nat
  | [] => value
  | digit :: rest => digitsValue (value * 10 + (digit.toNat - '0'.toNat)) rest

/-- Reads an unsigned number below `bound`: one or more ASCII digits, with an
optional plus sign in front. -/
def readNatural? (bound : Nat) (text : List Char) : Option Nat :=
  let digits := match text with
    | '+' :: rest => rest
    | _ => text
  if digits.isEmpty || !digits.all Char.isDigit then
    none
  else
    let value := digitsValue 0 digits
    if value < bound then some value else none

/-- Numbers of 32 bits. -/
def read32? (text : List Char) : Option Nat :=
  readNatural? (Nat.pow 2 32) text

/-- Numbers of 64 bits. -/
def read64? (text : List Char) : Option Nat :=
  readNatural? (Nat.pow 2 64) text

/-- The decimal digits of a number. -/
def decimal (value : Nat) : List Char :=
  Nat.toDigits 10 value

example : read32? "+42".toList = some 42 := by decide

example : read32? "4294967296".toList = none := by decide

end LiveShader.Text
