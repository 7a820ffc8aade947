import LiveShader.Data.Single

/-! Numbers and bytes in hexadecimal. -/

namespace LiveShader.Hex

/-- The lowest `count` digits of a number, in lower case. -/
def digits : (count : Nat) → (value : Nat) → List Char
  | 0, _ => []
  | count + 1, value => digits count (value / 16) ++ [Nat.digitChar (value % 16)]

/-- Bytes, two digits each. -/
def ofBytes (bytes : List UInt8) : String :=
  .ofList (bytes.flatMap fun byte => digits 2 byte.toNat)

/-- The bits of a single-precision number, or `nan`. -/
def ofSingle (value : Single) : String :=
  if value.isNaN then "nan" else .ofList (digits 8 value.bits.toNat)

/-- The number that lower-case digits stand for. -/
def value (digits : String) : Nat :=
  digits.toList.foldl
    (fun value digit =>
      value * 16 +
        if digit.isDigit then digit.toNat - '0'.toNat else digit.toNat - 'a'.toNat + 10)
    0

/-- Reads what `ofSingle` writes. -/
def toSingle (text : String) : Single :=
  if text = "nan" then ⟨0x7fc00000⟩ else ⟨UInt32.ofNat (value text)⟩

end LiveShader.Hex
