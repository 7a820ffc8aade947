import LiveShader.Json.Quoted

/-! Percent-encoding, and which characters each part of a URL escapes. -/

namespace LiveShader.Url

/-- The upper-case hexadecimal digit of a number below 16. -/
def upperHexDigit (value : Nat) : Char :=
  (Nat.digitChar value).toUpper

/-- A byte as an escape. -/
def escapeByte (byte : UInt8) : List Char :=
  ['%', upperHexDigit (byte.toNat / 16), upperHexDigit (byte.toNat % 16)]

/-- The bytes of a character in UTF-8. -/
def utf8Bytes (character : Char) : List UInt8 :=
  (String.ofList [character]).toUTF8.toList

/-- Escapes the bytes of each character with a property. -/
def encode (escapes : Char → Bool) (text : List Char) : List Char :=
  text.flatMap fun character =>
    if escapes character then (utf8Bytes character).flatMap escapeByte else [character]

/-- The bytes a text stands for, escapes read. A percent sign that starts no
escape stands for itself. -/
def decodeBytes : List Char → List UInt8
  | [] => []
  | '%' :: high :: low :: rest =>
      match Json.hexValue? high, Json.hexValue? low with
      | some high, some low => UInt8.ofNat (high * 16 + low) :: decodeBytes rest
      | _, _ => '%'.val.toUInt8 :: decodeBytes (high :: low :: rest)
  | character :: rest => utf8Bytes character ++ decodeBytes rest

/-! ## Escape sets, each larger than the one before -/

/-- Control characters and everything beyond ASCII. -/
def escapesControl (character : Char) : Bool :=
  character.toNat < 0x20 || 0x7e < character.toNat

def escapesFragment (character : Char) : Bool :=
  escapesControl character || " \"<>`".toList.contains character

def escapesQuery (character : Char) : Bool :=
  escapesControl character || " \"#<>".toList.contains character

/-- In the schemes with a host of their own, queries escape apostrophes too. -/
def escapesSpecialQuery (character : Char) : Bool :=
  escapesQuery character || character == '\''

def escapesPath (character : Char) : Bool :=
  escapesFragment character || "#?\x7b\x7d".toList.contains character

def escapesUserinfo (character : Char) : Bool :=
  escapesPath character || "/:;=@[\\]^|".toList.contains character

end LiveShader.Url
