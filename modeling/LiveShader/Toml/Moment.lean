import LiveShader.Text.Decimal

/-! Dates and times in TOML, read into their normal form. -/

namespace LiveShader.Toml

open Text

/-- Reads exactly `count` digits. -/
def readPlaces? : (count : Nat) → List Char → Option (List Char × List Char)
  | 0, rest => some ([], rest)
  | _ + 1, [] => none
  | count + 1, character :: rest =>
      if character.isDigit then do
        let (digits, rest) ← readPlaces? count rest
        some (character :: digits, rest)
      else none

/-- Reads two digits of a number in a range. -/
def readPair? (low high : Nat) (text : List Char) : Option (List Char × List Char) := do
  let (digits, rest) ← readPlaces? 2 text
  let value := digitsValue 0 digits
  if low ≤ value && value ≤ high then some (digits, rest) else none

def skip? (expected : Char) : List Char → Option (List Char)
  | character :: rest => if character = expected then some rest else none
  | [] => none

/-! ## Dates -/

def isLeapYear (year : Nat) : Bool :=
  year % 4 = 0 && (year % 100 ≠ 0 || year % 400 = 0)

def daysInMonth (year month : Nat) : Nat :=
  match month with
  | 2 => if isLeapYear year then 29 else 28
  | 4 | 6 | 9 | 11 => 30
  | _ => 31

def readDate? (text : List Char) : Option (List Char × List Char) := do
  let (year, rest) ← readPlaces? 4 text
  let rest ← skip? '-' rest
  let (month, rest) ← readPair? 1 12 rest
  let rest ← skip? '-' rest
  let last := daysInMonth (digitsValue 0 year) (digitsValue 0 month)
  let (day, rest) ← readPair? 1 last rest
  some (year ++ '-' :: month ++ '-' :: day, rest)

/-! ## Times -/

/-- The digits of a fraction of a second, to the nanosecond and without zeros at the
end. -/
def secondFraction (digits : List Char) : List Char :=
  match ((digits.take 9).reverse.dropWhile (· == '0')).reverse with
  | [] => []
  | digits => '.' :: digits

/-- A fraction of a second, if there is one. -/
def readSecondFraction (text : List Char) : List Char × List Char :=
  match text with
  | '.' :: rest =>
      match rest.span Char.isDigit with
      | ([], _) => ([], text)
      | (digits, rest) => (secondFraction digits, rest)
  | _ => ([], text)

def readTime? (text : List Char) : Option (List Char × List Char) := do
  let (hour, rest) ← readPair? 0 23 text
  let rest ← skip? ':' rest
  let (minute, rest) ← readPair? 0 59 rest
  let rest ← skip? ':' rest
  let (second, rest) ← readPair? 0 60 rest
  let (fraction, rest) := readSecondFraction rest
  some (hour ++ ':' :: minute ++ ':' :: second ++ fraction, rest)

/-- The offset of a time from universal time. An offset of zero is positive. -/
def readOffset? : List Char → Option (List Char × List Char)
  | 'Z' :: rest => some (['Z'], rest)
  | 'z' :: rest => some (['Z'], rest)
  | sign :: rest =>
      if sign = '+' || sign = '-' then do
        let (hour, rest) ← readPair? 0 23 rest
        let rest ← skip? ':' rest
        let (minute, rest) ← readPair? 0 59 rest
        let sign := if (hour ++ minute).all (· == '0') then '+' else sign
        some (sign :: hour ++ ':' :: minute, rest)
      else none
  | [] => none

/-! ## Both -/

/-- What may stand between a date and a time. -/
def isSeparator (character : Char) : Bool :=
  character == 'T' || character == 't' || character == ' '

/-- The time that follows a date, if there is one. -/
def readTimeOfDate (text : List Char) : List Char × List Char :=
  match text with
  | character :: rest =>
      if isSeparator character then
        match readTime? rest with
        | some (time, rest) =>
            match readOffset? rest with
            | some (offset, rest) => ('T' :: time ++ offset, rest)
            | none => ('T' :: time, rest)
        | none => ([], text)
      else ([], text)
  | [] => ([], [])

/-- Reads a date, a time or both. -/
def readMoment? (text : List Char) : Option (List Char × List Char) :=
  match readDate? text with
  | some (date, rest) =>
      let (time, rest) := readTimeOfDate rest
      some (date ++ time, rest)
  | none => readTime? text

end LiveShader.Toml
