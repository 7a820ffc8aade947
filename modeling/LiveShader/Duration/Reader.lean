import LiveShader.Duration
import LiveShader.Text.Blank
import LiveShader.Text.Decimal

/-! Spans of time as people write them, such as `1h 30m` or `2.5 s`.

A span is a sequence of numbers with a unit each. The text is read from left to
right, one character at a time, and every error says where in the text it is. -/

namespace LiveShader

/-! ## Units -/

inductive TimeUnit where
  | nanosecond
  | microsecond
  | millisecond
  | second
  | minute
  | hour
  | day
  | week
  | month
  | year
  deriving DecidableEq, Repr

/-- A number of nanoseconds or of seconds. -/
inductive TimeScale where
  | nanoseconds (count : Nat)
  | seconds (count : Nat)
  deriving DecidableEq, Repr

namespace TimeUnit

/-- The unit with a name or an abbreviation. -/
def ofName? (name : String) : Option TimeUnit :=
  if ["nanos", "nsec", "ns"].contains name then some nanosecond
  else if ["usec", "us", "µs"].contains name then some microsecond
  else if ["millis", "msec", "ms"].contains name then some millisecond
  else if ["seconds", "second", "secs", "sec", "s"].contains name then some second
  else if ["minutes", "minute", "min", "mins", "m"].contains name then some minute
  else if ["hours", "hour", "hr", "hrs", "h"].contains name then some hour
  else if ["days", "day", "d"].contains name then some day
  else if ["weeks", "week", "wk", "wks", "w"].contains name then some week
  else if ["months", "month", "M"].contains name then some month
  else if ["years", "year", "yrs", "yr", "y"].contains name then some year
  else none

/-- The length of a unit, in the scale whole numbers of it are counted in. -/
def scale : TimeUnit → TimeScale
  | nanosecond => .nanoseconds 1
  | microsecond => .nanoseconds 1000
  | millisecond => .nanoseconds 1000000
  | second => .seconds 1
  | minute => .seconds 60
  | hour => .seconds 3600
  | day => .seconds 86400
  | week => .seconds 604800
  | month => .seconds 2630016
  | year => .seconds 31557600

/-- The length of a unit, in the scale fractions of it are counted in. There are
no fractions of a nanosecond. -/
def fractionScale? : TimeUnit → Option TimeScale
  | nanosecond => none
  | second => some (.nanoseconds 1000000000)
  | minute => some (.nanoseconds 60000000000)
  | unit => some unit.scale

end TimeUnit

/-- Both numbers of a span and all numbers in between have 64 bits. -/
def spanBound : Nat := Nat.pow 2 64

namespace Duration

/-- Adds `numerator / denominator` units of a scale, which has to be a whole number
of them. -/
def add? (total : Duration) (scale : TimeScale) (numerator denominator : Nat) :
    Option Duration :=
  let product := match scale with
    | .nanoseconds count => numerator * count
    | .seconds count => numerator * count
  if spanBound ≤ product || product % denominator ≠ 0 then
    none
  else
    let amount := product / denominator
    let nanoseconds := match scale with
      | .nanoseconds _ => total.nanoseconds + amount
      | .seconds _ => total.nanoseconds
    let seconds := match scale with
      | .nanoseconds _ => total.seconds + nanoseconds / 1000000000
      | .seconds _ => total.seconds + amount
    if spanBound ≤ nanoseconds || spanBound ≤ seconds then
      none
    else
      some { seconds, nanoseconds := nanoseconds % 1000000000 }

end Duration

/-! ## Reading -/

/-- Why a text is not a span of time. Offsets are in bytes. -/
inductive DurationError where
  | empty
  | numberExpected (offset : Nat)
  | invalidCharacter (offset : Nat)
  | unitNeeded (value : Nat)
  | unknownUnit (name : String)
  | unrepresentable
  deriving DecidableEq, Repr

namespace DurationError

def message : DurationError → String
  | empty => "value was empty"
  | numberExpected offset => s!"expected number at {offset}"
  | invalidCharacter offset => s!"invalid character at {offset}"
  | unitNeeded value => s!"time unit needed, for example {value}sec or {value}ms"
  | unknownUnit name =>
      "unknown time unit \"" ++ name ++ "\", supported units: ns, us/µs, ms, sec, min, " ++
        "hours, days, weeks, months, years (and few variations)"
  | unrepresentable =>
      "number is too large or cannot be represented without a lack of precision " ++
        "(values below 1ns are not supported)"

end DurationError

/-- Digits after a point. -/
structure DecimalFraction where
  numerator : Nat
  /-- A power of ten, which is 1 as long as there are no digits. -/
  denominator : Nat
  deriving DecidableEq, Repr

/-- Where in a span a reader is. -/
inductive SpanPosition where
  /-- Before a number, which is looked for since an offset. -/
  | beforeNumber (start : Nat)
  | inNumber (value : Nat)
  /-- After a point. The offset is where the last accepted character ended. -/
  | inFraction (value : Nat) (fraction : DecimalFraction) (offset : Nat)
  /-- In a unit, whose letters are kept last first. -/
  | inUnit (value : Nat) (fraction : Option DecimalFraction) (letters : List Char)
  deriving DecidableEq, Repr

structure SpanReader where
  /-- The sum of the parts that are complete, if there are any. -/
  total : Option Duration
  position : SpanPosition
  /-- The bytes read so far. -/
  offset : Nat
  deriving DecidableEq, Repr

namespace SpanReader

def initial : SpanReader :=
  { total := none, position := .beforeNumber 0, offset := 0 }

def isUnitLetter (character : Char) : Bool :=
  character.isAlpha || character == 'µ'

def digitValue (digit : Char) : Nat :=
  digit.toNat - '0'.toNat

/-- A number with one more digit. -/
def appendDigit (value : Nat) (digit : Char) : Except DurationError Nat :=
  let value := value * 10 + digitValue digit
  if value < spanBound then .ok value else .error .unrepresentable

/-- Adds a whole number of units and a fraction of one to the total. -/
def complete (total : Option Duration) (value : Nat) (fraction : Option DecimalFraction)
    (letters : List Char) : Except DurationError Duration :=
  let name := String.ofList letters.reverse
  let total := total.getD (.ofSeconds 0)
  match TimeUnit.ofName? name with
  | none => .error (.unknownUnit name)
  | some unit =>
      let sum := do
        let total ← total.add? unit.scale value 1
        match fraction with
        | none => some total
        | some fraction =>
            let scale ← unit.fractionScale?
            total.add? scale fraction.numerator fraction.denominator
      match sum with
      | none => .error .unrepresentable
      | some total => .ok total

/-- Reads one character. -/
def step (reader : SpanReader) (character : Char) : Except DurationError SpanReader := do
  let next := reader.offset + character.utf8Size
  let move (position : SpanPosition) : SpanReader := { reader with position, offset := next }
  match reader.position with
  | .beforeNumber start =>
      if character.isDigit then .ok (move (.inNumber (digitValue character)))
      else if Text.isBlank character then .ok (move reader.position)
      else .error (.numberExpected start)
  | .inNumber value =>
      if character.isDigit then
        let value ← appendDigit value character
        .ok (move (.inNumber value))
      else if Text.isBlank character then .ok (move reader.position)
      else if isUnitLetter character then .ok (move (.inUnit value none [character]))
      else if character = '.' then
        .ok (move (.inFraction value { numerator := 0, denominator := 1 } reader.offset))
      else .error (.invalidCharacter reader.offset)
  | .inFraction value fraction offset =>
      if character.isDigit then
        let numerator ← appendDigit fraction.numerator character
        let denominator ← appendDigit fraction.denominator '0'
        .ok (move (.inFraction value { numerator, denominator } next))
      else if Text.isBlank character then .ok (move (.inFraction value fraction next))
      else if isUnitLetter character && fraction.denominator ≠ 1 then
        .ok (move (.inUnit value (some fraction) [character]))
      else .error (.invalidCharacter offset)
  | .inUnit value fraction letters =>
      if character.isDigit then
        let total ← complete reader.total value fraction letters
        .ok { total, position := .inNumber (digitValue character), offset := next }
      else if Text.isBlank character then
        let total ← complete reader.total value fraction letters
        .ok { total, position := .beforeNumber next, offset := next }
      else if isUnitLetter character then
        .ok (move (.inUnit value fraction (character :: letters)))
      else .error (.invalidCharacter reader.offset)

/-- The span that was read, at the end of the text. -/
def finish (reader : SpanReader) : Except DurationError Duration :=
  match reader.position with
  | .beforeNumber _ =>
      match reader.total with
      | none => .error .empty
      | some total => .ok total
  | .inNumber value => .error (.unitNeeded value)
  | .inFraction value fraction offset =>
      if fraction.denominator = 1 then .error (.invalidCharacter offset)
      else .error (.unitNeeded value)
  | .inUnit value fraction letters => complete reader.total value fraction letters

end SpanReader

namespace Duration

/-- Reads a span written with units. Zero needs none. -/
def ofText (text : String) : Except DurationError Duration :=
  if text = "0" then
    .ok (ofSeconds 0)
  else
    (text.toList.foldlM SpanReader.step .initial).bind SpanReader.finish

/-- What a text that is not a span is refused with. -/
def refusal (text : String) (error : DurationError) : String :=
  "invalid duration '" ++ text ++ "': " ++ error.message

/-- Reads a span from the command line, where a bare number counts seconds. -/
def ofArgument (argument : String) : Except String Duration :=
  let text := Text.trimString argument
  match Text.read64? text.toList with
  | some seconds => .ok (ofSeconds seconds)
  | none => (ofText text).mapError (refusal text)

end Duration

end LiveShader
