import LiveShader.Text.Search

/-! Punycode: names beyond ASCII written in letters and digits.

The characters beyond ASCII are written in ascending order, as the differences
between successive states of a counter over (character, position). A difference is
a number of base 36 whose digits end at a threshold that follows the sizes of the
differences so far. -/

namespace LiveShader.Url.Punycode

/-- The digit of a value below 36: a letter, then a numeral. -/
def digit (value : Nat) : Char :=
  if value < 26 then .ofNat ('a'.toNat + value) else .ofNat ('0'.toNat + (value - 26))

/-- The threshold at a digit position. -/
def threshold (position bias : Nat) : Nat :=
  min 26 (max 1 (position - bias))

/-- Divides a difference down until it is small, counting positions. At most
`bound` divisions are made. -/
def scaleDown : (bound : Nat) → (difference position : Nat) → Nat × Nat
  | 0, difference, position => (difference, position)
  | bound + 1, difference, position =>
      if 455 < difference then scaleDown bound (difference / 35) (position + 36)
      else (difference, position)

/-- The bias after a difference was written. -/
def adapt (difference written : Nat) (isFirst : Bool) : Nat :=
  let damped := if isFirst then difference / 700 else difference / 2
  let (scaled, position) := scaleDown 64 (damped + damped / written) 0
  position + 36 * scaled / (scaled + 38)

/-- The digits of a difference, the last one below its threshold. At most `bound`
digits are written. -/
def digits : (bound : Nat) → (difference position bias : Nat) → List Char
  | 0, _, _, _ => []
  | bound + 1, difference, position, bias =>
      let threshold := threshold position bias
      if difference < threshold then [digit difference]
      else
        digit (threshold + (difference - threshold) % (36 - threshold)) ::
          digits bound ((difference - threshold) / (36 - threshold)) (position + 36) bias

/-- The counter while a name is written. -/
structure State where
  difference : Nat
  bias : Nat
  /-- How many characters are written so far. -/
  written : Nat
  output : List Char

/-- Passes over a name for one character beyond ASCII: smaller characters advance
the counter, and each occurrence is written. -/
def pass (basicCount : Nat) (target : Nat) (state : State) : List Char → State
  | [] => state
  | character :: rest =>
      let next :=
        if character.toNat < target then
          { state with difference := state.difference + 1 }
        else if character.toNat = target then
          { difference := 0
            bias := adapt state.difference (state.written + 1) (state.written = basicCount)
            written := state.written + 1
            output := state.output ++ digits 64 state.difference 36 state.bias }
        else
          state
      pass basicCount target next rest

/-- Writes the characters from `current` on, the smallest first. At most `bound`
different characters are written. -/
def writeFrom (basicCount : Nat) (label : List Char) :
    (bound : Nat) → (current : Nat) → State → State
  | 0, _, state => state
  | bound + 1, current, state =>
      match ((label.map Char.toNat).filter (current ≤ ·)).min? with
      | none => state
      | some target =>
          let advanced := { state with
            difference := state.difference + (target - current) * (state.written + 1) }
          let passed := pass basicCount target advanced label
          writeFrom basicCount label bound (target + 1)
            { passed with difference := passed.difference + 1 }

/-- A label in ASCII, without the mark of its encoding. -/
def encode (label : List Char) : List Char :=
  let basic := label.filter fun character => character.toNat < 0x80
  let start := if basic.isEmpty then [] else basic ++ ['-']
  (writeFrom basic.length label label.length 0x80
    { difference := 0, bias := 72, written := basic.length, output := start }).output

example : encode "bücher".toList = "bcher-kva".toList := by decide +kernel

/-! ## Reading -/

/-- The value of a digit. -/
def digitValue? (character : Char) : Option Nat :=
  if character.isLower then some (character.toNat - 'a'.toNat)
  else if character.isDigit then some (character.toNat - '0'.toNat + 26)
  else none

/-- One more than the greatest number an encoding may hold. -/
def numberBound : Nat := Nat.pow 2 32

/-- Adds a difference to the counter. The weight of its first digit is `weight`. -/
def readDifference? (bias : Nat) :
    (position weight counter : Nat) → List Char → Option (Nat × List Char)
  | _, _, _, [] => none
  | position, weight, counter, character :: rest => do
      let digit ← digitValue? character
      let counter := counter + digit * weight
      let threshold := threshold position bias
      if numberBound ≤ counter then none
      else if digit < threshold then some (counter, rest)
      else if numberBound ≤ weight * (36 - threshold) then none
      else readDifference? bias (position + 36) (weight * (36 - threshold)) counter rest

theorem length_lt_of_readDifference? {bias position weight counter : Nat}
    {text : List Char} {result : Nat × List Char}
    (found : readDifference? bias position weight counter text = some result) :
    result.2.length < text.length := by
  induction text generalizing position weight counter with
  | nil => simp [readDifference?] at found
  | cons character rest induction =>
      simp only [readDifference?, Option.bind_eq_bind, Option.bind_eq_some_iff] at found
      obtain ⟨digit, _, found⟩ := found
      split at found
      · simp at found
      · split at found
        · obtain rfl := Option.some.inj found
          simp
        · split at found
          · simp at found
          · have shorter := induction found
            simp only [List.length_cons]
            omega

/-- Puts the characters beyond ASCII between those of `output`. -/
def insertFrom (bias current counter : Nat) (output : List Char) (text : List Char) :
    Option (List Char) :=
  match text with
  | [] => some output
  | character :: rest =>
      match _found : readDifference? bias 36 1 counter (character :: rest) with
      | none => none
      | some (next, remaining) =>
          let count := output.length + 1
          let code := current + next / count
          let place := next % count
          if code.isValidChar then
            insertFrom (adapt (next - counter) count (counter = 0)) code (place + 1)
              (output.take place ++ .ofNat code :: output.drop place) remaining
          else
            none
termination_by text.length
decreasing_by exact length_lt_of_readDifference? (by assumption)

/-- What stands before and after the last hyphen, if anything stands before it. -/
def splitBasic (text : List Char) : List Char × List Char :=
  match Text.splitAtFirst? (· == '-') text.reverse with
  | some (after, before) => if before.isEmpty then ([], text) else (before.reverse, after.reverse)
  | none => ([], text)

/-- The label that was written in lower case. -/
def decode? (text : List Char) : Option (List Char) :=
  let (basic, differences) := splitBasic text
  insertFrom 72 0x80 0 basic differences

example : decode? "bcher-kva".toList = some "bücher".toList := by decide +kernel

end LiveShader.Url.Punycode
