/-! How alike two names are, to tell a mistyped command from a prompt.

The measure is Jaro's: characters match if they are equal and not too far apart, and
matching characters in a different order count half. -/

namespace LiveShader.Similarity

/-- Marks the first unmarked occurrence of a character among those at `low` to `high`,
where `place` is the place of the first entry. -/
def mark? (character : Char) (low high : Nat) :
    (place : Nat) → List (Char × Bool) → Option (List (Char × Bool))
  | _, [] => none
  | place, (other, isMarked) :: rest =>
      if low ≤ place && place ≤ high && !isMarked && other = character then
        some ((other, true) :: rest)
      else
        (mark? character low high (place + 1) rest).map fun rest => (other, isMarked) :: rest

/-- Matches the characters from a place on: those that found a match, and the other
name with the matches marked. -/
def matchFrom (range : Nat) :
    (place : Nat) → List Char → List (Char × Bool) → List Char × List (Char × Bool)
  | _, [], others => ([], others)
  | place, character :: rest, others =>
      match mark? character (place - range) (place + range) 0 others with
      | some others =>
          let (found, others) := matchFrom range (place + 1) rest others
          (character :: found, others)
      | none => matchFrom range (place + 1) rest others

/-- How alike two names are, between zero and one. The sum is rounded after each step,
which decides about names on the edge. -/
def similarity (first second : List Char) : Float :=
  let range := max first.length second.length / 2 - 1
  let (found, others) := matchFrom range 0 first (second.map fun character => (character, false))
  let partners := (others.filter fun entry => entry.2).map Prod.fst
  let swapped := ((found.zip partners).countP fun pair => pair.1 ≠ pair.2) / 2
  let share (part whole : Nat) : Float := .ofNat part / .ofNat whole
  if found.isEmpty then 0
  else
    (share found.length first.length + share found.length second.length +
      share (found.length - swapped) found.length) / 3

/-- Whether the similarity of two names is above seven tenths. -/
def isSimilar (first second : List Char) : Bool :=
  0.7 < similarity first second

example : isSimilar "splitt".toList "split".toList = true := by decide +kernel

/-- Four of five characters match, all of them in another order: just enough. -/
example : isSimilar "psilx".toList "split".toList = true := by decide +kernel

example : isSimilar "tunnel".toList "generate".toList = false := by decide +kernel

end LiveShader.Similarity
