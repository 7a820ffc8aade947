/-! Double-precision numbers, as exact values. -/

namespace LiveShader

/-- A double-precision number. A finite one is `magnitude * 2 ^ exponent`, with a
magnitude of at most 53 bits. -/
inductive Binary64 where
  | nan
  | infinite ( isNegative : Bool)
  | finite ( isNegative : Bool) (magnitude : Nat) (exponent : Int)
  deriving DecidableEq, Repr

namespace Binary64

/-- `numerator / denominator`, rounded to the nearest whole number, and to the even
one of two that are equally near. -/
def roundedQuotient (numerator denominator : Nat) : Nat :=
  let quotient := numerator / denominator
  let rest := 2 * (numerator % denominator)
  if denominator < rest || (denominator = rest && quotient % 2 = 1) then quotient + 1
  else quotient

/-- The rounded quotient of `numerator / denominator` and `2 ^ exponent`. -/
def scaledQuotient (numerator denominator : Nat) (exponent : Int) : Nat :=
  roundedQuotient (numerator * Nat.pow 2 (-exponent).toNat)
    (denominator * Nat.pow 2 exponent.toNat)

def leastExponent : Int := -1074

def greatestExponent : Int := 971

/-- The double nearest to a positive quotient. -/
def ofQuotient ( isNegative : Bool) (numerator denominator : Nat) : Binary64 :=
  let estimate : Int := (numerator.log2 : Int) - (denominator.log2 : Int) - 52
  let isBelow : Bool :=
    numerator * Nat.pow 2 (-estimate).toNat <
      denominator * Nat.pow 2 estimate.toNat * Nat.pow 2 52
  let exponent := max leastExponent (if isBelow then estimate - 1 else estimate)
  let magnitude := scaledQuotient numerator denominator exponent
  let (magnitude, exponent) :=
    if magnitude = Nat.pow 2 53 then (Nat.pow 2 52, exponent + 1) else (magnitude, exponent)
  if greatestExponent < exponent then .infinite isNegative
  else .finite isNegative magnitude exponent

/-- The double nearest to `digits * 10 ^ scale`. Far outside of the range of doubles
the power is not worked out. -/
def ofDecimal ( isNegative : Bool) (digits : Nat) (scale : Int) : Binary64 :=
  let places : Int := ((Nat.toDigits 10 digits).length : Int) + scale
  if digits = 0 || places < -330 then .finite isNegative 0 leastExponent
  else if 330 < places then .infinite isNegative
  else ofQuotient isNegative (digits * Nat.pow 10 scale.toNat) (Nat.pow 10 (-scale).toNat)

/-- The magnitude of a finite number as a quotient. -/
def quotient (magnitude : Nat) (exponent : Int) : Nat × Nat :=
  (magnitude * Nat.pow 2 exponent.toNat, Nat.pow 2 (-exponent).toNat)

/-! ## Decimal notation -/

/-- `numerator / denominator`, rounded to the nearest whole number, and to the greater
one of two that are equally near. -/
def upwardQuotient (numerator denominator : Nat) : Nat :=
  (2 * numerator + denominator) / (2 * denominator)

/-- The decimal number nearest to `numerator / denominator` among the two around it
with `places` digits after the point that are read as `number`, and the greater one if
both are equally near. There need not be one. -/
def decimalAt? (number : Binary64) (numerator denominator : Nat) (places : Int) :
    Option Nat :=
  let numerator := numerator * Nat.pow 10 places.toNat
  let denominator := denominator * Nat.pow 10 (-places).toNat
  let below := numerator / denominator
  let isRead (digits : Nat) : Bool := ofDecimal false digits (-places) = number
  let nearest := upwardQuotient numerator denominator
  let other := if nearest = below then below + 1 else below
  if isRead nearest then some nearest else if isRead other then some other else none

/-- The fewest digits that are read as `number`, and how many of them stand after
the point. At most `bound` more digits are tried. -/
def shortestFrom (number : Binary64) (numerator denominator : Nat) :
    (bound : Nat) → (places : Int) → Nat × Int
  | 0, places => (upwardQuotient (numerator * Nat.pow 10 places.toNat)
      (denominator * Nat.pow 10 (-places).toNat), places)
  | bound + 1, places =>
      match decimalAt? number numerator denominator places with
      | some digits => (digits, places)
      | none => shortestFrom number numerator denominator bound (places + 1)

/-- Digits with a point before the last `places` of them. -/
def placePoint (digits : List Char) (places : Int) : List Char :=
  match places with
  | .negSucc zeros => digits ++ List.replicate (zeros + 1) '0' ++ ".0".toList
  | .ofNat 0 => digits ++ ".0".toList
  | .ofNat places =>
      let digits := List.replicate (places + 1 - digits.length) '0' ++ digits
      digits.take (digits.length - places) ++ '.' :: digits.drop (digits.length - places)

/-- The shortest decimal notation of a number that is read as it again. It has a
point and no exponent. -/
def text : Binary64 → String
  | nan => "NaN"
  | infinite isNegative => if isNegative then "-inf" else "inf"
  | finite isNegative 0 _ => if isNegative then "-0.0" else "0.0"
  | finite isNegative magnitude exponent =>
      let (numerator, denominator) := quotient magnitude exponent
      let order : Int :=
        (Nat.toDigits 10 numerator).length - (Nat.toDigits 10 denominator).length
      let (digits, places) :=
        shortestFrom (finite false magnitude exponent) numerator denominator 20 (-order)
      (if isNegative then "-" else "") ++
        .ofList (placePoint (Nat.toDigits 10 digits) places)

end Binary64

end LiveShader
