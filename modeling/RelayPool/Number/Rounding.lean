/-!
# Rounding to the nearest

Quotients of natural numbers rounded to the nearest integer, a tie going to
the even neighbour, and to the nearest number with a limited count of
significant bits or decimal digits.
-/

namespace RelayPool.Number

/-- The integer nearest to `numerator / denominator`; of two equally near ones
the even one. -/
def roundHalfEven (numerator denominator : Nat) : Nat :=
  let quotient := numerator / denominator
  let twice := 2 * (numerator % denominator)
  if twice < denominator then quotient
  else if denominator < twice then quotient + 1
  else quotient + quotient % 2

/-- The number of binary digits; zero has none. -/
def bitLength (number : Nat) : Nat :=
  if number = 0 then 0 else number.log2 + 1

/-- The integer with at most `bits` significant bits that is nearest to
`numerator / denominator`. -/
def roundToBits (bits numerator denominator : Nat) : Nat :=
  let scale := Nat.pow 2 (bitLength (numerator / denominator) - bits)
  roundHalfEven numerator (denominator * scale) * scale

/-- The number of decimal digits; zero has one. -/
def decimalLength (number : Nat) : Nat :=
  (Nat.toDigits 10 number).length

/-- The largest exponent whose power of ten is not above the positive number
`numerator / denominator`. -/
def decimalExponent (numerator denominator : Nat) : Int :=
  if denominator ≤ numerator then (decimalLength (numerator / denominator) : Int) - 1
  else -(decimalLength ((denominator - 1) / numerator) : Int)

/-- `numerator / denominator` divided by the power of ten with `exponent`, as
a numerator and a denominator. -/
def scaledDown (numerator denominator : Nat) : Int → Nat × Nat
  | .ofNat exponent => (numerator, denominator * Nat.pow 10 exponent)
  | .negSucc exponent => (numerator * Nat.pow 10 (exponent + 1), denominator)

end RelayPool.Number
