import RelayPool.Number.Binary64

/-!
# Decimal texts of numbers

How integers and binary floating point numbers are written.  A floating point
number is written either with the fewest digits that read back as the same
number or with a fixed count of significant digits; a `Layout` says where
positional notation ends.
-/

namespace RelayPool.Number

/-- An integer in decimal digits. -/
def intText (value : Int) : String :=
  toString value

/-- The greatest count of digits of an integer that is written in or read
from decimal notation. -/
def digitLimit : Nat := 4300

/-- An integer in decimal digits, unless it has too many of them. -/
def intText? (value : Int) : Option String :=
  if value.natAbs < Nat.pow 10 digitLimit then some (intText value) else none

/-- Decimal digits and the exponent of the first of them: the number
`d.ddd * 10 ^ exponent`. -/
structure Digits where
  digits : List Char
  exponent : Int
  deriving DecidableEq, Repr

/-- The digits without the zeros at their end, but at least one. -/
def withoutTrailingZeros (digits : List Char) : List Char :=
  match (digits.reverse.dropWhile (· == '0')).reverse with
  | [] => ['0']
  | kept => kept

/-- The digits of a positive number rounded to `count` significant digits. -/
def significantDigits (count numerator denominator : Nat) : Digits :=
  let exponent := decimalExponent numerator denominator
  let (scaled, divisor) :=
    scaledDown numerator denominator (exponent - ((count : Int) - 1))
  let rounded := roundHalfEven scaled divisor
  if rounded < Nat.pow 10 count then
    ⟨withoutTrailingZeros (Nat.toDigits 10 rounded), exponent⟩
  else ⟨['1'], exponent + 1⟩

/-- A decimal number `coefficient * 10 ^ exponent` that reads back as the
given count of quanta, with the distance to it: the nearer one of the two
neighbours on the grid of that exponent. -/
def gridNeighbour? (quanta : Nat) (exponent : Int) : Option Nat :=
  let (scaled, divisor) := scaledDown quanta Binary64.unit exponent
  let below := scaled / divisor
  let readsBack (coefficient : Nat) : Bool :=
    Binary64.ofDecimal false coefficient exponent == .finite false quanta
  let distanceTwice := 2 * (scaled % divisor)
  let belowNearer :=
    distanceTwice < divisor || (distanceTwice == divisor && below % 2 == 0)
  match readsBack below, readsBack (below + 1) with
  | true, true => some (if belowNearer then below else below + 1)
  | true, false => some below
  | false, true => some (below + 1)
  | false, false => none

/-- The first count of significant digits, of `counts` counts from `count` on,
with which a positive number reads back. -/
def shortestFrom (quanta : Nat) (exponent : Int) : Nat → Nat → Digits
  | 0, count => significantDigits count quanta Binary64.unit
  | counts + 1, count =>
      let last := exponent - ((count : Int) - 1)
      match gridNeighbour? quanta last with
      | some coefficient =>
          let digits := Nat.toDigits 10 coefficient
          ⟨withoutTrailingZeros digits, last + ((digits.length : Int) - 1)⟩
      | none => shortestFrom quanta exponent counts (count + 1)

/-- The fewest digits that read back as the positive number of `quanta`, and
of those the nearest. -/
def shortestDigits (quanta : Nat) : Digits :=
  shortestFrom quanta (decimalExponent quanta Binary64.unit) 16 1

/-- The range of exponents that are written in positional notation, and
whether a whole number keeps a point and a zero there. -/
structure Layout where
  lowest : Int
  limit : Int
  keepsPoint : Bool

/-- The shortest form: positional from `0.0001` up to below `10 ^ 16`, and
always with a point there. -/
def Layout.plain : Layout := ⟨-4, 16, true⟩

/-- The form with six significant digits: positional from `0.0001` up to below
`10 ^ 6`, without a needless point. -/
def Layout.general : Layout := ⟨-4, 6, false⟩

/-- The exponent after an `e`: signed, and with at least two digits. -/
def exponentText (exponent : Int) : List Char :=
  let digits := Nat.toDigits 10 exponent.natAbs
  (if exponent < 0 then '-' else '+') ::
    (if digits.length < 2 then '0' :: digits else digits)

/-- Digits in the notation that a layout chooses for them. -/
def Layout.write (layout : Layout) (number : Digits) : List Char :=
  if number.exponent < layout.lowest ∨ layout.limit ≤ number.exponent then
    let fraction := number.digits.drop 1
    number.digits.take 1 ++
      (if fraction.isEmpty then [] else '.' :: fraction) ++
        'e' :: exponentText number.exponent
  else
    match number.exponent with
    | .negSucc places =>
        '0' :: '.' :: (List.replicate places '0' ++ number.digits)
    | .ofNat exponent =>
        let missing := exponent + 1 - number.digits.length
        let whole := number.digits.take (exponent + 1) ++ List.replicate missing '0'
        let fraction := number.digits.drop (exponent + 1)
        if fraction.isEmpty then
          whole ++ (if layout.keepsPoint then ['.', '0'] else [])
        else whole ++ '.' :: fraction

/-- The digits of a count of quanta in a layout, zero included. -/
def quantaText (layout : Layout) (digits : Nat → Digits) (quanta : Nat) : String :=
  String.ofList
    (layout.write (if quanta = 0 then ⟨['0'], 0⟩ else digits quanta))

/-- A binary floating point number in the fewest digits that read back. -/
def Binary64.text : Binary64 → String
  | .nan => "nan"
  | .infinite negative => if negative then "-inf" else "inf"
  | .finite negative quanta =>
      (if negative then "-" else "") ++ quantaText .plain shortestDigits quanta

/-- A count of quanta in six significant digits. -/
def sixDigitText (quanta : Nat) : String :=
  quantaText .general (significantDigits 6 · Binary64.unit) quanta

end RelayPool.Number
