import RelayPool.Number.Rounding

/-!
# Binary floating point numbers of 64 bits

Every finite number is a whole number of quanta, the smallest positive number
`2 ^ -1074`.  A count of quanta is a number exactly when it has at most 53
significant bits and lies below `2 ^ 2098`, so one rounding of exact
arithmetic on counts gives every operation.
-/

namespace RelayPool.Number

/-- A binary floating point number: no number, an infinity, or a signed count
of quanta. -/
inductive Binary64
  | nan
  | infinite (negative : Bool)
  | finite (negative : Bool) (quanta : Nat)
  deriving DecidableEq, Repr, Inhabited

namespace Binary64

/-- The number of quanta in one. -/
def unit : Nat := Nat.pow 2 1074

/-- The least count of quanta too large for a finite number. -/
def overflow : Nat := Nat.pow 2 2098

/-- The number nearest to `numerator / denominator` quanta. -/
def ofQuanta (negative : Bool) (numerator denominator : Nat) : Binary64 :=
  let quanta := roundToBits 53 numerator denominator
  if quanta < overflow then .finite negative quanta else .infinite negative

/-- The number nearest to `numerator / denominator`. -/
def ofRatio (negative : Bool) (numerator denominator : Nat) : Binary64 :=
  ofQuanta negative (numerator * unit) denominator

/-- The number nearest to an integer. -/
def ofInt (value : Int) : Binary64 :=
  ofRatio (value < 0) value.natAbs 1

/-- The number nearest to `coefficient` times the power of ten with
`exponent`.  Far outside the range of finite numbers the power itself is not
computed. -/
def ofDecimal (negative : Bool) (coefficient : Nat) (exponent : Int) : Binary64 :=
  if coefficient = 0 then .finite negative 0
  else
    match exponent with
    | .ofNat power =>
        if 400 < power then .infinite negative
        else ofRatio negative (coefficient * Nat.pow 10 power) 1
    | .negSucc power =>
        if bitLength coefficient + 400 < power then .finite negative 0
        else ofRatio negative coefficient (Nat.pow 10 (power + 1))

/-- An infinity of either sign. -/
def isInfinite : Binary64 → Bool
  | .infinite _ => true
  | _ => false

/-- The number with the other sign. -/
def negate : Binary64 → Binary64
  | .nan => .nan
  | .infinite negative => .infinite (!negative)
  | .finite negative quanta => .finite (!negative) quanta

/-- The sum, rounded.  A sum of zero is negative only when both terms are. -/
def add : Binary64 → Binary64 → Binary64
  | .finite first quanta, .finite second quanta' =>
      if first = second then ofQuanta first (quanta + quanta') 1
      else if quanta' < quanta then ofQuanta first (quanta - quanta') 1
      else if quanta < quanta' then ofQuanta second (quanta' - quanta) 1
      else .finite false 0
  | .nan, _ => .nan
  | _, .nan => .nan
  | .infinite first, .infinite second =>
      if first = second then .infinite first else .nan
  | .infinite first, .finite _ _ => .infinite first
  | .finite _ _, .infinite second => .infinite second

/-- The product, rounded. -/
def mul : Binary64 → Binary64 → Binary64
  | .finite first quanta, .finite second quanta' =>
      ofQuanta (first != second) (quanta * quanta') unit
  | .nan, _ => .nan
  | _, .nan => .nan
  | .infinite first, .infinite second => .infinite (first != second)
  | .infinite first, .finite second quanta =>
      if quanta = 0 then .nan else .infinite (first != second)
  | .finite first quanta, .infinite second =>
      if quanta = 0 then .nan else .infinite (first != second)

/-- The number is exactly an integer. -/
def equalsInt (number : Binary64) (value : Int) : Bool :=
  match number with
  | .finite negative quanta =>
      quanta == value.natAbs * unit &&
        (quanta == 0 || negative == decide (value < 0))
  | _ => false

/-- Numerical equality: the two zeros are equal, and no number is equal to
nothing. -/
def equals : Binary64 → Binary64 → Bool
  | .finite first quanta, .finite second quanta' =>
      quanta == quanta' && (quanta == 0 || first == second)
  | .infinite first, .infinite second => first == second
  | _, _ => false

end Binary64

end RelayPool.Number
