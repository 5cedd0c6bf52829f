import RelayPool.Number.Text
import RelayPool.Text.Blank
import RelayPool.Text.DecimalDigit
import RelayPool.Text.Quoted

/-!
# Reading numerals

Texts read as integers in a given base and as binary floating point numbers.
White space around a numeral is ignored, a sign may precede it, and decimal
digits of every script count as digits.
-/

namespace RelayPool.Number

/-- Why a text is no number. -/
inductive NumeralFault
  | integer (base : Nat) (written : String)
  | float (written : String)
  | tooManyDigits (count : Nat)
  deriving DecidableEq, Repr

/-- The sentence about an integer with too many digits to be written. -/
def digitLimitMessage : String :=
  "Exceeds the limit (" ++ toString digitLimit ++
    " digits) for integer string conversion; use sys.set_int_max_str_digits() " ++
    "to increase the limit"

/-- The sentence that reports a fault.  A refused integer is quoted by at most
200 characters. -/
def NumeralFault.message : NumeralFault → String
  | .integer base written =>
      "invalid literal for int() with base " ++ toString base ++ ": " ++
        String.ofList ((Text.quoted written).toList.take 200)
  | .float written => "could not convert string to float: " ++ Text.quoted written
  | .tooManyDigits count =>
      "Exceeds the limit (" ++ toString digitLimit ++
        " digits) for integer string conversion: value has " ++ toString count ++
        " digits; use sys.set_int_max_str_digits() to increase the limit"

/-- The value of an ASCII letter or a decimal digit of any script as a digit. -/
def digitOfAnyBase? (character : Char) : Option Nat :=
  match Text.digitValue? character with
  | some value => some value
  | none =>
      if 'a' ≤ character ∧ character ≤ 'z' then some (character.toNat - 87)
      else if 'A' ≤ character ∧ character ≤ 'Z' then some (character.toNat - 55)
      else none

/-- The character is a digit of the base. -/
def isDigitOf (base : Nat) (character : Char) : Bool :=
  match digitOfAnyBase? character with
  | some value => value < base
  | none => false

/-- The number that a run of digits writes. -/
def digitsValue (base : Nat) (digits : List Char) : Nat :=
  digits.foldl (fun value digit => value * base + (digitOfAnyBase? digit).getD 0) 0

/-- White space that may stand around a numeral: all of it but the four
information separators. -/
def isMargin (character : Char) : Bool :=
  Text.isBlank character && !(28 ≤ character.toNat && character.toNat ≤ 31)

/-- A text without the white space around it. -/
def withoutMargins (text : List Char) : List Char :=
  ((text.dropWhile isMargin).reverse.dropWhile isMargin).reverse

/-- A sign at the front of a text, and the text behind it. -/
def splitSign : List Char → Bool × List Char
  | '-' :: rest => (true, rest)
  | '+' :: rest => (false, rest)
  | text => (false, text)

/-- The letter that may follow a zero to name the base. -/
def baseMark (base : Nat) (character : Char) : Bool :=
  (base == 2 && (character == 'b' || character == 'B')) ||
    (base == 8 && (character == 'o' || character == 'O')) ||
    (base == 16 && (character == 'x' || character == 'X'))

/-- A text without the mark of its base. -/
def withoutBaseMark (base : Nat) (text : List Char) : List Char :=
  match text with
  | '0' :: mark :: rest => if baseMark base mark then rest else text
  | _ => text

/-- A number with a sign. -/
def signed (negative : Bool) (magnitude : Nat) : Int :=
  if negative then -(magnitude : Int) else magnitude

/-- The integer that a text writes in base 2, 8, 10 or 16.  Only decimal
numerals are limited in their digits. -/
def readInt (base : Nat) (written : String) : Except NumeralFault Int :=
  let (negative, magnitude) := splitSign (withoutMargins written.toList)
  let digits := withoutBaseMark base magnitude
  let leading := digits.takeWhile (isDigitOf base)
  if base = 10 ∧ digitLimit < leading.length then
    .error (.tooManyDigits leading.length)
  else if digits.isEmpty ∨ leading.length < digits.length then
    .error (.integer base written)
  else .ok (signed negative (digitsValue base digits))

/-- The decimal digits at the front of a text, and the text behind them. -/
def splitDigits (text : List Char) : List Char × List Char :=
  (text.takeWhile Text.isDecimalDigit, text.dropWhile Text.isDecimalDigit)

/-- The exponent behind the digits of a decimal numeral; nothing stands for
zero. -/
def readExponent? : List Char → Option Int
  | [] => some 0
  | mark :: rest =>
      let (negative, digits) := splitSign rest
      if (mark == 'e' || mark == 'E') && !digits.isEmpty &&
          digits.all Text.isDecimalDigit then
        some (signed negative (digitsValue 10 digits))
      else none

/-- The number that digits with a point and an exponent write. -/
def readDecimal? (negative : Bool) (text : List Char) : Option Binary64 :=
  let (whole, rest) := splitDigits text
  let (fraction, rest) :=
    match rest with
    | '.' :: behind => splitDigits behind
    | _ => ([], rest)
  if whole.isEmpty && fraction.isEmpty then none
  else
    (readExponent? rest).map fun exponent =>
      .ofDecimal negative (digitsValue 10 (whole ++ fraction))
        (exponent - fraction.length)

/-- A text with its ASCII letters in lower case. -/
def lowerAscii (text : List Char) : List Char :=
  text.map Char.toLower

/-- The binary floating point number nearest to what a text writes. -/
def readFloat (written : String) : Except NumeralFault Binary64 :=
  let (negative, magnitude) := splitSign (withoutMargins written.toList)
  let word := String.ofList (lowerAscii magnitude)
  if word = "inf" ∨ word = "infinity" then .ok (.infinite negative)
  else if word = "nan" then .ok .nan
  else
    match readDecimal? negative magnitude with
    | some number => .ok number
    | none => .error (.float written)

end RelayPool.Number
