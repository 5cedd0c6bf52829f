import RelayPool.Text.DecimalDigit

/-!
# Percent escapes

A byte written as `%` and two hexadecimal digits; all other bytes stand for
themselves.  A text is well formed when every `%` begins an escape.
-/

namespace RelayPool.Uri.Percent

/-- The value of a byte that is a hexadecimal digit in ASCII. -/
def hexByte? (byte : UInt8) : Option Nat :=
  Text.hexValue? (Char.ofNat byte.toNat)

/-- The byte that two hexadecimal digits write. -/
def escaped? (high low : UInt8) : Option UInt8 := do
  let first ← hexByte? high
  let second ← hexByte? low
  return UInt8.ofNat (16 * first + second)

/-- A list begins with two items that pass a test. -/
def beginsWithTwo {α : Type} (test : α → Bool) : List α → Bool
  | first :: second :: _ => test first && test second
  | _ => false

/-- Every `%` of a text begins an escape. -/
def wellFormed : List Char → Bool
  | [] => true
  | character :: rest =>
      (character != '%' || beginsWithTwo (fun digit => (Text.hexValue? digit).isSome) rest) &&
        wellFormed rest

/-- Every `%` among bytes begins an escape. -/
def wellFormedBytes : List UInt8 → Bool
  | [] => true
  | byte :: rest =>
      (byte != 37 || beginsWithTwo (fun digit => (hexByte? digit).isSome) rest) &&
        wellFormedBytes rest

/-- The bytes with every escape replaced by the byte it writes.  A `%` that
begins no escape stands for itself. -/
def decode : List UInt8 → List UInt8
  | 37 :: high :: low :: rest =>
      match escaped? high low with
      | some byte => byte :: decode rest
      | none => 37 :: decode (high :: low :: rest)
  | byte :: rest => byte :: decode rest
  | [] => []

/-- A query component: `+` stands for a space, and then escapes are read. -/
def decodeQuery (bytes : List UInt8) : List UInt8 :=
  decode (bytes.map fun byte => if byte = 43 then 32 else byte)

end RelayPool.Uri.Percent
