import RelayPool.Document.Basic

/-!
# Members of sets

The order in which a set shows its members.  A set of numbers is a table of
slots: each number goes to the first free slot on a way that its residue
gives, and the slots are shown one after the other.  The members of any other
set are shown as they were written.
-/

namespace RelayPool.Document

/-- The modulus of the residues. -/
def residueModulus : Nat := Nat.pow 2 61 - 1

/-- A residue with a sign, where minus two stands for minus one. -/
def signedResidue (negative : Bool) (residue : Nat) : Int :=
  if !negative then residue
  else if residue = 1 then -2
  else -(residue : Int)

/-- The residue of a number, the same for equal numbers, and that of an empty
text.  Since `2 ^ 61` leaves one, a quantum of `2 ^ -1074` leaves `2 ^ 24`. -/
def residue? : Document → Option Int
  | .bool value => some (if value then 1 else 0)
  | .int value => some (signedResidue (value < 0) (value.natAbs % residueModulus))
  | .float (.finite negative quanta) =>
      some (signedResidue negative (quanta * Nat.pow 2 24 % residueModulus))
  | .float (.infinite negative) => some (if negative then -314159 else 314159)
  | .text value => if value = "" then some 0 else none
  | .bytes value => if value = [] then some 0 else none
  | _ => none

/-- The number of slots for some members: the least power of two above twice
their number, and eight for up to four. -/
def slotCount (members : Nat) : Nat :=
  if members ≤ 4 then 8 else Nat.pow 2 (Number.bitLength (2 * members))

/-- The first free slot on the way from `slot` on.  Ten slots in a row are
tried where there are as many, else one; then the way goes on by a jump into
which `rest`, divided by 32 each time, is mixed. -/
def freeSlot (slots : Nat) (taken : List Nat) : Nat → Nat → Nat → Nat
  | 0, slot, _ => slot
  | steps + 1, slot, rest =>
      let width := if slot + 10 ≤ slots then 10 else 1
      match (List.range' slot width).find? fun place => !taken.contains place with
      | some free => free
      | none =>
          let left := rest / 32
          freeSlot slots taken steps ((slot * 5 + 1 + left) % slots) left

/-- Puts members with their residues into slots, one after the other. -/
def placeMembers (slots : Nat) (placed : List (Nat × Document)) :
    List (Document × Int) → List (Nat × Document)
  | [] => placed
  | (member, residue) :: rest =>
      let word := (residue % (Nat.pow 2 64 : Nat)).toNat
      let slot := freeSlot slots (placed.map (·.1)) (slots + 16) (word % slots) word
      placeMembers slots ((slot, member) :: placed) rest

/-- The members of a set in the order in which they are shown. -/
def shownMembers (members : List Document) : List Document :=
  match members.mapM residue? with
  | none => members
  | some residues =>
      let placed := placeMembers (slotCount members.length) [] (members.zip residues)
      (placed.mergeSort fun first second => first.1 ≤ second.1).map (·.2)

end RelayPool.Document
