import RelayPool.Text.Utf8
import RelayPool.Yaml.Fault

/-!
# Sources of documents

The text of a document as it is taken from the bytes of a file.  The bytes are
decoded in blocks, line ends of every kind become line feeds, and the
characters are handed on in portions.  A fault in a portion is only met by a
reader that asks for it, so a source is the text before the first such portion
and the fault behind it.
-/

namespace RelayPool.Yaml

/-- The text of a document as far as it can be read, and the fault that is met
behind it; without one the text ends there. -/
structure Source where
  text : List Char
  behind : Option Fault
  deriving Repr

/-- The bytes of a file that are still to be decoded, the bytes of a character
that the last block begins and does not end, whether it ends in a carriage
return that is held back, and the characters that wait to be handed on.
`blockBytes` and `blockCharacters` give the size of the last block. -/
structure Decoder where
  bytes : List UInt8
  begun : List UInt8
  heldReturn : Bool
  ready : List Char
  blockBytes : Nat
  blockCharacters : Nat
  deriving Repr

/-- A text in reverse order with every line end written as a line feed, put
before `taken`. -/
def unifyLineEnds (taken : List Char) : List Char → List Char
  | [] => taken
  | '\r' :: '\n' :: rest => unifyLineEnds ('\n' :: taken) rest
  | '\r' :: rest => unifyLineEnds ('\n' :: taken) rest
  | character :: rest => unifyLineEnds (character :: taken) rest

namespace Decoder

/-- The state before the first block. -/
def start (bytes : List UInt8) : Decoder :=
  ⟨bytes, [], false, [], 0, 0⟩

/-- The least number of bytes of a block. -/
def leastBlock : Nat := 8192

/-- The number of bytes to decode where `missing` characters are asked for: as
many as they would take in the last block, rounded like floating point
numbers. -/
def blockSize (decoder : Decoder) (missing : Nat) : Nat :=
  if decoder.blockBytes ≤ decoder.blockCharacters || decoder.blockCharacters = 0 then
    max leastBlock missing
  else
    let ratio := Number.Binary64.ofRatio false decoder.blockBytes decoder.blockCharacters
    match ratio.mul (.ofInt missing) with
    | .finite _ quanta => max leastBlock (quanta / Number.Binary64.unit)
    | _ => leastBlock

/-- Decodes the next block.  Behind the last one a character that is begun is
a fault. -/
def nextBlock (decoder : Decoder) (missing : Nat) : Except Text.Utf8.Fault Decoder :=
  let size := decoder.blockSize missing
  let block := decoder.bytes.take size
  let atEnd := block.isEmpty
  let (decoded, fault) := Text.Utf8.strict 0 (Text.Utf8.pieces (decoder.begun ++ block))
  let begun? : Except Text.Utf8.Fault (List UInt8) :=
    match fault with
    | none => .ok []
    | some fault =>
        if fault.reason = .unexpectedEnd && !atEnd then .ok fault.bytes
        else .error fault
  begun?.map fun begun =>
    let released := decoder.heldReturn && (atEnd || !decoded.isEmpty)
    let written := if released then '\r' :: decoded else decoded
    let holds := !atEnd && written.getLast? == some '\r'
    let unified := (unifyLineEnds [] (if holds then written.dropLast else written)).reverse
    { bytes := decoder.bytes.drop size
      begun
      heldReturn := holds || (decoder.heldReturn && !released)
      ready := unified
      blockBytes := block.length
      blockCharacters := unified.length }

/-- Takes `missing` more characters, or all where fewer are left.  Each step
decodes a block, and the steps end with the bytes. -/
def take : Nat → Nat → Decoder → Except Text.Utf8.Fault (List Char × Decoder)
  | 0, _, decoder => .ok ([], decoder)
  | steps + 1, missing, decoder => do
      let part := decoder.ready.take missing
      let left := { decoder with ready := decoder.ready.drop missing }
      if part.length = missing then return (part, left)
      let next ← left.nextBlock (missing - part.length)
      if next.blockBytes = 0 && next.ready.isEmpty then return (part, next)
      let (others, last) ← take steps (missing - part.length) next
      return (part ++ others, last)

end Decoder

/-- The number of characters of a portion. -/
def portionSize : Nat := 4096

/-- A character that the text of a document may hold. -/
def isAllowed (character : Char) : Bool :=
  let code := character.toNat
  code == 0x9 || code == 0xA || code == 0xD || (0x20 ≤ code && code ≤ 0x7E) ||
    code == 0x85 || (0xA0 ≤ code && code ≤ 0xFFFD) || 0x10000 ≤ code

/-- The next `count` portions.  Those that would lie behind the end are
empty. -/
def takePortions (steps : Nat) :
    Nat → Decoder → Except Text.Utf8.Fault (List Char × Decoder)
  | 0, decoder => .ok ([], decoder)
  | count + 1, decoder => do
      let (first, next) ← decoder.take steps portionSize
      let (others, last) ← takePortions steps count next
      return (first ++ others, last)

/-- The source of the text in `taken`, which is in reverse order, and of the
portions that follow.  They are taken one at a time, after `count` of them at
once. -/
def sourceFrom (steps : Nat) : Nat → Nat → List Char → Decoder → Source
  | 0, _, taken, _ => ⟨taken.reverse, none⟩
  | rounds + 1, count, taken, decoder =>
      match takePortions steps count decoder with
      | .error fault => ⟨taken.reverse, some (.encoding fault)⟩
      | .ok ([], _) => ⟨taken.reverse, none⟩
      | .ok (characters, next) =>
          if characters.all isAllowed then
            sourceFrom steps rounds 1 (characters.reverse ++ taken) next
          else ⟨taken.reverse, some .malformed⟩

/-- The source in the bytes of a file.  Two portions are taken at the start. -/
def Source.ofBytes (bytes : List UInt8) : Source :=
  let steps := bytes.length + 3
  sourceFrom steps steps 2 [] (.start bytes)

end RelayPool.Yaml
