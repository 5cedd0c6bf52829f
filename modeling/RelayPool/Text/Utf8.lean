import RelayPool.Text.DecimalDigit

/-!
# UTF-8

A byte string is cut into pieces: the characters it encodes and, where it
encodes none, the longest byte runs that begin a character and cannot be
continued.  Strict decoding stops at the first malformed run and tells its
position; lenient decoding puts U+FFFD in its place.
-/

namespace RelayPool.Text.Utf8

/-- The UTF-8 bytes of a list of characters. -/
def encode (characters : List Char) : List UInt8 :=
  characters.flatMap String.utf8EncodeChar

/-- Why a run of bytes is no character. -/
inductive Reason
  /-- The first byte begins no character. -/
  | startByte
  /-- The byte after the run does not continue it. -/
  | continuationByte
  /-- The input ends before the character does. -/
  | unexpectedEnd
  deriving DecidableEq, Repr

/-- A character or a run of bytes that is none. -/
inductive Piece
  | character (value : Char)
  | malformed (bytes : List UInt8) (reason : Reason)
  deriving DecidableEq, Repr

/-- The form of a character by its first byte: how many bytes follow, which
values the second byte may have, and the bits of the first byte that count. -/
structure Lead where
  following : Nat
  lowest : Nat
  highest : Nat
  payload : Nat
  deriving DecidableEq, Repr

/-- The form of the character that a byte begins, if it begins one.  The
bounds on the second byte leave out overlong forms, surrogates and all beyond
U+10FFFF. -/
def lead? (byte : UInt8) : Option Lead :=
  let value := byte.toNat
  if value < 0x80 then some ⟨0, 0x80, 0xBF, value⟩
  else if value < 0xC2 then none
  else if value < 0xE0 then some ⟨1, 0x80, 0xBF, value - 0xC0⟩
  else if value = 0xE0 then some ⟨2, 0xA0, 0xBF, 0⟩
  else if value = 0xED then some ⟨2, 0x80, 0x9F, 0xD⟩
  else if value < 0xF0 then some ⟨2, 0x80, 0xBF, value - 0xE0⟩
  else if value = 0xF0 then some ⟨3, 0x90, 0xBF, 0⟩
  else if value < 0xF4 then some ⟨3, 0x80, 0xBF, value - 0xF0⟩
  else if value = 0xF4 then some ⟨3, 0x80, 0x8F, 4⟩
  else none

/-- Reads `following` continuation bytes, the first of them between `lowest`
and `highest`.  `taken` holds the bytes before in reverse order and `payload`
their bits. -/
def continuePiece (taken : List UInt8) (payload : Nat) :
    Nat → Nat → Nat → List UInt8 → Piece
  | 0, _, _, _ => .character (Char.ofNat payload)
  | _ + 1, _, _, [] => .malformed taken.reverse .unexpectedEnd
  | following + 1, lowest, highest, byte :: rest =>
      if lowest ≤ byte.toNat ∧ byte.toNat ≤ highest then
        continuePiece (byte :: taken) (payload * 64 + byte.toNat % 64)
          following 0x80 0xBF rest
      else .malformed taken.reverse .continuationByte

/-- The piece that a byte string beginning with `byte` begins with. -/
def firstPiece (byte : UInt8) (rest : List UInt8) : Piece :=
  match lead? byte with
  | none => .malformed [byte] .startByte
  | some lead =>
      continuePiece [byte] lead.payload lead.following lead.lowest lead.highest rest

/-- The number of bytes of a piece. -/
def Piece.width : Piece → Nat
  | .character value => (String.utf8EncodeChar value).length
  | .malformed bytes _ => bytes.length

/-- The pieces of a byte string after its first `skipped` bytes. -/
def piecesAfter : Nat → List UInt8 → List Piece
  | _, [] => []
  | skipped + 1, _ :: rest => piecesAfter skipped rest
  | 0, byte :: rest =>
      let piece := firstPiece byte rest
      piece :: piecesAfter (piece.width - 1) rest

/-- The pieces of a byte string. -/
def pieces (bytes : List UInt8) : List Piece :=
  piecesAfter 0 bytes

/-- Where and why strict decoding stopped. -/
structure Fault where
  bytes : List UInt8
  position : Nat
  reason : Reason
  deriving DecidableEq, Repr

/-- The words for a reason. -/
def Reason.phrase : Reason → String
  | .startByte => "invalid start byte"
  | .continuationByte => "invalid continuation byte"
  | .unexpectedEnd => "unexpected end of data"

/-- The sentence that reports a fault: one byte is shown, more are given by
their positions. -/
def Fault.message (fault : Fault) : String :=
  "'utf-8' codec can't decode " ++
    (match fault.bytes with
    | [byte] =>
        "byte 0x" ++ String.ofList (hexDigits 2 byte.toNat) ++ " in position " ++
          toString fault.position
    | bytes =>
        "bytes in position " ++ toString fault.position ++ "-" ++
          toString (fault.position + bytes.length - 1)) ++
    ": " ++ fault.reason.phrase

/-- The characters before the first malformed piece, and that piece.
`position` is the number of bytes before the first piece. -/
def strict (position : Nat) : List Piece → List Char × Option Fault
  | [] => ([], none)
  | .malformed bytes reason :: _ => ([], some ⟨bytes, position, reason⟩)
  | .character value :: rest =>
      let (characters, fault) :=
        strict (position + (String.utf8EncodeChar value).length) rest
      (value :: characters, fault)

/-- The characters that a byte string encodes, or its first fault. -/
def decode (bytes : List UInt8) : Except Fault (List Char) :=
  match strict 0 (pieces bytes) with
  | (characters, none) => .ok characters
  | (_, some fault) => .error fault

/-- The character a piece stands for when malformed pieces are replaced. -/
def Piece.lenient : Piece → Char
  | .character value => value
  | .malformed _ _ => '\uFFFD'

/-- The characters of a byte string, U+FFFD for every malformed piece. -/
def decodeLenient (bytes : List UInt8) : List Char :=
  (pieces bytes).map Piece.lenient

end RelayPool.Text.Utf8
