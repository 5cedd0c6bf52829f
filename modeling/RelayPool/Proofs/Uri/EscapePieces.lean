import RelayPool.Proofs.Uri.NameSurvival

/-!
# Escapes read piece by piece

Bytes can be unescaped by a scan from the left, or by splitting them at every `%` and
reading the two digits at the front of each piece.  The two ways agree on all bytes,
and a piece without the digits, which keeps its `%`, comes up only where escapes are
not well formed.  As such texts are refused, unescaping gives exactly the bytes that
a text writes.
-/

namespace RelayPool.Uri

open Text.Utf8 (encode)

namespace Percent

/-- The bytes that a piece behind a `%` writes, if it begins with two digits. -/
def pieceBehind? (piece : List UInt8) : Option (List UInt8) :=
  match piece with
  | high :: low :: rest => (escaped? high low).map fun byte => byte :: rest
  | _ => none

/-- The bytes that a piece behind a `%` writes; without two digits in front it keeps
the `%`. -/
def pieceBehind (piece : List UInt8) : List UInt8 :=
  (pieceBehind? piece).getD (37 :: piece)

/-- The bytes in front of the first `%`. -/
def frontPiece (bytes : List UInt8) : List UInt8 :=
  (bytes.splitOn 37).headD []

/-- The pieces of a byte string behind each `%`. -/
def piecesBehind (bytes : List UInt8) : List (List UInt8) :=
  (bytes.splitOn 37).tail

/-- The bytes with every escape replaced, read from the pieces between the `%`. -/
def decodePieces (bytes : List UInt8) : List UInt8 :=
  frontPiece bytes ++ (piecesBehind bytes).flatMap pieceBehind

section Pieces

variable {bytes piece later : List UInt8} {pieces : List (List UInt8)}

theorem splitOn_mark (bytes : List UInt8) :
    bytes.splitOn 37 = frontPiece bytes :: piecesBehind bytes := by
  rw [frontPiece, piecesBehind]
  cases split : bytes.splitOn 37 with
  | nil => exact absurd split (List.splitOn_ne_nil 37 bytes)
  | cons front rest => rfl

theorem pieces_of_unmarked (unmarked : 37 ∉ bytes) :
    frontPiece bytes = bytes ∧ piecesBehind bytes = [] := by
  rw [frontPiece, piecesBehind, List.splitOn_eq_singleton unmarked]
  exact ⟨rfl, rfl⟩

theorem pieces_append_mark (unmarked : 37 ∉ bytes) (rest : List UInt8) :
    frontPiece (bytes ++ 37 :: rest) = bytes ∧
      piecesBehind (bytes ++ 37 :: rest) = frontPiece rest :: piecesBehind rest := by
  have split : (bytes ++ 37 :: rest).splitOn 37 = bytes :: rest.splitOn 37 := by
    rw [List.splitOn_append_cons_self, List.splitOn_eq_singleton unmarked, List.singleton_append]
  constructor
  · rw [frontPiece, split, List.headD_cons]
  · rw [piecesBehind, split, List.tail_cons, splitOn_mark]

/-- No `%` is left in a piece, and with one in front of each but the first the pieces
make up the byte string. -/
theorem pieces_spec (bytes : List UInt8) :
    37 ∉ frontPiece bytes ∧ (∀ piece ∈ piecesBehind bytes, 37 ∉ piece) ∧
      frontPiece bytes ++ (piecesBehind bytes).flatMap (37 :: ·) = bytes := by
  -- By the number of bytes: what is behind the first `%` is shorter.
  induction size : bytes.length using Nat.strongRecOn generalizing bytes with
  | ind count ih =>
      by_cases marked : 37 ∈ bytes
      · obtain ⟨front, rest, rfl, unmarked⟩ := List.eq_append_cons_of_mem marked
        have shorter : rest.length < count := by
          rw [← size, List.length_append, List.length_cons]
          omega
        obtain ⟨first, others, written⟩ := ih _ shorter rest rfl
        obtain ⟨isFront, areBehind⟩ := pieces_append_mark unmarked rest
        rw [isFront, areBehind, List.flatMap_cons, List.cons_append, written]
        exact ⟨unmarked, List.forall_mem_cons.mpr ⟨first, others⟩, rfl⟩
      · obtain ⟨isFront, noneBehind⟩ := pieces_of_unmarked marked
        rw [isFront, noneBehind]
        exact ⟨marked, List.forall_mem_nil _, List.append_nil bytes⟩

theorem escaped?_mark (high : UInt8) : escaped? high 37 = none := by
  have notDigit : hexByte? 37 = none := by decide
  cases first : hexByte? high <;> simp [escaped?, first, notDigit]

theorem escaped?_of_mark (low : UInt8) : escaped? 37 low = none := by
  have notDigit : hexByte? 37 = none := by decide
  simp [escaped?, notDigit]

/-- What is behind the next `%` has no part in reading a piece. -/
theorem decode_mark_append (unmarked : 37 ∉ piece) (next : ∀ byte ∈ later.head?, byte = 37) :
    decode (37 :: (piece ++ later)) = pieceBehind piece ++ decode later := by
  have kept := decode_append_of_not_mem unmarked later
  rcases piece with _ | ⟨high, _ | ⟨low, rest⟩⟩
  · rcases later with _ | ⟨byte, _ | ⟨low, rest⟩⟩
    · rfl
    · obtain rfl := next byte rfl
      rfl
    · obtain rfl := next byte rfl
      rw [List.nil_append, decode, escaped?_of_mark]
      rfl
  · cases later with
    | nil => exact congrArg (37 :: ·) kept
    | cons byte rest =>
        obtain rfl := next byte rfl
        rw [List.singleton_append, decode, escaped?_mark]
        exact congrArg _ kept
  · rw [List.cons_append, List.cons_append, decode, pieceBehind, pieceBehind?]
    cases escaped? high low with
    | none => exact congrArg _ kept
    | some byte =>
        have restUnmarked : 37 ∉ rest := fun member => unmarked (by simp [member])
        exact congrArg _ (decode_append_of_not_mem restUnmarked later)

theorem isSome_escaped? (high low : UInt8) :
    (escaped? high low).isSome = ((hexByte? high).isSome && (hexByte? low).isSome) := by
  cases first : hexByte? high <;> cases second : hexByte? low <;>
    simp [escaped?, first, second]

theorem beginsWithTwo_append (next : ∀ byte ∈ later.head?, byte = 37) :
    beginsWithTwo (fun digit => (hexByte? digit).isSome) (piece ++ later) =
      (pieceBehind? piece).isSome := by
  have notDigit : hexByte? 37 = none := by decide
  rcases piece with _ | ⟨high, _ | ⟨low, rest⟩⟩
  · rcases later with _ | ⟨byte, _ | ⟨low, rest⟩⟩
    · rfl
    · rfl
    · obtain rfl := next byte rfl
      simp [beginsWithTwo, pieceBehind?, notDigit]
  · cases later with
    | nil => rfl
    | cons byte rest =>
        obtain rfl := next byte rfl
        simp [beginsWithTwo, pieceBehind?, notDigit]
  · rw [pieceBehind?, Option.isSome_map, isSome_escaped?]
    rfl

theorem wellFormedBytes_mark_append (unmarked : 37 ∉ piece)
    (next : ∀ byte ∈ later.head?, byte = 37) :
    wellFormedBytes (37 :: (piece ++ later)) =
      ((pieceBehind? piece).isSome && wellFormedBytes later) := by
  rw [wellFormedBytes, beginsWithTwo_append next, wellFormedBytes_append_of_not_mem unmarked]
  rfl

theorem head?_flatMap_mark (pieces : List (List UInt8)) :
    ∀ byte ∈ (pieces.flatMap (37 :: ·)).head?, byte = 37 := by
  cases pieces with
  | nil => simp
  | cons piece rest =>
      rintro _ ⟨⟩
      rfl

theorem decode_flatMap_mark (unmarked : ∀ piece ∈ pieces, 37 ∉ piece) :
    decode (pieces.flatMap (37 :: ·)) = pieces.flatMap pieceBehind := by
  induction pieces with
  | nil => rfl
  | cons piece rest ih =>
      obtain ⟨first, others⟩ := List.forall_mem_cons.mp unmarked
      rw [List.flatMap_cons, List.cons_append, decode_mark_append first (head?_flatMap_mark rest),
        ih others, List.flatMap_cons]

theorem wellFormedBytes_flatMap_mark (unmarked : ∀ piece ∈ pieces, 37 ∉ piece) :
    wellFormedBytes (pieces.flatMap (37 :: ·)) =
      pieces.all fun piece => (pieceBehind? piece).isSome := by
  induction pieces with
  | nil => rfl
  | cons piece rest ih =>
      obtain ⟨first, others⟩ := List.forall_mem_cons.mp unmarked
      rw [List.flatMap_cons, List.cons_append,
        wellFormedBytes_mark_append first (head?_flatMap_mark rest), ih others, List.all_cons]

/-- Scanning from the left and reading the pieces agree, whatever the bytes are. -/
theorem decode_eq_decodePieces (bytes : List UInt8) : decode bytes = decodePieces bytes := by
  obtain ⟨unmarked, others, written⟩ := pieces_spec bytes
  rw [decodePieces, ← decode_flatMap_mark others, ← decode_append_of_not_mem unmarked, written]

/-- A piece keeps its `%` exactly where escapes are not well formed. -/
theorem wellFormedBytes_iff_pieces (bytes : List UInt8) :
    wellFormedBytes bytes ↔ ∀ piece ∈ piecesBehind bytes, (pieceBehind? piece).isSome := by
  obtain ⟨unmarked, others, written⟩ := pieces_spec bytes
  have split := wellFormedBytes_append_of_not_mem unmarked
    ((piecesBehind bytes).flatMap (37 :: ·))
  rw [written, wellFormedBytes_flatMap_mark others] at split
  rw [split, List.all_eq_true]

end Pieces

section Written

variable {text other : List Char} {bytes others : List UInt8}

theorem Writes.wellFormed (writes : Writes text bytes) : wellFormed text := by
  induction writes with
  | nil => rfl
  | plain unmarked later ih => rwa [wellFormed_cons_of_ne unmarked]
  | escape highDigit lowDigit later ih => rwa [wellFormed_escape highDigit lowDigit]

theorem Writes.append (first : Writes text bytes) (second : Writes other others) :
    Writes (text ++ other) (bytes ++ others) := by
  induction first with
  | nil => exact second
  | plain unmarked later ih =>
      rw [List.cons_append, List.append_assoc]
      exact .plain unmarked ih
  | escape highDigit lowDigit later ih => exact .escape highDigit lowDigit ih

/-- An escape writes one byte with three. -/
theorem Writes.length_add (writes : Writes text bytes) :
    bytes.length + 2 * text.count '%' = (encode text).length := by
  induction writes with
  | nil => rfl
  | plain unmarked later ih =>
      rw [List.count_cons_of_ne unmarked, Text.Utf8.encode_cons, List.length_append,
        List.length_append]
      omega
  | @escape byte high low rest bytes highDigit lowDigit later ih =>
      have highRange := toNat_of_hexValue? (hexValue?_of_highDigit highDigit)
      have lowRange := toNat_of_hexValue? (hexValue?_of_lowDigit lowDigit)
      have highPlain : high ≠ '%' := ne_of_hexValue? (hexValue?_of_highDigit highDigit) (by decide)
      have lowPlain : low ≠ '%' := ne_of_hexValue? (hexValue?_of_lowDigit lowDigit) (by decide)
      rw [List.count_cons_self, List.count_cons_of_ne highPlain, List.count_cons_of_ne lowPlain,
        encode_mark_cons, Text.Utf8.encode_cons, Text.Utf8.encode_cons,
        Text.Utf8.utf8EncodeChar_of_one (by omega), Text.Utf8.utf8EncodeChar_of_one (by omega)]
      simp only [List.length_cons, List.length_append, List.length_nil]
      omega

theorem Escapes.writes (escapes : Escapes bytes text) : Writes text bytes := by
  induction escapes with
  | nil => exact .nil
  | cons highDigit lowDigit later ih => exact .escape highDigit lowDigit ih

end Written

end Percent

section Unescape

variable {text : List Char} {bytes : List UInt8}

theorem refusedHalves?_eq_none_iff {refused : Char → Bool} {position : Nat} :
    Text.refusedHalves? refused position text = none ↔
      ∀ character ∈ text, refused character = false := by
  constructor
  · intro accepted
    induction text generalizing position with
    | nil => exact List.forall_mem_nil _
    | cons character rest ih =>
        rw [Text.refusedHalves?] at accepted
        split at accepted
        · cases accepted
        · next other => exact List.forall_mem_cons.mpr ⟨by simpa using other, ih accepted⟩
  · exact fun free => refusedHalves?_eq_none free position

/-- A text is unescaped to the bytes that it writes, if it has an encoding. -/
theorem unescape_eq_ok_iff :
    unescape text = .ok bytes ↔
      Percent.Writes text bytes ∧ ∀ character ∈ text, Text.isHalf character = false := by
  constructor
  · intro unescaped
    rw [unescape] at unescaped
    split at unescaped
    · cases unescaped
    · next escapes =>
        split at unescaped
        · cases unescaped
        · next accepted =>
            obtain ⟨read, writes⟩ := Percent.exists_writes (by simpa using escapes)
            rw [writes.decode] at unescaped
            cases unescaped
            exact ⟨writes, refusedHalves?_eq_none_iff.mp accepted⟩
  · rintro ⟨writes, whole⟩
    rw [unescape_of_wellFormed writes.wellFormed whole, writes.decode]

theorem exists_fault_iff (whole : ∀ character ∈ text, Text.isHalf character = false) :
    (∃ fault, unescape text = .error fault) ↔ HoldsLoneMark text := by
  rw [holdsLoneMark_iff]
  cases escapes : Percent.wellFormed text with
  | false => simp [unescape, escapes]
  | true => simp [unescape_of_wellFormed escapes whole]

theorem decodePieces_of_unescape (unescaped : unescape text = .ok bytes) :
    Percent.decodePieces (encode text) = bytes ∧
      ∀ piece ∈ Percent.piecesBehind (encode text), (Percent.pieceBehind? piece).isSome := by
  obtain ⟨writes, -⟩ := unescape_eq_ok_iff.mp unescaped
  constructor
  · rw [← Percent.decode_eq_decodePieces, writes.decode]
  · rw [← Percent.wellFormedBytes_iff_pieces, Percent.wellFormedBytes_encode]
    exact writes.wellFormed

end Unescape

/-- Unescaping refuses a text exactly when it holds a `%` that begins no escape, and
else gives the bytes that it writes: two bytes fewer than its encoding has for each
`%`.  Reading them from the pieces between the `%` gives the same, and no piece keeps
its `%`.  Bytes written as escapes are read back, and texts are unescaped one after
the other. -/
theorem unescape_exactly :
    (∀ text : List Char, (∀ character ∈ text, Text.isHalf character = false) →
      ((∃ fault, unescape text = .error fault) ↔ HoldsLoneMark text) ∧
        ∀ bytes, (unescape text = .ok bytes ↔ Percent.Writes text bytes) ∧
          (unescape text = .ok bytes →
            bytes.length + 2 * text.count '%' = (encode text).length ∧
              Percent.decodePieces (encode text) = bytes ∧
              ∀ piece ∈ Percent.piecesBehind (encode text),
                (Percent.pieceBehind? piece).isSome)) ∧
      (∀ (bytes : List UInt8) (text : List Char), Percent.Escapes bytes text →
        unescape text = .ok bytes) ∧
      ∀ (text other : List Char) (bytes others : List UInt8),
        unescape text = .ok bytes → unescape other = .ok others →
          unescape (text ++ other) = .ok (bytes ++ others) := by
  refine ⟨fun text whole => ⟨exists_fault_iff whole, fun bytes => ⟨?_, ?_⟩⟩, ?_, ?_⟩
  · rw [unescape_eq_ok_iff, and_iff_left whole]
  · intro unescaped
    obtain ⟨writes, -⟩ := unescape_eq_ok_iff.mp unescaped
    exact ⟨writes.length_add, decodePieces_of_unescape unescaped⟩
  · intro bytes text escapes
    exact unescape_eq_ok_iff.mpr ⟨escapes.writes, isHalf_of_escapes escapes⟩
  · intro text other bytes others first second
    obtain ⟨writes, whole⟩ := unescape_eq_ok_iff.mp first
    obtain ⟨writesToo, wholeToo⟩ := unescape_eq_ok_iff.mp second
    exact unescape_eq_ok_iff.mpr
      ⟨writes.append writesToo, List.forall_mem_append.mpr ⟨whole, wholeToo⟩⟩

/-- Digits behind an escape do not belong to it, and an escape may write part of a
character. -/
theorem unescape_exactly_digitsBehind :
    (∀ character ∈ "%2541\u20AC%e2".toList, Text.isHalf character = false) ∧
      (unescape "%2541\u20AC%e2".toList = .ok [37, 52, 49, 0xE2, 0x82, 0xAC, 0xE2] ∧
        Percent.Writes "%2541\u20AC%e2".toList [37, 52, 49, 0xE2, 0x82, 0xAC, 0xE2] ∧
        Percent.decodePieces (encode "%2541\u20AC%e2".toList) =
          [37, 52, 49, 0xE2, 0x82, 0xAC, 0xE2]) ∧
      ((∀ character ∈ "%2%41".toList, Text.isHalf character = false) ∧
        ∃ fault, unescape "%2%41".toList = .error fault) ∧
      (Percent.Escapes [0x82, 0x0A] "%82%0A".toList ∧
        unescape "%82%0A".toList = .ok [0x82, 0x0A]) ∧
      unescape ("%2541\u20AC%e2".toList ++ "%82%0A".toList) =
        .ok ([37, 52, 49, 0xE2, 0x82, 0xAC, 0xE2] ++ [0x82, 0x0A]) := by
  obtain ⟨texts, escapes, appended⟩ := unescape_exactly
  have whole : ∀ character ∈ "%2541\u20AC%e2".toList, Text.isHalf character = false :=
    isHalf_of_any (by decide +kernel)
  have loneWhole : ∀ character ∈ "%2%41".toList, Text.isHalf character = false :=
    isHalf_of_any (by decide +kernel)
  have unescaped : unescape "%2541\u20AC%e2".toList =
      .ok [37, 52, 49, 0xE2, 0x82, 0xAC, 0xE2] := by decide +kernel
  have lone : HoldsLoneMark "%2%41".toList := by
    rw [holdsLoneMark_iff]
    decide +kernel
  have written : Percent.Escapes [0x82, 0x0A] "%82%0A".toList :=
    .cons (.inl rfl) (.inl rfl) (.cons (.inl rfl) (.inr rfl) .nil)
  obtain ⟨writes, read⟩ := (texts _ whole).2 [37, 52, 49, 0xE2, 0x82, 0xAC, 0xE2]
  have escaped := escapes _ _ written
  exact ⟨whole, ⟨unescaped, writes.mp unescaped, (read unescaped).2.1⟩,
    ⟨loneWhole, (texts _ loneWhole).1.mpr lone⟩, ⟨written, escaped⟩,
    appended _ _ _ _ unescaped escaped⟩

end RelayPool.Uri
