import Mathlib.Tactic.SplitIfs
import RelayPool.Text.Utf8

/-!
# Encoded texts

Cutting the encoding of a text into pieces gives back its characters, each a
piece of its own, so an encoding is read back exactly and nothing in it is
malformed.  Bytes below 0x80 stand for nothing but themselves: no other
character has one of them in its encoding.
-/

namespace RelayPool.Text.Utf8

theorem encode_append (first second : List Char) :
    encode (first ++ second) = encode first ++ encode second :=
  List.flatMap_append

theorem encode_cons (character : Char) (rest : List Char) :
    encode (character :: rest) = String.utf8EncodeChar character ++ encode rest :=
  List.flatMap_cons

theorem encode_singleton (character : Char) :
    encode [character] = String.utf8EncodeChar character :=
  List.append_nil _

/-- There is a byte at least for each character. -/
theorem length_le_length_encode (text : List Char) : text.length ≤ (encode text).length := by
  induction text with
  | nil => exact Nat.le_refl _
  | cons character rest ih =>
      have size : 0 < (String.utf8EncodeChar character).length := by
        rw [String.length_utf8EncodeChar]
        exact character.utf8Size_pos
      rw [encode_cons, List.length_append, List.length_cons]
      omega

section Forms

variable {character : Char}

theorem utf8EncodeChar_of_one (small : character.toNat ≤ 0x7F) :
    String.utf8EncodeChar character = [UInt8.ofNat character.toNat] :=
  if_pos small

theorem utf8EncodeChar_of_two (above : 0x7F < character.toNat)
    (small : character.toNat ≤ 0x7FF) :
    String.utf8EncodeChar character =
      [UInt8.ofNat (character.toNat / 64 % 32 + 192),
        UInt8.ofNat (character.toNat % 64 + 128)] := by
  exact (if_neg (Nat.not_le.mpr above)).trans (if_pos small)

theorem utf8EncodeChar_of_three (above : 0x7FF < character.toNat)
    (small : character.toNat ≤ 0xFFFF) :
    String.utf8EncodeChar character =
      [UInt8.ofNat (character.toNat / 4096 % 16 + 224),
        UInt8.ofNat (character.toNat / 64 % 64 + 128),
        UInt8.ofNat (character.toNat % 64 + 128)] := by
  have notOne : ¬ character.toNat ≤ 0x7F := by omega
  exact (if_neg notOne).trans ((if_neg (Nat.not_le.mpr above)).trans (if_pos small))

theorem utf8EncodeChar_of_four (above : 0xFFFF < character.toNat) :
    String.utf8EncodeChar character =
      [UInt8.ofNat (character.toNat / 262144 % 8 + 240),
        UInt8.ofNat (character.toNat / 4096 % 64 + 128),
        UInt8.ofNat (character.toNat / 64 % 64 + 128),
        UInt8.ofNat (character.toNat % 64 + 128)] := by
  have notOne : ¬ character.toNat ≤ 0x7F := by omega
  have notTwo : ¬ character.toNat ≤ 0x7FF := by omega
  exact (if_neg notOne).trans ((if_neg notTwo).trans (if_neg (Nat.not_le.mpr above)))

end Forms

section Leads

theorem lead?_one : ∀ bits < 128, lead? (UInt8.ofNat bits) = some ⟨0, 0x80, 0xBF, bits⟩ := by
  decide

theorem lead?_two :
    ∀ bits < 32, 2 ≤ bits →
      lead? (UInt8.ofNat (bits + 192)) = some ⟨1, 0x80, 0xBF, bits⟩ := by
  decide

theorem lead?_three :
    ∀ bits < 16,
      lead? (UInt8.ofNat (bits + 224)) =
        some ⟨2, if bits = 0 then 0xA0 else 0x80, if bits = 13 then 0x9F else 0xBF, bits⟩ := by
  decide

theorem lead?_four :
    ∀ bits < 5,
      lead? (UInt8.ofNat (bits + 240)) =
        some ⟨3, if bits = 0 then 0x90 else 0x80, if bits = 4 then 0x8F else 0xBF, bits⟩ := by
  decide

end Leads

/-- A byte that continues a character adds its six bits to those before it. -/
theorem continuePiece_cons {taken rest : List UInt8} {payload following bits : Nat}
    {lowest highest : Nat} (inside : bits < 64) (above : lowest ≤ bits + 128)
    (below : bits + 128 ≤ highest) :
    continuePiece taken payload (following + 1) lowest highest
        (UInt8.ofNat (bits + 128) :: rest) =
      continuePiece (UInt8.ofNat (bits + 128) :: taken) (payload * 64 + bits) following
        0x80 0xBF rest := by
  have value : (UInt8.ofNat (bits + 128)).toNat = bits + 128 :=
    UInt8.toNat_ofNat_of_lt' (show bits + 128 < 256 by omega)
  have sixBits : (bits + 128) % 64 = bits := by omega
  rw [continuePiece, value, if_pos ⟨above, below⟩, sixBits]

theorem continuePiece_last {taken rest : List UInt8} {payload bits : Nat} {lowest highest : Nat}
    {character : Char} (inside : bits < 64) (above : lowest ≤ bits + 128)
    (below : bits + 128 ≤ highest) (whole : payload * 64 + bits = character.toNat) :
    continuePiece taken payload 1 lowest highest (UInt8.ofNat (bits + 128) :: rest) =
      .character character := by
  rw [continuePiece_cons inside above below, whole, continuePiece, Char.ofNat_toNat]

theorem firstPiece_of_lead {byte : UInt8} {lead : Lead} (rest : List UInt8)
    (found : lead? byte = some lead) :
    firstPiece byte rest =
      continuePiece [byte] lead.payload lead.following lead.lowest lead.highest rest := by
  rw [firstPiece, found]

/-- The code points of characters leave out the surrogates. -/
theorem toNat_valid (character : Char) :
    character.toNat < 0xD800 ∨ 0xDFFF < character.toNat ∧ character.toNat < 0x110000 :=
  character.valid

/-- The encoding of a character is read back as that character. -/
theorem firstPiece_utf8EncodeChar (character : Char) (rest : List UInt8) :
    ∃ byte others, String.utf8EncodeChar character = byte :: others ∧
      firstPiece byte (others ++ rest) = .character character := by
  have valid := toNat_valid character
  by_cases one : character.toNat ≤ 0x7F
  · refine ⟨_, _, utf8EncodeChar_of_one one, ?_⟩
    rw [firstPiece_of_lead _ (lead?_one _ (by omega)), continuePiece, Char.ofNat_toNat]
  by_cases two : character.toNat ≤ 0x7FF
  · refine ⟨_, _, utf8EncodeChar_of_two (by omega) two, ?_⟩
    rw [firstPiece_of_lead _ (lead?_two _ (by omega) (by omega))]
    dsimp only [List.cons_append]
    exact continuePiece_last (by omega) (by omega) (by omega) (by omega)
  by_cases three : character.toNat ≤ 0xFFFF
  · refine ⟨_, _, utf8EncodeChar_of_three (by omega) three, ?_⟩
    rw [firstPiece_of_lead _ (lead?_three _ (by omega))]
    dsimp only [List.cons_append]
    rw [continuePiece_cons (by omega) (by split_ifs <;> omega) (by split_ifs <;> omega)]
    exact continuePiece_last (by omega) (by omega) (by omega) (by omega)
  · refine ⟨_, _, utf8EncodeChar_of_four (by omega), ?_⟩
    rw [firstPiece_of_lead _ (lead?_four _ (by omega))]
    dsimp only [List.cons_append]
    rw [continuePiece_cons (by omega) (by split_ifs <;> omega) (by split_ifs <;> omega),
      continuePiece_cons (by omega) (by omega) (by omega)]
    exact continuePiece_last (by omega) (by omega) (by omega) (by omega)

theorem piecesAfter_append (skipped rest : List UInt8) :
    piecesAfter skipped.length (skipped ++ rest) = pieces rest := by
  induction skipped with
  | nil => rfl
  | cons byte later ih => rw [List.length_cons, List.cons_append, piecesAfter, ih]

theorem pieces_utf8EncodeChar_append (character : Char) (rest : List UInt8) :
    pieces (String.utf8EncodeChar character ++ rest) = .character character :: pieces rest := by
  obtain ⟨byte, others, encoded, first⟩ := firstPiece_utf8EncodeChar character rest
  have width : (Piece.character character).width - 1 = others.length := by
    rw [Piece.width, encoded, List.length_cons, Nat.add_sub_cancel]
  rw [encoded, List.cons_append, pieces, piecesAfter, first, width, piecesAfter_append]

theorem pieces_encode (text : List Char) : pieces (encode text) = text.map Piece.character := by
  induction text with
  | nil => rfl
  | cons character rest ih =>
      rw [encode_cons, pieces_utf8EncodeChar_append, ih, List.map_cons]

/-- Reading the encoding of a text gives the text. -/
@[simp]
theorem decodeLenient_encode (text : List Char) : decodeLenient (encode text) = text := by
  rw [decodeLenient, pieces_encode, List.map_map]
  exact List.map_id text

theorem strict_map_character (position : Nat) (text : List Char) :
    strict position (text.map Piece.character) = (text, none) := by
  induction text generalizing position with
  | nil => rfl
  | cons character rest ih => rw [List.map_cons, strict, ih]

/-- The encoding of a text is read without a fault. -/
@[simp]
theorem decode_encode (text : List Char) : decode (encode text) = .ok text := by
  rw [decode, pieces_encode, strict_map_character]

theorem le_toNat_of_mem_utf8EncodeChar {character : Char} {byte : UInt8}
    (above : 0x7F < character.toNat) (member : byte ∈ String.utf8EncodeChar character) :
    0x80 ≤ byte.toNat := by
  have valid := toNat_valid character
  by_cases two : character.toNat ≤ 0x7FF
  · rw [utf8EncodeChar_of_two above two] at member
    simp only [List.mem_cons, List.not_mem_nil, or_false] at member
    rcases member with rfl | rfl <;> rw [UInt8.toNat_ofNat'] <;> omega
  by_cases three : character.toNat ≤ 0xFFFF
  · rw [utf8EncodeChar_of_three (by omega) three] at member
    simp only [List.mem_cons, List.not_mem_nil, or_false] at member
    rcases member with rfl | rfl | rfl <;> rw [UInt8.toNat_ofNat'] <;> omega
  · rw [utf8EncodeChar_of_four (by omega)] at member
    simp only [List.mem_cons, List.not_mem_nil, or_false] at member
    rcases member with rfl | rfl | rfl | rfl <;> rw [UInt8.toNat_ofNat'] <;> omega

/-- A byte below 0x80 is only in the encoding of the character that it is. -/
theorem toNat_eq_of_mem_utf8EncodeChar {character : Char} {byte : UInt8}
    (member : byte ∈ String.utf8EncodeChar character) (ascii : byte.toNat < 0x80) :
    character.toNat = byte.toNat := by
  by_cases one : character.toNat ≤ 0x7F
  · rw [utf8EncodeChar_of_one one, List.mem_singleton] at member
    rw [member, UInt8.toNat_ofNat_of_lt' (show character.toNat < 256 by omega)]
  · have high := le_toNat_of_mem_utf8EncodeChar (by omega) member
    omega

theorem not_mem_encode_of_ascii {text : List Char} {character : Char}
    (ascii : character.toNat < 0x80) (absent : character ∉ text) :
    UInt8.ofNat character.toNat ∉ encode text := by
  intro member
  have value : (UInt8.ofNat character.toNat).toNat = character.toNat :=
    UInt8.toNat_ofNat_of_lt' (show character.toNat < 256 by omega)
  obtain ⟨other, inText, written⟩ := List.mem_flatMap.mp member
  have same := toNat_eq_of_mem_utf8EncodeChar written (by omega)
  rw [value] at same
  rw [Char.toNat_inj.mp same] at inText
  exact absent inText

end RelayPool.Text.Utf8
