import RelayPool.Proofs.Text.Encoding
import RelayPool.Uri.Basic

/-!
# Escapes

Bytes that are written as escapes are read back whatever stands behind them,
and all other bytes are read as they are.  As the marks and the digits of
escapes are ASCII, whether escapes are well formed can be told from the
characters of a text or from the bytes of its encoding.
-/

namespace RelayPool.Uri.Percent

open Text.Utf8

/-- A character that is the hexadecimal digit of a value, in lower or in upper
case. -/
def IsDigitOf (value : Nat) (digit : Char) : Prop :=
  digit = Text.hexDigit value ∨ digit = (Text.hexDigit value).toUpper

/-- Some bytes and a text that writes each of them as an escape. -/
inductive Escapes : List UInt8 → List Char → Prop
  | nil : Escapes [] []
  | cons {byte : UInt8} {bytes : List UInt8} {high low : Char} {text : List Char}
      (highDigit : IsDigitOf (byte.toNat / 16) high)
      (lowDigit : IsDigitOf (byte.toNat % 16) low) (later : Escapes bytes text) :
      Escapes (byte :: bytes) ('%' :: high :: low :: text)

section Digits

variable {digit : Char} {value : Nat}

theorem hexValue?_hexDigit :
    ∀ value < 16, Text.hexValue? (Text.hexDigit value) = some value ∧
      Text.hexValue? (Text.hexDigit value).toUpper = some value := by
  decide

theorem hexValue?_of_isDigitOf (small : value < 16) (written : IsDigitOf value digit) :
    Text.hexValue? digit = some value := by
  obtain ⟨lower, upper⟩ := hexValue?_hexDigit value small
  rcases written with rfl | rfl
  · exact lower
  · exact upper

/-- Hexadecimal digits lie between `0` and `f`. -/
theorem toNat_of_hexValue? (found : Text.hexValue? digit = some value) :
    48 ≤ digit.toNat ∧ digit.toNat ≤ 102 := by
  simp only [Text.hexValue?, Char.le_def, UInt32.le_iff_toNat_le] at found
  split_ifs at found with decimal lower upper
  · exact ⟨decimal.1, Nat.le_trans decimal.2 (by decide)⟩
  · exact ⟨Nat.le_trans (by decide) lower.1, lower.2⟩
  · exact ⟨Nat.le_trans (by decide) upper.1, Nat.le_trans upper.2 (by decide)⟩

theorem ne_of_hexValue? {other : Char} (found : Text.hexValue? digit = some value)
    (below : other.toNat < 48) : digit ≠ other := by
  rintro rfl
  exact absurd (toNat_of_hexValue? found).1 (Nat.not_le.mpr below)

theorem hexByte?_of_ascii (ascii : digit.toNat ≤ 0x7F) :
    hexByte? (UInt8.ofNat digit.toNat) = Text.hexValue? digit := by
  rw [hexByte?, UInt8.toNat_ofNat_of_lt' (show digit.toNat < 256 by omega), Char.ofNat_toNat]

theorem escaped?_of_digits {high low : Char} {byte : UInt8}
    (highDigit : Text.hexValue? high = some (byte.toNat / 16))
    (lowDigit : Text.hexValue? low = some (byte.toNat % 16)) :
    escaped? (UInt8.ofNat high.toNat) (UInt8.ofNat low.toNat) = some byte := by
  have highRange := toNat_of_hexValue? highDigit
  have lowRange := toNat_of_hexValue? lowDigit
  have whole : 16 * (byte.toNat / 16) + byte.toNat % 16 = byte.toNat := Nat.div_add_mod _ _
  simp only [escaped?, hexByte?_of_ascii (show high.toNat ≤ 0x7F by omega),
    hexByte?_of_ascii (show low.toNat ≤ 0x7F by omega), highDigit, lowDigit,
    Option.bind_eq_bind, Option.bind_some, Option.pure_def, whole, UInt8.ofNat_toNat]

end Digits

section Bytes

variable {byte : UInt8} {high low : Char}

theorem hexValue?_of_highDigit (written : IsDigitOf (byte.toNat / 16) high) :
    Text.hexValue? high = some (byte.toNat / 16) :=
  hexValue?_of_isDigitOf (Nat.div_lt_of_lt_mul byte.toNat_lt) written

theorem hexValue?_of_lowDigit (written : IsDigitOf (byte.toNat % 16) low) :
    Text.hexValue? low = some (byte.toNat % 16) :=
  hexValue?_of_isDigitOf (Nat.mod_lt _ (by decide)) written

end Bytes

/-- Escapes are written in ASCII, and with nothing but `%` below the digits. -/
theorem Escapes.bounds {bytes : List UInt8} {text : List Char} (written : Escapes bytes text) :
    ∀ character ∈ text, character = '%' ∨ 48 ≤ character.toNat ∧ character.toNat ≤ 102 := by
  induction written with
  | nil => simp
  | cons highDigit lowDigit later ih =>
      have highRange := toNat_of_hexValue? (hexValue?_of_highDigit highDigit)
      have lowRange := toNat_of_hexValue? (hexValue?_of_lowDigit lowDigit)
      intro character member
      rcases List.mem_cons.mp member with mark | member
      · exact .inl mark
      rcases List.mem_cons.mp member with rfl | member
      · exact .inr highRange
      rcases List.mem_cons.mp member with rfl | member
      · exact .inr lowRange
      · exact ih character member

section Reading

theorem decode_cons_of_ne {byte : UInt8} (plain : byte ≠ 37) (rest : List UInt8) :
    decode (byte :: rest) = byte :: decode rest := by
  rw [decode]
  rintro high low later rfl
  exact absurd rfl plain

theorem decode_append_of_not_mem {bytes : List UInt8} (plain : 37 ∉ bytes)
    (rest : List UInt8) : decode (bytes ++ rest) = bytes ++ decode rest := by
  induction bytes with
  | nil => rfl
  | cons byte later ih =>
      obtain ⟨first, others⟩ := not_or.mp (mt List.mem_cons.mpr plain)
      rw [List.cons_append, decode_cons_of_ne (Ne.symm first), ih others, List.cons_append]

theorem encode_mark_cons (rest : List Char) : encode ('%' :: rest) = 37 :: encode rest :=
  rfl

/-- An escape is read as the byte that it writes. -/
theorem decode_encode_escape {byte : UInt8} {high low : Char}
    (highDigit : IsDigitOf (byte.toNat / 16) high) (lowDigit : IsDigitOf (byte.toNat % 16) low)
    (text : List Char) (rest : List UInt8) :
    decode (encode ('%' :: high :: low :: text) ++ rest) = byte :: decode (encode text ++ rest) := by
  have highValue := hexValue?_of_highDigit highDigit
  have lowValue := hexValue?_of_lowDigit lowDigit
  have highRange := toNat_of_hexValue? highValue
  have lowRange := toNat_of_hexValue? lowValue
  rw [encode_mark_cons, encode_cons, encode_cons, utf8EncodeChar_of_one (by omega),
    utf8EncodeChar_of_one (by omega)]
  simp only [List.cons_append, List.nil_append]
  rw [decode, escaped?_of_digits highValue lowValue]

theorem mark_not_mem_encode {text : List Char} (plain : '%' ∉ text) : 37 ∉ encode text :=
  not_mem_encode_of_ascii (by decide : '%'.toNat < 0x80) plain

theorem decode_encode_of_not_mem {text : List Char} (plain : '%' ∉ text) :
    decode (encode text) = encode text := by
  have kept := decode_append_of_not_mem (mark_not_mem_encode plain) []
  rwa [decode, List.append_nil] at kept

theorem decode_encode_append {bytes : List UInt8} {text : List Char}
    (written : Escapes bytes text) (rest : List UInt8) :
    decode (encode text ++ rest) = bytes ++ decode rest := by
  induction written with
  | nil => rfl
  | cons highDigit lowDigit later ih =>
      rw [decode_encode_escape highDigit lowDigit, ih, List.cons_append]

end Reading

section WellFormed

theorem wellFormed_cons_of_ne {character : Char} (plain : character ≠ '%')
    (rest : List Char) : wellFormed (character :: rest) = wellFormed rest := by
  simp [wellFormed, plain]

theorem wellFormed_escape {byte : UInt8} {high low : Char}
    (highDigit : IsDigitOf (byte.toNat / 16) high) (lowDigit : IsDigitOf (byte.toNat % 16) low)
    (text : List Char) : wellFormed ('%' :: high :: low :: text) = wellFormed text := by
  have highValue := hexValue?_of_highDigit highDigit
  have lowValue := hexValue?_of_lowDigit lowDigit
  -- No other escape begins inside this one.
  rw [wellFormed, wellFormed_cons_of_ne (ne_of_hexValue? highValue (by decide)),
    wellFormed_cons_of_ne (ne_of_hexValue? lowValue (by decide))]
  simp [beginsWithTwo, highValue, lowValue]

theorem wellFormed_escapes_append {bytes : List UInt8} {text : List Char}
    (written : Escapes bytes text) (rest : List Char) :
    wellFormed (text ++ rest) = wellFormed rest := by
  induction written with
  | nil => rfl
  | cons highDigit lowDigit later ih =>
      rw [List.cons_append, List.cons_append, List.cons_append,
        wellFormed_escape highDigit lowDigit, ih]

theorem wellFormedBytes_append_of_not_mem {bytes : List UInt8} (plain : 37 ∉ bytes)
    (rest : List UInt8) : wellFormedBytes (bytes ++ rest) = wellFormedBytes rest := by
  induction bytes with
  | nil => rfl
  | cons byte later ih =>
      obtain ⟨first, others⟩ := not_or.mp (mt List.mem_cons.mpr plain)
      simp [wellFormedBytes, Ne.symm first, ih others]

theorem hexValue?_eq_none_of_high {character : Char} (high : 0x7F < character.toNat) :
    Text.hexValue? character = none := by
  cases found : Text.hexValue? character with
  | none => rfl
  | some value =>
      have range := toNat_of_hexValue? found
      omega

/-- The first byte of a character is a hexadecimal digit only when the
character is one, and then there are no others. -/
theorem exists_firstByte (character : Char) :
    ∃ byte others, String.utf8EncodeChar character = byte :: others ∧
      (hexByte? byte).isSome = (Text.hexValue? character).isSome ∧
        ((Text.hexValue? character).isSome → others = []) := by
  by_cases ascii : character.toNat ≤ 0x7F
  · exact ⟨_, _, utf8EncodeChar_of_one ascii, congrArg _ (hexByte?_of_ascii ascii),
      fun _ => rfl⟩
  · -- No byte of the encoding is ASCII, and digits are.
    obtain ⟨byte, others, encoded, -⟩ := firstPiece_utf8EncodeChar character []
    have inCharacter : byte ∈ String.utf8EncodeChar character := by simp [encoded]
    have high := le_toNat_of_mem_utf8EncodeChar (by omega) inCharacter
    have valid : byte.toNat.isValidChar := .inl (by have := byte.toNat_lt; omega)
    have notDigit : hexByte? byte = none :=
      hexValue?_eq_none_of_high (by rw [Char.ofNat, dif_pos valid]; exact high)
    refine ⟨byte, others, encoded, ?_, ?_⟩ <;>
      simp [notDigit, hexValue?_eq_none_of_high (show 0x7F < character.toNat by omega)]

theorem beginsWithTwo_cons {α : Type} (test : α → Bool) (first : α) (rest : List α) :
    beginsWithTwo test (first :: rest) = (test first && rest.head?.any test) := by
  cases rest <;> simp [beginsWithTwo]

theorem beginsWithTwo_encode (text : List Char) :
    beginsWithTwo (fun byte => (hexByte? byte).isSome) (encode text) =
      beginsWithTwo (fun digit => (Text.hexValue? digit).isSome) text := by
  cases text with
  | nil => rfl
  | cons first rest =>
      obtain ⟨byte, others, encoded, same, alone⟩ := exists_firstByte first
      rw [encode_cons, encoded, List.cons_append, beginsWithTwo_cons, beginsWithTwo_cons, same]
      cases isDigit : (Text.hexValue? first).isSome with
      | false => rfl
      | true =>
          rw [alone isDigit, List.nil_append]
          cases rest with
          | nil => rfl
          | cons second later =>
              obtain ⟨next, behind, encodedToo, sameToo, -⟩ := exists_firstByte second
              rw [encode_cons, encodedToo]
              exact sameToo

theorem wellFormedBytes_encode (text : List Char) :
    wellFormedBytes (encode text) = wellFormed text := by
  induction text with
  | nil => rfl
  | cons character rest ih =>
      by_cases mark : character = '%'
      · subst mark
        rw [encode_mark_cons, wellFormedBytes, wellFormed, ih, beginsWithTwo_encode]
        rfl
      · have plain : 37 ∉ String.utf8EncodeChar character := by
          intro member
          have same := toNat_eq_of_mem_utf8EncodeChar member (by decide)
          exact mark (Char.toNat_inj.mp same)
        rw [encode_cons, wellFormedBytes_append_of_not_mem plain, wellFormed_cons_of_ne mark, ih]

end WellFormed

end RelayPool.Uri.Percent

namespace RelayPool.Uri

theorem isHalf_of_any {text : List Char} (whole : text.any Text.isHalf = false) :
    ∀ character ∈ text, Text.isHalf character = false := by
  simpa only [List.any_eq_false, Bool.not_eq_true] using whole

theorem refusedHalves?_eq_none {refused : Char → Bool} {text : List Char}
    (free : ∀ character ∈ text, refused character = false) (position : Nat) :
    Text.refusedHalves? refused position text = none := by
  induction text generalizing position with
  | nil => rfl
  | cons character rest ih =>
      obtain ⟨first, others⟩ := List.forall_mem_cons.mp free
      rw [Text.refusedHalves?, first]
      exact ih others (position + 1)

/-- A text with well-formed escapes and no halves of surrogate pairs is
unescaped. -/
theorem unescape_of_wellFormed {text : List Char} (wellFormed : Percent.wellFormed text)
    (whole : ∀ character ∈ text, Text.isHalf character = false) :
    unescape text = .ok (Percent.decode (Text.Utf8.encode text)) := by
  rw [unescape, wellFormed, refusedHalves?_eq_none whole]
  rfl

end RelayPool.Uri
