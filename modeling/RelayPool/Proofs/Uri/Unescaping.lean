import RelayPool.Proofs.Text.PieceCount
import RelayPool.Proofs.Uri.Escape

/-!
# Texts and the bytes they write

A text with well-formed escapes falls into escapes and characters that stand for
themselves, and it writes one byte for each escape and the encoding of each other
character.  Reading the escapes gives exactly these bytes.
-/

namespace RelayPool.Uri.Percent

open Text.Utf8 (encode Joined)

/-- A text with well-formed escapes and the bytes that it writes. -/
inductive Writes : List Char → List UInt8 → Prop
  | nil : Writes [] []
  | plain {character : Char} {rest : List Char} {bytes : List UInt8}
      (unmarked : character ≠ '%') (later : Writes rest bytes) :
      Writes (character :: rest) (String.utf8EncodeChar character ++ bytes)
  | escape {byte : UInt8} {high low : Char} {rest : List Char} {bytes : List UInt8}
      (highDigit : IsDigitOf (byte.toNat / 16) high)
      (lowDigit : IsDigitOf (byte.toNat % 16) low) (later : Writes rest bytes) :
      Writes ('%' :: high :: low :: rest) (byte :: bytes)

section Digits

variable {digit high low : Char} {value : Nat}

theorem hexDigit_upper :
    ∀ value < 16, 10 ≤ value → (Text.hexDigit value).toUpper = Char.ofNat (55 + value) := by
  decide

theorem isDigitOf_of_hexValue? (found : Text.hexValue? digit = some value) :
    value < 16 ∧ IsDigitOf value digit := by
  simp only [Text.hexValue?, Char.le_def, UInt32.le_iff_toNat_le] at found
  have code := digit.toNat_val
  split_ifs at found with decimal lower upper
  all_goals
    obtain rfl := Option.some.inj found
    simp at *
  · have small : digit.toNat - 48 < 10 := by omega
    refine ⟨by omega, .inl ?_⟩
    rw [Text.hexDigit, if_pos small, Nat.add_sub_cancel' (by omega), Char.ofNat_toNat]
  · have large : ¬ digit.toNat - 87 < 10 := by omega
    refine ⟨by omega, .inl ?_⟩
    rw [Text.hexDigit, if_neg large, Nat.add_sub_cancel' (by omega), Char.ofNat_toNat]
  · refine ⟨by omega, .inr ?_⟩
    rw [hexDigit_upper _ (by omega) (by omega), Nat.add_sub_cancel' (by omega),
      Char.ofNat_toNat]

theorem exists_byte_of_digits (highDigit : (Text.hexValue? high).isSome)
    (lowDigit : (Text.hexValue? low).isSome) :
    ∃ byte : UInt8, IsDigitOf (byte.toNat / 16) high ∧ IsDigitOf (byte.toNat % 16) low := by
  obtain ⟨first, highFound⟩ := Option.isSome_iff_exists.mp highDigit
  obtain ⟨second, lowFound⟩ := Option.isSome_iff_exists.mp lowDigit
  obtain ⟨firstSmall, isHigh⟩ := isDigitOf_of_hexValue? highFound
  obtain ⟨secondSmall, isLow⟩ := isDigitOf_of_hexValue? lowFound
  have value : (UInt8.ofNat (16 * first + second)).toNat = 16 * first + second :=
    UInt8.toNat_ofNat_of_lt' (show 16 * first + second < 256 by omega)
  refine ⟨UInt8.ofNat (16 * first + second), ?_, ?_⟩
  · rwa [value, show (16 * first + second) / 16 = first by omega]
  · rwa [value, show (16 * first + second) % 16 = second by omega]

end Digits

section Writes

variable {text : List Char} {bytes : List UInt8}

theorem exists_writes (wellFormed : wellFormed text) : ∃ bytes, Writes text bytes := by
  -- By the length of the text, as an escape takes three characters at once.
  induction length : text.length using Nat.strongRecOn generalizing text with
  | ind count ih =>
      subst length
      cases text with
      | nil => exact ⟨[], .nil⟩
      | cons character rest =>
          by_cases mark : character = '%'
          · subst mark
            obtain ⟨digits, _⟩ := Bool.and_eq_true_iff.mp wellFormed
            match rest with
            | [] | [_] => cases digits
            | high :: low :: rest =>
                obtain ⟨highDigit, lowDigit⟩ := Bool.and_eq_true_iff.mp digits
                obtain ⟨byte, isHigh, isLow⟩ := exists_byte_of_digits highDigit lowDigit
                rw [wellFormed_escape isHigh isLow] at wellFormed
                have shorter : rest.length < ('%' :: high :: low :: rest).length := by
                  simp only [List.length_cons]
                  omega
                obtain ⟨bytes, later⟩ := ih rest.length shorter wellFormed rfl
                exact ⟨_, .escape isHigh isLow later⟩
          · rw [wellFormed_cons_of_ne mark] at wellFormed
            obtain ⟨bytes, later⟩ := ih rest.length (by simp) wellFormed rfl
            exact ⟨_, .plain mark later⟩

theorem Writes.decode (writes : Writes text bytes) : decode (encode text) = bytes := by
  induction writes with
  | nil => rfl
  | @plain character rest bytes unmarked later ih =>
      have absent : '%' ∉ [character] := by simpa using unmarked.symm
      rw [Text.Utf8.encode_cons, ← Text.Utf8.encode_singleton,
        decode_append_of_not_mem (mark_not_mem_encode absent), ih]
  | @escape byte high low rest bytes highDigit lowDigit later ih =>
      have read := decode_encode_escape highDigit lowDigit rest []
      rw [List.append_nil, List.append_nil, ih] at read
      exact read

/-- The bytes are put together from one part for each character of the text, but
for the two digits of each escape. -/
theorem Writes.joined (writes : Writes text bytes) :
    ∃ count, Joined count bytes ∧ count + 2 * text.count '%' = text.length := by
  induction writes with
  | nil => exact ⟨0, .nil, rfl⟩
  | @plain character rest bytes unmarked later ih =>
      obtain ⟨count, joined, parts⟩ := ih
      refine ⟨count + 1, .character character joined, ?_⟩
      rw [List.count_cons_of_ne unmarked, List.length_cons]
      omega
  | @escape byte high low rest bytes highDigit lowDigit later ih =>
      obtain ⟨count, joined, parts⟩ := ih
      refine ⟨count + 1, .byte byte joined, ?_⟩
      have highPlain : high ≠ '%' := ne_of_hexValue? (hexValue?_of_highDigit highDigit) (by decide)
      have lowPlain : low ≠ '%' := ne_of_hexValue? (hexValue?_of_lowDigit lowDigit) (by decide)
      rw [List.count_cons_self, List.count_cons_of_ne highPlain,
        List.count_cons_of_ne lowPlain, List.length_cons, List.length_cons, List.length_cons]
      omega

end Writes

end RelayPool.Uri.Percent
