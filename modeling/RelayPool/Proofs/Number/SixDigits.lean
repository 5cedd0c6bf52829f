import RelayPool.Proofs.Number.ShortestDigits

/-!
# Whole numbers in six digits

Six significant digits are all the digits of a whole number below a million.  The
zeros that are left out at their end stand again in the positional notation.
-/

namespace RelayPool.Number

open Binary64 (unit unit_pos)

section Trailing

variable {digits : List Char}

theorem withoutTrailingZeros_append (digits : List Char) (zeros : Nat) :
    withoutTrailingZeros (digits ++ List.replicate zeros '0') = withoutTrailingZeros digits := by
  have front : ∀ digit ∈ List.replicate zeros '0', (digit == '0') = true := by
    intro digit member
    rw [List.eq_of_mem_replicate member]
    rfl
  rw [withoutTrailingZeros, List.reverse_append, List.reverse_replicate,
    List.dropWhile_append_of_pos front, ← withoutTrailingZeros]

/-- Positional notation puts the zeros back that were left out. -/
theorem Layout.write_withoutTrailingZeros (layout : Layout)
    (nonzero : ∃ digit ∈ digits, digit ≠ '0') {places : Nat} (length : digits.length = places + 1)
    (lowest : layout.lowest ≤ places) (limit : places < layout.limit) :
    layout.write ⟨withoutTrailingZeros digits, places⟩ =
      digits ++ (if layout.keepsPoint then ['.', '0'] else []) := by
  obtain ⟨zeros, split, -⟩ := exists_eq_append_zeros nonzero
  generalize withoutTrailingZeros digits = kept at split ⊢
  subst split
  have count : kept.length + zeros = places + 1 := by simpa using length
  have positional : ¬ ((places : Int) < layout.lowest ∨ layout.limit ≤ places) := by omega
  have missing : places + 1 - kept.length = zeros := by omega
  have whole : kept.take (places + 1) = kept := List.take_of_length_le (by omega)
  have fraction : kept.drop (places + 1) = [] := List.drop_of_length_le (by omega)
  simp only [write, if_neg positional]
  rw [missing, whole, fraction]
  rfl

end Trailing

section Whole

variable {number : Nat}

theorem toDigits_mul_pow (positive : 0 < number) (zeros : Nat) :
    Nat.toDigits 10 (number * 10 ^ zeros) =
      Nat.toDigits 10 number ++ List.replicate zeros '0' := by
  have allDigits : ∀ digit ∈ List.replicate zeros '0', digit.isDigit := by
    intro digit member
    rw [List.eq_of_mem_replicate member]
    rfl
  rw [← toDigits_ofDigitChars_of_pos allDigits positive, Nat.ofDigitChars_replicate_zero,
    Nat.mul_comm]

theorem decimalExponent_whole (positive : 0 < number) {places : Nat}
    (length : decimalLength number = places + 1) :
    decimalExponent (number * unit) unit = places := by
  have whole : unit ≤ number * unit := Nat.le_mul_of_pos_left _ positive
  rw [decimalExponent, if_pos whole, Nat.mul_div_cancel _ unit_pos, length]
  omega

/-- A number of at most `count` digits keeps all of them. -/
theorem significantDigits_whole (positive : 0 < number) {places more : Nat}
    (length : decimalLength number = places + 1) :
    significantDigits (places + 1 + more) (number * unit) unit =
      ⟨withoutTrailingZeros (Nat.toDigits 10 number), places⟩ := by
  have upper : number < 10 ^ (places + 1) :=
    (Nat.length_toDigits_le_iff (by decide) (Nat.succ_pos places)).mp length.le
  have scale : (places : Int) - (((places + 1 + more : Nat) : Int) - 1) = -(more : Int) := by omega
  have none : (-(more : Int)).toNat = 0 := by omega
  -- Nothing is left to be rounded when the number is scaled up.
  have exact : roundHalfEven (number * unit * 10 ^ more) unit = number * 10 ^ more := by
    have some := unit_pos
    rw [Nat.mul_right_comm]
    exact roundHalfEven_eq_of_near (by omega) (by omega)
  have fewer : number * 10 ^ more < Nat.pow 10 (places + 1 + more) := by
    change _ < 10 ^ (places + 1 + more)
    rw [Nat.pow_add]
    exact Nat.mul_lt_mul_of_pos_right upper (Nat.pow_pos (by decide))
  rw [significantDigits, decimalExponent_whole positive length, scale, scaledDown_eq, none,
    Int.neg_neg, Int.toNat_natCast, Nat.pow_zero, Nat.mul_one]
  simp only
  rw [exact, if_pos fewer, toDigits_mul_pow positive, withoutTrailingZeros_append]

/-- A whole number below a million is written in its decimal digits. -/
theorem sixDigitText_whole (small : number < 10 ^ 6) :
    sixDigitText (number * unit) = toString number := by
  apply String.toList_inj.mp
  rw [sixDigitText, quantaText, String.toList_ofList, toList_toString_nat]
  rcases Nat.eq_zero_or_pos number with rfl | positive
  · rw [if_pos (Nat.zero_mul unit)]
    rfl
  · obtain ⟨places, length, -, lower⟩ := decimalLength_bounds number
    have few : places ≤ 5 := by
      have short := (Nat.length_toDigits_le_iff (by decide) (by decide)).mpr small
      rw [decimalLength] at length
      omega
    obtain ⟨more, six⟩ := Nat.exists_eq_add_of_le few
    have count : 6 = places + 1 + more := by omega
    rw [if_neg (Nat.mul_pos positive unit_pos).ne', count, significantDigits_whole positive length,
      Layout.general.write_withoutTrailingZeros (exists_ne_zero_toDigits positive) length]
    · exact List.append_nil _
    · exact (by decide : (-4 : Int) ≤ 0).trans (Int.natCast_nonneg places)
    · exact Int.ofNat_lt.mpr (Nat.lt_succ_of_le few)

end Whole

end RelayPool.Number
