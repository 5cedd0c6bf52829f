import RelayPool.Proofs.Number.Rounding

/-!
# Reading decimals as binary numbers

A decimal is read as the binary number nearest to it, whatever the place of its
exponent, so zeros may go from its digits into its exponent.
-/

namespace RelayPool.Number.Binary64

/-- A count of quanta is a number when it has 53 significant bits at most and does
not overflow. -/
inductive IsNumber : Binary64 → Prop
  | nan : IsNumber .nan
  | infinite (negative : Bool) : IsNumber (.infinite negative)
  | finite (negative : Bool) {quanta : Nat} (fits : FitsBits 53 quanta)
      (bounded : quanta < overflow) : IsNumber (.finite negative quanta)

theorem unit_pos : 0 < unit := by decide +kernel

theorem overflow_pos : 0 < overflow := by decide +kernel

section Numbers

variable (negative : Bool) (numerator denominator : Nat)

theorem isNumber_zero : IsNumber (.finite negative 0) :=
  .finite negative (fitsBits_zero 53) overflow_pos

theorem isNumber_ofQuanta : IsNumber (ofQuanta negative numerator denominator) := by
  rw [ofQuanta]
  split
  · next bounded =>
      exact .finite negative (fitsBits_roundToBits 52 _ _) bounded
  · exact .infinite negative

theorem isNumber_ofInt (value : Int) : IsNumber (ofInt value) := by
  rw [ofInt, ofRatio]
  exact isNumber_ofQuanta ..

theorem isNumber_ofDecimal (coefficient : Nat) (exponent : Int) :
    IsNumber (ofDecimal negative coefficient exponent) := by
  unfold ofDecimal
  split
  · exact isNumber_zero negative
  · split <;> split
    · exact .infinite negative
    · exact isNumber_ofQuanta ..
    · exact isNumber_zero negative
    · exact isNumber_ofQuanta ..

variable {number other : Binary64}

theorem IsNumber.negate (isNumber : IsNumber number) : IsNumber number.negate := by
  cases isNumber with
  | nan => exact .nan
  | infinite negative => exact .infinite _
  | finite negative fits bounded => exact .finite _ fits bounded

theorem IsNumber.add (first : IsNumber number) (second : IsNumber other) :
    IsNumber (number.add other) := by
  cases first with
  | nan => exact .nan
  | infinite negative =>
      cases second with
      | nan => exact .nan
      | infinite negative' =>
          rw [Binary64.add]
          split
          · exact .infinite negative
          · exact .nan
      | finite => exact .infinite negative
  | finite negative =>
      cases second with
      | nan => exact .nan
      | infinite negative' => exact .infinite negative'
      | finite negative' =>
          rw [Binary64.add]
          split_ifs
          · exact isNumber_ofQuanta ..
          · exact isNumber_ofQuanta ..
          · exact isNumber_ofQuanta ..
          · exact isNumber_zero false

theorem IsNumber.mul (first : IsNumber number) (second : IsNumber other) :
    IsNumber (number.mul other) := by
  cases first with
  | nan => exact .nan
  | infinite negative =>
      cases second with
      | nan => exact .nan
      | infinite negative' => exact .infinite _
      | finite negative' =>
          rw [Binary64.mul]
          split
          · exact .nan
          · exact .infinite _
  | finite negative =>
      cases second with
      | nan => exact .nan
      | infinite negative' =>
          rw [Binary64.mul]
          split
          · exact .nan
          · exact .infinite _
      | finite negative' =>
          rw [Binary64.mul]
          exact isNumber_ofQuanta ..

end Numbers

section Ratios

variable {negative : Bool} {numerator denominator : Nat}

theorem ofRatio_congr {numerator' denominator' : Nat} (positive : 0 < denominator)
    (positive' : 0 < denominator') (same : numerator * denominator' = numerator' * denominator) :
    ofRatio negative numerator denominator = ofRatio negative numerator' denominator' := by
  have sameQuanta : numerator * unit * denominator' = numerator' * unit * denominator := by
    rw [Nat.mul_right_comm, same, Nat.mul_right_comm]
  rw [ofRatio, ofRatio, ofQuanta, ofQuanta, roundToBits_congr positive positive' sameQuanta]

/-- A number is read from everything nearer to it than its `2 ^ 54`th. -/
theorem ofRatio_eq_of_near {quanta : Nat} (fits : FitsBits 53 quanta)
    (bounded : quanta < overflow)
    (above : 2 ^ 54 * (quanta * denominator) <
      2 ^ 54 * (numerator * unit) + quanta * denominator)
    (below : 2 ^ 54 * (numerator * unit) <
      2 ^ 54 * (quanta * denominator) + quanta * denominator) :
    ofRatio negative numerator denominator = .finite negative quanta := by
  rw [ofRatio, ofQuanta, roundToBits_eq_of_near fits above below, if_pos bounded]

theorem ofRatio_of_large (large : 2 * overflow ≤ numerator * unit / denominator) :
    ofRatio negative numerator denominator = .infinite negative := by
  have half : numerator * unit / denominator ≤
      2 * roundToBits 53 (numerator * unit) denominator := div_le_two_mul_roundToBits 52 _ _
  rw [ofRatio, ofQuanta, if_neg (by omega)]

theorem ofRatio_of_small (small : 2 * (numerator * unit) < denominator) :
    ofRatio negative numerator denominator = .finite negative 0 := by
  rw [ofRatio, ofQuanta, roundToBits_of_small small, if_pos overflow_pos]

end Ratios

section Decimals

variable {negative : Bool} {coefficient : Nat}

/-- Where the power of ten is not computed, the ratio is out of range as well. -/
theorem ofDecimal_eq_ofRatio (positive : 0 < coefficient) (exponent : Int) :
    ofDecimal negative coefficient exponent =
      ofRatio negative (coefficient * 10 ^ exponent.toNat) (10 ^ (-exponent).toNat) := by
  unfold ofDecimal
  rw [if_neg positive.ne']
  cases exponent with
  | ofNat power =>
      have whole : (-Int.ofNat power).toNat = 0 := by simp
      rw [whole, Nat.pow_zero, Int.ofNat_eq_natCast, Int.toNat_natCast]
      simp only
      split
      · next huge =>
          refine (ofRatio_of_large ?_).symm
          rw [Nat.div_one]
          calc 2 * overflow
              ≤ 10 ^ 401 * unit := by decide +kernel
            _ ≤ 10 ^ power * unit :=
              Nat.mul_le_mul_right unit (pow_le_pow_right₀ (by decide) huge)
            _ ≤ coefficient * 10 ^ power * unit :=
              Nat.mul_le_mul_right unit (Nat.le_mul_of_pos_left _ positive)
      · rfl
  | negSucc power =>
      have fractional : (-Int.negSucc power).toNat = power + 1 := rfl
      rw [fractional, Int.toNat_negSucc, Nat.pow_zero, Nat.mul_one]
      simp only
      split
      · next tiny =>
          have room : 2 * unit ≤ 10 ^ 402 := by decide +kernel
          have few : coefficient < 10 ^ bitLength coefficient :=
            (lt_two_pow_bitLength coefficient).trans_le (Nat.pow_le_pow_left (by decide) _)
          refine (ofRatio_of_small ?_).symm
          calc 2 * (coefficient * unit)
              = coefficient * (2 * unit) := by ring
            _ ≤ coefficient * 10 ^ 402 := Nat.mul_le_mul_left coefficient room
            _ < 10 ^ bitLength coefficient * 10 ^ 402 :=
              Nat.mul_lt_mul_of_pos_right few (pow_pos (by decide) 402)
            _ = 10 ^ (bitLength coefficient + 402) := (pow_add 10 _ 402).symm
            _ ≤ 10 ^ (power + 1) := Nat.pow_le_pow_right (by decide) (by omega)
      · rfl

/-- Zeros behind the digits belong to the exponent. -/
theorem ofDecimal_shift (coefficient zeros : Nat) (exponent : Int) :
    ofDecimal negative (coefficient * 10 ^ zeros) exponent =
      ofDecimal negative coefficient (exponent + zeros) := by
  rcases Nat.eq_zero_or_pos coefficient with rfl | positive
  · simp [ofDecimal]
  · have ten (power : Nat) : 0 < 10 ^ power := Nat.pow_pos (by decide)
    rw [ofDecimal_eq_ofRatio positive,
      ofDecimal_eq_ofRatio (Nat.mul_pos positive (ten zeros))]
    apply ofRatio_congr (ten _) (ten _)
    simp only [Nat.mul_assoc, ← Nat.pow_add]
    congr 2
    omega

end Decimals

end RelayPool.Number.Binary64
