import RelayPool.Proofs.Number.WholeNumbers

/-!
# Bounds of rounded quotients

Rounding never crosses a number that is kept by it, a quotient is rounded below an
even number exactly when it is more than a half away from it, and what is lost by
rounding is known from the size of the quotient.
-/

namespace RelayPool.Number

section Nearest

variable {numerator denominator most half : Nat}

theorem roundHalfEven_le_of_le (positive : 0 < denominator)
    (bounded : numerator ≤ most * denominator) : roundHalfEven numerator denominator ≤ most := by
  have error := (roundHalfEven_error numerator positive).1
  by_contra beyond
  have more : (most + 1) * denominator ≤ roundHalfEven numerator denominator * denominator :=
    Nat.mul_le_mul_right _ (Nat.lt_of_not_le beyond)
  rw [Nat.succ_mul] at more
  omega

/-- A tie at an even number is rounded up to it. -/
theorem roundHalfEven_lt_iff (positive : 0 < denominator) :
    roundHalfEven numerator denominator < 2 * half ↔
      2 * numerator + denominator < 2 * (2 * half * denominator) := by
  constructor
  · intro below
    by_contra enough
    have atLeast := div_le_roundHalfEven numerator denominator
    have split := Nat.div_add_mod numerator denominator
    have small := Nat.mod_lt numerator positive
    rw [roundHalfEven] at below atLeast
    generalize numerator / denominator = quotient at split below atLeast
    generalize numerator % denominator = rest at split small below atLeast
    obtain ⟨missing, sum⟩ : ∃ missing, 2 * half = quotient + 1 + missing :=
      Nat.exists_eq_add_of_le (by omega)
    have product : 2 * half * denominator =
        denominator * quotient + denominator + missing * denominator := by
      rw [sum]
      ring
    -- Only the last integer below the bound is near enough, and it is odd.
    obtain rfl : missing = 0 := by
      by_contra some
      have room : denominator ≤ missing * denominator :=
        Nat.le_mul_of_pos_left _ (Nat.pos_of_ne_zero some)
      omega
    split_ifs at below <;> omega
  · intro below
    have error := (roundHalfEven_error numerator positive).1
    by_contra enough
    have more : 2 * half * denominator ≤ roundHalfEven numerator denominator * denominator :=
      Nat.mul_le_mul_right _ (Nat.le_of_not_lt enough)
    omega

theorem roundHalfEven_pos_iff (positive : 0 < denominator) :
    0 < roundHalfEven numerator denominator ↔ denominator < 2 * numerator := by
  constructor
  · intro some
    by_contra few
    have none : numerator / denominator = 0 := Nat.div_eq_of_lt (by omega)
    rw [roundHalfEven, none, Nat.mod_eq_of_lt (by omega)] at some
    split_ifs at some <;> omega
  · intro enough
    have error := (roundHalfEven_error numerator positive).2
    by_contra none
    rw [Nat.eq_zero_of_not_pos none] at error
    omega

end Nearest

section Bits

variable {numerator denominator most : Nat}

/-- A quotient is not rounded above a number of 53 bits that it does not exceed. -/
theorem roundToBits_le (fits : FitsBits 53 most) (positive : 0 < denominator)
    (bounded : numerator ≤ most * denominator) :
    roundToBits 53 numerator denominator ≤ most := by
  have reached : numerator / denominator ≤ most :=
    Nat.div_le_of_le_mul (by rwa [Nat.mul_comm])
  have large (some : 0 < excessBits 53 numerator denominator) :
      2 ^ 52 * 2 ^ excessBits 53 numerator denominator ≤ numerator / denominator :=
    le_div_of_excessBits_pos some
  rw [roundToBits_eq]
  generalize excessBits 53 numerator denominator = shift at large ⊢
  have scale : 0 < 2 ^ shift := Nat.two_pow_pos shift
  have whole : 2 ^ shift ∣ most := by
    rcases Nat.eq_zero_or_pos shift with rfl | some
    · exact one_dvd most
    · exact fits.dvd_of_le ((large some).trans reached)
  obtain ⟨units, rfl⟩ := whole
  rw [Nat.mul_comm (2 ^ shift)]
  refine Nat.mul_le_mul_right _ (roundHalfEven_le_of_le (Nat.mul_pos positive scale) ?_)
  calc numerator
      ≤ 2 ^ shift * units * denominator := bounded
    _ = units * (denominator * 2 ^ shift) := by ring

/-- A quotient that needs at most `more` bits more than 53 is moved by half a unit of
that scale at most. -/
theorem roundToBits_error {more : Nat} (positive : 0 < denominator)
    (small : numerator < 2 ^ (53 + more) * denominator) :
    2 * (roundToBits 53 numerator denominator * denominator) ≤
        2 * numerator + 2 ^ more * denominator ∧
      2 * numerator ≤
        2 * (roundToBits 53 numerator denominator * denominator) + 2 ^ more * denominator := by
  have few : 2 ^ excessBits 53 numerator denominator ≤ 2 ^ more := by
    rcases Nat.eq_zero_or_pos (excessBits 53 numerator denominator) with none | some
    · rw [none]
      exact Nat.one_le_two_pow
    · have reached : 2 ^ 52 * 2 ^ excessBits 53 numerator denominator ≤ numerator / denominator :=
        le_div_of_excessBits_pos some
      have below := (Nat.div_lt_iff_lt_mul positive).mpr small
      rw [← Nat.pow_add] at reached
      have exponents := (Nat.pow_lt_pow_iff_right (by decide)).mp (reached.trans_lt below)
      exact Nat.pow_le_pow_right (by decide) (by omega)
  rw [roundToBits_eq]
  generalize excessBits 53 numerator denominator = shift at few ⊢
  have error := roundHalfEven_error numerator (Nat.mul_pos positive (Nat.two_pow_pos shift))
  generalize roundHalfEven numerator (denominator * 2 ^ shift) = rounded at error ⊢
  have scaled := Nat.mul_le_mul_right denominator few
  have regrouped : rounded * (denominator * 2 ^ shift) = rounded * 2 ^ shift * denominator := by
    ring
  rw [regrouped, Nat.mul_comm denominator] at error
  omega

end Bits

end RelayPool.Number
