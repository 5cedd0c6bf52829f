import Mathlib.Tactic.Linarith
import Mathlib.Tactic.Ring
import RelayPool.Number.Binary64

/-!
# Rounding to significant bits

Rounding depends on a quotient only, gives a number with few significant bits,
and leads from everything near such a number back to it.
-/

namespace RelayPool.Number

/-- A natural number with at most `bits` significant bits. -/
def FitsBits (bits number : Nat) : Prop :=
  ∃ significand shift, significand < 2 ^ bits ∧ number = significand * 2 ^ shift

theorem fitsBits_zero (bits : Nat) : FitsBits bits 0 :=
  ⟨0, 0, Nat.two_pow_pos bits, rfl⟩

section Nearest

variable {numerator denominator factor nearest : Nat}

theorem roundHalfEven_mul_left (positive : 0 < factor) :
    roundHalfEven (factor * numerator) (factor * denominator) =
      roundHalfEven numerator denominator := by
  have twice (rest : Nat) : 2 * (factor * rest) = factor * (2 * rest) := by ring
  simp only [roundHalfEven, Nat.mul_div_mul_left _ _ positive, Nat.mul_mod_mul_left, twice,
    Nat.mul_lt_mul_left positive]

/-- A number less than a half away from an integer is rounded to it. -/
theorem roundHalfEven_eq_of_near
    (above : 2 * (nearest * denominator) < 2 * numerator + denominator)
    (below : 2 * numerator < 2 * (nearest * denominator) + denominator) :
    roundHalfEven numerator denominator = nearest := by
  have positive : 0 < denominator := by omega
  have split := Nat.div_add_mod numerator denominator
  have small := Nat.mod_lt numerator positive
  rw [roundHalfEven]
  generalize numerator / denominator = quotient at split ⊢
  generalize numerator % denominator = rest at split small ⊢
  have upper : quotient ≤ nearest := by
    by_contra beyond
    have step : denominator * (nearest + 1) ≤ denominator * quotient :=
      Nat.mul_le_mul_left _ (by omega)
    rw [Nat.mul_succ, Nat.mul_comm denominator nearest] at step
    omega
  have lower : nearest ≤ quotient + 1 := by
    by_contra beyond
    have step : denominator * (quotient + 1 + 1) ≤ denominator * nearest :=
      Nat.mul_le_mul_left _ (by omega)
    rw [Nat.mul_succ, Nat.mul_succ, Nat.mul_comm denominator nearest] at step
    omega
  rcases Nat.lt_or_eq_of_le upper with less | same
  · obtain rfl : nearest = quotient + 1 := by omega
    have next : (quotient + 1) * denominator = denominator * quotient + denominator := by ring
    rw [next] at above below
    rw [if_neg (by omega), if_pos (by omega)]
  · subst same
    rw [Nat.mul_comm quotient] at above below
    rw [if_pos (by omega)]

theorem div_le_roundHalfEven (numerator denominator : Nat) :
    numerator / denominator ≤ roundHalfEven numerator denominator := by
  simp only [roundHalfEven]
  split
  · exact Nat.le_refl _
  · split
    · exact Nat.le_succ _
    · exact Nat.le_add_right _ _

theorem roundHalfEven_le (numerator denominator : Nat) :
    roundHalfEven numerator denominator ≤ numerator / denominator + 1 := by
  simp only [roundHalfEven]
  split
  · exact Nat.le_succ _
  · split
    · exact Nat.le_refl _
    · omega

/-- Rounding moves a quotient by a half at most. -/
theorem roundHalfEven_error (numerator : Nat) (positive : 0 < denominator) :
    2 * (roundHalfEven numerator denominator * denominator) ≤ 2 * numerator + denominator ∧
      2 * numerator ≤ 2 * (roundHalfEven numerator denominator * denominator) + denominator := by
  have split := Nat.div_add_mod numerator denominator
  have small := Nat.mod_lt numerator positive
  rw [roundHalfEven]
  generalize numerator / denominator = quotient at split ⊢
  generalize numerator % denominator = rest at split small ⊢
  have next : (quotient + 1) * denominator = denominator * quotient + denominator := by ring
  have same : quotient * denominator = denominator * quotient := Nat.mul_comm _ _
  split_ifs with less more
  · omega
  · omega
  · rcases Nat.mod_two_eq_zero_or_one quotient with even | odd
    · rw [even, Nat.add_zero]
      omega
    · rw [odd]
      omega

end Nearest

section Bits

variable {bits numerator denominator : Nat}

theorem lt_two_pow_bitLength (number : Nat) : number < 2 ^ bitLength number := by
  rw [bitLength]
  split
  · next zero => simp [zero]
  · exact Nat.lt_log2_self

theorem two_pow_le_of_lt_bitLength {number count : Nat} (fewer : count < bitLength number) :
    2 ^ count ≤ number := by
  rw [bitLength] at fewer
  split at fewer
  · omega
  · next positive =>
      have power : 2 ^ count ≤ 2 ^ number.log2 := Nat.pow_le_pow_right (by decide) (by omega)
      exact power.trans (Nat.log2_self_le positive)

/-- The bits of a quotient beyond the significant ones. -/
def excessBits (bits numerator denominator : Nat) : Nat :=
  bitLength (numerator / denominator) - bits

theorem roundToBits_eq (bits numerator denominator : Nat) :
    roundToBits bits numerator denominator =
      roundHalfEven numerator (denominator * 2 ^ excessBits bits numerator denominator) *
        2 ^ excessBits bits numerator denominator :=
  rfl

theorem div_lt_of_excessBits (bits numerator denominator : Nat) :
    numerator / denominator < 2 ^ bits * 2 ^ excessBits bits numerator denominator := by
  rw [← Nat.pow_add, excessBits]
  exact (lt_two_pow_bitLength _).trans_le (Nat.pow_le_pow_right (by decide) (by omega))

theorem le_div_of_excessBits_pos (some : 0 < excessBits (bits + 1) numerator denominator) :
    2 ^ bits * 2 ^ excessBits (bits + 1) numerator denominator ≤ numerator / denominator := by
  rw [excessBits] at some ⊢
  rw [← Nat.pow_add]
  exact two_pow_le_of_lt_bitLength (by omega)

/-- Rounding to significant bits depends on a quotient only. -/
theorem roundToBits_congr {numerator' denominator' : Nat} (positive : 0 < denominator)
    (positive' : 0 < denominator')
    (same : numerator * denominator' = numerator' * denominator) :
    roundToBits bits numerator denominator = roundToBits bits numerator' denominator' := by
  have scaled (first second : Nat) {factor : Nat} (positive : 0 < factor) :
      roundToBits bits first second = roundToBits bits (factor * first) (factor * second) := by
    simp only [roundToBits, Nat.mul_div_mul_left _ _ positive, Nat.mul_assoc,
      roundHalfEven_mul_left positive]
  rw [scaled numerator denominator positive', scaled numerator' denominator' positive,
    Nat.mul_comm denominator', same, Nat.mul_comm numerator', Nat.mul_comm denominator']

theorem fitsBits_roundToBits (bits numerator denominator : Nat) :
    FitsBits (bits + 1) (roundToBits (bits + 1) numerator denominator) := by
  have below := div_lt_of_excessBits (bits + 1) numerator denominator
  rw [roundToBits_eq]
  generalize excessBits (bits + 1) numerator denominator = shift at below ⊢
  have small : numerator / (denominator * 2 ^ shift) < 2 ^ (bits + 1) := by
    rw [← Nat.div_div_eq_div_mul]
    rw [Nat.mul_comm] at below
    exact Nat.div_lt_of_lt_mul below
  rcases Nat.lt_or_eq_of_le ((roundHalfEven_le _ _).trans small) with less | same
  · exact ⟨_, shift, less, rfl⟩
  · -- Rounding up may add a bit, and then all the others are zero.
    rw [same]
    exact ⟨2 ^ bits, shift + 1, Nat.pow_lt_pow_right (by decide) (by omega), by ring⟩

theorem roundToBits_of_small (small : 2 * numerator < denominator) :
    roundToBits bits numerator denominator = 0 := by
  have none : excessBits bits numerator denominator = 0 := by
    rw [excessBits, Nat.div_eq_of_lt (by omega), bitLength, if_pos rfl, Nat.zero_sub]
  have nearest : roundHalfEven numerator denominator = 0 :=
    roundHalfEven_eq_of_near (by omega) (by omega)
  rw [roundToBits_eq, none, Nat.pow_zero, Nat.mul_one, Nat.mul_one, nearest]

/-- At least half of a quotient is left when it is rounded. -/
theorem div_le_two_mul_roundToBits (bits numerator denominator : Nat) :
    numerator / denominator ≤ 2 * roundToBits (bits + 1) numerator denominator := by
  have large (some : 0 < excessBits (bits + 1) numerator denominator) :=
    le_div_of_excessBits_pos some
  have rounded := div_le_roundHalfEven numerator
    (denominator * 2 ^ excessBits (bits + 1) numerator denominator)
  rw [← Nat.div_div_eq_div_mul] at rounded
  rw [roundToBits_eq]
  generalize roundHalfEven _ _ = result at rounded ⊢
  generalize excessBits (bits + 1) numerator denominator = shift at large rounded ⊢
  generalize numerator / denominator = quotient at large rounded ⊢
  rcases Nat.eq_zero_or_pos shift with rfl | some
  · rw [Nat.pow_zero, Nat.div_one] at rounded
    omega
  · have unit : 2 ^ shift ≤ quotient :=
      (Nat.le_mul_of_pos_left _ (Nat.two_pow_pos bits)).trans (large some)
    have least : 2 ^ shift * 1 ≤ 2 ^ shift * (quotient / 2 ^ shift) :=
      Nat.mul_le_mul_left _ (Nat.div_pos unit (Nat.two_pow_pos shift))
    have split := Nat.div_add_mod quotient (2 ^ shift)
    have left := Nat.mod_lt quotient (Nat.two_pow_pos shift)
    have scaled := Nat.mul_le_mul_left (2 ^ shift) rounded
    rw [Nat.mul_comm result]
    omega

end Bits

section Significand

variable {numerator denominator quanta : Nat}

/-- A quotient that is not below `2 ^ 52` units of a scale is only near to numbers
that are made of these units. -/
theorem dvd_of_near {shift : Nat} (fits : FitsBits 53 quanta) (positive : 0 < denominator)
    (large : 2 ^ 52 * 2 ^ shift * denominator ≤ numerator)
    (below : 2 ^ 54 * numerator < 2 ^ 54 * (quanta * denominator) + quanta * denominator) :
    2 ^ shift ∣ quanta := by
  obtain ⟨significand, own, small, rfl⟩ := fits
  by_cases coarse : shift ≤ own
  · exact Dvd.dvd.mul_left (Nat.pow_dvd_pow 2 coarse) significand
  · exfalso
    obtain ⟨more, rfl⟩ := Nat.exists_eq_add_of_lt (Nat.lt_of_not_le coarse)
    have unit : 0 < 2 ^ own * denominator := Nat.mul_pos (Nat.two_pow_pos own) positive
    have power : 1 ≤ 2 ^ more := Nat.one_le_two_pow
    have expanded : 2 ^ 52 * 2 ^ (own + more + 1) * denominator =
        2 ^ 53 * 2 ^ more * (2 ^ own * denominator) := by ring
    have regrouped : significand * 2 ^ own * denominator =
        significand * (2 ^ own * denominator) := Nat.mul_assoc _ _ _
    rw [expanded] at large
    rw [regrouped] at below
    generalize 2 ^ own * denominator = one at *
    have most : significand * one ≤ (2 ^ 53 - 1) * one := Nat.mul_le_mul_right _ (by omega)
    have least : 2 ^ 53 * 1 * one ≤ 2 ^ 53 * 2 ^ more * one :=
      Nat.mul_le_mul_right _ (Nat.mul_le_mul_left _ power)
    omega

/-- A quotient below `2 ^ 53` units of a scale is only near to numbers that are
not above. -/
theorem le_of_near {shift : Nat} (fits : FitsBits 53 quanta) (positive : 0 < denominator)
    (small : numerator < 2 ^ 53 * 2 ^ shift * denominator)
    (above : 2 ^ 54 * (quanta * denominator) < 2 ^ 54 * numerator + quanta * denominator) :
    quanta ≤ 2 ^ 53 * 2 ^ shift := by
  obtain ⟨significand, own, fewer, rfl⟩ := fits
  by_contra beyond
  have finer : shift < own := by
    by_contra coarse
    have power : 2 ^ own ≤ 2 ^ shift := Nat.pow_le_pow_right (by decide) (by omega)
    exact beyond (Nat.mul_le_mul fewer.le power)
  obtain ⟨more, rfl⟩ := Nat.exists_eq_add_of_lt finer
  have unit : 0 < 2 ^ shift * denominator := Nat.mul_pos (Nat.two_pow_pos shift) positive
  have regrouped : significand * 2 ^ (shift + more + 1) * denominator =
      2 * (significand * 2 ^ more) * (2 ^ shift * denominator) := by ring
  have many : 2 ^ 52 + 1 ≤ significand * 2 ^ more := by
    by_contra few
    have bound : significand * 2 ^ more * 2 ^ (shift + 1) ≤ 2 ^ 52 * 2 ^ (shift + 1) :=
      Nat.mul_le_mul_right _ (by omega)
    have first : significand * 2 ^ more * 2 ^ (shift + 1) =
        significand * 2 ^ (shift + more + 1) := by ring
    have second : 2 ^ 52 * 2 ^ (shift + 1) = 2 ^ 53 * 2 ^ shift := by ring
    omega
  rw [regrouped] at above
  rw [Nat.mul_assoc] at small
  generalize 2 ^ shift * denominator = one at *
  have least : 2 * (2 ^ 52 + 1) * one ≤ 2 * (significand * 2 ^ more) * one :=
    Nat.mul_le_mul_right _ (Nat.mul_le_mul_left _ many)
  omega

/-- A quotient is rounded to a number that fits into 53 bits when it is nearer to
it than a `2 ^ 54`th of the number. -/
theorem roundToBits_eq_of_near (fits : FitsBits 53 quanta)
    (above : 2 ^ 54 * (quanta * denominator) < 2 ^ 54 * numerator + quanta * denominator)
    (below : 2 ^ 54 * numerator < 2 ^ 54 * (quanta * denominator) + quanta * denominator) :
    roundToBits 53 numerator denominator = quanta := by
  have positive : 0 < denominator := by
    by_contra zero
    obtain rfl : denominator = 0 := by omega
    omega
  have upper := (Nat.div_lt_iff_lt_mul positive).mp (div_lt_of_excessBits 53 numerator denominator)
  have whole : 2 ^ excessBits 53 numerator denominator ∣ quanta := by
    rcases Nat.eq_zero_or_pos (excessBits 53 numerator denominator) with none | some
    · rw [none]
      exact one_dvd quanta
    · have large := (Nat.le_div_iff_mul_le positive).mp (le_div_of_excessBits_pos some)
      exact dvd_of_near fits positive large below
  have most := le_of_near fits positive upper above
  rw [roundToBits_eq]
  generalize excessBits 53 numerator denominator = shift at *
  obtain ⟨units, rfl⟩ := whole
  rw [Nat.mul_comm (2 ^ 53)] at most
  have few := Nat.le_of_mul_le_mul_left most (Nat.two_pow_pos shift)
  have regrouped : 2 ^ shift * units * denominator = units * (denominator * 2 ^ shift) := by ring
  rw [regrouped] at above below
  have bound := Nat.mul_le_mul_right (denominator * 2 ^ shift) few
  have rounded : roundHalfEven numerator (denominator * 2 ^ shift) = units :=
    roundHalfEven_eq_of_near (by omega) (by omega)
  rw [rounded, Nat.mul_comm]

end Significand

end RelayPool.Number
