import RelayPool.Proofs.Number.DecimalNotation
import RelayPool.Proofs.Number.DecimalReading

/-!
# Digits that read back

The digits that are written for a number are read as that number: a short form is
only taken when it reads back, and seventeen digits always do.
-/

namespace RelayPool.Number

open Binary64

/-- Digits that are read as a count of quanta. -/
structure Digits.ReadAs (number : Digits) (quanta : Nat) : Prop where
  nonempty : number.digits ≠ []
  allDigits : ∀ digit ∈ number.digits, digit.isDigit
  reads : ofDecimal false (Nat.ofDigitChars 10 number.digits 0)
    (number.exponent - ((number.digits.length : Int) - 1)) = .finite false quanta

section Trailing

variable {digits : List Char}

/-- A text is what is left without the zeros at its end, and these zeros. -/
theorem exists_eq_append_zeros (nonzero : ∃ digit ∈ digits, digit ≠ '0') :
    ∃ zeros, digits = withoutTrailingZeros digits ++ List.replicate zeros '0' ∧
      withoutTrailingZeros digits ≠ [] := by
  have split := List.takeWhile_append_dropWhile (p := (· == '0')) (l := digits.reverse)
  have zeros : digits.reverse.takeWhile (· == '0') =
      List.replicate (digits.reverse.takeWhile (· == '0')).length '0' := by
    refine List.eq_replicate_of_mem fun digit member => ?_
    simpa using List.mem_takeWhile_imp member
  have left : digits.reverse.dropWhile (· == '0') ≠ [] := by
    intro none
    obtain ⟨digit, member, other⟩ := nonzero
    have isZero := List.dropWhile_eq_nil_iff.mp none digit (List.mem_reverse.mpr member)
    exact other (by simpa using isZero)
  have kept : withoutTrailingZeros digits = (digits.reverse.dropWhile (· == '0')).reverse := by
    rw [withoutTrailingZeros]
    split
    · next none => exact absurd (List.reverse_eq_nil_iff.mp none) left
    · rfl
  refine ⟨(digits.reverse.takeWhile (· == '0')).length, ?_, ?_⟩
  · rw [kept, ← List.reverse_replicate, ← zeros, ← List.reverse_append, split, List.reverse_reverse]
  · rw [kept]
    exact fun none => left (List.reverse_eq_nil_iff.mp none)

theorem exists_ne_zero_toDigits {number : Nat} (positive : 0 < number) :
    ∃ digit ∈ Nat.toDigits 10 number, digit ≠ '0' := by
  have leading := head?_toDigits positive
  cases written : Nat.toDigits 10 number with
  | nil => exact absurd written Nat.toDigits_ne_nil
  | cons first rest =>
      rw [written] at leading
      exact ⟨first, List.mem_cons_self, fun zero => leading (congrArg some zero)⟩

/-- A coefficient may be written without the zeros at its end. -/
theorem readAs_withoutTrailingZeros {coefficient quanta : Nat} {last : Int}
    (positive : 0 < coefficient)
    (reads : ofDecimal false coefficient last = .finite false quanta) :
    Digits.ReadAs
      ⟨withoutTrailingZeros (Nat.toDigits 10 coefficient),
        last + (((Nat.toDigits 10 coefficient).length : Int) - 1)⟩ quanta := by
  obtain ⟨zeros, split, nonempty⟩ := exists_eq_append_zeros (exists_ne_zero_toDigits positive)
  have value := Nat.ofDigitChars_ten_toDigits (n := coefficient)
  have allDigits : ∀ digit ∈ Nat.toDigits 10 coefficient, digit.isDigit :=
    fun _ member => Nat.isDigit_of_mem_toDigits (by decide) (by decide) member
  generalize withoutTrailingZeros (Nat.toDigits 10 coefficient) = kept at *
  generalize Nat.toDigits 10 coefficient = digits at *
  subst split
  rw [Nat.ofDigitChars_append, Nat.ofDigitChars_replicate_zero, Nat.mul_comm] at value
  rw [← value, ofDecimal_shift] at reads
  refine ⟨nonempty, fun digit member => allDigits digit (List.mem_append_left _ member), ?_⟩
  rw [← reads]
  congr 1
  simp
  omega

end Trailing

section Exponents

variable {numerator denominator : Nat}

theorem decimalLength_bounds (number : Nat) :
    ∃ places, decimalLength number = places + 1 ∧ number < 10 ^ (places + 1) ∧
      (0 < places → 10 ^ places ≤ number) := by
  have some : 0 < (Nat.toDigits 10 number).length := Nat.length_toDigits_pos
  obtain ⟨places, count⟩ := Nat.exists_eq_add_of_lt some
  rw [Nat.zero_add] at count
  refine ⟨places, count, ?_, fun inside => ?_⟩
  · exact (Nat.length_toDigits_le_iff (by decide) (by omega)).mp count.le
  · by_contra less
    have short : decimalLength number ≤ places :=
      (Nat.length_toDigits_le_iff (by decide) inside).mpr (Nat.lt_of_not_le less)
    rw [decimalLength, count] at short
    omega

/-- A positive number lies between the power of ten with its exponent and the next
one. -/
theorem decimalExponent_bounds (positive : 0 < numerator) (positive' : 0 < denominator)
    {exponent : Int} (same : decimalExponent numerator denominator = exponent) :
    denominator * 10 ^ exponent.toNat ≤ numerator * 10 ^ (-exponent).toNat ∧
      numerator * 10 ^ (-(exponent + 1)).toNat < denominator * 10 ^ (exponent + 1).toNat := by
  rw [decimalExponent] at same
  split at same
  · next whole =>
      obtain ⟨places, length, upper, lower⟩ := decimalLength_bounds (numerator / denominator)
      obtain rfl : (places : Int) = exponent := by omega
      have zero : (-(places : Int)).toNat = 0 := by omega
      have zero' : (-((places : Int) + 1)).toNat = 0 := by omega
      have next : ((places : Int) + 1).toNat = places + 1 := by omega
      rw [zero, zero', next, Int.toNat_natCast, Nat.pow_zero, Nat.mul_one]
      constructor
      · rcases Nat.eq_zero_or_pos places with rfl | some
        · simpa using whole
        · exact (Nat.mul_le_mul_left _ (lower some)).trans (Nat.mul_div_le _ _)
      · rw [Nat.mul_comm]
        exact (Nat.div_lt_iff_lt_mul positive').mp upper
  · next fractional =>
      obtain ⟨places, length, upper, lower⟩ :=
        decimalLength_bounds ((denominator - 1) / numerator)
      obtain rfl : -((places : Int) + 1) = exponent := by omega
      have zero : (-((places : Int) + 1)).toNat = 0 := by omega
      have next : (- -((places : Int) + 1)).toNat = places + 1 := by omega
      have zero' : (-((places : Int) + 1) + 1).toNat = 0 := by omega
      have next' : (-(-((places : Int) + 1) + 1)).toNat = places := by omega
      rw [zero, zero', next, next', Nat.pow_zero, Nat.mul_one]
      constructor
      · have most := (Nat.div_lt_iff_lt_mul positive).mp upper
        rw [Nat.mul_comm numerator]
        omega
      · rcases Nat.eq_zero_or_pos places with rfl | some
        · simpa using fractional
        · have most := (Nat.mul_le_mul_left numerator (lower some)).trans (Nat.mul_div_le _ _)
          omega

/-- Powers of ten may change sides together. -/
theorem mul_pow_le_mul_pow_iff {first second first' second' : Nat}
    (same : first' + second = first + second') :
    numerator * 10 ^ first ≤ denominator * 10 ^ second ↔
      numerator * 10 ^ first' ≤ denominator * 10 ^ second' := by
  have ten (power : Nat) : 0 < 10 ^ power := Nat.pow_pos (by decide)
  have left : numerator * 10 ^ first * 10 ^ second' = numerator * 10 ^ first' * 10 ^ second := by
    rw [Nat.mul_assoc, ← Nat.pow_add, ← same, Nat.pow_add, Nat.mul_assoc]
  have right : denominator * 10 ^ second * 10 ^ second' =
      denominator * 10 ^ second' * 10 ^ second := Nat.mul_right_comm _ _ _
  rw [← Nat.mul_le_mul_right_iff (ten second'), left, right, Nat.mul_le_mul_right_iff (ten second)]

theorem scaledDown_eq (exponent : Int) :
    scaledDown numerator denominator exponent =
      (numerator * 10 ^ (-exponent).toNat, denominator * 10 ^ exponent.toNat) := by
  cases exponent with
  | ofNat power => simp [scaledDown]
  | negSucc power => simp [scaledDown]

end Exponents

section Shortest

variable {quanta : Nat}

/-- A neighbour is only given when it reads back. -/
theorem reads_of_gridNeighbour? {exponent : Int} {coefficient : Nat}
    (found : gridNeighbour? quanta exponent = some coefficient) :
    ofDecimal false coefficient exponent = .finite false quanta := by
  rw [gridNeighbour?, scaledDown_eq] at found
  simp only at found
  split at found
  · next below above =>
      obtain rfl := Option.some.inj found
      split
      · exact eq_of_beq below
      · exact eq_of_beq above
  · next below _ =>
      obtain rfl := Option.some.inj found
      exact eq_of_beq below
  · next _ above =>
      obtain rfl := Option.some.inj found
      exact eq_of_beq above
  · cases found

theorem pos_of_reads {coefficient : Nat} {exponent : Int} (positive : 0 < quanta)
    (reads : ofDecimal false coefficient exponent = .finite false quanta) :
    0 < coefficient := by
  refine Nat.pos_of_ne_zero ?_
  rintro rfl
  simp only [ofDecimal] at reads
  cases reads
  omega

/-- A count of quanta is read from the decimals of a grid that is finer than its
`10 ^ 16`th when it is rounded to it. -/
theorem reads_roundHalfEven (fits : FitsBits 53 quanta) (bounded : quanta < overflow)
    {exponent : Int}
    (fine : unit * 10 ^ exponent.toNat * 10 ^ 16 ≤ quanta * 10 ^ (-exponent).toNat) :
    ofDecimal false (roundHalfEven (quanta * 10 ^ (-exponent).toNat)
      (unit * 10 ^ exponent.toNat)) exponent = .finite false quanta := by
  have grid : 0 < unit * 10 ^ exponent.toNat :=
    Nat.mul_pos unit_pos (Nat.pow_pos (by decide))
  obtain ⟨above, below⟩ := roundHalfEven_error (quanta * 10 ^ (-exponent).toNat) grid
  generalize roundHalfEven _ _ = coefficient at above below ⊢
  have positive : 0 < coefficient := by
    refine Nat.pos_of_ne_zero ?_
    rintro rfl
    omega
  rw [ofDecimal_eq_ofRatio positive]
  have regrouped : coefficient * 10 ^ exponent.toNat * unit =
      coefficient * (unit * 10 ^ exponent.toNat) := by ring
  apply ofRatio_eq_of_near fits bounded
  · rw [regrouped]
    omega
  · rw [regrouped]
    omega

theorem roundHalfEven_mem_decade {numerator denominator : Nat} (places : Nat)
    (positive : 0 < denominator) (lower : denominator * 10 ^ places ≤ numerator)
    (upper : numerator < denominator * 10 ^ (places + 1)) :
    10 ^ places ≤ roundHalfEven numerator denominator ∧
      roundHalfEven numerator denominator ≤ 10 ^ (places + 1) := by
  constructor
  · refine le_trans ?_ (div_le_roundHalfEven _ _)
    rw [Nat.le_div_iff_mul_le positive, Nat.mul_comm]
    exact lower
  · refine (roundHalfEven_le _ _).trans ((Nat.div_lt_iff_lt_mul positive).mpr ?_)
    rw [Nat.mul_comm (10 ^ (places + 1))]
    exact upper

/-- A coefficient of seventeen digits, or the next one, in significant digits. -/
theorem readAs_of_seventeen {coefficient : Nat} {last : Int} (least : 10 ^ 16 ≤ coefficient)
    (most : coefficient ≤ 10 ^ 17)
    (reads : ofDecimal false coefficient last = .finite false quanta) :
    Digits.ReadAs (if coefficient < 10 ^ 17 then
      ⟨withoutTrailingZeros (Nat.toDigits 10 coefficient), last + 16⟩
      else ⟨['1'], last + 16 + 1⟩) quanta := by
  split
  · next fewer =>
      have atMost : (Nat.toDigits 10 coefficient).length ≤ 17 :=
        (Nat.length_toDigits_le_iff (by decide) (by decide)).mpr fewer
      have atLeast : ¬ (Nat.toDigits 10 coefficient).length ≤ 16 := by
        rw [Nat.length_toDigits_le_iff (by decide) (by decide)]
        omega
      have digits := readAs_withoutTrailingZeros (by omega) reads
      have length : last + (((Nat.toDigits 10 coefficient).length : Int) - 1) = last + 16 := by
        omega
      rwa [length] at digits
  · next many =>
      obtain rfl : coefficient = 1 * 10 ^ 17 := by omega
      rw [ofDecimal_shift] at reads
      refine ⟨List.cons_ne_nil _ _, List.forall_mem_singleton.mpr rfl, ?_⟩
      have value : Nat.ofDigitChars 10 ['1'] 0 = 1 := rfl
      have place : last + 16 + 1 - (((['1'] : List Char).length : Int) - 1) = last + 17 := by
        simp only [List.length_singleton]
        omega
      simp only [value, place]
      exact reads

/-- Seventeen significant digits of a number read back. -/
theorem readAs_significantDigits (positive : 0 < quanta) (fits : FitsBits 53 quanta)
    (bounded : quanta < overflow) : (significantDigits 17 quanta unit).ReadAs quanta := by
  rw [significantDigits]
  generalize shown : decimalExponent quanta unit = exponent
  obtain ⟨lower, upper⟩ := decimalExponent_bounds positive unit_pos shown
  obtain ⟨last, rfl⟩ : ∃ last : Int, exponent = last + 16 := ⟨exponent - 16, by omega⟩
  have sameLast : last + 16 - ((17 : Nat) - 1 : Int) = last := by omega
  rw [sameLast, scaledDown_eq]
  have fine : unit * 10 ^ last.toNat * 10 ^ 16 ≤ quanta * 10 ^ (-last).toNat := by
    rw [Nat.mul_assoc, ← Nat.pow_add]
    exact (mul_pow_le_mul_pow_iff (by omega)).mp lower
  have coarse : quanta * 10 ^ (-last).toNat < unit * 10 ^ last.toNat * 10 ^ 17 := by
    rw [Nat.mul_assoc, ← Nat.pow_add, ← Nat.not_le]
    rw [← Nat.not_le] at upper
    exact (mul_pow_le_mul_pow_iff (by omega)).not.mp upper
  have grid : 0 < unit * 10 ^ last.toNat := Nat.mul_pos unit_pos (Nat.pow_pos (by decide))
  obtain ⟨least, most⟩ := roundHalfEven_mem_decade 16 grid fine coarse
  exact readAs_of_seventeen least most (reads_roundHalfEven fits bounded fine)

theorem readAs_shortestFrom (positive : 0 < quanta) (exponent : Int) (counts count : Nat)
    (last : (significantDigits (counts + count) quanta unit).ReadAs quanta) :
    (shortestFrom quanta exponent counts count).ReadAs quanta := by
  induction counts generalizing count with
  | zero =>
      rw [Nat.zero_add] at last
      exact last
  | succ counts ih =>
      rw [shortestFrom]
      simp only
      split
      · next coefficient found =>
          have reads := reads_of_gridNeighbour? found
          exact readAs_withoutTrailingZeros (pos_of_reads positive reads) reads
      · rw [Nat.succ_add_eq_add_succ] at last
        exact ih (count + 1) last

/-- The shortest digits of a number read back. -/
theorem readAs_shortestDigits (positive : 0 < quanta) (fits : FitsBits 53 quanta)
    (bounded : quanta < overflow) : (shortestDigits quanta).ReadAs quanta :=
  readAs_shortestFrom positive _ 16 1 (readAs_significantDigits positive fits bounded)

end Shortest

end RelayPool.Number
