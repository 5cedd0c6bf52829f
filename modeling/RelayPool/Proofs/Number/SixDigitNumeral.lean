import RelayPool.Proofs.Number.FloatNotation
import RelayPool.Proofs.Number.RoundingBounds
import RelayPool.Proofs.Number.SixDigits

/-!
# Up to sixty in six digits

A number up to sixty is written as a plain decimal in six significant digits, but
for small numbers, which are written with an exponent.  The bounds at which the
notation changes and at which sixty is reached are half a unit of the last digit
below the round numbers.
-/

namespace RelayPool.Number

open Binary64

/-- A decimal numeral without a sign or an exponent, by its whole part. -/
inductive IsPlainDecimal (whole : Nat) : List Char → Prop
  | whole : IsPlainDecimal whole (Nat.toDigits 10 whole)
  | pointed {fraction : List Char} (nonempty : fraction ≠ [])
      (allDigits : ∀ digit ∈ fraction, digit.isDigit) :
      IsPlainDecimal whole (Nat.toDigits 10 whole ++ '.' :: fraction)

section Plain

variable {whole : Nat} {text : List Char}

theorem IsPlainDecimal.takeWhile (plain : IsPlainDecimal whole text) :
    text.takeWhile Char.isDigit = Nat.toDigits 10 whole := by
  have digits := (isNumeral_toDigits whole).allDigits
  cases plain with
  | whole => exact List.takeWhile_eq_self_iff.mpr digits
  | pointed =>
      rw [List.takeWhile_append_of_pos digits, List.takeWhile_cons_of_neg (by decide),
        List.append_nil]

theorem IsPlainDecimal.character (plain : IsPlainDecimal whole text) :
    ∀ character ∈ text, character.isDigit ∨ character = '.' := by
  have digits := (isNumeral_toDigits whole).allDigits
  intro character member
  cases plain with
  | whole => exact .inl (digits character member)
  | pointed nonempty allDigits =>
      rcases List.mem_append.mp member with before | behind
      · exact .inl (digits character before)
      · rcases List.mem_cons.mp behind with point | inFraction
        · exact .inr point
        · exact .inl (allDigits character inFraction)

/-- A plain decimal has one whole part. -/
theorem IsPlainDecimal.whole_eq {whole' : Nat} (plain : IsPlainDecimal whole text)
    (plain' : IsPlainDecimal whole' text) : whole = whole' := by
  have digits := plain.takeWhile.symm.trans plain'.takeWhile
  rw [← Nat.ofDigitChars_ten_toDigits (n := whole), digits, Nat.ofDigitChars_ten_toDigits]

end Plain

section Positional

variable {coefficient places : Nat}

/-- The last digits of a number are cut off by dividing. -/
theorem exists_toDigits_append {number : Nat} (large : 10 ^ places ≤ number) :
    ∃ tail, Nat.toDigits 10 number = Nat.toDigits 10 (number / 10 ^ places) ++ tail ∧
      tail.length = places := by
  induction places generalizing number with
  | zero => exact ⟨[], by simp, rfl⟩
  | succ places ih =>
      rw [Nat.pow_succ] at large
      obtain ⟨tail, front, length⟩ := ih ((Nat.le_div_iff_mul_le (by decide)).mpr large)
      have some : 0 < number / 10 := by
        have power : 0 < 10 ^ places := Nat.pow_pos (by decide)
        omega
      have last : number % 10 < 10 := Nat.mod_lt _ (by decide)
      have joined := Nat.toDigits_append_toDigits (by decide : 1 < 10) some last
      rw [Nat.div_add_mod, front, Nat.div_div_eq_div_mul, ← Nat.pow_succ',
        Nat.toDigits_of_lt_base last] at joined
      exact ⟨tail ++ [Nat.digitChar (number % 10)], by rw [← joined, List.append_assoc],
        by rw [List.length_append, length, List.length_singleton]⟩

theorem length_toDigits_six (least : 10 ^ 5 ≤ coefficient) (most : coefficient < 10 ^ 6) :
    (Nat.toDigits 10 coefficient).length = 6 := by
  have atMost : (Nat.toDigits 10 coefficient).length ≤ 6 :=
    (Nat.length_toDigits_le_iff (by decide) (by decide)).mpr most
  have atLeast : ¬ (Nat.toDigits 10 coefficient).length ≤ 5 := by
    rw [Nat.length_toDigits_le_iff (by decide) (by decide)]
    omega
  omega

/-- Six digits are a plain decimal as long as four zeros at most stand between them
and the point. -/
theorem isPlainDecimal_write (least : 10 ^ 5 ≤ coefficient) (most : coefficient < 10 ^ 6)
    (few : places ≤ 9) :
    IsPlainDecimal (coefficient / 10 ^ places)
      (Layout.general.write
        ⟨withoutTrailingZeros (Nat.toDigits 10 coefficient), 5 - (places : Int)⟩) := by
  have positive : 0 < coefficient := lt_of_lt_of_le (by decide) least
  have length := length_toDigits_six least most
  obtain ⟨zeros, split, nonempty⟩ := exists_eq_append_zeros (exists_ne_zero_toDigits positive)
  have allDigits := (isNumeral_toDigits coefficient).allDigits
  have positional : ¬ (5 - (places : Int) < Layout.general.lowest ∨
      Layout.general.limit ≤ 5 - (places : Int)) := by
    simp only [Layout.general]
    omega
  generalize withoutTrailingZeros (Nat.toDigits 10 coefficient) = kept at split nonempty ⊢
  have keptDigits : ∀ digit ∈ kept, digit.isDigit := fun digit member =>
    allDigits digit (by rw [split]; exact List.mem_append_left _ member)
  simp only [Layout.write, if_neg positional]
  rcases Nat.lt_or_ge 5 places with behind | before
  · obtain ⟨more, rfl⟩ := Nat.exists_eq_add_of_le behind
    have below : coefficient / 10 ^ (5 + 1 + more) = 0 :=
      Nat.div_eq_of_lt (most.trans_le (Nat.pow_le_pow_right (by decide) (by omega)))
    have exponent : 5 - ((5 + 1 + more : Nat) : Int) = Int.negSucc more := by omega
    rw [below, exponent]
    refine .pointed (List.append_ne_nil_of_right_ne_nil _ nonempty) ?_
    intro digit member
    rcases List.mem_append.mp member with zero | inKept
    · rw [List.eq_of_mem_replicate zero]
      rfl
    · exact keptDigits digit inKept
  · obtain ⟨more, sum⟩ := Nat.exists_eq_add_of_le before
    have exponent : 5 - (places : Int) = Int.ofNat more := by
      rw [Int.ofNat_eq_natCast]
      omega
    obtain ⟨tail, cut, tailLength⟩ := exists_toDigits_append
      ((Nat.pow_le_pow_right (by decide) before).trans least)
    -- The digits before the point are the whole ones, with the zeros they ended with.
    have whole : kept.take (more + 1) ++ List.replicate (more + 1 - kept.length) '0' =
        Nat.toDigits 10 (coefficient / 10 ^ places) := by
      have wholeLength : (Nat.toDigits 10 (coefficient / 10 ^ places)).length = more + 1 := by
        rw [cut, List.length_append] at length
        omega
      have taken : List.take _ (Nat.toDigits 10 (coefficient / 10 ^ places) ++ tail) = _ :=
        List.take_left
      have room : more + 1 - kept.length ≤ zeros := by
        rw [split, List.length_append, List.length_replicate] at length
        omega
      rw [wholeLength, ← cut, split, List.take_append, List.take_replicate,
        Nat.min_eq_left room] at taken
      exact taken
    rw [exponent]
    simp only [whole]
    split
    · simp only [Layout.general, Bool.false_eq_true, if_false, List.append_nil]
      exact .whole
    · next some =>
        refine .pointed (by simpa using some) fun digit member => ?_
        exact keptDigits digit (List.mem_of_mem_drop member)

/-- Smaller numbers have an exponent. -/
theorem mem_write_of_small (digits : List Char) (many : 9 < places) :
    'e' ∈ Layout.general.write ⟨digits, 5 - (places : Int)⟩ := by
  have scientific : 5 - (places : Int) < Layout.general.lowest ∨
      Layout.general.limit ≤ 5 - (places : Int) := by
    simp only [Layout.general]
    omega
  simp only [Layout.write, if_pos scientific]
  simp

end Positional

/-- A count of quanta in six significant digits, `places` of them behind the point. -/
structure SixDigits (quanta coefficient places : Nat) : Prop where
  shown : significantDigits 6 quanta unit =
    ⟨withoutTrailingZeros (Nat.toDigits 10 coefficient), 5 - (places : Int)⟩
  nearest : roundHalfEven (quanta * 10 ^ places) unit = coefficient
  least : 10 ^ 5 ≤ coefficient
  most : coefficient < 10 ^ 6
  reached : 1999999 * unit ≤ 2 * (quanta * 10 ^ (places + 1))

section Rounded

variable {quanta coefficient places : Nat}

theorem exists_decimalExponent (positive : 0 < quanta) (small : quanta ≤ 60 * unit) :
    ∃ places : Nat, 4 ≤ places ∧ decimalExponent quanta unit = 5 - (places : Int) := by
  generalize shown : decimalExponent quanta unit = exponent
  have lower := (decimalExponent_bounds positive unit_pos shown).1
  have low : exponent ≤ 1 := by
    by_contra high
    have none : (-exponent).toNat = 0 := by omega
    have hundred : 10 ^ 2 ≤ 10 ^ exponent.toNat := Nat.pow_le_pow_right (by decide) (by omega)
    have scaled := Nat.mul_le_mul_left unit hundred
    have some := unit_pos
    rw [none, Nat.pow_zero, Nat.mul_one] at lower
    omega
  exact ⟨(5 - exponent).toNat, by omega, by omega⟩

theorem significantDigits_six (shown : decimalExponent quanta unit = 5 - (places : Int)) :
    significantDigits 6 quanta unit =
      if roundHalfEven (quanta * 10 ^ places) unit < 10 ^ 6 then
        ⟨withoutTrailingZeros (Nat.toDigits 10 (roundHalfEven (quanta * 10 ^ places) unit)),
          5 - (places : Int)⟩
      else ⟨['1'], 5 - (places : Int) + 1⟩ := by
  have last : 5 - (places : Int) - (((6 : Nat) : Int) - 1) = -(places : Int) := by omega
  have none : (-(places : Int)).toNat = 0 := by omega
  rw [significantDigits, shown, last, scaledDown_eq, none, Int.neg_neg, Int.toNat_natCast,
    Nat.pow_zero, Nat.mul_one]
  rfl

/-- A number that is rounded up to a digit more is rounded to a one and zeros with a
place less. -/
theorem roundHalfEven_of_carry {numerator denominator : Nat} (positive : 0 < denominator)
    (below : 10 * numerator < denominator * 10 ^ (5 + 1))
    (carried : roundHalfEven (10 * numerator) denominator = 10 ^ (5 + 1)) :
    roundHalfEven numerator denominator = 10 ^ 5 ∧ 1999999 * denominator ≤ 20 * numerator := by
  have error := (roundHalfEven_error (10 * numerator) positive).1
  rw [carried] at error
  exact ⟨roundHalfEven_eq_of_near (by omega) (by omega), by omega⟩

theorem exists_sixDigits (positive : 0 < quanta) (small : quanta ≤ 60 * unit) :
    ∃ coefficient places, 4 ≤ places ∧ SixDigits quanta coefficient places := by
  obtain ⟨places, enough, shown⟩ := exists_decimalExponent positive small
  obtain ⟨lower, upper⟩ := decimalExponent_bounds positive unit_pos shown
  have digits := significantDigits_six shown
  have fine : unit * 10 ^ 5 ≤ quanta * 10 ^ places :=
    (mul_pow_le_mul_pow_iff (by omega)).mp lower
  have coarse : quanta * 10 ^ places < unit * 10 ^ (5 + 1) := by
    rw [← Nat.not_le] at upper ⊢
    exact (mul_pow_le_mul_pow_iff (by omega)).not.mp upper
  obtain ⟨least, most⟩ := roundHalfEven_mem_decade 5 unit_pos fine coarse
  by_cases fewer : roundHalfEven (quanta * 10 ^ places) unit < 10 ^ 6
  · refine ⟨_, places, enough, digits.trans (if_pos fewer), rfl, least, fewer, ?_⟩
    calc 1999999 * unit
        ≤ 20 * (unit * 10 ^ 5) := by
          rw [Nat.mul_comm unit, ← Nat.mul_assoc]
          exact Nat.mul_le_mul_right unit (by decide)
      _ ≤ 20 * (quanta * 10 ^ places) := Nat.mul_le_mul_left 20 fine
      _ = 2 * (quanta * 10 ^ (places + 1)) := by ring
  · have carried := le_antisymm most (Nat.le_of_not_lt fewer)
    have deep : 4 ≠ places := by
      rintro rfl
      have few : roundHalfEven (quanta * 10 ^ 4) unit ≤ 60 * 10 ^ 4 :=
        roundHalfEven_le_of_le unit_pos <| calc quanta * 10 ^ 4
            ≤ 60 * unit * 10 ^ 4 := Nat.mul_le_mul_right _ small
          _ = 60 * 10 ^ 4 * unit := Nat.mul_right_comm ..
      exact fewer (few.trans_lt (by decide))
    obtain ⟨before, rfl⟩ := Nat.exists_eq_add_of_lt (lt_of_le_of_ne enough deep)
    have previous : quanta * 10 ^ (4 + before + 1) = 10 * (quanta * 10 ^ (4 + before)) := by ring
    have next : 20 * (quanta * 10 ^ (4 + before)) = 2 * (quanta * 10 ^ (4 + before + 1)) := by
      ring
    have exponent : 5 - ((4 + before + 1 : Nat) : Int) + 1 = 5 - ((4 + before : Nat) : Int) := by
      omega
    have one : withoutTrailingZeros (Nat.toDigits 10 (10 ^ 5)) = ['1'] := by decide +kernel
    rw [if_neg fewer, exponent, ← one] at digits
    rw [previous] at carried coarse
    obtain ⟨nearest, reached⟩ := roundHalfEven_of_carry unit_pos coarse carried
    exact ⟨10 ^ 5, 4 + before, Nat.le_add_right 4 before, digits, nearest, le_refl _, by decide,
      reached.trans_eq next⟩

namespace SixDigits

variable (six : SixDigits quanta coefficient places)

include six

theorem two_mul_lt : 2 * (quanta * 10 ^ places) < 1999999 * unit := by
  have below : roundHalfEven (quanta * 10 ^ places) unit < 2 * 500000 := by
    rw [six.nearest]
    exact six.most
  have bound := (roundHalfEven_lt_iff unit_pos).mp below
  omega

/-- The notation without an exponent begins half a unit of the last digit below
`0.0001`. -/
theorem places_le_iff : places ≤ 9 ↔ 1999999 * unit ≤ 20000000000 * quanta := by
  constructor
  · intro few
    have power : 10 ^ (places + 1) ≤ 10 ^ 10 := Nat.pow_le_pow_right (by decide) (by omega)
    have scaled := Nat.mul_le_mul_left quanta power
    have reached := six.reached
    omega
  · intro enough
    by_contra many
    have power : 10 ^ 10 ≤ 10 ^ places := Nat.pow_le_pow_right (by decide) (by omega)
    have scaled := Nat.mul_le_mul_left quanta power
    have bound := six.two_mul_lt
    omega

/-- The whole part is below sixty up to half a unit of the last digit below it. -/
theorem whole_lt_iff (some : 4 ≤ places) :
    coefficient / 10 ^ places < 60 ↔ 20000 * quanta < 1199999 * unit := by
  rw [Nat.div_lt_iff_lt_mul (Nat.pow_pos (by decide))]
  rcases Nat.lt_or_eq_of_le some with more | rfl
  · have power : 10 ^ 5 ≤ 10 ^ places := Nat.pow_le_pow_right (by decide) more
    have scaled := Nat.mul_le_mul_left quanta power
    have bound := six.two_mul_lt
    have most := six.most
    constructor
    · intro
      omega
    · intro
      omega
  · have bound : coefficient < 2 * 300000 ↔
        2 * (quanta * 10 ^ 4) + unit < 2 * (2 * 300000 * unit) := by
      rw [← six.nearest]
      exact roundHalfEven_lt_iff unit_pos
    constructor
    · intro below
      have near := bound.mp (by omega)
      omega
    · intro below
      have near := bound.mpr (by omega)
      omega

/-- The number that the digits are read as is not above sixty, nor close to it when
the count is not. -/
theorem exists_reads (some : 4 ≤ places) (small : quanta ≤ 60 * unit) :
    ∃ amount, ofDecimal false coefficient (-(places : Int)) = .finite false amount ∧
      amount ≤ 60 * unit ∧ (64 * quanta ≤ 3839 * unit → 512 * amount ≤ 30713 * unit) := by
  have ten : 0 < 10 ^ places := Nat.pow_pos (by decide)
  have positive : 0 < coefficient := lt_of_lt_of_le (by decide) six.least
  have error := (roundHalfEven_error (quanta * 10 ^ places) unit_pos).1
  rw [six.nearest] at error
  have atMost : roundToBits 53 (coefficient * unit) (10 ^ places) ≤ 60 * unit := by
    refine roundToBits_le (fitsBits_mul_unit (by decide)) ten ?_
    have bounded : quanta * 10 ^ places ≤ 60 * 10 ^ places * unit := by
      calc quanta * 10 ^ places
          ≤ 60 * unit * 10 ^ places := Nat.mul_le_mul_right _ small
        _ = 60 * 10 ^ places * unit := by ring
    have whole := roundHalfEven_le_of_le unit_pos bounded
    rw [six.nearest] at whole
    calc coefficient * unit
        ≤ 60 * 10 ^ places * unit := Nat.mul_le_mul_right _ whole
      _ = 60 * unit * 10 ^ places := by ring
  have finite : ofDecimal false coefficient (-(places : Int)) =
      .finite false (roundToBits 53 (coefficient * unit) (10 ^ places)) := by
    have none : (-(places : Int)).toNat = 0 := by omega
    rw [ofDecimal_eq_ofRatio positive, none, Int.neg_neg, Int.toNat_natCast, Nat.pow_zero,
      Nat.mul_one, ofRatio, ofQuanta, if_pos]
    exact lt_of_le_of_lt atMost (mul_unit_lt_overflow (by decide))
  refine ⟨_, finite, atMost, fun apart => ?_⟩
  have unit_split : unit = 512 * 2 ^ 1065 := by decide +kernel
  have fits : FitsBits 53 (30713 * 2 ^ 1065) := ⟨30713, 1065, by decide, rfl⟩
  have below : coefficient * unit ≤ 30713 * 2 ^ 1065 * 10 ^ places := by
    have power : 10 ^ 4 ≤ 10 ^ places := Nat.pow_le_pow_right (by decide) some
    have room := Nat.mul_le_mul_right unit power
    have scaled : 64 * quanta * 10 ^ places ≤ 3839 * unit * 10 ^ places :=
      Nat.mul_le_mul_right _ apart
    have first : 64 * quanta * 10 ^ places = 64 * (quanta * 10 ^ places) := Nat.mul_assoc ..
    have second : 3839 * unit * 10 ^ places = 3839 * (10 ^ places * unit) := by ring
    have third : 512 * (30713 * 2 ^ 1065 * 10 ^ places) = 30713 * (10 ^ places * unit) := by
      rw [unit_split]
      generalize 2 ^ 1065 = scale
      ring
    omega
  have near := roundToBits_le fits ten below
  omega

end SixDigits

end Rounded

section Texts

variable {quanta : Nat}

theorem toList_sixDigitText (positive : 0 < quanta) :
    (sixDigitText quanta).toList = Layout.general.write (significantDigits 6 quanta unit) := by
  rw [sixDigitText, quantaText, String.toList_ofList, if_neg positive.ne']

theorem mem_sixDigitText_of_small (positive : 0 < quanta) (small : quanta ≤ 60 * unit)
    (tiny : 20000000000 * quanta < 1999999 * unit) : 'e' ∈ (sixDigitText quanta).toList := by
  obtain ⟨coefficient, places, -, six⟩ := exists_sixDigits positive small
  rw [toList_sixDigitText positive, six.shown]
  exact mem_write_of_small _ (Nat.lt_of_not_le (mt six.places_le_iff.mp (by omega)))

/-- What a number up to sixty is written as is read as a number that is not above
sixty either, and as no time when it is none. -/
theorem exists_plain_sixDigitText (small : quanta ≤ 60 * unit)
    (large : quanta = 0 ∨ 1999999 * unit ≤ 20000000000 * quanta) :
    ∃ whole amount, IsPlainDecimal whole (sixDigitText quanta).toList ∧
      (whole < 60 ↔ 20000 * quanta < 1199999 * unit) ∧
      readFloat (sixDigitText quanta) = .ok (.finite false amount) ∧
      amount ≤ 60 * unit ∧ (quanta = 0 → amount = 0) ∧
      (64 * quanta ≤ 3839 * unit → 512 * amount ≤ 30713 * unit) := by
  rcases Nat.eq_zero_or_pos quanta with rfl | positive
  · have written : sixDigitText 0 = "0" := rfl
    have positive := unit_pos
    rw [written]
    exact ⟨0, 0, .whole, by omega, rfl, by omega, fun _ => rfl, fun _ => by omega⟩
  · obtain ⟨coefficient, places, some, six⟩ := exists_sixDigits positive small
    obtain ⟨amount, reads, atMost, apart⟩ := six.exists_reads some small
    have shown := toList_sixDigitText positive
    have few := six.places_le_iff.mpr (large.resolve_left positive.ne')
    rw [six.shown] at shown
    refine ⟨coefficient / 10 ^ places, amount, ?_, six.whole_lt_iff some, ?_, atMost,
      fun none => absurd none positive.ne', apart⟩
    · rw [shown]
      exact isPlainDecimal_write six.least six.most few
    · have readAs := readAs_withoutTrailingZeros (lt_of_lt_of_le (by decide) six.least) reads
      rw [length_toDigits_six six.least six.most] at readAs
      have exponent : -(places : Int) + (((6 : Nat) : Int) - 1) = 5 - (places : Int) := by omega
      rw [exponent] at readAs
      rw [← String.ofList_toList (s := sixDigitText quanta), shown]
      exact readFloat_write Layout.general readAs

end Texts

end RelayPool.Number
