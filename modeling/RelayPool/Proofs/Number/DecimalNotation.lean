import Mathlib.Data.List.TakeWhile
import Mathlib.Data.Nat.Digits.Defs
import RelayPool.Number.Numeral

/-!
# Decimal notation

An integer is written in decimal digits without a needless zero in front, with a
minus as the only sign.  A text of that form is the notation of the integer that
it reads as.
-/

namespace RelayPool.Number

/-- Decimal digits in ASCII without a needless zero in front. -/
structure IsNumeral (digits : List Char) : Prop where
  nonempty : digits ≠ []
  allDigits : ∀ digit ∈ digits, digit.isDigit
  leading : digits.head? = some '0' → digits = ['0']

/-- The decimal notation of an integer. -/
inductive IsDecimal : List Char → Prop
  | natural {digits : List Char} (numeral : IsNumeral digits) : IsDecimal digits
  | negative {digits : List Char} (numeral : IsNumeral digits) (nonzero : digits ≠ ['0']) :
      IsDecimal ('-' :: digits)

section Digits

theorem toNat_of_isDigit {digit : Char} (isDigit : digit.isDigit) :
    48 ≤ digit.toNat ∧ digit.toNat ≤ 57 := by
  simpa [Char.isDigit, UInt32.le_iff_toNat_le] using isDigit

theorem digitChar_of_isDigit {digit : Char} (isDigit : digit.isDigit) :
    Nat.digitChar (digit.toNat - 48) = digit := by
  have bounds := toNat_of_isDigit isDigit
  apply Char.toNat_inj.mp
  rw [Nat.toNat_digitChar_of_lt_ten (by omega)]
  omega

/-- Digits behind those of a positive number are the further digits of a larger
one. -/
theorem toDigits_ofDigitChars_of_pos {digits : List Char}
    (allDigits : ∀ digit ∈ digits, digit.isDigit) {value : Nat} (positive : 0 < value) :
    Nat.toDigits 10 (Nat.ofDigitChars 10 digits value) =
      Nat.toDigits 10 value ++ digits := by
  induction digits generalizing value with
  | nil => simp [Nat.ofDigitChars]
  | cons digit rest ih =>
      obtain ⟨isDigit, restDigits⟩ := List.forall_mem_cons.mp allDigits
      have bounds := toNat_of_isDigit isDigit
      have small : digit.toNat - 48 < 10 := by omega
      have joined := Nat.toDigits_append_toDigits (by decide : 1 < 10) positive small
      rw [Nat.toDigits_of_lt_base small, digitChar_of_isDigit isDigit] at joined
      rw [Nat.ofDigitChars_cons, ih restDigits (by omega)]
      change Nat.toDigits 10 (10 * value + (digit.toNat - 48)) ++ rest = _
      rw [← joined, List.append_assoc, List.singleton_append]

theorem toDigits_ofDigitChars {digits : List Char} (numeral : IsNumeral digits) :
    Nat.toDigits 10 (Nat.ofDigitChars 10 digits 0) = digits := by
  cases digits with
  | nil => exact absurd rfl numeral.nonempty
  | cons first rest =>
      obtain ⟨isDigit, restDigits⟩ := List.forall_mem_cons.mp numeral.allDigits
      by_cases zero : first = '0'
      · subst zero
        rw [numeral.leading rfl]
        rfl
      · have bounds := toNat_of_isDigit isDigit
        have other : first.toNat ≠ 48 := fun same => zero (Char.toNat_inj.mp same)
        have small : first.toNat - 48 < 10 := by omega
        rw [Nat.ofDigitChars_cons, Nat.mul_zero, Nat.zero_add]
        change Nat.toDigits 10 (Nat.ofDigitChars 10 rest (first.toNat - 48)) = _
        rw [toDigits_ofDigitChars_of_pos restDigits (by omega),
          Nat.toDigits_of_lt_base small, digitChar_of_isDigit isDigit, List.singleton_append]

theorem head?_toDigits {value : Nat} (positive : 0 < value) :
    (Nat.toDigits 10 value).head? ≠ some '0' := by
  induction value using Nat.strongRecOn with
  | ind value ih =>
      rw [Nat.toDigits_eq_if (by decide)]
      split
      · next small =>
          intro zero
          have same := congrArg Char.toNat (Option.some.inj zero)
          rw [Nat.toNat_digitChar_of_lt_ten small] at same
          change 48 + value = 48 at same
          omega
      · have shorter := ih (value / 10) (by omega) (by omega)
        cases written : Nat.toDigits 10 (value / 10) with
        | nil => exact absurd written Nat.toDigits_ne_nil
        | cons first rest =>
            rw [written] at shorter
            exact shorter

theorem isNumeral_toDigits (value : Nat) : IsNumeral (Nat.toDigits 10 value) where
  nonempty := Nat.toDigits_ne_nil
  allDigits := fun _ member => Nat.isDigit_of_mem_toDigits (by decide) (by decide) member
  leading := by
    intro zero
    cases value with
    | zero => rfl
    | succ value => exact absurd zero (head?_toDigits (Nat.succ_pos value))

end Digits

section Integers

theorem toList_toString_nat (value : Nat) : (toString value).toList = Nat.toDigits 10 value := by
  rw [Nat.toString_eq_repr, Nat.repr_eq_ofList_toDigits, String.toList_ofList]

theorem intText_natCast (value : Nat) : (intText value).toList = Nat.toDigits 10 value :=
  toList_toString_nat value

theorem intText_neg {value : Nat} (positive : 0 < value) :
    (intText (-(value : Int))).toList = '-' :: Nat.toDigits 10 value := by
  obtain ⟨before, rfl⟩ := Nat.exists_eq_succ_of_ne_zero positive.ne'
  change ("-" ++ toString (before + 1)).toList = _
  rw [String.toList_append, toList_toString_nat]
  rfl

/-- Every integer is written in decimal notation. -/
theorem isDecimal_intText (value : Int) : IsDecimal (intText value).toList := by
  obtain ⟨size, rfl | rfl⟩ := Int.eq_nat_or_neg value
  · rw [intText_natCast]
    exact .natural (isNumeral_toDigits size)
  · rcases Nat.eq_zero_or_pos size with rfl | positive
    · exact .natural (isNumeral_toDigits 0)
    · rw [intText_neg positive]
      refine .negative (isNumeral_toDigits size) fun zero => head?_toDigits positive ?_
      rw [zero]
      rfl

theorem intText_of_intText? {value : Int} {shown : String}
    (written : intText? value = some shown) : intText value = shown := by
  rw [intText?, Option.ite_none_right_eq_some] at written
  exact Option.some.inj written.2

theorem digitValue?_of_isDigit {digit : Char} (isDigit : digit.isDigit) :
    Text.digitValue? digit = some (digit.toNat - 48) := by
  have bounds := toNat_of_isDigit isDigit
  have first : Text.zeroDigits.find?
      (fun first => first ≤ digit.toNat && digit.toNat < first + 10) = some 48 := by
    refine List.find?_cons_of_pos ?_
    simp only [Bool.and_eq_true, decide_eq_true_eq]
    omega
  rw [Text.digitValue?, first]
  rfl

theorem isDecimalDigit_of_isDigit {digit : Char} (isDigit : digit.isDigit) :
    Text.isDecimalDigit digit := by
  rw [Text.isDecimalDigit, digitValue?_of_isDigit isDigit]
  rfl

theorem digitOfAnyBase?_of_isDigit {digit : Char} (isDigit : digit.isDigit) :
    digitOfAnyBase? digit = some (digit.toNat - 48) := by
  rw [digitOfAnyBase?, digitValue?_of_isDigit isDigit]

theorem isDigitOf_ten_of_isDigit {digit : Char} (isDigit : digit.isDigit) :
    isDigitOf 10 digit := by
  have bounds := toNat_of_isDigit isDigit
  rw [isDigitOf, digitOfAnyBase?_of_isDigit isDigit]
  simp only [decide_eq_true_eq]
  omega

theorem not_isMargin_of_isDigit {digit : Char} (isDigit : digit.isDigit) :
    isMargin digit = false := by
  have bounds := toNat_of_isDigit isDigit
  simp only [isMargin, Text.isBlank, Bool.and_eq_false_iff, Bool.or_eq_false_iff,
    decide_eq_false_iff_not, beq_eq_false_iff_ne]
  omega

theorem digitsValue_ten {digits : List Char} (allDigits : ∀ digit ∈ digits, digit.isDigit) :
    digitsValue 10 digits = Nat.ofDigitChars 10 digits 0 := by
  have each (value : Nat) : digits.foldl
      (fun value digit => value * 10 + (digitOfAnyBase? digit).getD 0) value =
        Nat.ofDigitChars 10 digits value := by
    induction digits generalizing value with
    | nil => rfl
    | cons digit rest ih =>
        obtain ⟨isDigit, restDigits⟩ := List.forall_mem_cons.mp allDigits
        rw [List.foldl_cons, Nat.ofDigitChars_cons, digitOfAnyBase?_of_isDigit isDigit,
          ih restDigits, Nat.mul_comm]
        rfl
  exact each 0

theorem withoutMargins_eq_self {text : List Char}
    (marginless : ∀ character ∈ text, isMargin character = false) : withoutMargins text = text := by
  have front (text : List Char) (marginless : ∀ character ∈ text, isMargin character = false) :
      text.dropWhile isMargin = text := by
    cases text with
    | nil => rfl
    | cons first rest =>
        have kept := marginless first List.mem_cons_self
        rw [List.dropWhile_cons_of_neg (by rw [kept]; decide)]
  rw [withoutMargins, front text marginless, front text.reverse (by simpa using marginless),
    List.reverse_reverse]

theorem splitSign_of_isDigit {first : Char} (isDigit : first.isDigit) (rest : List Char) :
    splitSign (first :: rest) = (false, first :: rest) := by
  rw [splitSign]
  · rintro _ ⟨⟩
    cases isDigit
  · rintro _ ⟨⟩
    cases isDigit

theorem splitSign_numeral {digits : List Char} (numeral : IsNumeral digits) :
    splitSign digits = (false, digits) := by
  cases digits with
  | nil => exact absurd rfl numeral.nonempty
  | cons first rest =>
      exact splitSign_of_isDigit (numeral.allDigits first List.mem_cons_self) rest

/-- A numeral reads as the number that its digits make. -/
theorem eq_of_readInt {digits : List Char} {value : Int} (numeral : IsNumeral digits)
    (read : readInt 10 (String.ofList digits) = .ok value) :
    value = Nat.ofDigitChars 10 digits 0 := by
  have unmarked : withoutBaseMark 10 digits = digits := by
    unfold withoutBaseMark
    split
    · next mark rest => cases numeral.leading rfl
    · rfl
  have all : digits.takeWhile (isDigitOf 10) = digits :=
    List.takeWhile_eq_self_iff.mpr fun digit member =>
      isDigitOf_ten_of_isDigit (numeral.allDigits digit member)
  have marginless := withoutMargins_eq_self fun digit member =>
    not_isMargin_of_isDigit (numeral.allDigits digit member)
  simp only [readInt, String.toList_ofList, marginless,
    splitSign_numeral numeral, unmarked, all, digitsValue_ten numeral.allDigits] at read
  split at read
  · cases read
  · split at read
    · cases read
    · cases read
      rfl

end Integers

end RelayPool.Number
