import Mathlib.Data.List.Induction
import Mathlib.Data.List.TakeWhile
import Mathlib.Data.Nat.Digits.Defs
import RelayPool.Number.Numeral

/-!
# Decimal digits of every script

The digits of a script are the ten characters from its zero on, so what is checked
of these is known of every digit: none is white space, a sign, a point or a letter,
and a run of digits ends where they do.
-/

namespace RelayPool.Text

/-- What holds of the ten characters from every zero on holds of all digits. -/
theorem test_of_isDecimalDigit (test : Char → Bool)
    (each : ∀ first ∈ zeroDigits, ∀ place < 10, test (Char.ofNat (first + place)))
    {digit : Char} (isDigit : isDecimalDigit digit) : test digit := by
  rw [isDecimalDigit, digitValue?, Option.isSome_map, List.find?_isSome] at isDigit
  obtain ⟨first, member, inside⟩ := isDigit
  simp only [Bool.and_eq_true, decide_eq_true_eq] at inside
  have passed := each first member (digit.toNat - first) (by omega)
  rwa [Nat.add_sub_cancel' inside.1, Char.ofNat_toNat] at passed

theorem isBlank_of_isDecimalDigit {digit : Char} (isDigit : isDecimalDigit digit) :
    isBlank digit = false := by
  have dark := test_of_isDecimalDigit (fun digit => !isBlank digit) (by decide +kernel) isDigit
  simpa using dark

/-- No digit begins a word, in capitals or not. -/
theorem isAlpha_toLower_of_isDecimalDigit {digit : Char} (isDigit : isDecimalDigit digit) :
    digit.toLower.isAlpha = false := by
  have other := test_of_isDecimalDigit (fun digit => !digit.toLower.isAlpha) (by decide +kernel)
    isDigit
  simpa using other

end RelayPool.Text

namespace RelayPool.Number

/-- Decimal digits of any script and nothing else. -/
def AllDecimal (digits : List Char) : Prop :=
  ∀ digit ∈ digits, Text.isDecimalDigit digit

instance (digits : List Char) : Decidable (AllDecimal digits) :=
  decidable_of_iff (digits.all Text.isDecimalDigit) List.all_eq_true

theorem allDecimal_takeWhile (text : List Char) :
    AllDecimal (text.takeWhile Text.isDecimalDigit) :=
  fun _ member => List.mem_takeWhile_imp member

/-- Digits are split off up to what is no digit. -/
theorem splitDigits_decimal {digits : List Char} (decimal : AllDecimal digits) {rest : List Char}
    (stops : ∀ next ∈ rest.head?, Text.isDecimalDigit next = false) :
    splitDigits (digits ++ rest) = (digits, rest) := by
  rw [splitDigits, List.takeWhile_append_of_pos decimal, List.dropWhile_append_of_pos decimal]
  cases rest with
  | nil => simp
  | cons next rest =>
      have stop := stops next rfl
      simp [stop]

/-- A run of digits is read in decimal notation, its last digit counting ones. -/
theorem digitsValue_ten_eq_ofDigits {digits : List Char} (decimal : AllDecimal digits) :
    digitsValue 10 digits =
      Nat.ofDigits 10 (digits.reverse.map fun digit => (Text.digitValue? digit).getD 0) := by
  induction digits using List.reverseRecOn with
  | nil => rfl
  | append_singleton digits digit ih =>
      obtain ⟨front, last⟩ := List.forall_mem_append.mp decimal
      obtain ⟨value, found⟩ := Option.isSome_iff_exists.mp (last digit List.mem_cons_self)
      have read : digitsValue 10 (digits ++ [digit]) = digitsValue 10 digits * 10 + value := by
        rw [digitsValue, List.foldl_append, ← digitsValue, List.foldl_cons, List.foldl_nil,
          digitOfAnyBase?, found]
        rfl
      rw [read, ih front, List.reverse_append, List.reverse_singleton, List.singleton_append,
        List.map_cons, Nat.ofDigits_cons, found, Nat.mul_comm, Nat.add_comm]
      rfl

end RelayPool.Number
