import RelayPool.Proofs.Yaml.FloatNotation

/-!
# Plain scalars that are numbers

A plain scalar may write a number in many ways, and a text in place of the number
is written in one.  A scalar is that text itself when it is an integer in decimal
notation or the text of some floating point number.
-/

namespace RelayPool.Yaml

open Log Number

/-- The text of the number that a plain scalar writes. -/
def numberText? (text : String) : Option String :=
  match Tag.ofPlain text with
  | .int => (Scalar.int text).toOption.bind intText?
  | .float => (Scalar.float text).toOption.map Binary64.text
  | _ => none

/-- A plain scalar is an integer in decimal notation, or the text of some floating
point number. -/
inductive IsOwnNotation (text : String) : Prop
  | int (form : Tag.ofPlain text = .int) (decimal : IsDecimal text.toList)
  | float {number : Binary64} (form : Tag.ofPlain text = .float) (isNumber : number.IsNumber)
      (written : number.text = text)

namespace Scalar

theorem withoutMarks_of_allDigits {digits : List Char}
    (allDigits : ∀ digit ∈ digits, digit.isDigit) : withoutMarks digits = digits := by
  rw [withoutMarks, List.filter_eq_self]
  intro digit member
  have isDigit := allDigits digit member
  rw [decide_eq_true_eq]
  rintro rfl
  cases isDigit

theorem eq_of_magnitude {digits : List Char} {value : Int} (numeral : IsNumeral digits)
    (read : magnitude digits = .ok value) : value = Nat.ofDigitChars 10 digits 0 := by
  unfold magnitude at read
  split at read
  · cases read
  · cases read
    rfl
  · cases numeral.leading rfl
  · cases numeral.leading rfl
  · next tail notZero _ _ =>
      cases numeral.leading rfl
      exact (notZero rfl).elim
  · have colonless : digits.contains ':' = false := by
      rw [Bool.eq_false_iff]
      intro inside
      have isDigit := numeral.allDigits ':' (List.contains_iff_mem.mp inside)
      cases isDigit
    rw [colonless] at read
    obtain read := mapError_eq_ok_iff.mp read
    exact eq_of_readInt numeral read

/-- An integer in decimal notation reads as the integer with that notation. -/
theorem intText_of_int {text : String} {value : Int} (decimal : IsDecimal text.toList)
    (read : int text = .ok value) : intText value = text := by
  apply String.toList_inj.mp
  unfold int at read
  generalize text.toList = characters at decimal read ⊢
  obtain ⟨⟨negative, rest⟩, split, read⟩ := bind_eq_ok_iff.mp read
  obtain ⟨size, magnitudeRead, result⟩ := bind_eq_ok_iff.mp read
  cases decimal with
  | natural numeral =>
      have unsigned : Scalar.splitSign characters = .ok (false, characters) := by
        rw [Scalar.splitSign, if_neg (by simpa using numeral.nonempty),
          splitSign_numeral numeral]
      rw [withoutMarks_of_allDigits numeral.allDigits, unsigned] at split
      cases split
      cases result
      obtain rfl := eq_of_magnitude numeral magnitudeRead
      exact (intText_natCast _).trans (toDigits_ofDigitChars numeral)
  | @negative digits numeral nonzero =>
      have marked : withoutMarks ('-' :: digits) = '-' :: digits := by
        rw [withoutMarks, List.filter_cons_of_pos (by decide)]
        exact congrArg _ (withoutMarks_of_allDigits numeral.allDigits)
      have written := toDigits_ofDigitChars numeral
      have positive : 0 < Nat.ofDigitChars 10 digits 0 := by
        refine Nat.pos_of_ne_zero fun zero => nonzero ?_
        rw [← written, zero]
        rfl
      rw [marked] at split
      cases split
      cases result
      obtain rfl := eq_of_magnitude numeral magnitudeRead
      exact (intText_neg positive).trans (congrArg _ written)

theorem isDecimal_of_intText {text : String} {value : Int} (written : intText value = text) :
    IsDecimal text.toList :=
  written ▸ isDecimal_intText value

end Scalar

/-- A number is written in place of a plain scalar exactly when the scalar has its
notation. -/
theorem eq_text_iff_isOwnNotation {text shown : String} (number : numberText? text = some shown) :
    shown = text ↔ IsOwnNotation text := by
  unfold numberText? at number
  split at number
  · next form =>
      obtain ⟨value, read, written⟩ := Option.bind_eq_some_iff.mp number
      obtain rfl := intText_of_intText? written
      constructor
      · intro same
        exact .int form (Scalar.isDecimal_of_intText same)
      · rintro (⟨_, decimal⟩ | ⟨other, _, _⟩)
        · exact Scalar.intText_of_int decimal (toOption_eq_some_iff.mp read)
        · rw [form] at other
          cases other
  · next form =>
      obtain ⟨value, read, rfl⟩ := Option.map_eq_some_iff.mp number
      obtain read := toOption_eq_some_iff.mp read
      constructor
      · intro same
        exact .float form (Scalar.isNumber_of_float read) same
      · rintro (⟨other, _⟩ | ⟨_, isNumber, written⟩)
        · rw [form] at other
          cases other
        · -- The number whose text this is can only be the one that the text writes.
          have again := Scalar.float_text isNumber
          rw [written, read] at again
          cases again
          exact written
  · cases number

end RelayPool.Yaml
