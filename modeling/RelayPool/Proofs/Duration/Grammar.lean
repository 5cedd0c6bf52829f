import RelayPool.Duration.Component
import RelayPool.Proofs.Number.DecimalDigits

/-!
# The grammar of durations

A duration is written with a sign or none, and behind it either a single zero or
parts, each of them a number and a unit.  Nothing is said here of how the parts are
searched.
-/

namespace RelayPool.Duration

open Number (AllDecimal)

/-- The sign in front of a duration. -/
inductive Sign
  | absent
  | plus
  | minus
  deriving DecidableEq, Repr

def Sign.text : Sign → List Char
  | .absent => []
  | .plus => ['+']
  | .minus => ['-']

def Sign.isMinus : Sign → Bool
  | .minus => true
  | _ => false

/-- The spellings of a unit. -/
inductive Spelled : TimeUnit → List Char → Prop
  | nanosecond : Spelled .nanosecond ['n', 's']
  | microsecond : Spelled .microsecond ['u', 's']
  | microSign : Spelled .microsecond ['\u00B5', 's']
  | greekMu : Spelled .microsecond ['\u03BC', 's']
  | millisecond : Spelled .millisecond ['m', 's']
  | second : Spelled .second ['s']
  | minute : Spelled .minute ['m']
  | hour : Spelled .hour ['h']

/-- The digits of a number before and behind its point, and the number as it is
written. -/
inductive IsNumberText : List Char → List Char → List Char → Prop
  | whole {digits : List Char} (nonempty : digits ≠ []) (decimal : AllDecimal digits) :
      IsNumberText digits [] digits
  | pointed {digits fraction : List Char} (nonempty : digits ≠ []) (decimal : AllDecimal digits)
      (decimalToo : AllDecimal fraction) :
      IsNumberText digits fraction (digits ++ '.' :: fraction)
  | fraction {fraction : List Char} (nonempty : fraction ≠ []) (decimal : AllDecimal fraction) :
      IsNumberText [] fraction ('.' :: fraction)

/-- A component as it stands in a text. -/
@[ext]
structure Part where
  whole : List Char
  fraction : List Char
  unit : TimeUnit
  number : List Char
  spelling : List Char
  isNumber : IsNumberText whole fraction number
  spelled : Spelled unit spelling

def Part.text (part : Part) : List Char :=
  part.number ++ part.spelling

/-- What is read of a part. -/
def Part.component (part : Part) : Component :=
  ⟨part.whole, part.fraction, part.unit⟩

/-- The binary number nearest to the number of a part. -/
def Part.amount (part : Part) : Number.Binary64 :=
  .ofDecimal false (Number.digitsValue 10 (part.whole ++ part.fraction))
    (-(part.fraction.length : Int))

/-- The text that parts make up. -/
def textOf (parts : List Part) : List Char :=
  parts.flatMap Part.text

/-- What is a duration, written without white space around it. -/
inductive IsDurationText : List Char → Prop
  | zero (sign : Sign) : IsDurationText (sign.text ++ ['0'])
  | parts (sign : Sign) {parts : List Part} (nonempty : parts ≠ []) :
      IsDurationText (sign.text ++ textOf parts)

@[simp]
theorem textOf_nil : textOf [] = [] :=
  rfl

@[simp]
theorem textOf_cons (part : Part) (parts : List Part) :
    textOf (part :: parts) = part.text ++ textOf parts :=
  rfl

section Characters

/-- What a number is made of is no sign. -/
theorem ne_sign {character : Char}
    (shown : Text.isDecimalDigit character ∨ character = '.') :
    character ≠ '+' ∧ character ≠ '-' := by
  rcases shown with isDigit | rfl
  · constructor
    · rintro rfl
      cases isDigit
    · rintro rfl
      cases isDigit
  · decide

variable {unit : TimeUnit} {spelling whole fraction number : List Char}

/-- A unit begins with what is neither a digit nor a point. -/
theorem Spelled.exists_first (spelled : Spelled unit spelling) :
    ∃ first rest, spelling = first :: rest ∧ Text.isDecimalDigit first = false ∧ first ≠ '.' := by
  cases spelled <;> exact ⟨_, _, rfl, by decide, by decide⟩

theorem IsNumberText.character (isNumber : IsNumberText whole fraction number) :
    ∀ character ∈ number, Text.isDecimalDigit character ∨ character = '.' := by
  intro character member
  cases isNumber with
  | whole _ decimal => exact .inl (decimal character member)
  | pointed _ decimal decimalToo =>
      rcases List.mem_append.mp member with before | behind
      · exact .inl (decimal character before)
      · rcases List.mem_cons.mp behind with point | behind
        · exact .inr point
        · exact .inl (decimalToo character behind)
  | fraction _ decimal =>
      rcases List.mem_cons.mp member with point | behind
      · exact .inr point
      · exact .inl (decimal character behind)

theorem IsNumberText.exists_first (isNumber : IsNumberText whole fraction number) :
    ∃ first rest, number = first :: rest ∧ (Text.isDecimalDigit first ∨ first = '.') := by
  have nonempty : number ≠ [] := by
    cases isNumber with
    | whole nonempty => exact nonempty
    | pointed => simp
    | fraction => simp
  obtain ⟨first, rest, rfl⟩ := List.exists_cons_of_ne_nil nonempty
  exact ⟨first, rest, rfl, isNumber.character first List.mem_cons_self⟩

end Characters

section Parts

variable {part : Part} {parts : List Part}

theorem Part.exists_first (part : Part) :
    ∃ first rest, part.text = first :: rest ∧ (Text.isDecimalDigit first ∨ first = '.') := by
  obtain ⟨first, rest, written, shown⟩ := part.isNumber.exists_first
  exact ⟨first, rest ++ part.spelling, by rw [Part.text, written, List.cons_append], shown⟩

/-- Behind a part there is nothing or a digit or a point, so a unit does not go on
there. -/
theorem head?_textOf (parts : List Part) :
    ∀ next ∈ (textOf parts).head?, Text.isDecimalDigit next ∨ next = '.' := by
  cases parts with
  | nil => simp
  | cons part parts =>
      obtain ⟨first, rest, written, shown⟩ := part.exists_first
      intro next member
      rw [textOf_cons, written] at member
      cases member
      exact shown

theorem textOf_ne_nil (nonempty : parts ≠ []) : textOf parts ≠ [] := by
  obtain ⟨part, others, rfl⟩ := List.exists_cons_of_ne_nil nonempty
  obtain ⟨first, rest, written, -⟩ := part.exists_first
  rw [textOf_cons, written]
  exact List.cons_ne_nil _ _

/-- A zero alone has no unit. -/
theorem textOf_ne_zero (parts : List Part) : textOf parts ≠ ['0'] := by
  intro same
  cases parts with
  | nil => cases same
  | cons part parts =>
      obtain ⟨first, rest, written, -⟩ := part.isNumber.exists_first
      obtain ⟨letter, letters, spelling, -, -⟩ := part.spelled.exists_first
      rw [textOf_cons, Part.text, written, spelling] at same
      simp at same

end Parts

end RelayPool.Duration
