import RelayPool.Proofs.Duration.Acceptance
import RelayPool.Proofs.Text.Trimmed
import RelayPool.Proofs.Time.Span

/-!
# Durations of whole seconds

Counts of hours, minutes and seconds are summed up exactly, however many digits they
have: a sum that needs more than 53 bits is out of the range of spans, and it stays
there when it is rounded.  So a text of counts is as good as the integer that it
sums up to.
-/

namespace RelayPool.Duration

open Number (AllDecimal)
open Number.Binary64 (Holds AtLeast)

/-- The units that are whole seconds. -/
inductive WholeUnit
  | second
  | minute
  | hour
  deriving DecidableEq, Repr

def WholeUnit.seconds : WholeUnit → Nat
  | .second => 1
  | .minute => 60
  | .hour => 3600

def WholeUnit.unit : WholeUnit → TimeUnit
  | .second => .second
  | .minute => .minute
  | .hour => .hour

def WholeUnit.letter : WholeUnit → Char
  | .second => 's'
  | .minute => 'm'
  | .hour => 'h'

/-- A count of a unit in decimal digits, with zeros in front or without. -/
structure Count where
  digits : List Char
  unit : WholeUnit
  nonempty : digits ≠ []
  decimal : AllDecimal digits

/-- The seconds that a count stands for. -/
def Count.seconds (count : Count) : Nat :=
  Nat.ofDigits 10 (count.digits.reverse.map fun digit => (Text.digitValue? digit).getD 0) *
    count.unit.seconds

theorem WholeUnit.spelled (unit : WholeUnit) : Spelled unit.unit [unit.letter] := by
  cases unit with
  | second => exact .second
  | minute => exact .minute
  | hour => exact .hour

def Count.part (count : Count) : Part where
  whole := count.digits
  fraction := []
  unit := count.unit.unit
  number := count.digits
  spelling := [count.unit.letter]
  isNumber := .whole count.nonempty count.decimal
  spelled := count.unit.spelled

def totalOf (counts : List Count) : Nat :=
  (counts.map Count.seconds).sum

def written (sign : Sign) (counts : List Count) : String :=
  String.ofList (sign.text ++ textOf (counts.map Count.part))

/-- A count of seconds with a sign. -/
def Sign.times (sign : Sign) (count : Nat) : Int :=
  Number.signed sign.isMinus count

/-- Two readings with the same span, or both out of range. -/
inductive SameReading : Except Fault TimeSpan → Except Fault TimeSpan → Prop
  | span (span : TimeSpan) : SameReading (.ok span) (.ok span)
  | outOfRange (value other : Document) :
      SameReading (.error (.outOfRange value)) (.error (.outOfRange other))

/-- The span of a whole number of seconds; `value` is what is reported when it is out
of range. -/
def ofWholeSeconds (seconds : Int) (value : Document) : Except Fault TimeSpan :=
  match TimeSpan.ofWholeSeconds? seconds with
  | some span => .ok span
  | none => .error (.outOfRange value)

section Seconds

theorem ofDocument_int (seconds : Int) :
    ofDocument (.int seconds) = ofWholeSeconds seconds (.int seconds) :=
  rfl

theorem ofWholeSeconds_of_fit {seconds : Int} (fit : TimeSpan.SecondsFit seconds)
    (value : Document) :
    ofWholeSeconds seconds value = .ok ⟨seconds * TimeSpan.perSecond⟩ := by
  rw [ofWholeSeconds, TimeSpan.ofWholeSeconds?_of_fit fit]

theorem ofWholeSeconds_of_not_fit {seconds : Int} (misfit : ¬ TimeSpan.SecondsFit seconds)
    (value : Document) : ofWholeSeconds seconds value = .error (.outOfRange value) := by
  rw [ofWholeSeconds, TimeSpan.ofWholeSeconds?_of_not_fit misfit]

theorem sameReading_ofWholeSeconds (seconds : Int) (value other : Document) :
    SameReading (ofWholeSeconds seconds value) (ofWholeSeconds seconds other) := by
  by_cases fit : TimeSpan.SecondsFit seconds
  · rw [ofWholeSeconds_of_fit fit, ofWholeSeconds_of_fit fit]
    exact .span _
  · rw [ofWholeSeconds_of_not_fit fit, ofWholeSeconds_of_not_fit fit]
    exact .outOfRange value other

/-- A number that holds a count of seconds is read as that count. -/
theorem ofSeconds_of_holds {number : Number.Binary64} {count : Nat} (holds : Holds number count)
    (sign : Sign) (value : Document) :
    ofSeconds (sign.signed number) value = ofWholeSeconds (sign.times count) value := by
  cases holds with
  | exact small =>
      have signed : sign.signed (.finite false (count * Number.Binary64.unit)) =
          .finite sign.isMinus (count * Number.Binary64.unit) := by
        cases sign <;> rfl
      rw [signed, ofSeconds, TimeSpan.ofQuanta?_whole]
      rfl
  | beyond large atLeast =>
      -- The sum may be rounded or infinite here, but the exact one is no span either.
      have misfit : ¬ TimeSpan.SecondsFit (sign.times count) := by
        rw [TimeSpan.SecondsFit, Sign.times, Number.signed]
        split <;> omega
      rw [ofWholeSeconds_of_not_fit misfit]
      cases atLeast with
      | infinite => cases sign <;> rfl
      | @finite quanta enough =>
          have signed : sign.signed (.finite false quanta) = .finite sign.isMinus quanta := by
            cases sign <;> rfl
          rw [signed, ofSeconds, TimeSpan.ofQuanta?_of_large _ enough]

end Seconds

section Counts

variable {counts others : List Count}

theorem WholeUnit.seconds_unit (unit : WholeUnit) :
    unit.unit.seconds = .finite false (unit.seconds * Number.Binary64.unit) := by
  have small : unit.seconds < 2 ^ 53 := by cases unit <;> decide
  rw [← Number.Binary64.ofInt_natCast small]
  cases unit <;> rfl

theorem Count.holds_seconds (count : Count) : Holds count.part.component.seconds count.seconds := by
  have positive : 0 < count.unit.seconds := by cases count.unit <;> decide
  have whole : (count.digits ++ []) = count.digits := List.append_nil _
  have place : -((([] : List Char).length : Nat) : Int) = 0 := rfl
  simp only [Count.part, Part.component, Component.seconds, whole, place]
  rw [WholeUnit.seconds_unit, Count.seconds, ← Number.digitsValue_ten_eq_ofDigits count.decimal]
  exact (Number.Binary64.holds_ofDecimal _).mul positive

/-- What is summed up from the left holds the sum at every step. -/
theorem holds_foldl {start : Number.Binary64} {before : Nat} (holds : Holds start before)
    (counts : List Count) :
    Holds ((counts.map fun count => count.part.component).foldl
      (fun total component => total.add component.seconds) start) (before + totalOf counts) := by
  induction counts generalizing start before with
  | nil => exact holds
  | cons count counts ih =>
      have later := ih (holds.add count.holds_seconds)
      rwa [Nat.add_assoc] at later

theorem holds_totalSeconds (counts : List Count) :
    Holds (totalSeconds ((counts.map Count.part).map Part.component)) (totalOf counts) := by
  have holds := holds_foldl Number.Binary64.holds_zero counts
  rw [Nat.zero_add] at holds
  rw [List.map_map]
  exact holds

theorem totalOf_perm (same : counts.Perm others) : totalOf counts = totalOf others :=
  (same.map Count.seconds).sum_nat

end Counts

section Texts

variable {parts : List Part}

theorem Spelled.isBlank_of_mem {unit : TimeUnit} {spelling : List Char}
    (spelled : Spelled unit spelling) : ∀ character ∈ spelling, Text.isBlank character = false := by
  have dark : spelling.all (fun character => !Text.isBlank character) := by
    cases spelled <;> rfl
  simpa using dark

theorem Part.isBlank_of_mem (part : Part) :
    ∀ character ∈ part.text, Text.isBlank character = false := by
  intro character member
  rcases List.mem_append.mp member with inNumber | inSpelling
  · rcases part.isNumber.character character inNumber with isDigit | rfl
    · exact Text.isBlank_of_isDecimalDigit isDigit
    · rfl
  · exact part.spelled.isBlank_of_mem character inSpelling

theorem trimmed_parts (sign : Sign) (parts : List Part) :
    Text.trimmed (sign.text ++ textOf parts) = sign.text ++ textOf parts := by
  refine Text.trimmed_of_dark (List.forall_mem_append.mpr ⟨?_, ?_⟩)
  · cases sign with
    | absent => exact List.forall_mem_nil _
    | plus | minus => exact List.forall_mem_singleton.mpr rfl
  · intro character member
    obtain ⟨part, -, inPart⟩ := List.mem_flatMap.mp member
    exact part.isBlank_of_mem character inPart

theorem toList_written (sign : Sign) (counts : List Count) :
    (written sign counts).toList = sign.text ++ textOf (counts.map Count.part) :=
  String.toList_ofList

/-- Counts are read as the whole number of seconds that they sum up to. -/
theorem ofText_written (sign : Sign) {counts : List Count} (nonempty : counts ≠ []) :
    ofText (written sign counts) =
      ofWholeSeconds (sign.times (totalOf counts)) (.text (written sign counts)) := by
  have some : counts.map Count.part ≠ [] := mt List.map_eq_nil_iff.mp nonempty
  have stripped : (Text.strip (written sign counts)).toList =
      sign.text ++ textOf (counts.map Count.part) := by
    rw [Text.toList_strip, toList_written, trimmed_parts]
  rw [ofText_parts some stripped]
  exact ofSeconds_of_holds (holds_totalSeconds counts) sign _

end Texts

section Integers

/-- A natural number as a count of a unit. -/
def Count.ofNat (number : Nat) (unit : WholeUnit) : Count where
  digits := Nat.toDigits 10 number
  unit := unit
  nonempty := Nat.toDigits_ne_nil
  decimal := fun digit member =>
    Number.isDecimalDigit_of_isDigit ((Number.isNumeral_toDigits number).allDigits digit member)

theorem Count.seconds_ofNat (number : Nat) (unit : WholeUnit) :
    (Count.ofNat number unit).seconds = number * unit.seconds := by
  have numeral := Number.isNumeral_toDigits number
  rw [Count.seconds, ← Number.digitsValue_ten_eq_ofDigits (Count.ofNat number unit).decimal]
  change Number.digitsValue 10 (Nat.toDigits 10 number) * unit.seconds = _
  rw [Number.digitsValue_ten numeral.allDigits, Nat.ofDigitChars_ten_toDigits]

theorem totalOf_ofNat (number : Nat) (unit : WholeUnit) :
    totalOf [.ofNat number unit] = number * unit.seconds := by
  rw [totalOf, List.map_singleton, List.sum_singleton, Count.seconds_ofNat]

theorem textOf_ofNat (number : Nat) (unit : WholeUnit) :
    textOf [(Count.ofNat number unit).part] = Nat.toDigits 10 number ++ [unit.letter] :=
  List.append_nil _

/-- An integer with the letter of seconds is written like a count. -/
theorem intText_append (number : Int) :
    ∃ sign : Sign, sign.times number.natAbs = number ∧
      Number.intText number ++ "s" = written sign [Count.ofNat number.natAbs .second] := by
  have same (sign : Sign)
      (shown : (Number.intText number).toList = sign.text ++ Nat.toDigits 10 number.natAbs) :
      Number.intText number ++ "s" = written sign [Count.ofNat number.natAbs .second] := by
    apply String.toList_inj.mp
    rw [String.toList_append, shown, toList_written, List.map_singleton, textOf_ofNat,
      List.append_assoc]
    rfl
  obtain ⟨size, rfl | rfl⟩ := Int.eq_nat_or_neg number
  · exact ⟨.absent, rfl, same .absent (Number.intText_natCast size)⟩
  · rw [Int.natAbs_neg, Int.natAbs_natCast] at same ⊢
    rcases Nat.eq_zero_or_pos size with rfl | positive
    · exact ⟨.absent, rfl, same .absent rfl⟩
    · exact ⟨.minus, rfl, same .minus (Number.intText_neg positive)⟩

end Integers

/-- Counts of hours, minutes and seconds are read as the integer that they sum up to
or are out of range with it, so their order does not matter, and an integer is read
like its text with the letter of seconds. -/
theorem counts_read_exactly :
    (∀ (sign : Sign) (counts : List Count), counts ≠ [] →
      (TimeSpan.SecondsFit (sign.times (totalOf counts)) →
        ofDocument (.text (written sign counts)) =
          .ok ⟨sign.times (totalOf counts) * 1000000⟩) ∧
      (¬ TimeSpan.SecondsFit (sign.times (totalOf counts)) →
        ofDocument (.text (written sign counts)) =
          .error (.outOfRange (.text (written sign counts)))) ∧
      ∀ others, counts.Perm others →
        SameReading (ofDocument (.text (written sign counts)))
          (ofDocument (.text (written sign others)))) ∧
    ∀ number : Int, number.natAbs < Nat.pow 10 Number.digitLimit →
      ∃ shown, Number.intText? number = some shown ∧
        SameReading (ofDocument (.int number)) (ofDocument (.text (shown ++ "s"))) := by
  constructor
  · intro sign counts nonempty
    have read : ofDocument (.text (written sign counts)) = _ := ofText_written sign nonempty
    refine ⟨fun fit => ?_, fun misfit => ?_, fun others same => ?_⟩
    · rw [read, ofWholeSeconds_of_fit fit]
      rfl
    · rw [read, ofWholeSeconds_of_not_fit misfit]
    · have nonemptyToo : others ≠ [] := by
        rintro rfl
        exact nonempty same.eq_nil
      have readToo : ofDocument (.text (written sign others)) = _ :=
        ofText_written sign nonemptyToo
      rw [read, readToo, totalOf_perm same]
      exact sameReading_ofWholeSeconds _ _ _
  · intro number short
    refine ⟨Number.intText number, by rw [Number.intText?, if_pos short], ?_⟩
    obtain ⟨sign, value, same⟩ := intText_append number
    have total : totalOf [.ofNat number.natAbs .second] = number.natAbs :=
      (totalOf_ofNat _ _).trans (Nat.mul_one _)
    have read : ofDocument (.text (written sign [Count.ofNat number.natAbs .second])) = _ :=
      ofText_written sign (List.cons_ne_nil _ _)
    rw [same, ofDocument_int, read, total, value]
    exact sameReading_ofWholeSeconds _ _ _

/-- Counts up to the last second that spans reach. -/
def lastSecond : List Count :=
  [.ofNat 23999999999 .hour, .ofNat 59 .minute, .ofNat 59 .second]

/-- The range ends most of a day earlier on the other side. -/
theorem counts_read_exactly_lastSecond :
    (TimeSpan.SecondsFit (Sign.plus.times (totalOf lastSecond)) ∧
        ofDocument (.text (written .plus lastSecond)) =
          .ok ⟨Sign.plus.times (totalOf lastSecond) * 1000000⟩) ∧
      (¬ TimeSpan.SecondsFit (Sign.minus.times (totalOf lastSecond)) ∧
        ofDocument (.text (written .minus lastSecond)) =
          .error (.outOfRange (.text (written .minus lastSecond)))) ∧
      (lastSecond.Perm lastSecond.reverse ∧
        SameReading (ofDocument (.text (written .plus lastSecond)))
          (ofDocument (.text (written .plus lastSecond.reverse)))) ∧
      (-7 : Int).natAbs < Nat.pow 10 Number.digitLimit ∧
        ∃ shown, Number.intText? (-7) = some shown ∧
          SameReading (ofDocument (.int (-7))) (ofDocument (.text (shown ++ "s"))) := by
  obtain ⟨counted, integers⟩ := counts_read_exactly
  have nonempty : lastSecond ≠ [] := List.cons_ne_nil _ _
  have fit : TimeSpan.SecondsFit (Sign.plus.times (totalOf lastSecond)) := by decide +kernel
  have misfit : ¬ TimeSpan.SecondsFit (Sign.minus.times (totalOf lastSecond)) := by
    decide +kernel
  have same : lastSecond.Perm lastSecond.reverse := lastSecond.reverse_perm.symm
  have short : (-7 : Int).natAbs < Nat.pow 10 Number.digitLimit := by decide +kernel
  obtain ⟨reads, -, ordered⟩ := counted .plus lastSecond nonempty
  obtain ⟨-, refuses, -⟩ := counted .minus lastSecond nonempty
  exact ⟨⟨fit, reads fit⟩, ⟨misfit, refuses misfit⟩, ⟨same, ordered _ same⟩, short,
    integers (-7) short⟩

end RelayPool.Duration
