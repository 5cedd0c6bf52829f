import RelayPool.Proofs.Duration.RoundTrip
import RelayPool.Proofs.Number.SixDigitNumeral

/-!
# Canonical durations

A span is written with its hours and minutes as counts and the rest of its seconds
in six digits.  The text is canonical but for a rest that is so short that it has an
exponent, or so close to a minute that it is rounded to one, and it is read again
but for the exponent and for spans that are rounded out of range.
-/

namespace RelayPool.Duration

open Number (IsPlainDecimal sixDigitText)
open Number.Binary64 (unit unit_pos)

/-- The hours and the minutes in front of the seconds.  With hours there are minutes
as well. -/
inductive IsLeading : List Char → Prop
  | none : IsLeading []
  | minutes {minutes : Nat} (small : minutes < 60) :
      IsLeading (Nat.toDigits 10 minutes ++ ['m'])
  | hours (hours : Nat) {minutes : Nat} (small : minutes < 60) :
      IsLeading (Nat.toDigits 10 hours ++ 'h' :: (Nat.toDigits 10 minutes ++ ['m']))

/-- A duration with a minus or no sign, and less than sixty seconds behind its hours
and minutes. -/
inductive IsCanonical : List Char → Prop
  | signed {sign : Sign} {leading seconds : List Char} {whole : Nat} (unmarked : sign ≠ .plus)
      (isLeading : IsLeading leading) (plain : IsPlainDecimal whole seconds)
      (small : whole < 60) : IsCanonical (sign.text ++ leading ++ seconds ++ ['s'])

section Leading

variable {leading seconds : List Char} {whole : Nat}

theorem textOf_hours (hours minutes : Nat) :
    textOf ([Count.ofNat hours .hour, .ofNat minutes .minute].map Count.part) =
      Nat.toDigits 10 hours ++ 'h' :: (Nat.toDigits 10 minutes ++ ['m']) := by
  simp only [List.map_cons, List.map_nil, textOf_cons, textOf_nil, List.append_nil]
  exact List.append_assoc ..

theorem isLeading_leadingCounts (minutes : Nat) :
    IsLeading (textOf ((leadingCounts minutes).map Count.part)) := by
  have small : minutes % 60 < 60 := Nat.mod_lt _ (by decide)
  rw [leadingCounts]
  by_cases hours : minutes / 60 = 0
  · by_cases none : minutes % 60 = 0
    · simpa [hours, none] using IsLeading.none
    · simp only [hours, none, and_false, if_true, if_false, List.nil_append, List.map_singleton,
        textOf_ofNat]
      exact .minutes small
  · simp only [hours, false_and, if_false, List.singleton_append, textOf_hours]
    exact .hours _ small

theorem exists_counts_of_isLeading (isLeading : IsLeading leading) :
    ∃ counts : List Count, textOf (counts.map Count.part) = leading := by
  cases isLeading with
  | none => exact ⟨[], rfl⟩
  | minutes => exact ⟨[.ofNat _ .minute], textOf_ofNat _ .minute⟩
  | hours hours => exact ⟨[.ofNat hours .hour, .ofNat _ .minute], textOf_hours hours _⟩

/-- Plain seconds are a part. -/
theorem exists_part_of_plain (plain : IsPlainDecimal whole seconds) :
    ∃ part : Part, part.number = seconds ∧ part.unit = .second ∧ part.text = seconds ++ ['s'] := by
  have decimal (number : Nat) : Number.AllDecimal (Nat.toDigits 10 number) :=
    (Count.ofNat number .second).decimal
  cases plain with
  | whole =>
      exact ⟨⟨_, _, _, _, _, .whole Nat.toDigits_ne_nil (decimal whole), .second⟩, rfl, rfl, rfl⟩
  | pointed nonempty allDigits =>
      have decimalToo := fun digit member =>
        Number.isDecimalDigit_of_isDigit (allDigits digit member)
      exact ⟨⟨_, _, _, _, _, .pointed Nat.toDigits_ne_nil (decimal whole) decimalToo, .second⟩,
        rfl, rfl, rfl⟩

theorem textOf_append (parts others : List Part) :
    textOf (parts ++ others) = textOf parts ++ textOf others :=
  List.flatMap_append

theorem IsCanonical.isDurationText {text : List Char} (canonical : IsCanonical text) :
    IsDurationText text := by
  cases canonical with
  | @signed sign leading seconds whole unmarked isLeading plain small =>
      obtain ⟨counts, rfl⟩ := exists_counts_of_isLeading isLeading
      obtain ⟨part, -, -, shown⟩ := exists_part_of_plain plain
      have grammatical : IsDurationText
          (sign.text ++ textOf (counts.map Count.part ++ [part])) :=
        .parts sign (List.append_ne_nil_of_right_ne_nil _ (List.cons_ne_nil _ _))
      simpa [textOf_append, shown] using grammatical

/-- No unit is spelled with an `e`, so no duration has an exponent. -/
theorem not_mem_of_isDurationText {text : List Char} (grammatical : IsDurationText text) :
    'e' ∉ text := by
  have signless (sign : Sign) : 'e' ∉ sign.text := by cases sign <;> decide
  have unitless {unit : TimeUnit} {spelling : List Char} (spelled : Spelled unit spelling) :
      'e' ∉ spelling := by
    cases spelled <;> decide
  intro member
  cases grammatical with
  | zero sign =>
      rcases List.mem_append.mp member with inSign | inZero
      · exact signless sign inSign
      · exact absurd inZero (by decide)
  | parts sign =>
      rcases List.mem_append.mp member with inSign | inParts
      · exact signless sign inSign
      · obtain ⟨part, -, inPart⟩ := List.mem_flatMap.mp inParts
        rcases List.mem_append.mp inPart with inNumber | inSpelling
        · rcases part.isNumber.character _ inNumber with isDigit | point
          · cases isDigit
          · exact absurd point (by decide)
        · exact unitless part.spelled inSpelling

end Leading

section Seconds

variable {leading seconds : List Char} {whole : Nat}

/-- Read from the end, the seconds are what stands there up to a unit or a sign. -/
theorem takeWhile_reverse (sign : Sign) (isLeading : IsLeading leading)
    (plain : IsPlainDecimal whole seconds) :
    ((sign.text ++ leading ++ seconds).reverse.takeWhile fun character =>
      character.isDigit || character == '.').reverse = seconds := by
  have each : ∀ character ∈ seconds.reverse, (character.isDigit || character == '.') = true := by
    simpa using plain.character
  have front : (sign.text ++ leading).reverse.takeWhile (fun character =>
      character.isDigit || character == '.') = [] := by
    cases isLeading with
    | none => cases sign <;> rfl
    | minutes | hours => simp
  rw [List.reverse_append, List.takeWhile_append_of_pos each, front, List.append_nil,
    List.reverse_reverse]

theorem whole_eq_of_same {leading' seconds' : List Char} {whole' : Nat} (sign sign' : Sign)
    (isLeading : IsLeading leading) (isLeading' : IsLeading leading')
    (plain : IsPlainDecimal whole seconds) (plain' : IsPlainDecimal whole' seconds')
    (same : sign.text ++ leading ++ seconds ++ ['s'] =
      sign'.text ++ leading' ++ seconds' ++ ['s']) : whole = whole' := by
  have sameSeconds : seconds = seconds' := by
    rw [← takeWhile_reverse sign isLeading plain, List.append_cancel_right same,
      takeWhile_reverse sign' isLeading' plain']
  subst sameSeconds
  exact plain.whole_eq plain'

end Seconds

section Texts

variable {span : TimeSpan}

theorem secondsLeft_le (span : TimeSpan) : secondsLeft span ≤ 60 * unit :=
  (Nat.mod_lt _ (Nat.mul_pos (by decide) unit_pos)).le

theorem wholeMinutes_add_secondsLeft (span : TimeSpan) :
    wholeMinutes span * 60 * unit + secondsLeft span = span.secondsQuanta := by
  rw [wholeMinutes, secondsLeft, Nat.mul_assoc, Nat.div_add_mod']

theorem toList_text (some : span.secondsQuanta ≠ 0) :
    (text span).toList =
      (signOf span.microseconds).text ++
        textOf ((leadingCounts (wholeMinutes span)).map Count.part) ++
        (sixDigitText (secondsLeft span)).toList ++ ['s'] := by
  have letter : "s".toList = ['s'] := rfl
  rw [text_of_some some, String.toList_append, String.toList_append, String.toList_append,
    toList_written, String.toList_ofList, Sign.text, List.nil_append, letter]

/-- The text is canonical but for an exponent or sixty seconds. -/
theorem isCanonical_text_iff (span : TimeSpan) :
    IsCanonical (text span).toList ↔
      secondsLeft span = 0 ∨
        1999999 * unit ≤ 20000000000 * secondsLeft span ∧
          20000 * secondsLeft span < 1199999 * unit := by
  have small := secondsLeft_le span
  by_cases none : span.secondsQuanta = 0
  · have left : secondsLeft span = 0 := by rw [secondsLeft, none, Nat.zero_mod]
    rw [text_of_none none]
    exact iff_of_true
      (.signed (by decide : Sign.absent ≠ .plus) .none (.whole : IsPlainDecimal 0 _) (by decide))
      (.inl left)
  · have isLeading := isLeading_leadingCounts (wholeMinutes span)
    have unmarked : signOf span.microseconds ≠ .plus := by
      rw [signOf]
      split <;> decide
    rw [toList_text none]
    by_cases large : secondsLeft span = 0 ∨
        1999999 * unit ≤ 20000000000 * secondsLeft span
    · obtain ⟨whole, amount, plain, below, -⟩ := Number.exists_plain_sixDigitText small large
      have canonical : IsCanonical ((signOf span.microseconds).text ++
          textOf ((leadingCounts (wholeMinutes span)).map Count.part) ++
          (sixDigitText (secondsLeft span)).toList ++ ['s']) ↔ whole < 60 := by
        constructor
        · intro canonical
          generalize same : _ ++ ['s'] = written at canonical
          cases canonical with
          | signed _ isLeading' plain' few =>
              rwa [whole_eq_of_same _ _ isLeading isLeading' plain plain' same]
        · exact fun few => .signed unmarked isLeading plain few
      have positive := unit_pos
      rw [canonical, below]
      omega
    · have tiny : 20000000000 * secondsLeft span < 1999999 * unit := by omega
      have exponent := Number.mem_sixDigitText_of_small (by omega) small tiny
      refine iff_of_false (fun canonical => ?_) (by omega)
      exact not_mem_of_isDurationText canonical.isDurationText (by simp [exponent])

end Texts

end RelayPool.Duration
