import RelayPool.Duration.Basic
import RelayPool.Proofs.Duration.Grammar
import RelayPool.Proofs.Number.DecimalNotation

/-!
# Accepted durations

A text is read as a duration exactly when it follows the grammar.  The parts of an
accepted text are determined by it, and the search for components finds each of them
in its place: nothing is passed over, so every part counts in the sum.
-/

namespace RelayPool.Duration

open Number (AllDecimal splitDigits splitDigits_decimal)

section Signs

theorem splitSign_append (sign : Sign) {rest : List Char}
    (unsigned : ∀ next ∈ rest.head?, next ≠ '+' ∧ next ≠ '-') :
    Number.splitSign (sign.text ++ rest) = (sign.isMinus, rest) := by
  cases sign with
  | absent =>
      rw [Sign.text, List.nil_append, Number.splitSign]
      · rfl
      · rintro behind rfl
        exact (unsigned '-' rfl).2 rfl
      · rintro behind rfl
        exact (unsigned '+' rfl).1 rfl
  | plus | minus => rfl

theorem exists_sign (text : List Char) :
    ∃ (sign : Sign) (rest : List Char), text = sign.text ++ rest ∧
      Number.splitSign text = (sign.isMinus, rest) := by
  rw [Number.splitSign.eq_def]
  split
  · exact ⟨.minus, _, rfl, rfl⟩
  · exact ⟨.plus, _, rfl, rfl⟩
  · exact ⟨.absent, _, rfl, rfl⟩

end Signs

section Units

variable {unit : TimeUnit} {spelling text behind : List Char}

theorem spelled_of_mem (member : (spelling, unit) ∈ unitSpellings) : Spelled unit spelling := by
  simp only [unitSpellings, List.mem_cons, List.not_mem_nil, or_false, Prod.mk.injEq] at member
  rcases member with ⟨rfl, rfl⟩ | ⟨rfl, rfl⟩ | ⟨rfl, rfl⟩ | ⟨rfl, rfl⟩ | ⟨rfl, rfl⟩ | ⟨rfl, rfl⟩ |
    ⟨rfl, rfl⟩ | ⟨rfl, rfl⟩
  · exact .nanosecond
  · exact .microsecond
  · exact .microSign
  · exact .greekMu
  · exact .millisecond
  · exact .second
  · exact .minute
  · exact .hour

theorem exists_spelled_of_readUnit? (read : readUnit? text = some (unit, behind)) :
    ∃ spelling, Spelled unit spelling ∧ text = spelling ++ behind := by
  obtain ⟨⟨spelling, found⟩, member, here⟩ := List.exists_of_findSome?_eq_some read
  simp only [Option.ite_none_right_eq_some, Option.some.injEq, Prod.mk.injEq] at here
  obtain ⟨begins, rfl, rfl⟩ := here
  refine ⟨spelling, spelled_of_mem member, ?_⟩
  exact (List.prefix_iff_eq_append.mp (List.isPrefixOf_iff_prefix.mp begins)).symm

/-- A unit is read where no `s` makes it a longer one. -/
theorem readUnit?_append (spelled : Spelled unit spelling) (ends : behind.head? ≠ some 's') :
    readUnit? (spelling ++ behind) = some (unit, behind) := by
  cases spelled with
  | minute =>
      cases behind with
      | nil => rfl
      | cons next behind =>
          have other : ¬ 's' = next := fun same => ends (congrArg some same.symm)
          simp [readUnit?, unitSpellings, List.findSome?, other]
  | _ => rfl

end Units

section Numbers

variable {whole fraction number text rest : List Char}

/-- The digits of the number in front of a text before and behind its point, and the
text behind them. -/
def splitNumber (text : List Char) : List Char × List Char × List Char :=
  let (whole, rest) := splitDigits text
  let (fraction, rest) :=
    match rest with
    | '.' :: behind => splitDigits behind
    | _ => ([], rest)
  (whole, fraction, rest)

theorem readComponent?_eq (split : splitNumber text = (whole, fraction, rest)) :
    readComponent? text =
      if whole.isEmpty && fraction.isEmpty then none
      else (readUnit? rest).map fun found => (⟨whole, fraction, found.1⟩, found.2) := by
  obtain ⟨rfl, rfl, rfl⟩ := by simpa only [splitNumber, Prod.mk.injEq] using split
  rfl

theorem readDecimal?_eq (split : splitNumber text = (whole, fraction, rest)) :
    Number.readDecimal? false text =
      if whole.isEmpty && fraction.isEmpty then none
      else (Number.readExponent? rest).map fun exponent =>
        .ofDecimal false (Number.digitsValue 10 (whole ++ fraction))
          (exponent - fraction.length) := by
  obtain ⟨rfl, rfl, rfl⟩ := by simpa only [splitNumber, Prod.mk.injEq] using split
  rfl

theorem IsNumberText.hasDigits (isNumber : IsNumberText whole fraction number) :
    (whole.isEmpty && fraction.isEmpty) = false := by
  cases isNumber with
  | whole nonempty | pointed nonempty | fraction nonempty => simp [nonempty]

/-- A number is split off up to what can be no further digit of it. -/
theorem splitNumber_append (isNumber : IsNumberText whole fraction number)
    (stops : ∀ next ∈ rest.head?, Text.isDecimalDigit next = false ∧ next ≠ '.') :
    splitNumber (number ++ rest) = (whole, fraction, rest) := by
  have stopsToo : ∀ next ∈ rest.head?, Text.isDecimalDigit next = false :=
    fun next member => (stops next member).1
  have atPoint (behind : List Char) :
      ∀ next ∈ ('.' :: behind).head?, Text.isDecimalDigit next = false := by
    rintro _ ⟨⟩
    rfl
  cases isNumber with
  | whole nonempty decimal =>
      have pointless : ∀ behind, rest ≠ '.' :: behind := by
        rintro behind rfl
        exact (stops '.' rfl).2 rfl
      rw [splitNumber, splitDigits_decimal decimal stopsToo]
      simp
  | pointed nonempty decimal decimalToo =>
      rw [List.append_assoc, List.cons_append, splitNumber,
        splitDigits_decimal decimal (atPoint _)]
      simp [splitDigits_decimal decimalToo stopsToo]
  | fraction nonempty decimal =>
      have none : AllDecimal [] := List.forall_mem_nil _
      have noDigits : splitDigits ('.' :: (fraction ++ rest)) = ([], '.' :: (fraction ++ rest)) :=
        splitDigits_decimal none (atPoint _)
      rw [List.cons_append, splitNumber, noDigits]
      simp [splitDigits_decimal decimal stopsToo]

theorem exists_number_of_splitNumber (split : splitNumber text = (whole, fraction, rest))
    (some : (whole.isEmpty && fraction.isEmpty) = false) :
    ∃ number, IsNumberText whole fraction number ∧ text = number ++ rest := by
  have decimal := Number.allDecimal_takeWhile text
  have cut := List.takeWhile_append_dropWhile (p := Text.isDecimalDigit) (l := text)
  rw [splitNumber, splitDigits] at split
  generalize text.takeWhile Text.isDecimalDigit = digits at *
  generalize text.dropWhile Text.isDecimalDigit = later at *
  subst cut
  simp only at split
  split at split
  · next behind =>
      have decimalToo := Number.allDecimal_takeWhile behind
      have cutToo := List.takeWhile_append_dropWhile (p := Text.isDecimalDigit) (l := behind)
      simp only [splitDigits, Prod.mk.injEq] at split
      obtain ⟨rfl, rfl, rfl⟩ := split
      by_cases nonempty : digits = []
      · subst nonempty
        refine ⟨_, .fraction (by simpa using some) decimalToo, ?_⟩
        rw [List.nil_append, List.cons_append, cutToo]
      · refine ⟨_, .pointed nonempty decimal decimalToo, ?_⟩
        rw [List.append_assoc, List.cons_append, cutToo]
  · obtain ⟨rfl, rfl, rfl⟩ := by simpa only [Prod.mk.injEq] using split
    exact ⟨digits, .whole (by simpa using some) decimal, rfl⟩

/-- The number of a part is the one that floating point numbers are read from. -/
theorem readFloat_number (isNumber : IsNumberText whole fraction number) :
    Number.readFloat (String.ofList number) =
      .ok (.ofDecimal false (Number.digitsValue 10 (whole ++ fraction))
        (-(fraction.length : Int))) := by
  have marginless : Number.withoutMargins number = number := by
    refine Number.withoutMargins_eq_self fun character member => ?_
    rcases isNumber.character character member with isDigit | rfl
    · rw [Number.isMargin, Text.isBlank_of_isDecimalDigit isDigit, Bool.false_and]
    · rfl
  have atEnd : ∀ next ∈ ([] : List Char).head?, Text.isDecimalDigit next = false ∧ next ≠ '.' := by
    rintro _ ⟨⟩
  have read := readDecimal?_eq (splitNumber_append isNumber atEnd)
  rw [List.append_nil] at read
  rw [isNumber.hasDigits] at read
  obtain ⟨first, later, rfl, shown⟩ := isNumber.exists_first
  have wordless : first.toLower.isAlpha = false := by
    rcases shown with isDigit | rfl
    · exact Text.isAlpha_toLower_of_isDecimalDigit isDigit
    · rfl
  have unsigned : Number.splitSign (first :: later) = (false, first :: later) := by
    refine splitSign_append .absent ?_
    rintro _ ⟨⟩
    exact ne_sign shown
  have noWord (letter : Char) (letters : List Char) (alpha : letter.isAlpha) :
      String.ofList (Number.lowerAscii (first :: later)) ≠ String.ofList (letter :: letters) := by
    intro same
    have heads := (List.cons.inj (String.ofList_inj.mp same)).1
    rw [← heads, wordless] at alpha
    cases alpha
  rw [Number.readFloat, String.toList_ofList, marginless, unsigned]
  simp only [read]
  rw [if_neg, if_neg]
  · simp [Number.readExponent?]
  · exact noWord 'n' ['a', 'n'] rfl
  · rintro (word | word)
    · exact noWord 'i' ['n', 'f'] rfl word
    · exact noWord 'i' ['n', 'f', 'i', 'n', 'i', 't', 'y'] rfl word

end Numbers

section Components

variable {component : Component} {text behind : List Char}

/-- A part in front of what is no `s` is read as its component. -/
theorem readComponent?_append (part : Part) (ends : behind.head? ≠ some 's') :
    readComponent? (part.text ++ behind) = some (part.component, behind) := by
  obtain ⟨letter, letters, spelling, notDigit, notPoint⟩ := part.spelled.exists_first
  have stops : ∀ next ∈ (part.spelling ++ behind).head?,
      Text.isDecimalDigit next = false ∧ next ≠ '.' := by
    rw [spelling]
    rintro _ ⟨⟩
    exact ⟨notDigit, notPoint⟩
  rw [Part.text, List.append_assoc, readComponent?_eq (splitNumber_append part.isNumber stops),
    part.isNumber.hasDigits, readUnit?_append part.spelled ends]
  rfl

/-- What is read in front of a text is a part of it. -/
theorem exists_part_of_readComponent? (read : readComponent? text = some (component, behind)) :
    ∃ part : Part, part.component = component ∧ text = part.text ++ behind := by
  obtain ⟨⟨whole, fraction, rest⟩, split⟩ : ∃ found, splitNumber text = found := ⟨_, rfl⟩
  rw [readComponent?_eq split] at read
  split at read
  · cases read
  · next some =>
      obtain ⟨⟨unit, later⟩, found, same⟩ := Option.map_eq_some_iff.mp read
      cases same
      obtain ⟨number, isNumber, rfl⟩ := exists_number_of_splitNumber split (by simpa using some)
      obtain ⟨spelling, spelled, rfl⟩ := exists_spelled_of_readUnit? found
      exact ⟨⟨whole, fraction, unit, number, spelling, isNumber, spelled⟩, rfl,
        (List.append_assoc _ _ _).symm⟩

end Components

section Sequences

variable {parts others : List Part} {text : List Char}

theorem head?_textOf_ne (parts : List Part) : (textOf parts).head? ≠ some 's' := by
  intro found
  rcases head?_textOf parts 's' found with isDigit | point
  · cases isDigit
  · exact absurd point (by decide)

theorem Part.takeWhile_text (part : Part) :
    part.text.takeWhile (fun character => Text.isDecimalDigit character || character == '.') =
      part.number := by
  obtain ⟨letter, letters, spelling, notDigit, notPoint⟩ := part.spelled.exists_first
  have inNumber : ∀ character ∈ part.number,
      (Text.isDecimalDigit character || character == '.') = true := by
    simpa using part.isNumber.character
  have stop : (Text.isDecimalDigit letter || letter == '.') = false := by
    simp [notDigit, notPoint]
  rw [Part.text, spelling, List.takeWhile_append_of_pos inNumber,
    List.takeWhile_cons_of_neg (by rw [stop]; decide), List.append_nil]

theorem Part.eq_of_text_eq {part other : Part} (same : part.text = other.text) : part = other := by
  have atEnd : ([] : List Char).head? ≠ some 's' := by decide
  have read := readComponent?_append part atEnd
  rw [same, readComponent?_append other atEnd] at read
  have sameNumber : part.number = other.number := by
    rw [← part.takeWhile_text, same, other.takeWhile_text]
  have sameSpelling : part.spelling = other.spelling := by
    rw [Part.text, Part.text, sameNumber] at same
    exact List.append_cancel_left same
  simp only [Part.component, Option.some.injEq, Prod.mk.injEq, Component.mk.injEq] at read
  exact Part.ext read.1.1.symm read.1.2.1.symm read.1.2.2.symm sameNumber sameSpelling

/-- A text is made up of parts in one way at most. -/
theorem eq_of_textOf_eq (same : textOf parts = textOf others) : parts = others := by
  induction parts generalizing others with
  | nil =>
      by_contra different
      exact textOf_ne_nil (Ne.symm different) same.symm
  | cons part parts ih =>
      cases others with
      | nil => exact absurd same (textOf_ne_nil (List.cons_ne_nil part parts))
      | cons other others =>
          -- Reading the first component gives the same rest on both sides.
          have read := readComponent?_append part (head?_textOf_ne parts)
          rw [← textOf_cons, same, textOf_cons,
            readComponent?_append other (head?_textOf_ne others)] at read
          obtain ⟨-, sameRest⟩ := Prod.mk.inj (Option.some.inj read)
          rw [textOf_cons, textOf_cons, sameRest] at same
          rw [Part.eq_of_text_eq (List.append_cancel_right same), ih sameRest.symm]

theorem isSequenceWithin_textOf {fuel : Nat} (enough : (textOf parts).length ≤ fuel) :
    isSequenceWithin fuel (textOf parts) := by
  induction parts generalizing fuel with
  | nil => cases fuel <;> rfl
  | cons part parts ih =>
      have read := readComponent?_append part (head?_textOf_ne parts)
      obtain ⟨first, rest, written, -⟩ := part.exists_first
      rw [textOf_cons, written, List.cons_append] at enough ⊢
      rw [written, List.cons_append] at read
      rw [List.length_cons, List.length_append] at enough
      obtain ⟨less, rfl⟩ := Nat.exists_eq_succ_of_ne_zero (by omega : fuel ≠ 0)
      simp only [isSequenceWithin, read]
      exact ih (by omega)

theorem exists_parts_of_isSequenceWithin {fuel : Nat} (sequence : isSequenceWithin fuel text) :
    ∃ parts, textOf parts = text := by
  induction fuel generalizing text with
  | zero =>
      cases text with
      | nil => exact ⟨[], rfl⟩
      | cons first rest => cases sequence
  | succ fuel ih =>
      cases text with
      | nil => exact ⟨[], rfl⟩
      | cons first rest =>
          cases read : readComponent? (first :: rest) with
          | none =>
              simp only [isSequenceWithin, read] at sequence
              cases sequence
          | some found =>
              simp only [isSequenceWithin, read] at sequence
              obtain ⟨part, -, written⟩ := exists_part_of_readComponent? read
              obtain ⟨parts, same⟩ := ih sequence
              exact ⟨part :: parts, by rw [written, textOf_cons, same]⟩

theorem isSequence_iff : isSequence text ↔ ∃ parts, parts ≠ [] ∧ textOf parts = text := by
  constructor
  · intro sequence
    rw [isSequence, Bool.and_eq_true] at sequence
    obtain ⟨parts, rfl⟩ := exists_parts_of_isSequenceWithin sequence.2
    refine ⟨parts, ?_, rfl⟩
    rintro rfl
    cases sequence.1
  · rintro ⟨parts, nonempty, rfl⟩
    rw [isSequence, Bool.and_eq_true]
    exact ⟨by simpa using textOf_ne_nil nonempty, isSequenceWithin_textOf (Nat.le_refl _)⟩

end Sequences

section Search

variable {parts : List Part}

/-- The search for components that keeps the characters each is read from. -/
def foundWithin : Nat → List Char → List (List Char × Component)
  | 0, _ => []
  | _, [] => []
  | fuel + 1, character :: rest =>
      match readComponent? (character :: rest) with
      | some (component, behind) =>
          ((character :: rest).take ((character :: rest).length - behind.length), component) ::
            foundWithin fuel behind
      | none => foundWithin fuel rest

/-- The components in a text, from the left, with the characters each is read from. -/
def found (text : List Char) : List (List Char × Component) :=
  foundWithin text.length text

theorem map_foundWithin (fuel : Nat) (text : List Char) :
    (foundWithin fuel text).map Prod.snd = componentsWithin fuel text := by
  induction fuel generalizing text with
  | zero => rfl
  | succ fuel ih =>
      cases text with
      | nil => rfl
      | cons character rest =>
          cases read : readComponent? (character :: rest) with
          | none =>
              simp only [foundWithin, componentsWithin, read]
              exact ih rest
          | some found =>
              simp only [foundWithin, componentsWithin, read, List.map_cons]
              rw [ih]

theorem map_found (text : List Char) : (found text).map Prod.snd = components text :=
  map_foundWithin text.length text

theorem foundWithin_textOf {fuel : Nat} (enough : (textOf parts).length ≤ fuel) :
    foundWithin fuel (textOf parts) = parts.map fun part => (part.text, part.component) := by
  induction parts generalizing fuel with
  | nil => cases fuel <;> rfl
  | cons part parts ih =>
      have read := readComponent?_append part (head?_textOf_ne parts)
      have taken : (part.text ++ textOf parts).take
          ((part.text ++ textOf parts).length - (textOf parts).length) = part.text := by
        rw [List.length_append, Nat.add_sub_cancel, List.take_left]
      obtain ⟨first, rest, written, -⟩ := part.exists_first
      rw [textOf_cons] at enough ⊢
      rw [List.map_cons]
      rw [written, List.cons_append] at enough read taken ⊢
      rw [List.length_cons, List.length_append] at enough
      obtain ⟨less, rfl⟩ := Nat.exists_eq_succ_of_ne_zero (by omega : fuel ≠ 0)
      rw [foundWithin, read]
      simp only
      rw [taken, ih (by omega)]

theorem found_textOf (parts : List Part) :
    found (textOf parts) = parts.map fun part => (part.text, part.component) :=
  foundWithin_textOf (Nat.le_refl _)

theorem components_textOf (parts : List Part) :
    components (textOf parts) = parts.map Part.component := by
  rw [← map_found, found_textOf, List.map_map]
  rfl

end Search

section Whole

variable {text : String} {parts : List Part}

def Sign.signed (sign : Sign) (number : Number.Binary64) : Number.Binary64 :=
  if sign.isMinus then number.negate else number

theorem unsigned_textOf (parts : List Part) :
    ∀ next ∈ (textOf parts).head?, next ≠ '+' ∧ next ≠ '-' :=
  fun next member => ne_sign (head?_textOf parts next member)

theorem ofText_zero {sign : Sign}
    (written : (Text.strip text).toList = sign.text ++ ['0']) : ofText text = .ok .zero := by
  have unsigned : ∀ next ∈ ['0'].head?, next ≠ '+' ∧ next ≠ '-' := by
    rintro _ ⟨⟩
    decide
  rw [Text.toList_strip] at written
  rw [ofText, written, splitSign_append sign unsigned]
  rfl

theorem ofText_parts {sign : Sign} (nonempty : parts ≠ [])
    (written : (Text.strip text).toList = sign.text ++ textOf parts) :
    ofText text =
      ofSeconds (sign.signed (totalSeconds (parts.map Part.component))) (.text text) := by
  have sequence := isSequence_iff.mpr ⟨parts, nonempty, rfl⟩
  rw [Text.toList_strip] at written
  rw [ofText, written, splitSign_append sign (unsigned_textOf parts)]
  simp only [textOf_ne_zero, sequence, components_textOf, if_true, if_false]
  rfl

theorem ofText_other (other : ¬ IsDurationText (Text.strip text).toList) :
    ofText text = .error (.invalid (.text text)) := by
  obtain ⟨sign, rest, written, split⟩ := exists_sign (Text.strip text).toList
  rw [written] at other
  have notZero : rest ≠ ['0'] := by
    rintro rfl
    exact other (.zero sign)
  have notSequence : ¬ isSequence rest := by
    rw [isSequence_iff]
    rintro ⟨parts, nonempty, rfl⟩
    exact other (.parts sign nonempty)
  rw [Text.toList_strip] at split
  rw [ofText, split]
  simp only [notZero, notSequence, if_false]
  rfl

theorem ofSeconds_ne_invalid (seconds : Number.Binary64) (value other : Document) :
    ofSeconds seconds value ≠ .error (.invalid other) := by
  intro refused
  cases seconds with
  | nan | infinite => cases refused
  | finite negative quanta =>
      rw [ofSeconds] at refused
      split at refused <;> cases refused

end Whole

/-- A text is a duration exactly when it follows the grammar.  A single zero is no
time.  The parts of any other accepted text are determined by it, the search finds
each of them in its place, and what becomes a time span is the sum of all of them. -/
theorem accepted_iff_isDurationText (text : String) :
    ((∀ value, ofDocument (.text text) ≠ .error (.invalid value)) ↔
        IsDurationText (Text.strip text).toList) ∧
      (∀ sign : Sign, (Text.strip text).toList = sign.text ++ ['0'] →
        ofDocument (.text text) = .ok .zero) ∧
      ∀ (sign : Sign) (parts : List Part), parts ≠ [] →
        (Text.strip text).toList = sign.text ++ textOf parts →
          (∀ others, textOf others = textOf parts → others = parts) ∧
          (found (textOf parts)).map Prod.snd = components (textOf parts) ∧
          found (textOf parts) = parts.map (fun part => (part.text, part.component)) ∧
          (∀ part ∈ parts, Number.readFloat (String.ofList part.number) = .ok part.amount) ∧
          ofDocument (.text text) =
            ofSeconds
              (sign.signed (parts.foldl
                (fun total part => total.add (part.amount.mul part.unit.seconds))
                (.finite false 0)))
              (.text text) := by
  refine ⟨⟨fun accepted => ?_, ?_⟩, fun sign written => ofText_zero written,
    fun sign parts nonempty written =>
      ⟨fun others same => eq_of_textOf_eq same, map_found _, found_textOf parts,
        fun part _ => readFloat_number part.isNumber, ?_⟩⟩
  · by_contra other
    exact accepted (.text text) (ofText_other other)
  · intro grammatical value refused
    change ofText text = _ at refused
    generalize whole : (Text.strip text).toList = written at grammatical
    cases grammatical with
    | zero sign =>
        rw [ofText_zero whole] at refused
        cases refused
    | parts sign nonempty =>
        rw [ofText_parts nonempty whole] at refused
        exact ofSeconds_ne_invalid _ _ _ refused
  · have sum : totalSeconds (parts.map Part.component) = parts.foldl
        (fun total part => total.add (part.amount.mul part.unit.seconds)) (.finite false 0) := by
      rw [totalSeconds, List.foldl_map]
      rfl
    rw [← sum]
    exact ofText_parts nonempty written

/-- A number with a point and nothing behind it, one with nothing before it, and one
in other digits. -/
def mixedParts : List Part :=
  [⟨['1'], [], .hour, ['1', '.'], ['h'], .pointed (by decide) (by decide) (by decide), .hour⟩,
    ⟨[], ['5'], .millisecond, ['.', '5'], ['m', 's'], .fraction (by decide) (by decide),
      .millisecond⟩,
    ⟨['\u0663'], [], .microsecond, ['\u0663'], ['\u00B5', 's'], .whole (by decide) (by decide),
      .microSign⟩]

theorem accepted_iff_isDurationText_mixedParts :
    (mixedParts ≠ [] ∧
      (Text.strip " -1.h.5ms\u0663\u00B5s\n").toList = Sign.minus.text ++ textOf mixedParts ∧
      found (textOf mixedParts) = mixedParts.map (fun part => (part.text, part.component)) ∧
      ∀ value, ofDocument (.text " -1.h.5ms\u0663\u00B5s\n") ≠ .error (.invalid value)) ∧
      (Text.strip "+0 ").toList = Sign.plus.text ++ ['0'] ∧
      ofDocument (.text "+0 ") = .ok .zero := by
  obtain ⟨accepted, -, parts⟩ := accepted_iff_isDurationText " -1.h.5ms\u0663\u00B5s\n"
  have nonempty : mixedParts ≠ [] := List.cons_ne_nil _ _
  have written : (Text.strip " -1.h.5ms\u0663\u00B5s\n").toList =
      Sign.minus.text ++ textOf mixedParts := by decide +kernel
  have zero : (Text.strip "+0 ").toList = Sign.plus.text ++ ['0'] := by decide +kernel
  obtain ⟨-, -, matched, -⟩ := parts .minus mixedParts nonempty written
  refine ⟨⟨nonempty, written, matched, accepted.mpr ?_⟩, zero,
    (accepted_iff_isDurationText "+0 ").2.1 .plus zero⟩
  rw [written]
  exact .parts .minus nonempty

end RelayPool.Duration
