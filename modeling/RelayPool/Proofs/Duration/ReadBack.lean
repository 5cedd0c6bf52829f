import RelayPool.Proofs.Duration.Canonical

/-!
# Texts of spans that are read again

Six digits stand for at most sixty seconds, so what is read from the text of a span
is in range but at the very end of it, where the last minute is rounded up to the
first second outside.
-/

namespace RelayPool.Duration

open Number (IsPlainDecimal)
open Number.Binary64 (unit unit_pos)

section Reading

variable {span : TimeSpan}

/-- A number of seconds is a component of the same length. -/
theorem seconds_of_amount {part : Part} {amount : Nat} (second : part.unit = .second)
    (read : part.amount = .finite false amount) :
    part.component.seconds = .finite false amount := by
  have isNumber : Number.Binary64.IsNumber part.amount := Number.Binary64.isNumber_ofDecimal ..
  rw [read] at isNumber
  cases isNumber with
  | finite _ fits bounded =>
      have one : part.unit.seconds = .finite false unit := by
        have exact := WholeUnit.second.seconds_unit
        rwa [WholeUnit.seconds, Nat.one_mul, WholeUnit.unit, ← second] at exact
      change part.amount.mul part.unit.seconds = _
      rw [read, one, Number.Binary64.mul, bne_self_eq_false]
      exact Number.Binary64.ofQuanta_exact fits bounded unit_pos

/-- Counts with a number of seconds behind them are summed up with one rounding. -/
theorem totalSeconds_of_amount {counts : List Count} {part : Part} {amount : Nat}
    (few : totalOf counts + 60 < 2 ^ 53) (atMost : amount ≤ 60 * unit)
    (seconds : part.component.seconds = .finite false amount) :
    totalSeconds ((counts.map Count.part ++ [part]).map Part.component) =
      .finite false (Number.roundToBits 53 (totalOf counts * unit + amount) 1) := by
  have front := (holds_totalSeconds counts).eq_exact (by omega)
  have bounded : Number.roundToBits 53 (totalOf counts * unit + amount) 1 ≤
      (totalOf counts + 60) * unit := by
    refine Number.roundToBits_le (Number.Binary64.fitsBits_mul_unit few) Nat.one_pos ?_
    rw [Nat.mul_one, Nat.add_mul]
    exact Nat.add_le_add_left atMost _
  have finite := bounded.trans_lt (Number.Binary64.mul_unit_lt_overflow few)
  rw [totalSeconds] at front ⊢
  rw [List.map_append, List.foldl_append, front, List.map_singleton, List.foldl_cons,
    List.foldl_nil, seconds, Number.Binary64.add, if_pos rfl, Number.Binary64.ofQuanta,
    if_pos finite]

theorem signed_signOf (size : Int) (quanta : Nat) :
    (signOf size).signed (.finite false quanta) = .finite (decide (size < 0)) quanta := by
  rw [signOf]
  split
  · next negative => rw [decide_eq_true negative]; rfl
  · next nonnegative => rw [decide_eq_false nonnegative]; rfl

/-- A text without an exponent is read as the sum of its minutes and of the seconds
that its six digits stand for. -/
theorem exists_ofDocument_text (some : span.secondsQuanta ≠ 0)
    (few : wholeMinutes span * 60 + 60 < 2 ^ 53)
    (large : secondsLeft span = 0 ∨ 1999999 * unit ≤ 20000000000 * secondsLeft span) :
    ∃ amount, amount ≤ 60 * unit ∧ (secondsLeft span = 0 → amount = 0) ∧
      (64 * secondsLeft span ≤ 3839 * unit → 512 * amount ≤ 30713 * unit) ∧
      ofDocument (.text (text span)) =
        ofSeconds (.finite (decide (span.microseconds < 0))
          (Number.roundToBits 53 (wholeMinutes span * 60 * unit + amount) 1))
          (.text (text span)) := by
  obtain ⟨whole, amount, plain, -, reads, atMost, none, apart⟩ :=
    Number.exists_plain_sixDigitText (secondsLeft_le span) large
  obtain ⟨part, number, second, shown⟩ := exists_part_of_plain plain
  have read : part.amount = .finite false amount := by
    have same := readFloat_number part.isNumber
    rw [number, String.ofList_toList, reads] at same
    exact (Except.ok.inj same).symm
  have total := totalOf_leadingCounts (wholeMinutes span)
  have sum := totalSeconds_of_amount (by rwa [total]) atMost (seconds_of_amount second read)
  have characters : (text span).toList = (signOf span.microseconds).text ++
      textOf ((leadingCounts (wholeMinutes span)).map Count.part ++ [part]) := by
    rw [toList_text some, textOf_append, textOf_cons, textOf_nil, List.append_nil, shown]
    simp only [List.append_assoc]
  have written : (Text.strip (text span)).toList = (signOf span.microseconds).text ++
      textOf ((leadingCounts (wholeMinutes span)).map Count.part ++ [part]) := by
    rw [Text.toList_strip, characters, trimmed_parts]
  refine ⟨amount, atMost, none, apart, ?_⟩
  change ofText (text span) = _
  rw [ofText_parts (by simp) written, sum, total, signed_signOf]

end Reading

section Range

variable {span : TimeSpan}

theorem secondsQuanta_le {count : Nat} (few : count < 2 ^ 53)
    (bounded : span.microseconds.natAbs ≤ count * TimeSpan.perSecond) :
    span.secondsQuanta ≤ count * unit := by
  refine Number.roundToBits_le (Number.Binary64.fitsBits_mul_unit few) (by decide) ?_
  rw [Nat.mul_right_comm]
  exact Nat.mul_le_mul_right unit bounded

theorem secondsQuanta_le_of_inRange (inRange : span.inRange) :
    span.secondsQuanta ≤ 86400000000000 * unit ∧
      (span.microseconds < 0 → span.secondsQuanta ≤ 86399999913600 * unit) := by
  rw [TimeSpan.inRange_iff] at inRange
  simp only [TimeSpan.dayLimit, TimeSpan.perDay, TimeSpan.perSecond] at inRange
  constructor
  · refine secondsQuanta_le (by decide) ?_
    rw [TimeSpan.perSecond]
    omega
  · intro negative
    refine secondsQuanta_le (by decide) ?_
    rw [TimeSpan.perSecond]
    omega

/-- Where 53 bits leave no more than `bits` of them for the fraction of a second, the
seconds that are left are made of such fractions. -/
theorem exists_secondsLeft_eq {bits : Nat} (few : bits ≤ 52)
    (large : 2 ^ (52 - bits) * unit ≤ span.secondsQuanta) :
    ∃ pieces < 60 * 2 ^ bits, 2 ^ bits * secondsLeft span = pieces * unit := by
  have fits : Number.FitsBits 53 span.secondsQuanta := Number.fitsBits_roundToBits 52 _ _
  have whole : unit = 2 ^ bits * 2 ^ (1074 - bits) := by
    rw [Number.Binary64.unit_eq, ← Nat.pow_add, Nat.add_sub_cancel' (by omega)]
  have scale : 2 ^ 52 = 2 ^ (52 - bits) * 2 ^ bits := by
    rw [← Nat.pow_add, Nat.sub_add_cancel few]
  have divides : 2 ^ (1074 - bits) ∣ span.secondsQuanta := by
    refine fits.dvd_of_le ?_
    rwa [scale, Nat.mul_assoc, ← whole]
  obtain ⟨pieces, same⟩ := divides
  refine ⟨pieces % (60 * 2 ^ bits), Nat.mod_lt _ (Nat.mul_pos (by decide) (Nat.two_pow_pos bits)),
    ?_⟩
  have minute : 60 * unit = 2 ^ (1074 - bits) * (60 * 2 ^ bits) := by
    rw [whole]
    ring
  rw [secondsLeft, minute, same, Nat.mul_mod_mul_left, whole]
  ring

/-- The sum stays below the next minute when its seconds do. -/
theorem lt_next_minute {before amount : Nat} (few : before + 60 < 2 ^ 47)
    (apart : 512 * amount ≤ 30713 * unit) :
    512 * Number.roundToBits 53 (before * unit + amount) 1 + 3 * unit ≤
      512 * ((before + 60) * unit) := by
  have some := unit_pos
  have scale : unit = 64 * 2 ^ 1068 := by decide +kernel
  have room : 2 ^ (53 + 1068) = 2 ^ 47 * unit := by decide +kernel
  have below : (before + 60 + 1) * unit ≤ 2 ^ 47 * unit := Nat.mul_le_mul_right unit few
  rw [Nat.add_mul, Nat.add_mul] at below
  have small : before * unit + amount < 2 ^ (53 + 1068) * 1 := by
    rw [room]
    omega
  have error := (Number.roundToBits_error Nat.one_pos small).1
  rw [Nat.add_mul]
  generalize Number.roundToBits 53 (before * unit + amount) 1 = sum at error ⊢
  generalize 2 ^ 1068 = piece at scale error
  omega

end Range

section Acceptance

variable {span : TimeSpan}

theorem exists_read_of_none (none : span.secondsQuanta = 0) :
    ∃ read, ofDocument (.text (text span)) = .ok read := by
  have same : written .absent [Count.ofNat 0 .second] = "0s" := by decide +kernel
  have read : ofText (written .absent [Count.ofNat 0 .second]) = _ :=
    ofText_written .absent (List.cons_ne_nil _ _)
  rw [same] at read
  rw [text_of_none none, ofDocument, read]
  exact ⟨_, ofWholeSeconds_of_fit (by decide +kernel) _⟩

/-- The sum of the minutes and the seconds that are read is in range where the span is
not rounded out of it. -/
theorem exists_span_of_amount (inRange : span.inRange) {amount : Nat}
    (atMost : amount ≤ 60 * unit) (noSeconds : secondsLeft span = 0 → amount = 0)
    (apart : 64 * secondsLeft span ≤ 3839 * unit → 512 * amount ≤ 30713 * unit)
    (started : wholeMinutes span * 60 < 86400000000000) :
    ∃ read, TimeSpan.ofQuanta? (decide (span.microseconds < 0))
      (Number.roundToBits 53 (wholeMinutes span * 60 * unit + amount) 1) = some read := by
  have some := unit_pos
  have whole := wholeMinutes_add_secondsLeft span
  have negative := (secondsQuanta_le_of_inRange inRange).2
  have bounded (top : Nat) (few : top < 2 ^ 53)
      (below : wholeMinutes span * 60 * unit + amount ≤ top * unit) :
      TimeSpan.microsecondsOfQuanta
        (Number.roundToBits 53 (wholeMinutes span * 60 * unit + amount) 1) ≤
          top * TimeSpan.perSecond := by
    refine TimeSpan.microsecondsOfQuanta_le_of_le (Number.roundToBits_le ?_ Nat.one_pos ?_)
    · exact Number.Binary64.fitsBits_mul_unit few
    · rwa [Nat.mul_one]
  by_cases none : secondsLeft span = 0
  · have sum := bounded (wholeMinutes span * 60) (by omega) (by rw [noSeconds none, Nat.add_zero])
    refine TimeSpan.exists_ofQuanta? (sum.trans_lt ?_) fun isNegative => sum.trans ?_
    · exact Nat.mul_lt_mul_of_pos_right started (by decide)
    · have most := negative (of_decide_eq_true isNegative)
      rw [← whole, none, Nat.add_zero] at most
      exact Nat.mul_le_mul_right _ (Nat.le_of_mul_le_mul_right most unit_pos)
  · have sum := bounded (wholeMinutes span * 60 + 60) (by omega)
      (by rw [Nat.add_mul]; exact Nat.add_le_add_left atMost _)
    refine TimeSpan.exists_ofQuanta? ?_ fun isNegative => sum.trans ?_
    · -- Only the last minute ends where the range does.
      by_cases last : wholeMinutes span * 60 + 60 = 86400000000000
      · have many : 2 ^ (52 - 6) ≤ wholeMinutes span * 60 := by omega
        have large : 2 ^ (52 - 6) * unit ≤ span.secondsQuanta := by
          rw [← whole]
          exact (Nat.mul_le_mul_right unit many).trans (Nat.le_add_right _ _)
        obtain ⟨pieces, few, same⟩ := exists_secondsLeft_eq (by decide) large
        have early : 64 * secondsLeft span ≤ 3839 * unit :=
          same.trans_le (Nat.mul_le_mul_right unit (Nat.le_of_lt_succ few))
        refine TimeSpan.microsecondsOfQuanta_lt (by decide) ?_
        rw [← last]
        exact lt_next_minute (by omega) (apart early)
      · exact sum.trans_lt (Nat.mul_lt_mul_of_pos_right (by omega) (by decide))
    · have most := negative (of_decide_eq_true isNegative)
      have before : wholeMinutes span * 60 < 86399999913600 :=
        lt_of_mul_lt_mul_right (by omega : wholeMinutes span * 60 * unit < _) unit_pos.le
      exact Nat.mul_le_mul_right _ (by omega)

theorem exists_read (inRange : span.inRange)
    (large : secondsLeft span = 0 ∨ 1999999 * unit ≤ 20000000000 * secondsLeft span)
    (below : span.secondsQuanta < 86400000000000 * unit) :
    ∃ read, ofDocument (.text (text span)) = .ok read := by
  by_cases none : span.secondsQuanta = 0
  · exact exists_read_of_none none
  · have whole := wholeMinutes_add_secondsLeft span
    have started : wholeMinutes span * 60 < 86400000000000 :=
      lt_of_mul_lt_mul_right (by omega : wholeMinutes span * 60 * unit < _) unit_pos.le
    obtain ⟨amount, atMost, noSeconds, apart, read⟩ :=
      exists_ofDocument_text none (by omega) large
    obtain ⟨found, inside⟩ := exists_span_of_amount inRange atMost noSeconds apart started
    refine ⟨found, ?_⟩
    rw [read, ofSeconds, inside]

/-- An exponent is no unit. -/
theorem not_read_of_tiny (some : secondsLeft span ≠ 0)
    (tiny : 20000000000 * secondsLeft span < 1999999 * unit) (read : TimeSpan) :
    ofDocument (.text (text span)) ≠ .ok read := by
  have quanta : span.secondsQuanta ≠ 0 := by
    have whole := wholeMinutes_add_secondsLeft span
    omega
  have exponent := Number.mem_sixDigitText_of_small (Nat.pos_of_ne_zero some)
    (secondsLeft_le span) tiny
  have kept : 'e' ∈ (Text.strip (text span)).toList := by
    rw [Text.toList_strip]
    refine Text.mem_trimmed_of_dark ?_ (by decide)
    rw [toList_text quanta]
    simp [exponent]
  have refused := ofText_other fun grammatical => not_mem_of_isDurationText grammatical kept
  rw [ofDocument, refused]
  rintro ⟨⟩

/-- The end of the range is rounded to its first second outside. -/
theorem not_read_of_limit (inRange : span.inRange)
    (atLimit : 86400000000000 * unit ≤ span.secondsQuanta) (read : TimeSpan) :
    ofDocument (.text (text span)) ≠ .ok read := by
  have positive := unit_pos
  obtain ⟨most, negative⟩ := secondsQuanta_le_of_inRange inRange
  have same : span.secondsQuanta = 1440000000000 * (60 * unit) := by omega
  have minutes : wholeMinutes span = 1440000000000 := by
    rw [wholeMinutes, same, Nat.mul_div_cancel _ (by omega)]
  have left : secondsLeft span = 0 := by rw [secondsLeft, same, Nat.mul_mod_left]
  have nonnegative : ¬ span.microseconds < 0 := by
    intro isNegative
    have lower := negative isNegative
    omega
  have some : span.secondsQuanta ≠ 0 := by omega
  obtain ⟨amount, -, noSeconds, -, shown⟩ :=
    exists_ofDocument_text some (by rw [minutes]; decide) (.inl left)
  have exact : Number.roundToBits 53 (86400000000000 * unit * 1) 1 = 86400000000000 * unit :=
    Number.roundToBits_mul_self (Number.Binary64.fitsBits_mul_unit (by decide)) Nat.one_pos
  have sum : 1440000000000 * 60 * unit + 0 = 86400000000000 * unit * 1 := by omega
  have outside : TimeSpan.ofWholeSeconds? (Number.signed false 86400000000000) = none :=
    TimeSpan.ofWholeSeconds?_of_not_fit (by decide +kernel)
  rw [shown, noSeconds left, minutes, sum, exact, decide_eq_false nonnegative, ofSeconds,
    TimeSpan.ofQuanta?_whole, outside]
  rintro ⟨⟩

end Acceptance

section Milliseconds

variable {span : TimeSpan}

theorem microseconds_lt {count : Nat} (few : count < 2 ^ 53)
    (small : span.secondsQuanta < count * unit) :
    span.microseconds.natAbs < count * TimeSpan.perSecond := by
  by_contra enough
  have reached : count * unit ≤ span.secondsQuanta := by
    refine Number.le_roundToBits (Number.Binary64.fitsBits_mul_unit few) (by decide) ?_
    rw [Nat.mul_right_comm]
    exact Nat.mul_le_mul_right unit (Nat.le_of_not_lt enough)
  exact absurd small (Nat.not_lt.mpr reached)

/-- A part of a minute in milliseconds is not moved to its ends by rounding. -/
theorem secondsLeft_of_milliseconds {minutes rest : Nat} (some : 0 < rest) (few : rest < 60000)
    (size : span.microseconds.natAbs = (60000 * minutes + rest) * 1000)
    (small : span.secondsQuanta < 2 ^ (52 - 12) * unit) :
    1999999 * unit ≤ 20000000000 * secondsLeft span ∧
      20000 * secondsLeft span < 1199999 * unit := by
  have scale : unit = 8192 * 2 ^ 1061 := by decide +kernel
  have room : 2 ^ (53 + 1061) = 2 ^ (52 - 12) * unit := by decide +kernel
  have below : span.microseconds.natAbs * unit < 2 ^ (53 + 1061) * TimeSpan.perSecond := by
    rw [room, Nat.mul_right_comm]
    exact Nat.mul_lt_mul_of_pos_right (microseconds_lt (by decide) small) unit_pos
  have error := Number.roundToBits_error (by decide) below
  rw [← TimeSpan.secondsQuanta] at error
  have product : span.microseconds.natAbs * unit =
      60000000 * (minutes * unit) + 1000 * (rest * unit) := by
    rw [size]
    ring
  have least : unit ≤ rest * unit := Nat.le_mul_of_pos_left unit some
  have most : rest * unit ≤ 59999 * unit := Nat.mul_le_mul_right unit (Nat.le_of_lt_succ few)
  have minute : minutes * (60 * unit) = 60 * (minutes * unit) := by ring
  have positive := unit_pos
  rw [product, TimeSpan.perSecond] at error
  obtain ⟨left, sum⟩ : ∃ left, span.secondsQuanta = minutes * (60 * unit) + left :=
    Nat.exists_eq_add_of_le (by omega)
  have same : secondsLeft span = left := by
    rw [secondsLeft, sum, Nat.mul_add_mod', Nat.mod_eq_of_lt (by omega)]
  rw [same]
  omega

/-- The text of a span of whole milliseconds is canonical. -/
theorem isCanonical_text_of_milliseconds (whole : (1000 : Int) ∣ span.microseconds) :
    IsCanonical (text span).toList := by
  rw [isCanonical_text_iff]
  by_cases large : 2 ^ (52 - 12) * unit ≤ span.secondsQuanta
  · obtain ⟨pieces, few, same⟩ := exists_secondsLeft_eq (by decide) large
    have positive := unit_pos
    rcases Nat.eq_zero_or_pos pieces with rfl | some
    · left
      omega
    · have least : unit ≤ pieces * unit := Nat.le_mul_of_pos_left unit some
      have most : pieces * unit ≤ 245759 * unit :=
        Nat.mul_le_mul_right unit (Nat.le_of_lt_succ few)
      right
      omega
  · obtain ⟨count, size⟩ : ∃ count, span.microseconds.natAbs = count * 1000 :=
      ⟨span.microseconds.natAbs / 1000, by omega⟩
    rw [← Nat.div_add_mod count 60000] at size
    rcases Nat.eq_zero_or_pos (count % 60000) with none | some
    · have quanta : span.secondsQuanta = count / 60000 * 60 * unit := by
        have product : span.microseconds.natAbs * unit =
            count / 60000 * 60 * unit * TimeSpan.perSecond := by
          rw [size, none, TimeSpan.perSecond]
          ring
        have below := microseconds_lt (by decide) (Nat.lt_of_not_le large)
        have few : count / 60000 * 60 < 2 ^ 53 := by
          rw [size, TimeSpan.perSecond] at below
          omega
        rw [TimeSpan.secondsQuanta, product]
        exact Number.roundToBits_mul_self (Number.Binary64.fitsBits_mul_unit few) (by decide)
      left
      rw [secondsLeft, quanta, Nat.mul_assoc, Nat.mul_mod_left]
    · exact .inr (secondsLeft_of_milliseconds some (Nat.mod_lt _ (by decide)) size
        (Nat.lt_of_not_le large))

end Milliseconds

/-- The text of a span is canonical but for a rest of seconds that is so short that it
has an exponent or so close to a minute that it is rounded to sixty seconds.  The
text is read again but for the exponent and for spans that are rounded out of
range.  Whole milliseconds have a canonical text. -/
theorem canonical_and_read_iff {span : TimeSpan} (inRange : span.inRange) :
    (IsCanonical (text span).toList ↔
        secondsLeft span = 0 ∨
          1999999 * unit ≤ 20000000000 * secondsLeft span ∧
            20000 * secondsLeft span < 1199999 * unit) ∧
      ((∃ read, ofDocument (.text (text span)) = .ok read) ↔
        (secondsLeft span = 0 ∨ 1999999 * unit ≤ 20000000000 * secondsLeft span) ∧
          span.secondsQuanta < 86400000000000 * unit) ∧
      ((1000 : Int) ∣ span.microseconds → IsCanonical (text span).toList) := by
  refine ⟨isCanonical_text_iff span,
    ⟨?_, fun bounds => exists_read inRange bounds.1 bounds.2⟩, isCanonical_text_of_milliseconds⟩
  rintro ⟨found, read⟩
  constructor
  · by_contra tiny
    rw [not_or, Nat.not_le] at tiny
    exact not_read_of_tiny tiny.1 tiny.2 found read
  · by_contra atLimit
    exact not_read_of_limit inRange (Nat.le_of_not_lt atLimit) found read

/-- A microsecond less than a minute is written as sixty seconds. -/
theorem canonical_and_read_iff_beforeMinute :
    (⟨59999999⟩ : TimeSpan).inRange ∧ text ⟨59999999⟩ = "60s" ∧
      ¬ IsCanonical (text ⟨59999999⟩).toList ∧
      ∃ read, ofDocument (.text (text ⟨59999999⟩)) = .ok read := by
  have inRange : (⟨59999999⟩ : TimeSpan).inRange := by decide +kernel
  obtain ⟨canonical, read, -⟩ := canonical_and_read_iff inRange
  exact ⟨inRange, by decide +kernel, mt canonical.mp (by decide +kernel),
    read.mpr (by decide +kernel)⟩

/-- A microsecond is written with an exponent, and that is not read. -/
theorem not_canonical_microsecond :
    (⟨1⟩ : TimeSpan).inRange ∧ text ⟨1⟩ = "1e-06s" ∧ ¬ IsCanonical (text ⟨1⟩).toList ∧
      ∀ read, ofDocument (.text (text ⟨1⟩)) ≠ .ok read :=
  ⟨by decide +kernel, by decide +kernel,
    mt (isCanonical_text_iff ⟨1⟩).mp (by decide +kernel),
    not_read_of_tiny (by decide +kernel) (by decide +kernel)⟩

end RelayPool.Duration
