import RelayPool.Proofs.Duration.Positive
import RelayPool.Proofs.Log.Outcome
import RelayPool.Proofs.Text.Trimmed

/-!
# Signs of durations

A plus in front of a duration changes nothing and a minus gives the opposite span, as
all rounding is done on sizes.  The range of spans reaches most of a day further above
than below, so the longest durations have no opposite.  What is no duration stays none
with a sign.
-/

namespace RelayPool

namespace TimeSpan

/-- The span of the same size in the other direction, if it is in range. -/
def opposite? (span : TimeSpan) : Option TimeSpan :=
  if span.microseconds ≤ 999999999 * 86400 * 1000000 then some ⟨-span.microseconds⟩ else none

theorem ofMicroseconds?_neg (count : Nat) :
    ofMicroseconds? (-count) = (ofMicroseconds? count).bind opposite? := by
  have above := inRange_iff ⟨count⟩
  have below := inRange_iff ⟨-count⟩
  simp only [dayLimit, perDay, perSecond] at above below
  rw [ofMicroseconds?, ofMicroseconds?]
  by_cases short : (count : Int) ≤ 999999999 * 86400 * 1000000
  · rw [if_pos (above.mpr (by omega)), if_pos (below.mpr (by omega)), Option.bind_some,
      opposite?, if_pos short]
  · rw [if_neg (mt below.mp (by omega))]
    split
    · rw [Option.bind_some, opposite?, if_neg short]
    · rfl

theorem ofQuanta?_negative (quanta : Nat) :
    ofQuanta? true quanta = (ofQuanta? false quanta).bind opposite? := by
  simp only [ofQuanta?, if_true, Bool.false_eq_true, if_false, ofMicroseconds?_neg]

end TimeSpan

namespace Duration

open Number.Binary64 (AtLeast)

/-- The same fault of another value. -/
def Fault.about (value : Document) : Fault → Fault
  | .invalid _ => .invalid value
  | .outOfRange _ => .outOfRange value
  | .notANumber => .notANumber

/-- A text that has neither a sign in front nor white space around it. -/
structure IsBare (text : String) : Prop where
  noPlus : text.toList.head? ≠ some '+'
  noMinus : text.toList.head? ≠ some '-'
  trimmed : Text.strip text = text

instance (text : String) : Decidable (IsBare text) :=
  decidable_of_iff
    (text.toList.head? ≠ some '+' ∧ text.toList.head? ≠ some '-' ∧ Text.strip text = text)
    ⟨fun bare => ⟨bare.1, bare.2.1, bare.2.2⟩,
      fun bare => ⟨bare.noPlus, bare.noMinus, bare.trimmed⟩⟩

/-- A text with a sign in front. -/
def Sign.before (sign : Sign) (text : String) : String :=
  String.ofList (sign.text ++ text.toList)

/-- A span, or the fault that `value` is out of range. -/
def spanOr (value : Document) : Option TimeSpan → Except Fault TimeSpan
  | some span => .ok span
  | none => .error (.outOfRange value)

section Seconds

variable {total : Number.Binary64}

/-- What a sum gives with either sign depends on the span of its size alone. -/
theorem exists_span?_of_atLeast (number : AtLeast 0 total) :
    ∃ span?, ∀ value, ofSeconds total value = spanOr value span? ∧
      ofSeconds total.negate value = spanOr value (span?.bind TimeSpan.opposite?) := by
  cases number with
  | infinite => exact ⟨none, fun value => ⟨rfl, rfl⟩⟩
  | @finite quanta =>
      refine ⟨TimeSpan.ofQuanta? false quanta, fun value => ⟨?_, ?_⟩⟩
      · rw [ofSeconds]
        cases TimeSpan.ofQuanta? false quanta <;> rfl
      · rw [← TimeSpan.ofQuanta?_negative, Number.Binary64.negate, ofSeconds, Bool.not_false]
        cases TimeSpan.ofQuanta? true quanta <;> rfl

theorem ofSeconds_zero (negative : Bool) (value : Document) :
    ofSeconds (.finite negative 0) value = .ok .zero := by
  have whole := TimeSpan.ofQuanta?_whole negative 0
  rw [Nat.zero_mul] at whole
  rw [ofSeconds, whole]
  cases negative <;> rfl

end Seconds

section Texts

variable {text : String}

theorem isTrimmed_append_sign (sign : Sign) {characters : List Char}
    (trimmed : Text.IsTrimmed characters) : Text.IsTrimmed (sign.text ++ characters) := by
  have behind (mark : Char) (dark : ¬ Text.isBlank mark) : Text.IsTrimmed (mark :: characters) := by
    refine ⟨fun _ => dark, fun nonempty => ?_⟩
    cases characters with
    | nil => exact dark
    | cons first rest =>
        rw [List.getLast_cons_cons]
        exact trimmed.2 (List.cons_ne_nil first rest)
  cases sign with
  | absent => exact trimmed
  | plus => exact behind '+' (by decide)
  | minus => exact behind '-' (by decide)

theorem IsBare.unsigned (bare : IsBare text) :
    ∀ first ∈ text.toList.head?, first ≠ '+' ∧ first ≠ '-' := by
  intro first found
  constructor
  · rintro rfl
    exact bare.noPlus found
  · rintro rfl
    exact bare.noMinus found

theorem IsBare.splitSign_before (bare : IsBare text) (sign : Sign) :
    Number.splitSign (Text.trimmed (sign.before text).toList) = (sign.isMinus, text.toList) := by
  have trimmed : Text.trimmed text.toList = text.toList := by
    rw [← Text.toList_strip, bare.trimmed]
  have kept := isTrimmed_append_sign sign ((Text.trimmed_eq_self_iff _).mp trimmed)
  rw [Sign.before, String.toList_ofList, (Text.trimmed_eq_self_iff _).mpr kept,
    splitSign_append sign bare.unsigned]

/-- With every sign a text is read as the same sum, or it is no duration with any. -/
theorem IsBare.exists_total (bare : IsBare text) :
    (∃ total, AtLeast 0 total ∧ ∀ sign : Sign, ofText (sign.before text) =
        ofSeconds (sign.signed total) (.text (sign.before text))) ∨
      ∀ sign : Sign, ofText (sign.before text) = .error (.invalid (.text (sign.before text))) := by
  have read (sign : Sign) : ofText (sign.before text) =
      if text.toList = ['0'] then .ok .zero
      else if isSequence text.toList then
        ofSeconds (sign.signed (totalSeconds (components text.toList)))
          (.text (sign.before text))
      else .error (.invalid (.text (sign.before text))) := by
    rw [ofText, bare.splitSign_before sign]
    rfl
  by_cases zero : text.toList = ['0']
  · refine .inl ⟨.finite false 0, .finite (Nat.le_refl 0), fun sign => ?_⟩
    rw [read sign, if_pos zero]
    cases sign <;> exact (ofSeconds_zero _ _).symm
  by_cases sequence : isSequence text.toList
  · refine .inl ⟨_, nonnegative_totalSeconds (components text.toList), fun sign => ?_⟩
    rw [read sign, if_neg zero, if_pos sequence]
  · refine .inr fun sign => ?_
    rw [read sign, if_neg zero, if_neg sequence]

theorem Sign.before_absent (text : String) : Sign.absent.before text = text :=
  String.ofList_toList

theorem Sign.before_plus (text : String) : Sign.plus.before text = "+" ++ text := by
  rw [← String.toList_inj, Sign.before, String.toList_ofList, String.toList_append]
  rfl

theorem Sign.before_minus (text : String) : Sign.minus.before text = "-" ++ text := by
  rw [← String.toList_inj, Sign.before, String.toList_ofList, String.toList_append]
  rfl

end Texts

/-- A plus in front of a text does not change how it is read.  A minus gives the opposite
of its span, or a fault where that has more than the greatest number of whole days; and a
text that is refused is refused with either sign, for the same reason. -/
theorem signs_of_read {text : String} (bare : IsBare text) :
    (∀ span, ofDocument (.text text) = .ok span →
      ofDocument (.text ("+" ++ text)) = .ok span ∧
        (span.microseconds ≤ 999999999 * 86400 * 1000000 →
          ofDocument (.text ("-" ++ text)) = .ok ⟨-span.microseconds⟩) ∧
        (999999999 * 86400 * 1000000 < span.microseconds →
          ofDocument (.text ("-" ++ text)) = .error (.outOfRange (.text ("-" ++ text))))) ∧
      ∀ fault, ofDocument (.text text) = .error fault →
        ofDocument (.text ("+" ++ text)) = .error (fault.about (.text ("+" ++ text))) ∧
          ofDocument (.text ("-" ++ text)) = .error (fault.about (.text ("-" ++ text))) := by
  simp only [ofDocument, ← Sign.before_plus, ← Sign.before_minus]
  have plain := Sign.before_absent text
  rcases bare.exists_total with ⟨total, number, read⟩ | refused
  · obtain ⟨span?, sums⟩ := exists_span?_of_atLeast number
    have absentRead := (read .absent).trans (sums _).1
    have plusRead := (read .plus).trans (sums _).1
    have minusRead := (read .minus).trans (sums _).2
    rw [plain] at absentRead
    rw [absentRead, plusRead, minusRead]
    cases span? with
    | none =>
        refine ⟨fun span found => ?_, fun fault found => ?_⟩
        · cases found
        · cases found
          exact ⟨rfl, rfl⟩
    | some span =>
        refine ⟨fun same found => ?_, fun fault found => ?_⟩
        · cases found
          refine ⟨rfl, fun short => ?_, fun long => ?_⟩
          · rw [Option.bind_some, TimeSpan.opposite?, if_pos short]
            rfl
          · rw [Option.bind_some, TimeSpan.opposite?, if_neg (Int.not_le.mpr long)]
            rfl
        · cases found
  · have absentRefused := refused .absent
    rw [plain] at absentRefused
    rw [absentRefused, refused .plus, refused .minus]
    refine ⟨fun span found => ?_, fun fault found => ?_⟩
    · cases found
    · cases found
      exact ⟨rfl, rfl⟩

/-- The second text is a second longer than the greatest number of whole days. -/
theorem signs_of_read_longestDays :
    (IsBare "1.5h.5ms" ∧ ofDocument (.text "1.5h.5ms") = .ok ⟨5400000500⟩ ∧
        ofDocument (.text ("+" ++ "1.5h.5ms")) = .ok ⟨5400000500⟩ ∧
        ofDocument (.text ("-" ++ "1.5h.5ms")) = .ok ⟨-5400000500⟩) ∧
      (IsBare "23999999976h1s" ∧
        ofDocument (.text "23999999976h1s") = .ok ⟨86399999913601000000⟩ ∧
        ofDocument (.text ("-" ++ "23999999976h1s")) =
          .error (.outOfRange (.text ("-" ++ "23999999976h1s")))) ∧
      IsBare "1h-1s" ∧ ofDocument (.text "1h-1s") = .error (.invalid (.text "1h-1s")) ∧
        ofDocument (.text ("-" ++ "1h-1s")) = .error (.invalid (.text ("-" ++ "1h-1s"))) := by
  have mixed : IsBare "1.5h.5ms" := by decide +kernel
  have longest : IsBare "23999999976h1s" := by decide +kernel
  have signed : IsBare "1h-1s" := by decide +kernel
  have mixedRead : ofDocument (.text "1.5h.5ms") = .ok ⟨5400000500⟩ :=
    Log.toOption_eq_some_iff.mp (by decide +kernel)
  have longestRead : ofDocument (.text "23999999976h1s") = .ok ⟨86399999913601000000⟩ :=
    Log.toOption_eq_some_iff.mp (by decide +kernel)
  have refused : ofDocument (.text "1h-1s") = .error (.invalid (.text "1h-1s")) := rfl
  obtain ⟨plus, minus, -⟩ := (signs_of_read mixed).1 _ mixedRead
  obtain ⟨-, -, beyond⟩ := (signs_of_read longest).1 _ longestRead
  exact ⟨⟨mixed, mixedRead, plus, minus (by decide)⟩, ⟨longest, longestRead, beyond (by decide)⟩,
    signed, refused, ((signs_of_read signed).2 _ refused).2⟩

end Duration

end RelayPool
