import RelayPool.Proofs.Duration.WholeSeconds
import RelayPool.Proofs.Number.SixDigits

/-!
# Durations read back

A span is written as counts of hours and minutes with the rest of its seconds behind
them.  Whole seconds are written without any rounding, and the counts are read as the
span.
-/

namespace RelayPool.Duration

open Number.Binary64 (unit unit_pos)

/-- The counts that a number of seconds is written with: hours and minutes are left
out as long as there are none. -/
def countsOf (seconds : Nat) : List Count :=
  (if seconds / 3600 = 0 then [] else [.ofNat (seconds / 3600) .hour]) ++
    (if seconds / 3600 = 0 ∧ seconds % 3600 / 60 = 0 then []
      else [.ofNat (seconds % 3600 / 60) .minute]) ++
    [.ofNat (seconds % 3600 % 60) .second]

def signOf (seconds : Int) : Sign :=
  if seconds < 0 then .minus else .absent

/-- The counts of hours and minutes that a number of minutes is written with. -/
def leadingCounts (minutes : Nat) : List Count :=
  (if minutes / 60 = 0 then [] else [.ofNat (minutes / 60) .hour]) ++
    (if minutes / 60 = 0 ∧ minutes % 60 = 0 then [] else [.ofNat (minutes % 60) .minute])

/-- The whole minutes of a span. -/
def wholeMinutes (span : TimeSpan) : Nat :=
  span.secondsQuanta / (60 * unit)

/-- The seconds behind the whole minutes of a span, in quanta. -/
def secondsLeft (span : TimeSpan) : Nat :=
  span.secondsQuanta % (60 * unit)

section Counts

theorem totalOf_append (counts others : List Count) :
    totalOf (counts ++ others) = totalOf counts + totalOf others := by
  simp [totalOf]

theorem totalOf_ite {number : Nat} (unit : WholeUnit) {omitted : Prop} [Decidable omitted]
    (nothing : omitted → number = 0) :
    totalOf (if omitted then [] else [.ofNat number unit]) = number * unit.seconds := by
  split
  · next left =>
      rw [nothing left, Nat.zero_mul]
      rfl
  · exact totalOf_ofNat number unit

theorem totalOf_leadingCounts (minutes : Nat) : totalOf (leadingCounts minutes) = minutes * 60 := by
  rw [leadingCounts, totalOf_append, totalOf_ite _ id, totalOf_ite _ And.right]
  change minutes / 60 * 3600 + minutes % 60 * 60 = minutes * 60
  omega

theorem countsOf_eq (seconds : Nat) :
    countsOf seconds = leadingCounts (seconds / 60) ++ [.ofNat (seconds % 60) .second] := by
  have hours : seconds / 3600 = seconds / 60 / 60 := by omega
  have minutes : seconds % 3600 / 60 = seconds / 60 % 60 := by omega
  have left : seconds % 3600 % 60 = seconds % 60 := by omega
  rw [countsOf, leadingCounts, hours, minutes, left]

theorem totalOf_countsOf (seconds : Nat) : totalOf (countsOf seconds) = seconds := by
  rw [countsOf_eq, totalOf_append, totalOf_leadingCounts, totalOf_ofNat]
  change seconds / 60 * 60 + seconds % 60 * 1 = seconds
  omega

theorem countsOf_ne_nil (seconds : Nat) : countsOf seconds ≠ [] :=
  List.append_ne_nil_of_right_ne_nil _ (List.cons_ne_nil _ _)

theorem times_signOf (seconds : Int) : (signOf seconds).times seconds.natAbs = seconds := by
  rw [signOf]
  split
  · change -(seconds.natAbs : Int) = seconds
    omega
  · change (seconds.natAbs : Int) = seconds
    omega

end Counts

section Texts

theorem written_eq_append (sign : Sign) (counts : List Count) :
    written sign counts = String.ofList sign.text ++ written .absent counts :=
  String.ofList_append

theorem written_append (counts others : List Count) :
    written .absent (counts ++ others) = written .absent counts ++ written .absent others := by
  apply String.toList_inj.mp
  simp [toList_written, textOf, Sign.text]

theorem written_ofNat (number : Nat) (unit : WholeUnit) :
    written .absent [.ofNat number unit] =
      toString number ++ String.singleton unit.letter := by
  apply String.toList_inj.mp
  rw [toList_written, List.map_singleton, textOf_ofNat, String.toList_append,
    Number.toList_toString_nat, String.toList_singleton]
  rfl

theorem written_ite (number : Nat) (unit : WholeUnit) (omitted : Prop) [Decidable omitted] :
    written .absent (if omitted then [] else [.ofNat number unit]) =
      if omitted then "" else toString number ++ String.singleton unit.letter := by
  split
  · rfl
  · exact written_ofNat number unit

theorem text_of_none {span : TimeSpan} (none : span.secondsQuanta = 0) : text span = "0s" := by
  rw [text]
  exact if_pos none

/-- Behind a sign come the hours, the minutes and the seconds. -/
theorem text_of_some {span : TimeSpan} (some : span.secondsQuanta ≠ 0) :
    text span = String.ofList (signOf span.microseconds).text ++
      written .absent (leadingCounts (wholeMinutes span)) ++
        Number.sixDigitText (secondsLeft span) ++ "s" := by
  have hour : 3600 * unit = 60 * unit * 60 := by omega
  have sign : (if span.microseconds < 0 then "-" else "") =
      String.ofList (signOf span.microseconds).text := by
    rw [signOf, apply_ite Sign.text, apply_ite String.ofList]
    rfl
  have left : span.secondsQuanta % (3600 * unit) % (60 * unit) = secondsLeft span := by
    rw [hour, Nat.mod_mul_right_mod, ← secondsLeft]
  rw [text, if_neg some]
  dsimp only
  rw [leadingCounts, written_append, written_ite, written_ite, sign, left, hour,
    Nat.mod_mul_right_div_self, ← Nat.div_div_eq_div_mul, ← wholeMinutes]
  generalize wholeMinutes span = minutes
  generalize secondsLeft span = rest
  simp only [String.append_assoc]
  rfl

end Texts

section Spans

variable {seconds : Int}

/-- A whole number of seconds in range is a floating point number. -/
theorem secondsQuanta_whole (fit : TimeSpan.SecondsFit seconds) :
    (⟨seconds * TimeSpan.perSecond⟩ : TimeSpan).secondsQuanta = seconds.natAbs * unit := by
  have small : seconds.natAbs < 2 ^ 53 := by
    rw [TimeSpan.SecondsFit] at fit
    omega
  have size : (seconds * TimeSpan.perSecond).natAbs * unit =
      seconds.natAbs * unit * TimeSpan.perSecond := by
    rw [Int.natAbs_mul, Int.natAbs_natCast]
    exact Nat.mul_right_comm ..
  rw [TimeSpan.secondsQuanta, size]
  exact Number.roundToBits_mul_self (Number.Binary64.fitsBits_mul_unit small) (by decide)

theorem signOf_mul_perSecond (seconds : Int) :
    signOf (seconds * TimeSpan.perSecond) = signOf seconds := by
  refine if_congr ?_ rfl rfl
  rw [TimeSpan.perSecond]
  omega

theorem text_of_whole (fit : TimeSpan.SecondsFit seconds) :
    text ⟨seconds * TimeSpan.perSecond⟩ = written (signOf seconds) (countsOf seconds.natAbs) := by
  have quanta := secondsQuanta_whole fit
  -- The text of no time is fixed; it is the one that the counts have as well.
  rcases eq_or_ne seconds 0 with rfl | nonzero
  · rw [text_of_none (by rw [quanta, Int.natAbs_zero, Nat.zero_mul])]
    rfl
  · have some : seconds.natAbs * unit ≠ 0 :=
      (Nat.mul_pos (Int.natAbs_pos.mpr nonzero) unit_pos).ne'
    have few : seconds.natAbs % 60 < 10 ^ 6 := (Nat.mod_lt _ (by decide)).trans (by decide)
    rw [text_of_some (quanta.trans_ne some), wholeMinutes, secondsLeft, quanta,
      Nat.mul_div_mul_right _ _ unit_pos, Nat.mul_mod_mul_right, Number.sixDigitText_whole few,
      signOf_mul_perSecond, countsOf_eq, written_eq_append (signOf seconds), written_append,
      written_ofNat]
    simp only [String.append_assoc]
    rfl

end Spans

/-- A span of whole seconds is read from its text. -/
theorem ofDocument_text_of_whole {span : TimeSpan} (inRange : span.inRange)
    (whole : (TimeSpan.perSecond : Int) ∣ span.microseconds) :
    ofDocument (.text (text span)) = .ok span := by
  obtain ⟨microseconds⟩ := span
  obtain ⟨seconds, rfl⟩ := whole
  rw [Int.mul_comm] at inRange ⊢
  have fit := (TimeSpan.inRange_iff_secondsFit seconds).mp inRange
  have read : ofDocument (.text (written (signOf seconds) (countsOf seconds.natAbs))) = _ :=
    ofText_written (signOf seconds) (countsOf_ne_nil seconds.natAbs)
  rw [text_of_whole fit, read, totalOf_countsOf, times_signOf, ofWholeSeconds_of_fit fit]

/-- The first and the last of the spans. -/
theorem ofDocument_text_of_whole_limits :
    ((⟨-86399999913600000000⟩ : TimeSpan).inRange ∧
        (TimeSpan.perSecond : Int) ∣ -86399999913600000000 ∧
        ofDocument (.text (text ⟨-86399999913600000000⟩)) = .ok ⟨-86399999913600000000⟩) ∧
      ((⟨86399999999999000000⟩ : TimeSpan).inRange ∧
        (TimeSpan.perSecond : Int) ∣ 86399999999999000000 ∧
        ofDocument (.text (text ⟨86399999999999000000⟩)) = .ok ⟨86399999999999000000⟩) := by
  have first : (⟨-86399999913600000000⟩ : TimeSpan).inRange := by decide +kernel
  have firstWhole : (TimeSpan.perSecond : Int) ∣ -86399999913600000000 :=
    ⟨-86399999913600, by decide⟩
  have last : (⟨86399999999999000000⟩ : TimeSpan).inRange := by decide +kernel
  have lastWhole : (TimeSpan.perSecond : Int) ∣ 86399999999999000000 :=
    ⟨86399999999999, by decide⟩
  exact ⟨⟨first, firstWhole, ofDocument_text_of_whole first firstWhole⟩,
    ⟨last, lastWhole, ofDocument_text_of_whole last lastWhole⟩⟩

end RelayPool.Duration
